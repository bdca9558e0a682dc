import ChangeImpact.Sql.Grammar

/-!
# Expressions

From the weakest to the strongest: `OR`, `AND`, `NOT`, the comparisons, arithmetic, signs, and what stands by itself.
Operators of one strength associate to the left.
-/

namespace ChangeImpact.Sql.Grammar

open ChangeImpact.Sql.Parser

variable (inner : Grammar)

def exprList : Parser (List Expr) :=
  commaSeparated inner.expr

/-! ### What stands by itself -/

/-- The arguments of a call in their parentheses. -/
def callArgs : Parser (List Expr) := do
  expect .openParen
  if ← accept .closeParen then return []
  skipEither "DISTINCT" "ALL"
  let args ← commaSeparated do
    let arg ← inner.expr
    if ← acceptKeyword "FROM" then return [arg, ← inner.expr]
    return [arg]
  expect .closeParen
  return args.flatten

/-- `WITHIN GROUP (…)` and `OVER (…)` or `OVER name` behind a call. -/
def skipWindow : Parser Unit := do
  if ← acceptIf (fun ts => ts.hasKeyword 0 "WITHIN" && ts.hasKeyword 1 "GROUP") 2 then skipGroup
  if ← acceptKeyword "OVER" then
    if ← look (·.hasLexeme 0 .openParen) then skipGroup
    else discard identifier

/-- A column, a call, or all columns of a source. -/
def namedExpr : Parser Expr := do
  let name ← objectName
  if ← look (·.hasLexeme 0 .openParen) then
    let args ← callArgs inner
    skipWindow
    return .call name args
  else if ← acceptIf (fun ts => ts.hasLexeme 0 .period && ts.hasLexeme 1 .star) 2 then return .literal
  else return .column name

/-- The arms of a `CASE` up to its `END`. -/
def caseExpr : Parser Expr := do
  skip 1
  let subject ← if ← look (·.hasKeyword 0 "WHEN") then pure [] else List.singleton <$> inner.expr
  let arms ← loop (keywordSeparator "WHEN") (fun parts _ => do
    let condition ← inner.expr
    expectKeyword "THEN"
    return parts ++ [condition, ← inner.expr]) subject
  let default ← if ← acceptKeyword "ELSE" then List.singleton <$> inner.expr else pure []
  expectKeyword "END"
  return .group (arms ++ default)

def castExpr : Parser Expr := do
  skip 1
  expect .openParen
  let operand ← inner.expr
  expectKeyword "AS"
  skipTypeName
  expect .closeParen
  return .group [operand]

/-- A query behind its opening parenthesis. -/
def subquery : Parser Expr := do
  let query ← inner.query
  expect .closeParen
  return .subquery query

/-- A subquery, or expressions; parentheses around a single one say nothing. -/
def parenthesized : Parser Expr := do
  skip 1
  if ← look (·.startsQuery 0) then subquery inner
  else
    let exprs ← exprList inner
    expect .closeParen
    match exprs with
    | [expr] => return expr
    | exprs => return .group exprs

/-- An expression that starts with an unquoted word. -/
def wordExpr (text : String) : Parser Expr := do
  if Text.isMarked '@' text then
    skip 1
    return .variable
  else
    match Text.asciiUpper text with
    | "NULL" | "DEFAULT" =>
      skip 1
      return .literal
    | "EXISTS" =>
      skip 1
      expect .openParen
      subquery inner
    | "CASE" => caseExpr inner
    | "CAST" | "TRY_CAST" => castExpr inner
    | _ =>
      if isReserved text then
        if ← look (·.hasLexeme 1 .openParen) then namedExpr inner else fail "expression"
      else namedExpr inner

def primary : Parser Expr := do
  match ← peek with
  | some .literal | some .star =>
    skip 1
    return .literal
  | some .openParen => parenthesized inner
  | some (.word text quoted) => if quoted then namedExpr inner else wordExpr inner text
  | some (.symbol text) =>
    if Text.isMarked '@' text then
      skip 1
      discard <| acceptIf (·.hasWord 0) 1
      return .variable
    else fail "expression"
  | _ => fail "expression"

/-! ### Operators -/

/-- Operands joined by operators of one strength. -/
def leftAssociative (operand : Parser Expr) (operator? : Tokens → Option (Nat × Operator)) : Parser Expr := do
  let first ← operand
  loop operator? (fun left op => return .binary left op (← operand)) first

/-- A sign and its operand, or something that stands by itself with its collation or time zone. -/
def signedExpr : Parser Expr := do
  let isSign (ts : Tokens) := match ts.lexeme? 0 with
    | some (.symbol text) => ["-", "+", "~"].contains text
    | _ => false
  if ← acceptIf isSign 1 then return .group [← inner.signed]
  let expr ← primary inner
  if ← acceptKeyword "COLLATE" then discard identifier
  let isZone (ts : Tokens) := ts.hasKeyword 0 "AT" && ts.hasKeyword 1 "TIME" && ts.hasKeyword 2 "ZONE"
  if ← acceptIf isZone 3 then return .group [expr, ← primary inner]
  return expr

/-- A star or sign between operands; in front of `=` it is part of an assignment. -/
def arithmetic? (ts : Tokens) : Option (Nat × Operator) :=
  match ts.lexeme? 0 with
  | some .star => some (0, .other)
  | some (.symbol text) =>
    if arithmeticSymbols.contains text && !ts.hasLexeme 1 .equals then some (0, .other) else none
  | _ => none

def additive : Parser Expr :=
  leftAssociative (signedExpr inner) arithmetic?

/-- What may follow the left side of a comparison. -/
inductive Comparison where
  | equals
  | other
  | isIn
  | like
  | between

/-- The comparison ahead and the number of its tokens after the first. -/
def comparison? (ts : Tokens) : Option (Nat × Comparison) :=
  match ts.lexeme? 0 with
  | some .equals => some (0, .equals)
  | some (.symbol text) => if comparisonSymbols.contains text then some (0, .other) else none
  | _ =>
    if ts.hasKeyword 0 "IS" then some (if ts.hasKeyword 1 "NOT" then 1 else 0, .other)
    else
      let n := if ts.hasKeyword 0 "NOT" then 1 else 0
      if ts.hasKeyword n "IN" then some (n, .isIn)
      else if ts.hasKeyword n "LIKE" then some (n, .like)
      else if ts.hasKeyword n "BETWEEN" then some (n, .between)
      else none

/-- The right side of `IN`. -/
def inOperand : Parser Expr := do
  expect .openParen
  if ← look (·.startsQuery 0) then subquery inner
  else
    let exprs ← exprList inner
    expect .closeParen
    return .group exprs

/-- The comparison of what was read on the left. -/
def compareWith (left : Expr) : Comparison → Parser Expr
  | .equals => return .binary left .equals (← additive inner)
  | .other => return .binary left .other (← additive inner)
  | .isIn => return .binary left .other (← inOperand inner)
  | .like => do
    let pattern ← additive inner
    if ← acceptKeyword "ESCAPE" then return .group [left, pattern, ← additive inner]
    return .group [left, pattern]
  | .between => do
    let low ← additive inner
    expectKeyword "AND"
    return .group [left, low, ← additive inner]

def comparison : Parser Expr := do
  let first ← additive inner
  loop comparison? (compareWith inner) first

def negatedExpr : Parser Expr := do
  if ← acceptKeyword "NOT" then return .group [← inner.negated]
  comparison inner

/-- The keyword as an operator. -/
def keywordOperator (keyword : String) (op : Operator) (ts : Tokens) : Option (Nat × Operator) :=
  if ts.hasKeyword 0 keyword then some (0, op) else none

def conjunction : Parser Expr :=
  leftAssociative (negatedExpr inner) (keywordOperator "AND" .and)

def disjunction : Parser Expr :=
  leftAssociative (conjunction inner) (keywordOperator "OR" .or)

end ChangeImpact.Sql.Grammar
