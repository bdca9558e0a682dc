import ChangeImpact.Sql.Grammar.Expr

/-!
# Queries

Common table expressions, `SELECT` blocks and the set operations between them, and the sources of a block with their
joins. Hints, windows, pivots and the clauses at the end of a query are passed over.
-/

namespace ChangeImpact.Sql.Grammar

open ChangeImpact.Sql.Parser

variable (inner : Grammar)

/-! ### Sources -/

/-- Rows in parentheses, cell by cell. -/
def valueRows : Parser (List Expr) := do
  let rows ← commaSeparated do
    expect .openParen
    let cells ← exprList inner
    expect .closeParen
    return cells
  return rows.flatten

/-- `PIVOT (…)` or `UNPIVOT (…)` with its alias. -/
def skipPivot : Parser Unit := do
  if ← acceptIf (·.hasKeywordOf 0 ["PIVOT", "UNPIVOT"]) 1 then
    skipGroup
    discard aliasName

/-- The join operator ahead, as the number of its words after the first, and whether a predicate follows. -/
def join? (ts : Tokens) : Option (Nat × Bool) :=
  if ts.hasKeyword 0 "CROSS" && ts.hasKeyword 1 "JOIN" then some (1, false)
  else if ts.hasKeywordOf 0 ["CROSS", "OUTER"] && ts.hasKeyword 1 "APPLY" then some (1, false)
  else
    let side :=
      if ts.hasKeyword 0 "INNER" then 1
      else if ts.hasKeywordOf 0 ["LEFT", "RIGHT", "FULL"] then if ts.hasKeyword 1 "OUTER" then 2 else 1
      else 0
    let n := if ts.hasKeywordOf side joinHints then side + 1 else side
    if ts.hasKeyword n "JOIN" then some (n, true) else none

def joined : Parser Joined := do
  let first ← inner.source
  let joins ← loop join? (fun joins hasPredicate => do
    let source ← inner.source
    if hasPredicate then
      expectKeyword "ON"
      return joins ++ [⟨source, some (← inner.expr)⟩]
    return joins ++ [⟨source, none⟩]) []
  return ⟨first, joins⟩

def sourceList : Parser (List Joined) :=
  commaSeparated (joined inner)

/-- The sources behind `FROM`, if it stands ahead. -/
def fromClause : Parser (List Joined) := do
  if ← acceptKeyword "FROM" then sourceList inner else return []

/-- A source in parentheses, behind the opening one: a query, rows, or a join. -/
def groupedSource : Parser Source := do
  if ← look (·.startsQuery 0) then
    let query ← inner.query
    expect .closeParen
    let calledAs ← aliasName
    skipOptionalGroup
    skipPivot
    return .derived query calledAs
  else if ← acceptKeyword "VALUES" then
    let cells ← valueRows inner
    expect .closeParen
    let calledAs ← aliasName
    skipOptionalGroup
    return .rows cells calledAs
  else
    let joined ← joined inner
    expect .closeParen
    return .joined joined

/-- A table or a call of a function that returns one. -/
def namedSource : Parser Source := do
  let name ← objectName
  if ← look (fun ts => ts.hasLexeme 0 .openParen && !ts.startsBareHint) then
    let args ← callArgs inner
    let calledAs ← aliasName
    skipOptionalGroup
    return .call name args calledAs
  else
    skipTableHints
    if ← acceptKeyword "TABLESAMPLE" then
      discard <| acceptKeyword "SYSTEM"
      skipGroup
    let calledAs ← aliasName
    skipTableHints
    skipPivot
    return .table name calledAs

def anySource : Parser Source := do
  if ← accept .openParen then groupedSource inner else namedSource inner

/-! ### Blocks -/

/-- `TOP` with its count. -/
def skipTop : Parser Unit := do
  if ← acceptKeyword "TOP" then
    if ← accept .openParen then
      discard inner.expr
      expect .closeParen
    else skip 1
    discard <| acceptKeyword "PERCENT"
    discard <| acceptIf (fun ts => ts.hasKeyword 0 "WITH" && ts.hasKeyword 1 "TIES") 2

/-- The predicate behind `WHERE`, if it stands ahead; `CURRENT OF` a cursor is none. -/
def whereClause : Parser (Option Expr) := do
  if ← acceptKeyword "WHERE" then
    if ← acceptIf (fun ts => ts.hasKeyword 0 "CURRENT" && ts.hasKeyword 1 "OF") 2 then
      discard <| acceptKeyword "GLOBAL"
      discard identifier
      return none
    else return some (← inner.expr)
  else return none

def groupByClause : Parser (List Expr) := do
  if ← acceptIf (fun ts => ts.hasKeyword 0 "GROUP" && ts.hasKeyword 1 "BY") 2 then
    discard <| acceptKeyword "ALL"
    let exprs ← exprList inner
    discard <| acceptIf (fun ts => ts.hasKeyword 0 "WITH" && ts.hasKeywordOf 1 ["ROLLUP", "CUBE"]) 2
    return exprs
  else return []

def selectBlock : Parser Select := do
  expectKeyword "SELECT"
  skipEither "ALL" "DISTINCT"
  skipTop inner
  let columns ← commaSeparated do
    let column ← inner.expr
    discard aliasName
    return column
  let into ← if ← acceptKeyword "INTO" then some <$> objectName else pure none
  let sources ← fromClause inner
  let filter ← whereClause inner
  let groupBy ← groupByClause inner
  let having ← if ← acceptKeyword "HAVING" then some <$> inner.expr else pure none
  return ⟨columns, into, sources, filter, groupBy, having⟩

/-! ### Whole queries -/

def ctes : Parser (List Cte) := do
  expectKeyword "WITH"
  commaSeparated do
    let name ← identifier
    skipOptionalGroup
    expectKeyword "AS"
    expect .openParen
    let query ← inner.query
    expect .closeParen
    return ⟨name, query⟩

def queryOperand : Parser QueryBody := do
  if ← accept .openParen then
    let query ← inner.query
    expect .closeParen
    return .nested query
  else if ← look (·.hasKeyword 0 "SELECT") then return .select (← selectBlock inner)
  else fail "SELECT"

def setOperator? (ts : Tokens) : Option (Nat × Unit) :=
  if ts.hasKeyword 0 "UNION" then some (if ts.hasKeyword 1 "ALL" then 1 else 0, ())
  else if ts.hasKeywordOf 0 ["EXCEPT", "INTERSECT"] then some (0, ())
  else none

def queryBody : Parser QueryBody := do
  let first ← queryOperand inner
  loop setOperator? (fun left _ => return .combine left (← queryOperand inner)) first

def orderByClause : Parser (List Expr) := do
  if ← acceptIf (fun ts => ts.hasKeyword 0 "ORDER" && ts.hasKeyword 1 "BY") 2 then
    commaSeparated do
      let expr ← inner.expr
      skipEither "ASC" "DESC"
      return expr
  else return []

/-- `OFFSET … ROWS FETCH NEXT … ROWS ONLY`. -/
def skipOffset : Parser Unit := do
  if ← acceptKeyword "OFFSET" then
    discard inner.expr
    skipEither "ROWS" "ROW"
    if ← acceptKeyword "FETCH" then
      skipEither "NEXT" "FIRST"
      discard inner.expr
      skipEither "ROWS" "ROW"
      expectKeyword "ONLY"

/-- One option of a `FOR` clause; a group says so, since all of it is an option. -/
def formatOption? (ts : Tokens) : Option (Nat × Bool) :=
  match ts.lexeme? 0 with
  | some .openParen => some (0, true)
  | some .comma => some (0, false)
  | some (.word _ _) =>
    if ts.startsStatement || ts.hasKeywordOf 0 clauseKeywords then none else some (0, false)
  | _ => none

/-- `FOR XML`, `FOR JSON` or `FOR BROWSE` with the options. -/
def skipFormat : Parser Unit := do
  if ← acceptIf (fun ts => ts.hasKeyword 0 "FOR" && ts.hasKeywordOf 1 ["XML", "JSON", "BROWSE"]) 2 then
    loop formatOption? (fun _ isGroup => if isGroup then closeGroup else return ()) ()

def fullQuery : Parser Query := do
  let ctes ← if ← look (·.hasKeyword 0 "WITH") then ctes inner else pure []
  let body ← queryBody inner
  let orderBy ← orderByClause inner
  skipOffset inner
  skipFormat
  skipOptions
  return ⟨ctes, body, orderBy⟩

end ChangeImpact.Sql.Grammar
