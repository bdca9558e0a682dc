import ChangeImpact.Sql.Parser

/-!
# Passing over tokens

Distances, in tokens, to where something ends: a statement, a group in parentheses, the header of a routine. The
parsers below read that many tokens and look at nothing inside.
-/

namespace ChangeImpact.Sql

namespace Tokens

/-- The distance to the next statement. Inside parentheses nothing starts one, and neither does the `END` of a `CASE`;
a semicolon is passed too. -/
def boundaryDistance (depth cases : Nat) : Tokens → Nat
  | [] => 0
  | t :: ts =>
    match t.lexeme with
    | .openParen => boundaryDistance (depth + 1) cases ts + 1
    | .closeParen => boundaryDistance (depth - 1) cases ts + 1
    | .semicolon => if depth == 0 then 1 else boundaryDistance depth cases ts + 1
    | .word text false =>
      if depth != 0 then boundaryDistance depth cases ts + 1
      else if Text.asciiUpper text == "CASE" then boundaryDistance depth (cases + 1) ts + 1
      else if cases != 0 && Text.asciiUpper text == "END" then boundaryDistance depth (cases - 1) ts + 1
      else if startsStatement (t :: ts) then 0
      else boundaryDistance depth cases ts + 1
    | _ => boundaryDistance depth cases ts + 1

/-- The distance to whatever ends a call: a semicolon, a closing parenthesis or the next statement. -/
def callDistance (depth : Nat) : Tokens → Nat
  | [] => 0
  | t :: ts =>
    match t.lexeme with
    | .openParen => callDistance (depth + 1) ts + 1
    | .closeParen => if depth == 0 then 0 else callDistance (depth - 1) ts + 1
    | .semicolon => if depth == 0 then 0 else callDistance depth ts + 1
    | .word _ false => if depth == 0 && startsStatement (t :: ts) then 0 else callDistance depth ts + 1
    | _ => callDistance depth ts + 1

/-- The distance past the parenthesis that closes a group, inside `depth` further groups. -/
def groupDistance? (depth : Nat) : Tokens → Option Nat
  | [] => none
  | t :: ts =>
    match t.lexeme with
    | .openParen => (groupDistance? (depth + 1) ts).map (· + 1)
    | .closeParen => if depth == 0 then some 1 else (groupDistance? (depth - 1) ts).map (· + 1)
    | _ => (groupDistance? depth ts).map (· + 1)

/-- The distance past the `AS` that opens the body of a routine, and whether the header binds the routine to the
schema. An `AS` in parentheses or after a parameter opens no body. -/
def bodyDistance? (depth : Nat) (afterVariable schemaBound : Bool) : Tokens → Option (Nat × Bool)
  | [] => none
  | t :: ts =>
    let goOn (depth : Nat) (bound : Bool) :=
      (bodyDistance? depth t.lexeme.isVariable bound ts).map fun (n, bound) => (n + 1, bound)
    match t.lexeme with
    | .openParen => goOn (depth + 1) schemaBound
    | .closeParen => goOn (depth - 1) schemaBound
    | .word text false =>
      if Text.asciiUpper text == "SCHEMABINDING" then goOn depth true
      else if depth == 0 && !afterVariable && Text.asciiUpper text == "AS" then some (1, schemaBound)
      else goOn depth schemaBound
    | _ => goOn depth schemaBound

/-- A table hint in parentheses alone, without `WITH`. -/
def startsBareHint (ts : Tokens) : Bool :=
  ts.hasLexeme 0 .openParen && ts.hasKeywordOf 1 tableHints && (ts.hasLexeme 2 .closeParen || ts.hasLexeme 2 .comma)

end Tokens

namespace Parser

def skipToBoundary : Parser Unit :=
  skipBy (Tokens.boundaryDistance 0 0)

/-- The keyword of a statement and all that belongs to it. -/
def skipStatement : Parser Unit := do
  skip 1
  skipToBoundary

/-- What is left of a call. -/
def skipCall : Parser Unit :=
  skipBy (Tokens.callDistance 0)

/-- What is left of a group whose opening parenthesis was read. -/
def closeGroup : Parser Unit := do
  match ← look (Tokens.groupDistance? 0) with
  | some n => skip n
  | none =>
    skipBy List.length
    fail Lexeme.closeParen.describe

def skipGroup : Parser Unit := do
  expect .openParen
  closeGroup

/-- A group, if one stands ahead: the names of columns behind an alias, or the like. -/
def skipOptionalGroup : Parser Unit := do
  if ← look (·.hasLexeme 0 .openParen) then skipGroup

/-- A keyword and the group behind it, if both stand ahead. -/
def skipKeywordGroup (keyword : String) : Parser Unit := do
  if ← acceptIf (fun ts => ts.hasKeyword 0 keyword && ts.hasLexeme 1 .openParen) 1 then skipGroup

/-- `WITH (NOLOCK)`, or `(NOLOCK)` alone. -/
def skipTableHints : Parser Unit := do
  if ← acceptIf (fun ts => ts.hasKeyword 0 "WITH" && ts.hasLexeme 1 .openParen) 1 then skipGroup
  else if ← look Tokens.startsBareHint then skipGroup

/-- `OPTION (…)` at the end of a statement. -/
def skipOptions : Parser Unit :=
  skipKeywordGroup "OPTION"

end Parser

end ChangeImpact.Sql
