import ChangeImpact.Sql.Boundary
import ChangeImpact.Sql.Tree

/-!
# Grammars and their nesting

Statements, queries, sources and expressions contain one another. A `Grammar` holds the parsers for what is nested
one level further in, and the parsers of a level are built from the grammar inside it. So no parser calls itself, and
the number of levels is the limit on nesting: the innermost grammar refuses everything.
-/

namespace ChangeImpact.Sql

/-- The parsers for what may be nested. -/
structure Grammar where
  /-- A statement, or nothing for a statement that refers to no object. -/
  statement : Parser (Option Statement)
  query : Parser Query
  source : Parser Source
  expr : Parser Expr
  /-- An operand of `NOT`. -/
  negated : Parser Expr
  /-- An operand of a sign. -/
  signed : Parser Expr

/-- No level is left. -/
def Grammar.exhausted : Grammar where
  statement := .tooDeep
  query := .tooDeep
  source := .tooDeep
  expr := .tooDeep
  negated := .tooDeep
  signed := .tooDeep

namespace Parser

/-! ### Names -/

def identifier : Parser String := do
  match ← peek with
  | some (.word text _) =>
    skip 1
    return text
  | _ => fail "identifier"

/-- The next part of a name: a period and a word, or a period in front of another one, which leaves the part out. -/
def namePart? (ts : Tokens) : Option (Nat × String) :=
  match ts.lexeme? 0, ts.lexeme? 1 with
  | some .period, some (.word text _) => some (1, text)
  | some .period, some .period => some (0, "")
  | _, _ => none

def objectName : Parser Name := do
  let first ← identifier
  let parts ← loop namePart? (fun parts part => return parts ++ [part]) [first]
  return ⟨parts⟩

/-- The alias of a source or column, with or without `AS`. A string may stand for the alias of a column, and a word
that goes on with the statement is none. -/
def aliasName : Parser (Option String) := do
  if ← acceptKeyword "AS" then
    match ← peek with
    | some (.word text _) =>
      skip 1
      return some text
    | some .literal =>
      skip 1
      return none
    | _ => fail "alias"
  else
    match ← peek with
    | some (.word text quoted) =>
      if quoted || !(Text.isMarked '@' text || isReserved text) then
        skip 1
        return some text
      else return none
    | _ => return none

/-- The name of a type and its length or precision. -/
def skipTypeName : Parser Unit := do
  discard objectName
  skipOptionalGroup

/-- Reads one keyword at a time as a separator. -/
def keywordSeparator (keyword : String) (ts : Tokens) : Option (Nat × Unit) :=
  if ts.hasKeyword 0 keyword then some (0, ()) else none

end Parser

end ChangeImpact.Sql
