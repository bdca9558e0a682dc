import ChangeImpact.Sql.Grammar.Statement

/-!
# Scripts

A definition as a whole: its statements as far as they could be read, and what was noted on the way. Reading fails
only if something is nested too deeply.
-/

namespace ChangeImpact.Sql

/-- The grammar around what is nested one level further in. -/
def Grammar.deepen (inner : Grammar) : Grammar where
  statement := anyStatement inner
  query := fullQuery inner
  source := anySource inner
  expr := disjunction inner
  negated := negatedExpr inner
  signed := signedExpr inner

/-- The grammar with a number of levels. -/
def Grammar.ofLevels : Nat → Grammar
  | 0 => exhausted
  | levels + 1 => (ofLevels levels).deepen

/-- The number of levels that statements, queries, sources and expressions may be nested. -/
def maxNesting : Nat := 128

/-- Something is nested more deeply than the limit allows. -/
structure NestingTooDeep where
  limit : Nat
  line : Nat
  deriving DecidableEq, Repr

def NestingTooDeep.message (e : NestingTooDeep) : String :=
  s!"nesting deeper than {e.limit} levels near line {e.line}"

structure Script where
  statements : List Statement
  diagnostics : List Diagnostic
  /-- The number of calls whose target is known only when they run, as counted by the parser. -/
  dynamicSql : Nat

/-- The line of the last token. -/
def lastLine (ts : Tokens) : Nat :=
  (ts.getLast?.map Token.line).getD 1

def Script.ofTokens (ts : Tokens) : Except NestingTooDeep Script :=
  let reply := (Grammar.statements (.ofLevels maxNesting) []).run ts
  let diagnostics := reply.notes.map (·.diagnostic (lastLine ts))
  match reply.result with
  | .ok statements => .ok ⟨statements, diagnostics, reply.dynamicSql⟩
  | .error (.tooDeep line?) => .error ⟨maxNesting, line?.getD (lastLine ts)⟩
  | .error (.unexpected n) => .ok ⟨[], diagnostics ++ [n.diagnostic (lastLine ts)], reply.dynamicSql⟩

end ChangeImpact.Sql
