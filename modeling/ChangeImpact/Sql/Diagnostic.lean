import ChangeImpact.Sql.Token

/-!
# Diagnostics

What the grammar has to say about a definition. A problem is noted where it is met; `Diagnostic` adds the line.
-/

namespace ChangeImpact.Sql

inductive Problem where
  /-- Something else was wanted than the token found; nothing is found at the end of the text. -/
  | expected (wanted : String) (found : Option Lexeme)
  /-- A call whose target is known only when it runs. -/
  | dynamicSql
  /-- A block without its `END`. -/
  | missingEnd
  /-- A keyword that closes or goes on with a statement that was never opened. -/
  | stray (keyword : String)
  /-- A routine without the `AS` that opens its body. -/
  | noBody (routine : String)
  deriving DecidableEq, Repr

def Problem.message : Problem → String
  | .expected wanted (some found) => s!"expected {wanted}, found {found.describe}"
  | .expected wanted none => s!"expected {wanted}, found end of input"
  | .dynamicSql => "dynamic SQL cannot be analysed statically"
  | .missingEnd => "block is missing END"
  | .stray keyword => s!"unexpected {keyword} outside a block"
  | .noBody routine => s!"definition of {routine} has no AS"

structure Diagnostic where
  line : Nat
  problem : Problem
  deriving DecidableEq, Repr

def Diagnostic.message (d : Diagnostic) : String :=
  d.problem.message

def Diagnostic.text (d : Diagnostic) : String :=
  s!"line {d.line}: {d.message}"

/-- A problem met before the token on the given line, or at the end of the text. -/
structure Note where
  line? : Option Nat
  problem : Problem
  deriving DecidableEq, Repr

/-- A problem at the end of the text is reported on the line of the last token. -/
def Note.diagnostic (lastLine : Nat) (n : Note) : Diagnostic :=
  ⟨n.line?.getD lastLine, n.problem⟩

end ChangeImpact.Sql
