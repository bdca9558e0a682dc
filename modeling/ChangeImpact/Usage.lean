import ChangeImpact.Text.Ascii
import ChangeImpact.Unrecognized

/-!
# Usages

How one object uses another, from the least to the most severe: a read, a call, the three kinds of writes, and a
binding to the other object's structure.
-/

namespace ChangeImpact

inductive Usage where
  | select
  | exec
  | insert
  | update
  | delete
  | schemaBinding
  deriving DecidableEq, Repr

namespace Usage

/-- All usages in the order of severity. -/
def all : List Usage :=
  [select, exec, insert, update, delete, schemaBinding]

/-- The place of a usage in the order of severity. -/
def rank : Usage → Nat
  | select => 0
  | exec => 1
  | insert => 2
  | update => 3
  | delete => 4
  | schemaBinding => 5

def le (a b : Usage) : Bool :=
  a.rank ≤ b.rank

/-- The more severe of two usages. -/
def max (a b : Usage) : Usage :=
  if a.le b then b else a

/-- The most severe usage of a list. -/
def max? : List Usage → Option Usage
  | [] => none
  | u :: us => some (us.foldl max u)

/-- The keyword that stands for a usage. -/
def keyword : Usage → String
  | select => "SELECT"
  | exec => "EXEC"
  | insert => "INSERT"
  | update => "UPDATE"
  | delete => "DELETE"
  | schemaBinding => "SCHEMA_DEPENDENCY"

/-- The word that stands for a usage in documents. -/
def name : Usage → String
  | select => "select"
  | exec => "exec"
  | insert => "insert"
  | update => "update"
  | delete => "delete"
  | schemaBinding => "schema_dependency"

def ofWord (word : String) : Except Unrecognized Usage :=
  match Text.asciiUpper word with
  | "SELECT" => .ok select
  | "EXEC" | "EXECUTE" => .ok exec
  | "INSERT" => .ok insert
  | "UPDATE" => .ok update
  | "DELETE" => .ok delete
  | "SCHEMA_DEPENDENCY" | "SCHEMADEPENDENCY" => .ok schemaBinding
  | other => .error (.usage other)

/-- The usage changes rows. -/
def isWrite : Usage → Bool
  | insert | update | delete => true
  | select | exec | schemaBinding => false

/-- The usage only reads rows. -/
def isRead (u : Usage) : Bool :=
  u == select

end Usage

end ChangeImpact
