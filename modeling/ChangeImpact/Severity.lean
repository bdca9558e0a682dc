import ChangeImpact.Text.Ascii
import ChangeImpact.Unrecognized

/-!
# Severities

The tiers that risk scores are sorted into.
-/

namespace ChangeImpact

inductive Severity where
  | none
  | low
  | medium
  | high
  | critical
  deriving DecidableEq, Repr

namespace Severity

def rank : Severity → Nat
  | none => 0
  | low => 1
  | medium => 2
  | high => 3
  | critical => 4

def le (a b : Severity) : Bool :=
  a.rank ≤ b.rank

def name : Severity → String
  | none => "none"
  | low => "low"
  | medium => "medium"
  | high => "high"
  | critical => "critical"

def ofWord (word : String) : Except Unrecognized Severity :=
  match Text.asciiLower word with
  | "none" => .ok none
  | "low" => .ok low
  | "medium" => .ok medium
  | "high" => .ok high
  | "critical" => .ok critical
  | other => .error (.severity other)

end Severity

end ChangeImpact
