import ChangeImpact.Criticality
import ChangeImpact.Severity

/-!
# Settings

Caps on the analysis and the threshold of approval. `Settings.fault?` says what is wrong with settings, if anything
is; an analysis may be run with any.
-/

namespace ChangeImpact

structure Settings where
  maxDepth : Nat
  maxPaths : Nat
  approvalThreshold : Severity
  /-- Assumed of an object without an annotation. -/
  defaultCriticality : Nat
  deriving DecidableEq, Repr

namespace Settings

def default : Settings :=
  ⟨10, 10000, .high, Criticality.usual⟩

/-- The greatest depth that may be asked for. -/
def greatestDepth : Nat := 32

inductive Fault where
  | maxDepth (given : Nat)
  | maxPaths
  | defaultCriticality (given : Nat)
  deriving DecidableEq, Repr

def Fault.message : Fault → String
  | .maxDepth given => s!"max-depth must be between 1 and {greatestDepth}, got {given}"
  | .maxPaths => "max-paths must be at least 1"
  | .defaultCriticality given =>
    s!"default-criticality must be between {Criticality.lowest} and {Criticality.highest}, got {given}"

def fault? (s : Settings) : Option Fault :=
  if s.maxDepth = 0 ∨ greatestDepth < s.maxDepth then some (.maxDepth s.maxDepth)
  else if s.maxPaths = 0 then some .maxPaths
  else if s.defaultCriticality < Criticality.lowest ∨ Criticality.highest < s.defaultCriticality then
    some (.defaultCriticality s.defaultCriticality)
  else none

end Settings

end ChangeImpact
