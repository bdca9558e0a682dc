import ChangeImpact.Analysis
import ChangeImpact.Store.Downstream

/-!
# Analysing a change of a stored object
-/

namespace ChangeImpact.Store

/-- Analyses a change of an object of a project. Dependents are taken from one level more than the settings allow, so
that the analysis sees where chains go on beyond them. -/
def analyze (s : Store) (settings : Settings) (policy : ApprovalPolicy) (project : Int) (root : NamedEntity)
    (change : Change) : Except Error Analysis :=
  match s.object? project root.entity with
  | none => .error (.unknownEntity root project)
  | some o =>
    let rows := s.downstream project o.entity (settings.maxDepth + 1)
    .ok (.ofDependents settings policy o.named (o.criticality.map Int.ofNat) rows change)

end ChangeImpact.Store
