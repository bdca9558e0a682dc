import ChangeImpact.Approval
import ChangeImpact.Enumeration
import ChangeImpact.Risk
import ChangeImpact.Settings

/-!
# Analysis of a change

From the dependents of an object to all that a change of it affects: the paths with their scores, each affected
object, and what is to be made of it all.
-/

namespace ChangeImpact

structure Analysis where
  root : NamedEntity
  change : Change
  policy : ApprovalPolicy
  settings : Settings
  limits : List Limit
  depthReached : Nat
  summary : Summary
  exposures : List Exposure
  paths : List Path

namespace Analysis

def caps (settings : Settings) : Caps :=
  ⟨settings.maxDepth, settings.maxPaths⟩

def ofDependents (settings : Settings) (policy : ApprovalPolicy) (root : NamedEntity) (rootLevel : Option Int)
    (rows : List Dependent) (change : Change) : Analysis :=
  let graph := Graph.ofDependents root rootLevel settings.defaultCriticality rows
  let enumeration := Enumeration.ofGraph graph (caps settings)
  let paths := enumeration.paths.map (Risk.evaluate change)
  { root := root
    change := change
    policy := policy
    settings := settings
    limits := enumeration.limits
    depthReached := enumeration.depthReached
    summary := policy.apply (Summary.ofPaths root paths)
    exposures := Exposure.ofPaths paths
    paths := paths }

/-- A limit cut the enumeration of paths short. -/
def isTruncated (a : Analysis) : Bool :=
  !a.limits.isEmpty

end Analysis

end ChangeImpact
