import ChangeImpact.Confidence
import ChangeImpact.Entity
import ChangeImpact.Usage

/-!
# Dependency edges

An edge says that one object of a project depends on another, and how. The confidence plays no part in which edge
it is.
-/

namespace ChangeImpact

structure Edge where
  project : Int
  source : Entity
  target : Entity
  usage : Usage
  confidence : Confidence
  deriving DecidableEq, Repr

/-- What makes two edges of a project the same. -/
def Edge.key (e : Edge) : Entity × Entity × Usage :=
  (e.source, e.target, e.usage)

end ChangeImpact
