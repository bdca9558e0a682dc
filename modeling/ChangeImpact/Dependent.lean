import ChangeImpact.Entity
import ChangeImpact.Usage

/-!
# Dependents

One row of what depends on a changed object, directly or through others: `source` uses `target`. The names and the
criticality are those of the catalog, as far as it knows the objects.
-/

namespace ChangeImpact

structure Dependent where
  source : NamedEntity
  target : NamedEntity
  usage : Usage
  /-- The least number of steps from the changed object to `source`. -/
  depth : Nat
  /-- The annotation of `source`. -/
  criticality : Option Int
  deriving DecidableEq, Repr

end ChangeImpact
