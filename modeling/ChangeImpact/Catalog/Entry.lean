import ChangeImpact.Entity

/-!
# Catalog entries

What the resolution of names needs to know of an object.
-/

namespace ChangeImpact.Catalog

structure Entry where
  entity : Entity
  schema : Option String
  name : String
  deriving DecidableEq, Repr

end ChangeImpact.Catalog
