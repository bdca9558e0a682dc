import ChangeImpact.Entity
import ChangeImpact.Usage

/-!
# References

What is found in a definition: references to other objects by name, columns compared by joins, and columns.
-/

namespace ChangeImpact

/-- A reference by name from the definition of an object, not yet looked up in the catalog. -/
structure Reference where
  source : Entity
  targetKind : ObjectKind
  targetName : String
  usage : Usage
  deriving DecidableEq, Repr

/-- Two columns that a join requires to be equal. -/
structure JoinCondition where
  leftTable : String
  leftColumn : String
  rightTable : String
  rightColumn : String
  deriving DecidableEq, Repr

def JoinCondition.text (j : JoinCondition) : String :=
  s!"{j.leftTable}.{j.leftColumn} = {j.rightTable}.{j.rightColumn}"

/-- A column with the table it belongs to, or its qualifier if that names no table; `path` is what was written. -/
structure ColumnReference where
  table : Option String
  column : String
  path : String
  deriving DecidableEq, Repr

end ChangeImpact
