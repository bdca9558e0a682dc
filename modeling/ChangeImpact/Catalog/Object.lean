import ChangeImpact.Catalog.Entry
import ChangeImpact.Catalog.Name

/-!
# Catalog objects

An object of a project as the catalog keeps it.
-/

namespace ChangeImpact.Catalog

structure Object where
  id : Int
  project : Int
  kind : ObjectKind
  /-- Empty if the schema is unknown. -/
  schema : String
  name : String
  criticality : Option Nat
  definition : Option String
  deriving DecidableEq, Repr

namespace Object

def entity (o : Object) : Entity :=
  ⟨o.kind, o.id⟩

def qualified (o : Object) : String :=
  qualifiedName o.schema o.name

/-- The object under its qualified name. -/
def named (o : Object) : NamedEntity :=
  ⟨o.entity, some o.qualified⟩

def schema? (o : Object) : Option String :=
  if o.schema.isEmpty then none else some o.schema

def entry (o : Object) : Entry :=
  ⟨o.entity, o.schema?, o.name⟩

end Object

end ChangeImpact.Catalog
