import ChangeImpact.Text.Ascii
import ChangeImpact.Unrecognized

/-!
# Entities

An entity is an object of the catalog, known by its kind and its number. The name under which it is shown plays no
part in its identity or in its order.

* `ObjectKind`: tables, views, procedures and functions, in this order;
* `Entity`: the identity of an object, ordered by kind and then by number;
* `NamedEntity`: an entity with the name it is shown under, if one is known.
-/

namespace ChangeImpact

inductive ObjectKind where
  | table
  | view
  | procedure
  | function
  deriving DecidableEq, Repr

namespace ObjectKind

/-- The place of a kind in the order of kinds. -/
def rank : ObjectKind → Nat
  | table => 0
  | view => 1
  | procedure => 2
  | function => 3

/-- The word that stands for a kind wherever one is written. -/
def name : ObjectKind → String
  | table => "table"
  | view => "view"
  | procedure => "stored_procedure"
  | function => "function"

/-- The words that a person may use for a kind, in any case. -/
def ofWord (word : String) : Except Unrecognized ObjectKind :=
  match Text.asciiLower word with
  | "table" | "u" => .ok table
  | "view" | "v" => .ok view
  | "stored_procedure" | "procedure" | "proc" | "p" => .ok procedure
  | "function" | "fn" | "f" => .ok function
  | other => .error (.objectKind other)

/-- Objects of the kind are named where a query names its sources. -/
def isTableLike : ObjectKind → Bool
  | table | view => true
  | procedure | function => false

/-- Objects of the kind carry a definition. -/
def hasDefinition : ObjectKind → Bool
  | table => false
  | view | procedure | function => true

/-- The noun for a number of objects of the kind. -/
def noun : ObjectKind → Nat → String
  | table, 1 => "table"
  | table, _ => "tables"
  | view, 1 => "view"
  | view, _ => "views"
  | procedure, 1 => "stored procedure"
  | procedure, _ => "stored procedures"
  | function, 1 => "function"
  | function, _ => "functions"

/-- The kinds that a reference to an object of the kind may resolve to. -/
def family (kind : ObjectKind) : List ObjectKind :=
  if kind.isTableLike then [table, view] else [procedure, function]

end ObjectKind

structure Entity where
  kind : ObjectKind
  id : Int
  deriving DecidableEq, Repr

namespace Entity

/-- By kind, then by number. -/
def le (a b : Entity) : Bool :=
  a.kind.rank < b.kind.rank || (a.kind.rank == b.kind.rank && a.id ≤ b.id)

/-- The text that stands for an entity in a path's identity. -/
def key (e : Entity) : String :=
  s!"{e.kind.name}:{e.id}"

/-- The text shown for an entity without a name. -/
def tag (e : Entity) : String :=
  s!"{e.kind.name}#{e.id}"

end Entity

structure NamedEntity where
  entity : Entity
  name : Option String
  deriving DecidableEq, Repr

namespace NamedEntity

/-- The name, or the kind and number of an entity without one. -/
def label (e : NamedEntity) : String :=
  e.name.getD e.entity.tag

/-- The kind and the name, or the kind and number of an entity without one. -/
def describe (e : NamedEntity) : String :=
  match e.name with
  | some name => s!"{e.entity.kind.name} {name}"
  | none => e.entity.tag

end NamedEntity

end ChangeImpact
