import ChangeImpact.Criticality
import ChangeImpact.Dependent
import ChangeImpact.Distinct
import ChangeImpact.Sorting

/-!
# Impact graphs

Dependents say who uses whom. An impact is passed on the other way: from an object to all that use it. `Graph` holds
the objects that the dependents mention, the changed object first, and a link for each object that is affected by
another.

* An object is shown under the name of its first mention.
* Its criticality is its first annotation, or the default; the annotation of the changed object itself counts first.
* Several dependents of the same source, target and usage make one link.
-/

namespace ChangeImpact

structure Node where
  object : NamedEntity
  criticality : Nat
  deriving DecidableEq, Repr

def Node.entity (n : Node) : Entity :=
  n.object.entity

/-- A step to an object, and how that object uses the one before it. -/
structure Hop where
  usage : Usage
  entity : Entity
  deriving DecidableEq, Repr

/-- By the object, then by the usage. -/
def Hop.le (a b : Hop) : Bool :=
  if a.entity = b.entity then a.usage.le b.usage else a.entity.le b.entity

structure Link where
  from_ : Entity
  hop : Hop
  deriving DecidableEq, Repr

structure Graph where
  root : Node
  /-- The other objects in the order of their first mention. -/
  others : List Node
  /-- All links, those of each object in the order of `Hop.le`. -/
  links : List Link

namespace Graph

/-- The first annotation of an object. -/
def annotation? (root : Entity) (rootLevel : Option Int) (rows : List Dependent) (e : Entity) : Option Int :=
  (if e = root then rootLevel else none) <|>
    rows.findSome? fun row => if row.source.entity = e then row.criticality else none

def level (root : Entity) (rootLevel : Option Int) (rows : List Dependent) (default : Nat) (e : Entity) : Nat :=
  Criticality.clamp ((annotation? root rootLevel rows e).getD default)

/-- Every mention of an object in the rows. -/
def mentions (rows : List Dependent) : List NamedEntity :=
  rows.flatMap fun row => [row.target, row.source]

def linkOf (row : Dependent) : Link :=
  ⟨row.target.entity, ⟨row.usage, row.source.entity⟩⟩

def ofDependents (root : NamedEntity) (rootLevel : Option Int) (default : Nat) (rows : List Dependent) : Graph :=
  let node (object : NamedEntity) : Node := ⟨object, level root.entity rootLevel rows default object.entity⟩
  { root := node root
    others := (distinctBy NamedEntity.entity [root.entity] (mentions rows)).map node
    links := sortBy (fun a b => a.hop.le b.hop) (distinctBy id [] (rows.map linkOf)) }

def nodes (g : Graph) : List Node :=
  g.root :: g.others

def node? (g : Graph) (e : Entity) : Option Node :=
  g.nodes.find? (·.entity = e)

/-- The place of an object among the nodes. -/
def index? (g : Graph) (e : Entity) : Option Nat :=
  g.nodes.findIdx? (·.entity = e)

/-- The steps to the objects that a change of the given one affects directly, in order. -/
def affected (g : Graph) (e : Entity) : List Hop :=
  (g.links.filter (·.from_ = e)).map Link.hop

end Graph

end ChangeImpact
