import ChangeImpact.Distinct
import ChangeImpact.Edge
import ChangeImpact.Reference
import ChangeImpact.Resolution.NameIndex

/-!
# Resolution

From references by name to edges between objects of the catalog. References to tables and views are looked up among
tables and views, and references to procedures and functions among those; a name that is not found belongs to
something outside the catalog.

Edges and reports of ambiguous names come in the order of the references, each only once.
-/

namespace ChangeImpact

open Resolution (NameIndex Match)

/-- A name without a schema that was found in several schemas. -/
structure Ambiguity where
  name : String
  schemas : List String
  chosen : String
  deriving DecidableEq, Repr

structure Resolution where
  edges : List Edge
  unresolved : List Reference
  ambiguous : List Ambiguity

/-- What the references of a project are resolved with. -/
structure Resolver where
  project : Int
  tables : NameIndex
  routines : NameIndex

namespace Resolver

open Catalog (Entry)

/-- Routines without a schema belong to the default schema; tables and views without one have none. -/
def ofCatalog (project : Int) (tables routines : List Entry) : Resolver where
  project := project
  tables := .ofEntries false tables
  routines := .ofEntries true routines

def index (r : Resolver) (kind : ObjectKind) : NameIndex :=
  if kind.isTableLike then r.tables else r.routines

def lookup? (r : Resolver) (reference : Reference) : Option Match :=
  (r.index reference.targetKind).lookup? (Catalog.normalizedName reference.targetName)

def edge (r : Resolver) (reference : Reference) (target : Entity) : Edge :=
  ⟨r.project, reference.source, target, reference.usage, Confidence.static⟩

def edge? (r : Resolver) (reference : Reference) : Option Edge :=
  (r.lookup? reference).map fun m => r.edge reference m.found.entry.entity

/-- The ambiguity behind a reference, with the family of objects that it was looked up in. -/
def ambiguity? (r : Resolver) (reference : Reference) : Option (Bool × Ambiguity) :=
  match r.lookup? reference with
  | some ⟨found, first :: others⟩ =>
    some (reference.targetKind.isTableLike,
      ⟨Catalog.normalizedName reference.targetName, first :: others, found.shownSchema⟩)
  | _ => none

def resolve (r : Resolver) (references : List Reference) : Resolution where
  edges := distinctBy Edge.key [] (references.filterMap r.edge?)
  unresolved := references.filter fun reference => (r.lookup? reference).isNone
  ambiguous :=
    (distinctBy (fun (family, a) => (family, a.name)) [] (references.filterMap r.ambiguity?)).map Prod.snd

end Resolver

end ChangeImpact
