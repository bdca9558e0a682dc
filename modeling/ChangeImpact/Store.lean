import ChangeImpact.Catalog.Declaration
import ChangeImpact.Catalog.Object
import ChangeImpact.Criticality
import ChangeImpact.Distinct
import ChangeImpact.Edge
import ChangeImpact.Error
import ChangeImpact.Sorting
import ChangeImpact.Text.Ascii

/-!
# The store

The catalogs of all projects and the dependency edges between their objects. Objects are added and changed by
declaring them, and are never removed; the edges of an object are replaced all at once.

* `declare`, `declareAll`: an object is known by its project, kind, schema and name; declaring it again keeps its
  number and replaces its criticality and definition. Declarations count all together or not at all.
* `objectsOf`, `entriesOf`, `definitionsOf`, `object?`, `find?`: reading the catalog of a project.
* `replace`, `dependencies`: writing and reading the edges of a project.
-/

namespace ChangeImpact

open Catalog (Object Declaration Entry)

structure Store where
  /-- In the order of their numbers. -/
  objects : List Object
  edges : List Edge
  deriving DecidableEq, Repr

namespace Store

def empty : Store :=
  ⟨[], []⟩

/-! ### Declaring objects -/

/-- The number after the largest in use in any project. -/
def nextId (s : Store) : Int :=
  s.objects.foldl (fun largest o => max largest o.id) 0 + 1

/-- The object that a declaration stands for, under a given number. -/
def declared (project id : Int) (d : Declaration) : Object where
  id := id
  project := project
  kind := d.kind
  schema := (d.schema.map Text.trim).getD ""
  name := Text.trim d.name
  criticality := d.criticality.map fun level => Criticality.clamp level
  definition := d.definition

/-- The two are known as the same object. -/
def sameObject (a b : Object) : Bool :=
  a.project = b.project && a.kind = b.kind && a.schema = b.schema && a.name = b.name

/-- Adds an object, or puts it in the place of the same object, whose number it keeps. -/
def put (s : Store) (o : Object) : Store × Int :=
  match s.objects.find? (sameObject o) with
  | some known =>
    let replaced := s.objects.map fun other => if sameObject o other then { o with id := other.id } else other
    ({ s with objects := replaced }, known.id)
  | none => ({ s with objects := s.objects ++ [o] }, o.id)

/-- Declares an object, and gives its number. -/
def declare (s : Store) (project : Int) (d : Declaration) : Except Error (Store × Int) :=
  let o := declared project s.nextId d
  if o.name.isEmpty then .error (.blankName d.kind) else .ok (s.put o)

def declareAll (s : Store) (project : Int) (ds : List Declaration) : Except Error Store :=
  ds.foldlM (fun s d => Prod.fst <$> s.declare project d) s

/-! ### Reading the catalog -/

def objectsOf (s : Store) (project : Int) : List Object :=
  s.objects.filter (·.project = project)

/-- What the resolution of references to a family of kinds needs. -/
def entriesOf (s : Store) (project : Int) (kinds : List ObjectKind) : List Entry :=
  ((s.objectsOf project).filter (kinds.contains ·.kind)).map Object.entry

/-- The objects that have, or should have, a definition. -/
def definitionsOf (s : Store) (project : Int) : List Object :=
  (s.objectsOf project).filter (·.kind.hasDefinition)

def object? (s : Store) (project : Int) (e : Entity) : Option Object :=
  (s.objectsOf project).find? (·.entity = e)

/-- The object goes by a name, with the schema before it if one is given. An object without a schema also goes by the
default schema. -/
def goesBy (schema : Option String) (name : String) (o : Object) : Bool :=
  Text.sameNoCase o.name name &&
    match schema with
    | none => true
    | some schema =>
      Text.sameNoCase o.schema schema ||
        (o.schema.isEmpty && Text.sameNoCase schema Catalog.defaultSchema)

/-- The first object that goes by a name, those in the default schema before the others. -/
def find? (s : Store) (project : Int) (kind : Option ObjectKind) (name : String) : Option Object :=
  let (schema, base) := Catalog.splitName name
  let found := (s.objectsOf project).filter fun o => goesBy schema base o && (kind.all (· = o.kind))
  (found.find? fun o => Text.sameNoCase o.schema Catalog.defaultSchema) <|> found.head?

def findEntity (s : Store) (project : Int) (kind : Option ObjectKind) (name : String) : Except Error NamedEntity :=
  match s.find? project kind name with
  | some o => .ok o.named
  | none => .error (.unknownName name project)

/-! ### Edges -/

/-- Replaces all edges of the sources, and of the sources of the rows, by the rows. The first of several rows for one
edge counts, and all become edges of the project. Gives the number of edges written. -/
def replace (s : Store) (project : Int) (sources : List Entity) (rows : List Edge) : Store × Nat :=
  let cleared := sources ++ rows.map Edge.source
  let kept := s.edges.filter fun e => !(e.project = project && cleared.contains e.source)
  let written := distinctBy Edge.key [] (rows.map fun e => { e with project := project })
  ({ s with edges := kept ++ written }, written.length)

/-- The place of a kind in the alphabetical order of names. -/
def kindOrder : ObjectKind → Int
  | .function => 0
  | .procedure => 1
  | .table => 2
  | .view => 3

/-- The place of a usage in the alphabetical order of keywords. -/
def usageOrder : Usage → Int
  | .delete => 0
  | .exec => 1
  | .insert => 2
  | .schemaBinding => 3
  | .select => 4
  | .update => 5

/-- Edges are listed by source, then target, then usage, where kinds and usages come in alphabetical order. -/
def edgeOrder (e : Edge) : List Int :=
  [kindOrder e.source.kind, e.source.id, kindOrder e.target.kind, e.target.id, usageOrder e.usage]

def edgesOf (s : Store) (project : Int) : List Edge :=
  s.edges.filter (·.project = project)

/-- The edges of a project in the order of `edgeOrder`. -/
def dependencies (s : Store) (project : Int) : List Edge :=
  sortBy (fun a b => lexLe (edgeOrder a) (edgeOrder b)) (s.edgesOf project)

end Store

end ChangeImpact
