import ChangeImpact.Dependent
import ChangeImpact.Store

/-!
# Downstream dependents

All edges on chains of dependents that begin at an object. A chain meets no object twice, the first one included, and
its length is bounded; an edge comes with the length of the shortest chain that it ends.
-/

namespace ChangeImpact.Store

/-- A chain of dependents, known by its last edge and by the objects that it meets. -/
structure Chain where
  last : Edge
  met : List Entity

/-- The chains of one edge. -/
def chainsFrom (edges : List Edge) (root : Entity) : List Chain :=
  (edges.filter fun e => e.target = root && e.source ≠ root).map fun e => ⟨e, [root, e.source]⟩

/-- The chains that are longer by one edge. -/
def Chain.grow (edges : List Edge) (c : Chain) : List Chain :=
  (edges.filter fun e => e.target = c.last.source && !c.met.contains e.source).map fun e =>
    ⟨e, e.source :: c.met⟩

/-- The last edges of the chains of a level and of the following levels, with the lengths of the chains. -/
def lastEdges (edges : List Edge) : Nat → Nat → List Chain → List (Edge × Nat)
  | 0, _, _ => []
  | levels + 1, length, level =>
    level.map (fun c => (c.last, length)) ++ lastEdges edges levels (length + 1) (level.flatMap (Chain.grow edges))

/-- The number of levels for a depth, which is taken modulo 2^64 to a signed number. Chains of one edge come in any
case, and no chain has more edges than there are. -/
def levelsFor (edgeCount depth : Nat) : Nat :=
  if depth = 0 then 0 else max 1 (min ((depth : Int).bmod 0x10000000000000000).toNat edgeCount)

/-- An edge with the names and the criticality that the catalog of the project knows its ends by. -/
def describe (s : Store) (project : Int) (e : Edge) (depth : Nat) : Dependent :=
  let known (id : Int) := (s.objectsOf project).find? (·.id = id)
  let source := known e.source.id
  { source := ⟨e.source, source.map Catalog.Object.qualified⟩
    target := ⟨e.target, (known e.target.id).map Catalog.Object.qualified⟩
    usage := e.usage
    depth := depth
    criticality := source.bind fun o => o.criticality.map Int.ofNat }

/-- The dependents of an object up to a depth, nearer ones first, then in the order of edges. -/
def downstream (s : Store) (project : Int) (root : Entity) (depth : Nat) : List Dependent :=
  let edges := s.edgesOf project
  let found := lastEdges edges (levelsFor edges.length depth) 1 (chainsFrom edges root)
  let nearest := distinctBy (fun (e, _) => e.key) [] found
  let ordered := sortBy (fun (a, m) (b, n) => lexLe (m :: edgeOrder a) (n :: edgeOrder b)) nearest
  ordered.map fun (e, n) => s.describe project e n

end ChangeImpact.Store
