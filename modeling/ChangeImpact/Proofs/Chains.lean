import ChangeImpact.Proofs.Downstream
import ChangeImpact.Proofs.Keys
import Mathlib.Data.Prod.Lex
import Mathlib.Data.String.Basic

/-!
# Chains of dependents and the query for them

A chain of dependents is a list of edges that lead on from an object, each to the source of the one before it, over no
object twice (`IsSimpleChain`).  It is grown at its end, and so are the chains of the levels of a search (`IsChain`) and
the rows of the recursive query (`Derives`), which holds the objects on a chain as a text of their keys only.

* (levels) the search reaches the last edges of all simple chains: `exists_isChain_iff`;
* (query) a text of keys is as good as the objects, so that the query derives the same edges: `derives_iff`;
* (rows) the rows are the last edges of the chains up to a depth, each with the length of its shortest chain:
  `downstream_lists`.  A depth that does not fit into a signed number finds direct dependents only:
  `not_listsChains_wrapped`.
-/

namespace ChangeImpact

namespace Store

variable {edges : List Edge} {root : Entity} {e x : Edge} {before : List Edge} {n : Nat}

/-! ### Simple chains -/

/-- The objects on a chain, from the root on. -/
def objectsOn (root : Entity) (xs : List Edge) : List Entity :=
  root :: xs.map Edge.source

theorem objectsOn_append_singleton (root : Entity) (xs : List Edge) (e : Edge) :
    objectsOn root (xs ++ [e]) = objectsOn root xs ++ [e.source] := by
  rw [objectsOn, List.map_append]
  rfl

theorem mem_objectsOn_append_singleton {xs : List Edge} {o : Entity} :
    o ∈ objectsOn root (xs ++ [e]) ↔ o = e.source ∨ o ∈ objectsOn root xs := by
  rw [objectsOn_append_singleton, List.mem_append, List.mem_singleton, or_comm]

/-- Edges that lead on from the root, each to the source of the one before it, and meet no object twice. -/
structure IsSimpleChain (edges : List Edge) (root : Entity) (xs : List Edge) : Prop where
  mem : ∀ x ∈ xs, x ∈ edges
  starts : ∀ x ∈ xs.head?, x.target = root
  linked : xs.IsChain fun x y => y.target = x.source
  nodup : (objectsOn root xs).Nodup

theorem isSimpleChain_singleton : IsSimpleChain edges root [e] ↔ e ∈ edges ∧ e.target = root ∧ e.source ≠ root := by
  constructor
  · intro h
    exact ⟨h.mem e List.mem_cons_self, h.starts e rfl, fun heq => by simpa [objectsOn, heq] using h.nodup⟩
  · rintro ⟨he, ht, hs⟩
    exact ⟨by simpa using he, by simpa using ht, List.isChain_singleton e, by simpa [objectsOn] using hs.symm⟩

/-- A chain grows by an edge to the source of its last one, from an object that is not on it. -/
theorem isSimpleChain_append_singleton :
    IsSimpleChain edges root (before ++ [x] ++ [e]) ↔
      IsSimpleChain edges root (before ++ [x]) ∧ e ∈ edges ∧ e.target = x.source ∧
        e.source ∉ objectsOn root (before ++ [x]) := by
  have hhead : (before ++ [x] ++ [e]).head? = (before ++ [x]).head? := by
    cases before <;> rfl
  have hlinked : (before ++ [x] ++ [e]).IsChain (fun x y => y.target = x.source) ↔
      (before ++ [x]).IsChain (fun x y => y.target = x.source) ∧ e.target = x.source := by
    rw [List.isChain_append]
    simp
  have hnodup : (objectsOn root (before ++ [x] ++ [e])).Nodup ↔
      (objectsOn root (before ++ [x])).Nodup ∧ e.source ∉ objectsOn root (before ++ [x]) := by
    rw [objectsOn_append_singleton root (before ++ [x]), List.nodup_append_comm, List.singleton_append,
      List.nodup_cons]
    exact and_comm
  constructor
  · rintro ⟨hmem, hstarts, hl, hn⟩
    rw [hlinked] at hl
    rw [hnodup] at hn
    rw [hhead] at hstarts
    exact ⟨⟨fun y hy => hmem y (List.mem_append_left _ hy), hstarts, hl.1, hn.1⟩, hmem e (by simp), hl.2, hn.2⟩
  · rintro ⟨⟨hmem, hstarts, hl, hn⟩, he, ht, hs⟩
    refine ⟨fun y hy => ?_, hhead ▸ hstarts, hlinked.2 ⟨hl, ht⟩, hnodup.2 ⟨hn, hs⟩⟩
    rcases List.mem_append.1 hy with hy | hy
    · exact hmem y hy
    · exact List.mem_singleton.1 hy ▸ he

/-- The lengths of the chains that an edge ends.  An edge is known by its key. -/
def chainLengths (edges : List Edge) (root : Entity) (key : Entity × Entity × Usage) : Set Nat :=
  {n | ∃ before x, IsSimpleChain edges root (before ++ [x]) ∧ x.key = key ∧ n = before.length + 1}

/-! ### Levels -/

theorem IsChain.exists_isSimpleChain {c : Chain} (hc : IsChain edges root n c) :
    ∃ before, IsSimpleChain edges root (before ++ [c.last]) ∧ n = before.length + 1 ∧
      ∀ o, o ∈ c.met ↔ o ∈ objectsOn root (before ++ [c.last]) := by
  induction hc with
  | one h =>
    obtain ⟨e, he, ht, hs, rfl⟩ := mem_chainsFrom.1 h
    exact ⟨[], isSimpleChain_singleton.2 ⟨he, ht, hs⟩, rfl, fun _ => Iff.rfl⟩
  | @grow n c _ _ h ih =>
    obtain ⟨e, he, ht, hmet, rfl⟩ := mem_grow.1 h
    obtain ⟨before, hchain, rfl, hobjects⟩ := ih
    refine ⟨before ++ [c.last], isSimpleChain_append_singleton.2 ⟨hchain, he, ht, ?_⟩, ?_, fun o => ?_⟩
    · rwa [← hobjects]
    · rw [List.length_append, List.length_singleton]
    · rw [List.mem_cons, mem_objectsOn_append_singleton, hobjects]

theorem IsSimpleChain.exists_isChain (h : IsSimpleChain edges root (before ++ [e])) :
    ∃ c, IsChain edges root (before.length + 1) c ∧ c.last = e ∧
      ∀ o, o ∈ c.met ↔ o ∈ objectsOn root (before ++ [e]) := by
  induction before using List.reverseRecOn generalizing e with
  | nil =>
    obtain ⟨he, ht, hs⟩ := isSimpleChain_singleton.1 h
    exact ⟨_, .one (mem_chainsFrom.2 ⟨e, he, ht, hs, rfl⟩), rfl, fun _ => Iff.rfl⟩
  | append_singleton before x ih =>
    obtain ⟨hchain, he, ht, hs⟩ := isSimpleChain_append_singleton.1 h
    obtain ⟨c, hc, rfl, hobjects⟩ := ih hchain
    rw [← hobjects] at hs
    refine ⟨⟨e, e.source :: c.met⟩, ?_, rfl, fun o => ?_⟩
    · rw [List.length_append, List.length_singleton]
      exact hc.grow (mem_grow.2 ⟨e, he, ht, hs, rfl⟩)
    · rw [List.mem_cons, mem_objectsOn_append_singleton, hobjects]

/-- The search meets the last edges of simple chains, at the level of their length. -/
theorem exists_isChain_iff {key : Entity × Entity × Usage} :
    (∃ c, IsChain edges root n c ∧ c.last.key = key) ↔ n ∈ chainLengths edges root key := by
  constructor
  · rintro ⟨c, hc, hkey⟩
    obtain ⟨before, hchain, hn, _⟩ := hc.exists_isSimpleChain
    exact ⟨before, c.last, hchain, hkey, hn⟩
  · rintro ⟨before, x, hchain, hkey, rfl⟩
    obtain ⟨c, hc, rfl, _⟩ := hchain.exists_isChain
    exact ⟨c, hc, hkey⟩

/-! ### The query -/

/-- What the recursive query derives: an edge, the length of a chain that it ends, and the keys of the objects on that
chain.  The bound only keeps chains from growing. -/
inductive Derives (edges : List Edge) (root : Entity) (bound : Int) : Edge → Nat → String → Prop
  | base {e : Edge} (he : e ∈ edges) (ht : e.target = root) (hs : e.source ≠ root) :
    Derives edges root bound e 1 ("|" ++ root.key ++ "|" ++ e.source.key ++ "|")
  | grow {e x : Edge} {n : Nat} {path : String} (h : Derives edges root bound x n path) (he : e ∈ edges)
    (ht : e.target = x.source) (hn : (n : Int) < bound) (hpath : ¬ e.source.marked.toList <:+: path.toList) :
    Derives edges root bound e (n + 1) (path ++ e.source.key ++ "|")

/-- The query derives the last edges of simple chains up to the bound, and those of single edges in any case. -/
theorem derives_iff {bound : Int} {path : String} :
    Derives edges root bound e n path ↔
      ∃ before, IsSimpleChain edges root (before ++ [e]) ∧ n = before.length + 1 ∧
        path = barred (objectsOn root (before ++ [e])) ∧ (n = 1 ∨ (n : Int) ≤ bound) := by
  constructor
  · intro h
    induction h with
    | base he ht hs => exact ⟨[], isSimpleChain_singleton.2 ⟨he, ht, hs⟩, rfl, rfl, .inl rfl⟩
    | @grow e x n path _ he ht hn hpath ih =>
      obtain ⟨before, hchain, rfl, rfl, _⟩ := ih
      rw [marked_infix_barred] at hpath
      refine ⟨before ++ [x], isSimpleChain_append_singleton.2 ⟨hchain, he, ht, hpath⟩, ?_, ?_, .inr ?_⟩
      · rw [List.length_append, List.length_singleton]
      · rw [objectsOn_append_singleton root (before ++ [x]), barred_append_singleton]
      · push_cast
        omega
  · rintro ⟨before, hchain, rfl, rfl, hbound⟩
    induction before using List.reverseRecOn generalizing e with
    | nil =>
      obtain ⟨he, ht, hs⟩ := isSimpleChain_singleton.1 hchain
      exact .base he ht hs
    | append_singleton before x ih =>
      obtain ⟨hchain, he, ht, hs⟩ := isSimpleChain_append_singleton.1 hchain
      rw [List.length_append, List.length_singleton] at hbound
      have hgrows : ((before.length + 1 : Nat) : Int) < bound := by omega
      have hx := ih hchain (.inr hgrows.le)
      rw [objectsOn_append_singleton root (before ++ [x]), barred_append_singleton, List.length_append,
        List.length_singleton]
      exact hx.grow he ht hgrows (mt marked_infix_barred.1 hs)

/-! ### The shortest chains -/

/-- A level is not longer than those after it. -/
theorem le_of_mem_lastEdges {levels length : Nat} {level : List Chain} {p : Edge × Nat}
    (h : p ∈ lastEdges edges levels length level) : length ≤ p.2 := by
  induction levels generalizing length level with
  | zero => exact absurd h List.not_mem_nil
  | succ levels ih =>
    rw [lastEdges, List.mem_append] at h
    rcases h with h | h
    · obtain ⟨c, _, rfl⟩ := List.mem_map.1 h
      exact Nat.le_refl _
    · exact Nat.le_of_succ_le (ih h)

theorem pairwise_lastEdges (levels length : Nat) (level : List Chain) :
    (lastEdges edges levels length level).Pairwise fun p q => p.2 ≤ q.2 := by
  induction levels generalizing length level with
  | zero => exact List.Pairwise.nil
  | succ levels ih =>
    rw [lastEdges, List.pairwise_append]
    refine ⟨List.pairwise_map.2 (List.pairwise_of_forall fun _ _ => Nat.le_refl _), ih _ _, fun p hp q hq => ?_⟩
    obtain ⟨c, _, rfl⟩ := List.mem_map.1 hp
    exact Nat.le_of_succ_le (le_of_mem_lastEdges hq)

/-- The last edges of the chains of so many levels, each edge once and with the first of its lengths. -/
def nearest (edges : List Edge) (root : Entity) (levels : Nat) : List (Edge × Nat) :=
  distinctBy (fun p => p.1.key) [] (lastEdges edges levels 1 (chainsFrom edges root))

/-- The first length of an edge is its least one. -/
theorem isLeast_of_mem_nearest {levels : Nat} (h : (e, n) ∈ nearest edges root levels) :
    e ∈ edges ∧ n ≤ levels ∧ IsLeast (chainLengths edges root e.key) n := by
  obtain ⟨hn, c, hc, rfl⟩ := mem_lastEdges_chainsFrom.1 (mem_of_mem_distinctBy h)
  refine ⟨hc.last_mem, hn, exists_isChain_iff.1 ⟨c, hc, rfl⟩, fun m hm => ?_⟩
  by_cases hle : m ≤ levels
  · obtain ⟨c', hc', hkey⟩ := exists_isChain_iff.2 hm
    have hfound := mem_lastEdges_chainsFrom.2 ⟨hle, c', hc', rfl⟩
    exact rel_of_mem_distinctBy (fun p => Nat.le_refl p.2) (pairwise_lastEdges ..) h hfound hkey
  · omega

theorem exists_mem_nearest {levels : Nat} {key : Entity × Entity × Usage}
    (hleast : IsLeast (chainLengths edges root key) n) (hn : n ≤ levels) :
    ∃ e, (e, n) ∈ nearest edges root levels ∧ e.key = key := by
  obtain ⟨c, hc, hkey⟩ := exists_isChain_iff.2 hleast.1
  have hfound := mem_lastEdges_chainsFrom.2 ⟨hn, c, hc, rfl⟩
  have hkept := (@mem_map_distinctBy (Edge × Nat) _ _ _ (fun p => p.1.key) [] _ _).2
    ⟨List.mem_map_of_mem hfound, List.not_mem_nil⟩
  obtain ⟨⟨e, m⟩, hmem, hek⟩ := List.mem_map.1 hkept
  have heq : e.key = key := hek.trans hkey
  have hm := (isLeast_of_mem_nearest hmem).2.2
  rw [heq] at hm
  rw [← hm.unique hleast]
  exact ⟨e, hmem, heq⟩

/-! ### Depths -/

/-- The greatest length of chains for a depth.  A depth is read as a signed number of 64 bits, and direct dependents are
found even if that is negative. -/
def reach (depth : Nat) : Nat :=
  if depth < 2 ^ 63 then depth else 1

theorem bmod_depth {depth : Nat} (hdepth : depth < 2 ^ 64) :
    (depth : Int).bmod 0x10000000000000000 = if depth < 2 ^ 63 then (depth : Int) else depth - 2 ^ 64 := by
  split
  · exact Int.bmod_eq_of_le (by omega) (by omega)
  · rw [← Int.sub_bmod_right]
    exact Int.bmod_eq_of_le (by omega) (by omega)

/-- The levels of a depth hold the chains within its reach, since no chain is longer than there are edges. -/
theorem le_levelsFor_iff {count depth : Nat} (hdepth : depth < 2 ^ 64) (hn : 0 < n) (hc : n ≤ count) :
    n ≤ levelsFor count depth ↔ n ≤ reach depth := by
  rw [levelsFor, reach, bmod_depth hdepth]
  split_ifs <;> omega

/-! ### The order of rows -/

theorem kindOrder_lt_iff {a b : ObjectKind} : kindOrder a < kindOrder b ↔ a.name < b.name := by
  cases a <;> cases b <;> decide

theorem kindOrder_inj {a b : ObjectKind} : kindOrder a = kindOrder b ↔ a = b := by
  cases a <;> cases b <;> decide

theorem usageOrder_lt_iff {a b : Usage} : usageOrder a < usageOrder b ↔ a.keyword < b.keyword := by
  cases a <;> cases b <;> decide

theorem usageOrder_inj {a b : Usage} : usageOrder a = usageOrder b ↔ a = b := by
  cases a <;> cases b <;> decide

/-- What rows are ordered by: the depth, then the words for the kinds and the numbers of source and target, then the
keyword of the usage. -/
def place (row : Dependent) : ℕ ×ₗ String ×ₗ ℤ ×ₗ String ×ₗ ℤ ×ₗ String :=
  toLex (row.depth, toLex (row.source.entity.kind.name, toLex (row.source.entity.id,
    toLex (row.target.entity.kind.name, toLex (row.target.entity.id, row.usage.keyword)))))

/-- The edge that a row is about. -/
def rowKey (row : Dependent) : Entity × Entity × Usage :=
  (row.source.entity, row.target.entity, row.usage)

variable {s : Store} {project : Int}

/-- The row of an edge depends on nothing but its key. -/
theorem describe_congr {e' : Edge} (h : e.key = e'.key) (n : Nat) :
    s.describe project e n = s.describe project e' n := by
  obtain ⟨hsource, htarget, husage⟩ : e.source = e'.source ∧ e.target = e'.target ∧ e.usage = e'.usage := by
    simpa [Edge.key] using h
  simp only [describe, hsource, htarget, husage]

/-- Different edges in the order of the store have their rows in the order of the texts. -/
theorem place_lt_place {e' : Edge} {m : Nat} (hne : e.key ≠ e'.key)
    (h : lexLe (n :: edgeOrder e) (m :: edgeOrder e')) :
    place (s.describe project e n) < place (s.describe project e' m) := by
  obtain ⟨_, ⟨sourceKind, sourceId⟩, ⟨targetKind, targetId⟩, usage, _⟩ := e
  obtain ⟨_, ⟨sourceKind', sourceId'⟩, ⟨targetKind', targetId'⟩, usage', _⟩ := e'
  simp only [edgeOrder, lexLe_cons, Nat.cast_inj, Nat.cast_lt, kindOrder_lt_iff, kindOrder_inj, usageOrder_lt_iff,
    usageOrder_inj] at h
  simp only [place, describe, Prod.Lex.toLex_lt_toLex]
  -- the first component that differs decides in both orders, and there is one
  rcases h with h | ⟨rfl, h | ⟨rfl, h | ⟨rfl, h | ⟨rfl, h | ⟨rfl, h | ⟨rfl, _⟩⟩⟩⟩⟩⟩
  · exact .inl h
  · exact .inr ⟨rfl, .inl h⟩
  · exact .inr ⟨rfl, .inr ⟨rfl, .inl h⟩⟩
  · exact .inr ⟨rfl, .inr ⟨rfl, .inr ⟨rfl, .inl h⟩⟩⟩
  · exact .inr ⟨rfl, .inr ⟨rfl, .inr ⟨rfl, .inr ⟨rfl, .inl h⟩⟩⟩⟩
  · exact .inr ⟨rfl, .inr ⟨rfl, .inr ⟨rfl, .inr ⟨rfl, .inr ⟨rfl, h⟩⟩⟩⟩⟩
  · exact absurd rfl hne

/-! ### The rows -/

/-- Rows of the edges that end chains of at most so many edges, each with the length of its shortest chain. -/
structure ListsChains (s : Store) (project : Int) (root : Entity) (bound : Nat) (rows : List Dependent) : Prop where
  mem_rows : ∀ row, row ∈ rows ↔ ∃ e ∈ s.edgesOf project, ∃ n,
    IsLeast (chainLengths (s.edgesOf project) root e.key) n ∧ n ≤ bound ∧ row = s.describe project e n
  /-- Each edge has one row. -/
  nodup : (rows.map rowKey).Nodup
  sorted : (rows.map place).Pairwise (· < ·)

/-- Rows of the edges that the query derives, each with the least of the lengths that it derives for the edge. -/
def ListsDerived (s : Store) (project : Int) (root : Entity) (bound : Int) (rows : List Dependent) : Prop :=
  ∀ row, row ∈ rows ↔ ∃ e ∈ s.edgesOf project, ∃ n,
    IsLeast {m | ∃ x path, Derives (s.edgesOf project) root bound x m path ∧ x.key = e.key} n ∧
      row = s.describe project e n

/-- The shorter chain first, then in the order of the edges. -/
def nearestLe (p q : Edge × Nat) : Bool :=
  lexLe (p.2 :: edgeOrder p.1) (q.2 :: edgeOrder q.1)

theorem pairwise_nearestLe (ps : List (Edge × Nat)) : (sortBy nearestLe ps).Pairwise (nearestLe · ·) := by
  have htrans (p q r : Edge × Nat) : nearestLe p q → nearestLe q r → nearestLe p r := lexLe_trans _ _ _
  have htotal (p q : Edge × Nat) : nearestLe p q ∨ nearestLe q p := lexLe_total _ _
  exact pairwise_sortBy htrans htotal ps

theorem downstream_eq (s : Store) (project : Int) (root : Entity) (depth : Nat) :
    s.downstream project root depth =
      (sortBy nearestLe (nearest (s.edgesOf project) root (levelsFor (s.edgesOf project).length depth))).map fun p =>
        s.describe project p.1 p.2 := rfl

theorem listsChains_downstream (s : Store) (project : Int) (root : Entity) {depth : Nat} (hdepth : depth < 2 ^ 64) :
    s.ListsChains project root (reach depth) (s.downstream project root depth) := by
  set levels := levelsFor (s.edgesOf project).length depth
  have hrow (row : Dependent) : row ∈ s.downstream project root depth ↔
      ∃ e n, (e, n) ∈ nearest (s.edgesOf project) root levels ∧ s.describe project e n = row := by
    simp only [downstream_eq, List.mem_map, (perm_sortBy _ _).mem_iff, Prod.exists, levels]
  have hreach {key : Entity × Entity × Usage} {n : Nat} (h : n ∈ chainLengths (s.edgesOf project) root key) :
      n ≤ levels ↔ n ≤ reach depth := by
    obtain ⟨c, hc, _⟩ := exists_isChain_iff.2 h
    exact le_levelsFor_iff hdepth hc.pos hc.length_le
  constructor
  · intro row
    rw [hrow]
    constructor
    · rintro ⟨e, n, hmem, rfl⟩
      obtain ⟨he, hn, hleast⟩ := isLeast_of_mem_nearest hmem
      exact ⟨e, he, n, hleast, (hreach hleast.1).1 hn, rfl⟩
    · rintro ⟨e, _, n, hleast, hn, rfl⟩
      obtain ⟨e', hmem, hkey⟩ := exists_mem_nearest hleast ((hreach hleast.1).2 hn)
      exact ⟨e', n, hmem, describe_congr hkey n⟩
  · rw [downstream_eq, List.map_map]
    exact ((perm_sortBy _ _).map _).nodup_iff.2 (nodup_map_distinctBy _ _ _)
  · rw [downstream_eq, List.map_map, List.pairwise_map]
    have hdistinct : ((sortBy nearestLe (nearest (s.edgesOf project) root levels)).map fun p => p.1.key).Nodup :=
      ((perm_sortBy _ _).map _).nodup_iff.2 (nodup_map_distinctBy _ _ _)
    exact ((pairwise_nearestLe _).and (List.pairwise_map.1 hdistinct)).imp fun h => place_lt_place h.2 h.1

/-- The query derives the edges that end chains within the reach of its depth, with the same least lengths. -/
theorem isLeast_derived_iff {depth : Nat} (hzero : depth ≠ 0) (hdepth : depth < 2 ^ 64)
    {key : Entity × Entity × Usage} :
    IsLeast {m | ∃ x path, Derives edges root ((depth : Int).bmod 0x10000000000000000) x m path ∧ x.key = key} n ↔
      IsLeast (chainLengths edges root key) n ∧ n ≤ reach depth := by
  have hbound (m : Nat) (hm : 0 < m) :
      (m = 1 ∨ (m : Int) ≤ (depth : Int).bmod 0x10000000000000000) ↔ m ≤ reach depth := by
    rw [bmod_depth hdepth, reach]
    split_ifs <;> omega
  have hderived (m : Nat) :
      (∃ x path, Derives edges root ((depth : Int).bmod 0x10000000000000000) x m path ∧ x.key = key) ↔
        m ∈ chainLengths edges root key ∧ m ≤ reach depth := by
    simp only [derives_iff]
    constructor
    · rintro ⟨x, path, ⟨before, hchain, rfl, _, hm⟩, hkey⟩
      exact ⟨⟨before, x, hchain, hkey, rfl⟩, (hbound _ (Nat.succ_pos _)).1 hm⟩
    · rintro ⟨⟨before, x, hchain, hkey, rfl⟩, hm⟩
      exact ⟨x, _, ⟨before, hchain, rfl, rfl, (hbound _ (Nat.succ_pos _)).2 hm⟩, hkey⟩
  constructor
  · rintro ⟨hmem, hmin⟩
    obtain ⟨hchain, hn⟩ := (hderived n).1 hmem
    refine ⟨⟨hchain, fun m hm => ?_⟩, hn⟩
    by_cases hle : m ≤ reach depth
    · exact hmin ((hderived m).2 ⟨hm, hle⟩)
    · omega
  · rintro ⟨⟨hchain, hmin⟩, hn⟩
    exact ⟨(hderived n).2 ⟨hchain, hn⟩, fun m hm => hmin ((hderived m).1 hm).1⟩

/-- The dependents of an object up to a depth are the last edges of its chains within the reach of the depth.  They are
what the recursive query derives, which is not asked for the depth 0. -/
theorem downstream_lists (s : Store) (project : Int) (root : Entity) {depth : Nat} (hdepth : depth < 2 ^ 64) :
    s.ListsChains project root (reach depth) (s.downstream project root depth) ∧
      (depth ≠ 0 → s.ListsDerived project root ((depth : Int).bmod 0x10000000000000000)
        (s.downstream project root depth)) ∧
      s.downstream project root 0 = [] := by
  have hlists := listsChains_downstream s project root hdepth
  refine ⟨hlists, fun hzero row => ?_, rfl⟩
  simp only [isLeast_derived_iff hzero hdepth, hlists.mem_rows, and_assoc]

/-- A table, a procedure that reads it, and one that calls the first. -/
def nightlyReader : Store where
  objects :=
    [⟨1, 1, .table, "dbo", "Orders", none, none⟩, ⟨2, 1, .procedure, "dbo", "ReadOrders", some 4, none⟩,
      ⟨3, 1, .procedure, "", "Nightly", none, none⟩]
  edges := [⟨1, ⟨.procedure, 2⟩, ⟨.table, 1⟩, .select, 1⟩, ⟨1, ⟨.procedure, 3⟩, ⟨.procedure, 2⟩, .exec, 1⟩]

theorem downstream_lists_nightlyReader :
    let rows := nightlyReader.downstream 1 ⟨.table, 1⟩ 2
    2 < 2 ^ 64 ∧ nightlyReader.ListsChains 1 ⟨.table, 1⟩ (reach 2) rows ∧
      (2 ≠ 0 → nightlyReader.ListsDerived 1 ⟨.table, 1⟩ (((2 : Nat) : Int).bmod 0x10000000000000000) rows) ∧
      nightlyReader.downstream 1 ⟨.table, 1⟩ 0 = [] ∧
      rows.map (fun row => (rowKey row, row.depth)) =
        [((⟨.procedure, 2⟩, ⟨.table, 1⟩, .select), 1), ((⟨.procedure, 3⟩, ⟨.procedure, 2⟩, .exec), 2)] := by
  have hdepth : 2 < 2 ^ 64 := by decide
  obtain ⟨hchains, hderived, hzero⟩ := downstream_lists nightlyReader 1 ⟨.table, 1⟩ hdepth
  exact ⟨hdepth, hchains, hderived, hzero, by decide +kernel⟩

/-- The call is at the end of a chain of two edges, which is within the depth, and is not listed. -/
theorem not_listsChains_wrapped :
    let rows := nightlyReader.downstream 1 ⟨.table, 1⟩ (2 ^ 63)
    2 ∈ chainLengths (nightlyReader.edgesOf 1) ⟨.table, 1⟩ (⟨.procedure, 3⟩, ⟨.procedure, 2⟩, .exec) ∧
      rows.map rowKey = [(⟨.procedure, 2⟩, ⟨.table, 1⟩, .select)] ∧
      ¬ nightlyReader.ListsChains 1 ⟨.table, 1⟩ (2 ^ 63) rows := by
  intro rows
  have hkeys : rows.map rowKey = [(⟨.procedure, 2⟩, ⟨.table, 1⟩, .select)] := by decide +kernel
  have hchain : 2 ∈ chainLengths (nightlyReader.edgesOf 1) ⟨.table, 1⟩ (⟨.procedure, 3⟩, ⟨.procedure, 2⟩, .exec) := by
    refine ⟨nightlyReader.edges.take 1, ⟨1, ⟨.procedure, 3⟩, ⟨.procedure, 2⟩, .exec, 1⟩, ?_, rfl, rfl⟩
    exact ⟨by decide +kernel, by decide, by decide, by decide⟩
  refine ⟨hchain, hkeys, fun h => ?_⟩
  have hleast := isLeast_csInf ⟨2, hchain⟩
  have hrow := (h.mem_rows _).2 ⟨⟨1, ⟨.procedure, 3⟩, ⟨.procedure, 2⟩, .exec, 1⟩, by decide +kernel, _, hleast,
    (hleast.2 hchain).trans (by decide), rfl⟩
  have hmem := List.mem_map_of_mem (f := rowKey) hrow
  rw [hkeys] at hmem
  exact absurd (List.mem_singleton.1 hmem) (by decide)

end Store

end ChangeImpact
