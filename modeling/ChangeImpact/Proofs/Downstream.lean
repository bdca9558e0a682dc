import ChangeImpact.Proofs.Coherence
import ChangeImpact.Proofs.Distance
import ChangeImpact.Store.Impact

/-!
# The rows that an analysis of a stored object is fed with

The dependents of an object are the last edges of chains (`IsChain`), found level by level.  A chain meets no object
twice, as a simple trail does, but it is bounded by a number of its own.

* (levels) no chain has more edges than there are, so all chains up to the depth are found: `exists_mem_downstream`;
* (chains and trails) every simple trail through all edges of the project ends with a chain: `exists_isChain`;
* (one level more) the edges that take a trail beyond the depth are found too, so nothing is lost by leaving the other
  edges out: `analyze_eq_ofDependents`.
-/

namespace ChangeImpact

namespace Store

open Catalog (Object)

variable {edges : List Edge} {root : Entity} {n : Nat} {c c' : Chain}

/-! ### Chains -/

/-- The chains of so many edges: those of one edge, and what chains grow to. -/
inductive IsChain (edges : List Edge) (root : Entity) : Nat → Chain → Prop
  | one {c : Chain} (h : c ∈ chainsFrom edges root) : IsChain edges root 1 c
  | grow {n : Nat} {c c' : Chain} (hc : IsChain edges root n c) (h : c' ∈ c.grow edges) :
    IsChain edges root (n + 1) c'

theorem mem_chainsFrom :
    c ∈ chainsFrom edges root ↔ ∃ e ∈ edges, e.target = root ∧ e.source ≠ root ∧ ⟨e, [root, e.source]⟩ = c := by
  simp only [chainsFrom, List.mem_map, List.mem_filter, Bool.and_eq_true, decide_eq_true_eq, and_assoc]

theorem mem_grow :
    c' ∈ c.grow edges ↔ ∃ e ∈ edges, e.target = c.last.source ∧ e.source ∉ c.met ∧ ⟨e, e.source :: c.met⟩ = c' := by
  simp only [Chain.grow, List.mem_map, List.mem_filter, Bool.and_eq_true, decide_eq_true_eq, Bool.not_eq_true',
    List.contains_eq_mem, decide_eq_false_iff_not, and_assoc]

theorem IsChain.pos (hc : IsChain edges root n c) : 0 < n := by
  cases hc <;> exact Nat.succ_pos _

theorem IsChain.last_mem (hc : IsChain edges root n c) : c.last ∈ edges := by
  cases hc with
  | one h =>
    obtain ⟨e, he, _, _, rfl⟩ := mem_chainsFrom.1 h
    exact he
  | grow _ h =>
    obtain ⟨e, he, _, _, rfl⟩ := mem_grow.1 h
    exact he

/-- A chain meets one object more than it has edges, each once, and each but the root is the source of an edge. -/
theorem IsChain.met_spec (hc : IsChain edges root n c) :
    c.met.Nodup ∧ c.met.length = n + 1 ∧ c.met ⊆ root :: edges.map Edge.source := by
  induction hc with
  | one h =>
    obtain ⟨e, he, _, hne, rfl⟩ := mem_chainsFrom.1 h
    refine ⟨List.nodup_cons.2 ⟨fun hm => hne (List.mem_singleton.1 hm).symm, List.nodup_singleton _⟩, rfl, ?_⟩
    refine List.cons_subset.2 ⟨List.mem_cons_self, List.cons_subset.2 ⟨?_, List.nil_subset _⟩⟩
    exact List.mem_cons_of_mem _ (List.mem_map_of_mem he)
  | grow _ h ih =>
    obtain ⟨hn, hl, hsub⟩ := ih
    obtain ⟨e, he, _, hmet, rfl⟩ := mem_grow.1 h
    refine ⟨List.nodup_cons.2 ⟨hmet, hn⟩, by rw [List.length_cons, hl], List.cons_subset.2 ⟨?_, hsub⟩⟩
    exact List.mem_cons_of_mem _ (List.mem_map_of_mem he)

/-- No chain has more edges than there are. -/
theorem IsChain.length_le (hc : IsChain edges root n c) : n ≤ edges.length := by
  obtain ⟨hn, hl, hsub⟩ := hc.met_spec
  have hle := (hn.subperm hsub).length_le
  rw [hl, List.length_cons, List.length_map] at hle
  omega

/-! ### Levels of chains -/

/-- From a level on, the last edges of all its chains and of those of so many levels after it are found. -/
theorem mem_lastEdges {levels k : Nat} {level : List Chain} {e : Edge}
    (hl : ∀ c, c ∈ level ↔ IsChain edges root (n + 1) c) :
    (e, k) ∈ lastEdges edges levels (n + 1) level ↔
      n < k ∧ k ≤ n + levels ∧ ∃ c, IsChain edges root k c ∧ c.last = e := by
  induction levels generalizing n level with
  | zero =>
    simp only [lastEdges, List.not_mem_nil, false_iff]
    omega
  | succ levels ih =>
    have hnext : ∀ c, c ∈ level.flatMap (Chain.grow edges) ↔ IsChain edges root (n + 1 + 1) c := by
      intro c
      rw [List.mem_flatMap]
      constructor
      · rintro ⟨c', hc', hgrow⟩
        exact .grow ((hl c').1 hc') hgrow
      · rintro (_ | ⟨hc', hgrow⟩)
        exact ⟨_, (hl _).2 hc', hgrow⟩
    have hfirst : (e, k) ∈ level.map (fun c => (c.last, n + 1)) ↔
        k = n + 1 ∧ ∃ c, IsChain edges root (n + 1) c ∧ c.last = e := by
      simp only [List.mem_map, hl, Prod.mk.injEq]
      constructor
      · rintro ⟨c, hc, rfl, rfl⟩
        exact ⟨rfl, c, hc, rfl⟩
      · rintro ⟨rfl, c, hc, rfl⟩
        exact ⟨c, hc, rfl, rfl⟩
    rw [lastEdges, List.mem_append, hfirst, ih hnext]
    constructor
    · rintro (⟨rfl, hc⟩ | ⟨hn, hk, hc⟩)
      · exact ⟨by omega, by omega, hc⟩
      · exact ⟨by omega, by omega, hc⟩
    · rintro ⟨hn, hk, hc⟩
      by_cases hkn : k = n + 1
      · exact .inl ⟨hkn, hkn ▸ hc⟩
      · exact .inr ⟨by omega, by omega, hc⟩

theorem mem_lastEdges_chainsFrom {levels k : Nat} {e : Edge} :
    (e, k) ∈ lastEdges edges levels 1 (chainsFrom edges root) ↔
      k ≤ levels ∧ ∃ c, IsChain edges root k c ∧ c.last = e := by
  have hl : ∀ c, c ∈ chainsFrom edges root ↔ IsChain edges root (0 + 1) c := by
    intro c
    constructor
    · exact .one
    · rintro (h | ⟨hc, _⟩)
      · exact h
      · exact absurd hc.pos (Nat.lt_irrefl 0)
  rw [mem_lastEdges hl, Nat.zero_add]
  constructor
  · rintro ⟨_, hk, hc⟩
    exact ⟨hk, hc⟩
  · rintro ⟨hk, c, hc, he⟩
    exact ⟨hc.pos, hk, c, hc, he⟩

theorem le_levelsFor {count depth : Nat} (hn : 0 < n) (hd : n ≤ depth) (hdepth : depth < 2 ^ 63) (hc : n ≤ count) :
    n ≤ levelsFor count depth := by
  have hmod : ((depth : Int).bmod 0x10000000000000000).toNat = depth := by
    rw [Int.bmod_eq_of_le (by omega) (by omega)]
    rfl
  rw [levelsFor, if_neg (by omega), hmod]
  omega

/-! ### The rows of chains -/

variable {s : Store} {project : Int} {depth : Nat} {row : Dependent}

/-- Each row describes the last edge of a chain. -/
theorem exists_isChain_of_mem_downstream (h : row ∈ s.downstream project root depth) :
    ∃ n c, IsChain (s.edgesOf project) root n c ∧ row = s.describe project c.last n := by
  obtain ⟨⟨e, n⟩, hmem, rfl⟩ := List.mem_map.1 h
  have hfound := mem_of_mem_distinctBy ((perm_sortBy _ _).mem_iff.1 hmem)
  obtain ⟨_, c, hc, rfl⟩ := mem_lastEdges_chainsFrom.1 hfound
  exact ⟨n, c, hc, rfl⟩

/-- Each chain up to the depth has its last edge among the rows. -/
theorem exists_mem_downstream (hc : IsChain (s.edgesOf project) root n c) (hd : n ≤ depth) (hdepth : depth < 2 ^ 63) :
    ∃ row ∈ s.downstream project root depth,
      row.source.entity = c.last.source ∧ row.target.entity = c.last.target ∧ row.usage = c.last.usage := by
  have hn : n ≤ levelsFor (s.edgesOf project).length depth := le_levelsFor hc.pos hd hdepth hc.length_le
  have hfound := mem_lastEdges_chainsFrom.2 ⟨hn, c, hc, rfl⟩
  have hkey := (@mem_map_distinctBy (Edge × Nat) _ _ _ (fun p => p.1.key) [] _ _).2
    ⟨List.mem_map_of_mem hfound, List.not_mem_nil⟩
  obtain ⟨⟨e, k⟩, hmem, hek⟩ := List.mem_map.1 hkey
  simp only [Edge.key, Prod.mk.injEq] at hek
  refine ⟨s.describe project e k, List.mem_map.2 ⟨(e, k), (perm_sortBy _ _).mem_iff.2 hmem, rfl⟩, ?_⟩
  exact hek

/-- The rows are the edges of the project with what its catalog knows of them. -/
structure Describes (s : Store) (project : Int) (rows : List Dependent) : Prop where
  edge : ∀ row ∈ rows, ∃ e ∈ s.edgesOf project, ∃ n, row = s.describe project e n
  row : ∀ e ∈ s.edgesOf project, ∃ n, s.describe project e n ∈ rows

/-- A simple trail through the rows of all edges ends with the last edge of a chain that meets the same objects. -/
theorem Describes.exists_isChain {rows : List Dependent} {object : NamedEntity} {rootLevel : Option Int}
    {default : Nat} {t : Trail} {hop : Hop} (hrows : s.Describes project rows)
    (ht : (Graph.ofDependents object rootLevel default rows).IsSimple (t.extend hop)) :
    ∃ c, IsChain (s.edgesOf project) object.entity (t.hops.length + 1) c ∧ c.last.target = t.tail ∧
      c.last.source = hop.entity ∧ c.last.usage = hop.usage ∧ ∀ e, e ∈ c.met ↔ e ∈ (t.extend hop).entities := by
  induction t using Trail.induction_extend generalizing hop with
  | start r =>
    obtain ⟨hr, hc⟩ := Graph.isSimple_extend.1 ht
    obtain rfl : r = object.entity := Graph.isSimple_nil.1 hr
    obtain ⟨ha, hmet⟩ := Graph.mem_continuations.1 hc
    obtain ⟨row, hrow, htarget, hsource, husage⟩ := Graph.mem_affected_ofDependents.1 ha
    obtain ⟨e, he, _, rfl⟩ := hrows.edge row hrow
    have hne : e.source ≠ object.entity := by
      intro heq
      exact hmet (List.mem_singleton.2 (hsource.symm.trans heq))
    refine ⟨_, .one (mem_chainsFrom.2 ⟨e, he, htarget, hne, rfl⟩), htarget, hsource, husage, fun x => ?_⟩
    rw [Trail.entities_extend, ← hsource]
    rfl
  | extend t h ih =>
    obtain ⟨hs, hc⟩ := Graph.isSimple_extend.1 ht
    obtain ⟨c, hchain, _, hlast, _, hmets⟩ := ih hs
    obtain ⟨ha, hmet⟩ := Graph.mem_continuations.1 hc
    obtain ⟨row, hrow, htarget, hsource, husage⟩ := Graph.mem_affected_ofDependents.1 ha
    obtain ⟨e, he, _, rfl⟩ := hrows.edge row hrow
    have hgrow : ⟨e, e.source :: c.met⟩ ∈ c.grow (s.edgesOf project) := by
      refine mem_grow.2 ⟨e, he, ?_, ?_, rfl⟩
      · rw [hlast]
        exact htarget.trans (Trail.tail_extend t h)
      · intro hm
        exact hmet (hsource ▸ (hmets _).1 hm)
    refine ⟨⟨e, e.source :: c.met⟩, ?_, htarget, hsource, husage, fun x => ?_⟩
    · rw [Trail.hops_extend, List.length_append]
      exact hchain.grow hgrow
    · rw [List.mem_cons, hmets, Trail.entities_extend (t.extend h), List.mem_append, List.mem_singleton, ← hsource]
      exact or_comm

/-- What the catalog of a project says of objects is the same in all rows. -/
theorem coherent_of_describe {rows : List Dependent}
    (h : ∀ row ∈ rows, ∃ e ∈ s.edgesOf project, ∃ n, row = s.describe project e n) :
    Coherent (fun e => ((s.objectsOf project).find? (·.id = e.id)).map Object.qualified)
      (fun e => ((s.objectsOf project).find? (·.id = e.id)).bind fun o => o.criticality.map Int.ofNat) rows := by
  constructor <;>
  · intro row hrow
    obtain ⟨e, _, n, rfl⟩ := h row hrow
    rfl

/-- An object is known to the catalog by its number, since no other object has it. -/
theorem find?_id_of_object? {e : Entity} {o : Object} (hs : (s.objects.map Object.id).Nodup)
    (ho : s.object? project e = some o) : o.entity = e ∧ (s.objectsOf project).find? (·.id = o.id) = some o := by
  have hmem := List.mem_of_find?_eq_some ho
  have hentity : o.entity = e := by simpa using List.find?_some ho
  refine ⟨hentity, ?_⟩
  have hids : ((s.objectsOf project).map Object.id).Nodup := hs.sublist (List.filter_sublist.map _)
  have hsome : ((s.objectsOf project).find? (·.id = o.id)).isSome := List.find?_isSome.2 ⟨o, hmem, decide_eq_true rfl⟩
  obtain ⟨o', ho'⟩ := Option.isSome_iff_exists.1 hsome
  have hid : o'.id = o.id := by simpa using List.find?_some ho'
  rw [ho', List.inj_on_of_nodup_map hids (List.mem_of_find?_eq_some ho') hmem hid]

/-- The analysis of a stored object gives what the rows of all edges of its project give, in any order and with
repetitions. -/
theorem analyze_eq_ofDependents {settings : Settings} {policy : ApprovalPolicy} {object : NamedEntity} {o : Object}
    {change : Change} {rows : List Dependent} (hs : (s.objects.map Object.id).Nodup)
    (ho : s.object? project object.entity = some o) (hv : settings.fault? = none) (hrows : s.Describes project rows) :
    s.analyze settings policy project object change =
      .ok (.ofDependents settings policy o.named (o.criticality.map Int.ofNat) rows change) := by
  obtain ⟨_, hknown⟩ := find?_id_of_object? hs ho
  obtain ⟨hone, hgreatest, _⟩ := Settings.bounds_of_fault?_eq_none hv
  have hdown : ∀ row ∈ s.downstream project o.entity (settings.maxDepth + 1),
      ∃ e ∈ s.edgesOf project, ∃ n, row = s.describe project e n := by
    intro row hrow
    obtain ⟨n, c, hchain, rfl⟩ := exists_isChain_of_mem_downstream hrow
    exact ⟨c.last, hchain.last_mem, n, rfl⟩
  have hc := coherent_of_describe hrows.edge
  have hc' := coherent_of_describe hdown
  have hroot : (((s.objectsOf project).find? (·.id = o.entity.id)).bind fun o => o.criticality.map Int.ofNat) =
      o.criticality.map Int.ofNat := by
    rw [show o.entity.id = o.id from rfl, hknown]
    rfl
  rw [analyze, ho]
  refine congrArg Except.ok (Analysis.ofDependents_congr ?_).symm
  refine hc.agree hc' ?_ fun t ht hd hop => ?_
  · exact (hc.annotation?_root hroot).trans (hc'.annotation?_root hroot).symm
  · have hd : t.hops.length ≤ settings.maxDepth := by omega
    constructor
    · intro hcont
      obtain ⟨c, hchain, htarget, hsource, husage, _⟩ := hrows.exists_isChain (Graph.isSimple_extend.2 ⟨ht, hcont⟩)
      -- the chain has at most one edge more than the depth, and the rows are those of such chains
      have hbound : settings.maxDepth + 1 < 2 ^ 63 := by
        simp only [Settings.greatestDepth] at hgreatest
        omega
      obtain ⟨row, hrow, hrs, hrt, hru⟩ :=
        exists_mem_downstream hchain (show _ ≤ settings.maxDepth + 1 by omega) hbound
      refine Graph.mem_continuations.2 ⟨Graph.mem_affected_ofDependents.2 ?_, (Graph.mem_continuations.1 hcont).2⟩
      exact ⟨row, hrow, hrt.trans htarget, hrs.trans hsource, hru.trans husage⟩
    · intro hcont
      obtain ⟨ha, hmet⟩ := Graph.mem_continuations.1 hcont
      obtain ⟨row, hrow, htarget, hsource, husage⟩ := Graph.mem_affected_ofDependents.1 ha
      obtain ⟨e, he, n, rfl⟩ := hdown row hrow
      obtain ⟨m, hm⟩ := hrows.row e he
      exact Graph.mem_continuations.2 ⟨Graph.mem_affected_ofDependents.2 ⟨_, hm, htarget, hsource, husage⟩, hmet⟩

/-- A table, a procedure that reads it, and another one; the procedures call each other. -/
def twoProcedures : Store where
  objects :=
    [⟨1, 1, .table, "dbo", "Orders", some 4, none⟩, ⟨2, 1, .procedure, "dbo", "ReadOrders", none, none⟩,
      ⟨3, 1, .procedure, "", "Nightly", none, none⟩]
  edges :=
    [⟨1, ⟨.procedure, 2⟩, ⟨.table, 1⟩, .select, 1⟩, ⟨1, ⟨.procedure, 3⟩, ⟨.procedure, 2⟩, .exec, 1⟩,
      ⟨1, ⟨.procedure, 2⟩, ⟨.procedure, 3⟩, .exec, 1⟩]

theorem analyze_twoProcedures :
    let settings : Settings := ⟨1, 5, .high, 3⟩
    let table : Object := ⟨1, 1, .table, "dbo", "Orders", some 4, none⟩
    let rows := (twoProcedures.edgesOf 1).map fun e => twoProcedures.describe 1 e 0
    (twoProcedures.objects.map Object.id).Nodup ∧ twoProcedures.object? 1 ⟨.table, 1⟩ = some table ∧
      settings.fault? = none ∧ twoProcedures.Describes 1 rows ∧
      twoProcedures.analyze settings ⟨.high⟩ 1 ⟨⟨.table, 1⟩, none⟩ .modify =
        .ok (.ofDependents settings ⟨.high⟩ table.named (some 4) rows .modify) := by
  intro settings table rows
  have hs : (twoProcedures.objects.map Object.id).Nodup := by decide
  have ho : twoProcedures.object? 1 ⟨.table, 1⟩ = some table := by decide
  have hv : settings.fault? = none := by decide
  have hrows : twoProcedures.Describes 1 rows := by
    constructor
    · intro row hrow
      obtain ⟨e, he, rfl⟩ := List.mem_map.1 hrow
      exact ⟨e, he, 0, rfl⟩
    · intro e he
      exact ⟨0, List.mem_map_of_mem he⟩
  exact ⟨hs, ho, hv, hrows, analyze_eq_ofDependents hs ho hv hrows⟩

end Store

end ChangeImpact
