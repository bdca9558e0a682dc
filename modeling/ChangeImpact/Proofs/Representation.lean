import ChangeImpact.Proofs.PathOrder

/-!
# The graph as the relation in the rows

A graph that is built from rows holds exactly what they say (`represents_ofDependents`): the root and the objects that
the rows mention, each with a place of its own, a link for each way in which one object uses another, and for each
object the level of the annotation that counts.

Which annotation counts is said by `Annotated` along the rows, the first annotated one being decisive.
-/

namespace ChangeImpact.Graph

variable {g : Graph} {root : NamedEntity} {rootLevel : Option Int} {default : Nat} {rows : List Dependent}
  {e e' : Entity} {i : Nat}

/-! ### Places -/

theorem index?_eq_some (h : g.index? e = some i) : ∃ n, g.nodes[i]? = some n ∧ n.entity = e := by
  obtain ⟨hi, hn, _⟩ := List.findIdx?_eq_some_iff_getElem.1 h
  exact ⟨_, List.getElem?_eq_getElem hi, of_decide_eq_true hn⟩

theorem index?_inj (h : g.index? e = some i) (h' : g.index? e' = some i) : e = e' := by
  obtain ⟨n, hn, rfl⟩ := index?_eq_some h
  obtain ⟨n', hn', rfl⟩ := index?_eq_some h'
  rw [Option.some.inj (hn.symm.trans hn')]

theorem isSome_index? : (g.index? e).isSome ↔ e ∈ g.entities := by
  rw [index?, List.findIdx?_isSome, List.any_eq_true, entities, List.mem_map]
  simp only [decide_eq_true_eq]

/-- What is affected has a place, so that it can be told by its place. -/
theorem mem_map_index?_affected (hg : g.WellFormed) {s : Entity} {u : Usage} :
    (g.index? s, u) ∈ (g.affected e).map (fun h => (g.index? h.entity, h.usage)) ↔ ⟨u, s⟩ ∈ g.affected e := by
  rw [List.mem_map]
  constructor
  · rintro ⟨h, hh, heq⟩
    obtain ⟨i, hi⟩ := Option.isSome_iff_exists.1 (isSome_index?.2 (hg.mem_entities_of_mem_affected hh))
    obtain ⟨hindex, rfl⟩ := Prod.mk.inj heq
    have hs : h.entity = s := index?_inj hi (hindex.symm.trans hi)
    rwa [← hs]
  · exact fun h => ⟨_, h, rfl⟩

/-! ### Counts -/

/-- The objects that the graph of the rows is about. -/
def IsMentioned (root : Entity) (rows : List Dependent) (e : Entity) : Prop :=
  e = root ∨ ∃ row ∈ rows, row.target.entity = e ∨ row.source.entity = e

/-- Who is used, by whom and how. -/
def triple (row : Dependent) : Entity × Entity × Usage :=
  (row.target.entity, row.source.entity, row.usage)

private theorem length_eq_ncard {α : Type} [DecidableEq α] {as : List α} {s : Set α} (hn : as.Nodup)
    (h : ∀ a, a ∈ as ↔ a ∈ s) : as.length = s.ncard := by
  have hs : s = (as.toFinset : Set α) := Set.ext fun a => by rw [List.coe_toFinset]; exact (h a).symm
  rw [hs, Set.ncard_coe_finset, List.toFinset_card_of_nodup hn]

theorem length_nodes_ofDependents :
    (ofDependents root rootLevel default rows).nodes.length = {e | IsMentioned root.entity rows e}.ncard := by
  have hg := ofDependents_wellFormed root rootLevel default rows
  rw [← List.length_map Node.entity]
  exact length_eq_ncard hg.nodup_entities fun e => mem_entities_ofDependents

theorem length_links_ofDependents :
    (ofDependents root rootLevel default rows).links.length = {t | ∃ row ∈ rows, triple row = t}.ncard := by
  have hg := ofDependents_wellFormed root rootLevel default rows
  have hinj : Function.Injective fun l : Link => (l.from_, l.hop.entity, l.hop.usage) := by
    rintro ⟨f, u, s⟩ ⟨f', u', s'⟩ h
    cases h
    rfl
  rw [← List.length_map fun l : Link => (l.from_, l.hop.entity, l.hop.usage)]
  refine length_eq_ncard (hg.nodup_links.map hinj) fun t => ?_
  rw [List.mem_map]
  constructor
  · rintro ⟨l, hl, rfl⟩
    obtain ⟨row, hrow, rfl⟩ := mem_links_ofDependents.1 hl
    exact ⟨row, hrow, rfl⟩
  · rintro ⟨row, hrow, rfl⟩
    exact ⟨linkOf row, mem_links_ofDependents.2 ⟨row, hrow, rfl⟩, rfl⟩

/-! ### Levels -/

/-- The annotation that counts for an object: that of the root itself, else the first of the rows whose source the
object is, else the default. -/
inductive Annotated (root : Entity) (rootLevel : Option Int) (default : Nat) (rows : List Dependent) (e : Entity) :
    Int → Prop
  | root {level : Int} : e = root → rootLevel = some level → Annotated root rootLevel default rows e level
  | row {level : Int} {before after : List Dependent} {row : Dependent} : (e = root → rootLevel = none) →
      rows = before ++ row :: after → row.source.entity = e → row.criticality = some level →
      (∀ r ∈ before, r.source.entity = e → r.criticality = none) → Annotated root rootLevel default rows e level
  | default : (e = root → rootLevel = none) → (∀ r ∈ rows, r.source.entity = e → r.criticality = none) →
      Annotated root rootLevel default rows e default

theorem annotated_getD_annotation? (root : Entity) (rootLevel : Option Int) (default : Nat) (rows : List Dependent)
    (e : Entity) : Annotated root rootLevel default rows e ((annotation? root rootLevel rows e).getD default) := by
  rw [annotation?]
  rcases hroot : (if e = root then rootLevel else none) with _ | level
  · have hnone : e = root → rootLevel = none := fun he => by rwa [if_pos he] at hroot
    change Annotated _ _ _ _ _
      ((rows.findSome? fun row => if row.source.entity = e then row.criticality else none).getD _)
    cases hrows : rows.findSome? fun row => if row.source.entity = e then row.criticality else none with
    | none =>
      refine .default hnone fun r hr hsource => ?_
      have hr := List.findSome?_eq_none_iff.1 hrows r hr
      rwa [if_pos hsource] at hr
    | some level =>
      obtain ⟨before, row, after, rfl, hrow, hbefore⟩ := List.findSome?_eq_some_iff.1 hrows
      split at hrow
      · rename_i hsource
        refine .row hnone rfl hsource hrow fun r hr hrsource => ?_
        have hr := hbefore r hr
        rwa [if_pos hrsource] at hr
      · cases hrow
  · split at hroot
    · rename_i he
      exact .root he hroot
    · cases hroot

/-! ### The whole graph -/

/-- The graph holds what the rows say, and nothing else. -/
structure Represents (g : Graph) (root : Entity) (rootLevel : Option Int) (default : Nat) (rows : List Dependent) :
    Prop where
  isSome_index? : ∀ e, (g.index? e).isSome ↔ IsMentioned root rows e
  index?_inj : ∀ e e' i, g.index? e = some i → g.index? e' = some i → e = e'
  length_nodes : g.nodes.length = {e | IsMentioned root rows e}.ncard
  length_links : g.links.length = {t | ∃ row ∈ rows, triple row = t}.ncard
  sorted_affected : ∀ e, (g.affected e).Pairwise Hop.Before
  mem_affected : ∀ e s u, (g.index? s, u) ∈ (g.affected e).map (fun h => (g.index? h.entity, h.usage)) ↔
    ∃ row ∈ rows, row.target.entity = e ∧ row.source.entity = s ∧ row.usage = u
  node : ∀ e i, g.index? e = some i → ∃ n level, g.nodes[i]? = some n ∧ n.entity = e ∧
    Annotated root rootLevel default rows e level ∧ n.criticality = Criticality.clamp level

theorem represents_ofDependents (root : NamedEntity) (rootLevel : Option Int) (default : Nat)
    (rows : List Dependent) :
    (ofDependents root rootLevel default rows).Represents root.entity rootLevel default rows := by
  have hg := ofDependents_wellFormed root rootLevel default rows
  refine ⟨fun e => ?_, fun e e' i => index?_inj, length_nodes_ofDependents, length_links_ofDependents,
    fun e => ?_, fun e s u => ?_, fun e i hi => ?_⟩
  · exact Graph.isSome_index?.trans mem_entities_ofDependents
  · exact (hg.sorted_affected e).and (hg.nodup_affected e)
  · exact (mem_map_index?_affected hg).trans mem_affected_ofDependents
  · obtain ⟨n, hn, rfl⟩ := index?_eq_some hi
    exact ⟨n, _, hn, rfl, annotated_getD_annotation? root.entity rootLevel default rows n.entity,
      criticality_of_mem_nodes (List.mem_of_getElem? hn)⟩

end ChangeImpact.Graph
