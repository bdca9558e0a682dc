import ChangeImpact.Proofs.Walk
import Mathlib.Data.Set.Card

/-!
# The paths that an enumeration finds

`Exhausts` says that an enumeration gives every maximal trail as one path, and that it records the cap on the depth
exactly if that cap cuts a maximal trail off.

* (no limit) an enumeration that records no limit on paths is exhaustive: `exhausts_of_no_limit`;
* (enough room) so is one that may keep as many paths as there are maximal trails: `exhausts_of_encard_le`.
-/

namespace ChangeImpact

/-- The trail of a path. -/
def Path.trail (p : Path) : Trail :=
  ⟨p.root.entity, p.steps.map Step.hop⟩

@[simp] theorem Path.length_hops_trail (p : Path) : p.trail.hops.length = p.depth := by
  simp [trail, depth]

/-! ### The path of a trail -/

namespace Path

private theorem map_hop_zipWith {hops : List Hop} {others : List Node}
    (h : others.map Node.entity = hops.map Hop.entity) :
    (List.zipWith Step.mk (hops.map Hop.usage) others).map Step.hop = hops := by
  induction hops generalizing others with
  | nil => rfl
  | cons hop hops ih =>
    cases others with
    | nil => exact absurd h (by simp)
    | cons n others =>
      simp only [List.map_cons, List.cons.injEq] at h
      simp only [List.map_cons, List.zipWith_cons_cons, ih h.2, Step.hop, Step.entity, h.1]

theorem map_node_zipWith {usages : List Usage} {others : List Node} (h : others.length = usages.length) :
    (List.zipWith Step.mk usages others).map Step.node = others := by
  induction usages generalizing others with
  | nil => exact (List.eq_nil_of_length_eq_zero h).symm
  | cons u usages ih =>
    cases others with
    | nil => exact absurd h (by simp)
    | cons n others => simpa using ih (by simpa using h)

/-- Nodes of the objects of a trail make its path, if it has a hop and meets no object twice. -/
theorem exists_ofNodes?_eq_some {t : Trail} {nodes : List Node} (hn : nodes.map Node.entity = t.entities)
    (hne : t.hops ≠ []) (hd : t.entities.Nodup) :
    ∃ p, ofNodes? nodes (t.hops.map Hop.usage) = some p ∧ p.trail = t ∧ p.nodes = nodes ∧ p.score = none ∧
      p.id = idOf t.root t.hops := by
  obtain ⟨r, hops⟩ := t
  cases nodes with
  | nil => exact absurd hn (by simp [Trail.entities])
  | cons root others =>
    simp only [Trail.entities, List.map_cons, List.cons.injEq] at hn
    obtain ⟨rfl, hn⟩ := hn
    have hl : others.length = (hops.map Hop.usage).length := by
      simpa using congrArg List.length hn
    have hs := map_hop_zipWith hn
    have he : (List.zipWith Step.mk (hops.map Hop.usage) others).map Step.entity = hops.map Hop.entity := by
      conv => rhs; rw [← hs]
      rw [List.map_map]
      rfl
    have hv : List.zipWith Step.mk (hops.map Hop.usage) others ≠ [] ∧
        (root.entity :: (List.zipWith Step.mk (hops.map Hop.usage) others).map Step.entity).Nodup := by
      rw [he]
      refine ⟨fun h => hne ?_, hd⟩
      rw [← hs, h]
      rfl
    rw [ofNodes?]
    simp only [if_pos hl, dif_pos hv]
    refine ⟨_, rfl, ?_, ?_, rfl, ?_⟩
    · simp only [trail, hs]
    · simp only [Path.nodes, map_node_zipWith hl]
    · simp only [hs]

end Path

namespace Graph

variable {g : Graph} {t : Trail} {depth : Nat}

private theorem exists_mapM_node? {es : List Entity} (h : es ⊆ g.entities) :
    ∃ nodes, es.mapM g.node? = some nodes ∧ nodes.map Node.entity = es ∧ nodes ⊆ g.nodes := by
  induction es with
  | nil => exact ⟨[], rfl, rfl, List.nil_subset _⟩
  | cons e es ih =>
    obtain ⟨he, hes⟩ := List.cons_subset.1 h
    obtain ⟨n, hn, hm, rfl⟩ := exists_node?_eq_some he
    obtain ⟨ns, hns, rfl, hsub⟩ := ih hes
    exact ⟨n :: ns, by simp [hn, hns], rfl, List.cons_subset.2 ⟨hm, hsub⟩⟩

/-- A simple trail of at least one hop has a path over nodes of the graph. -/
theorem IsSimple.exists_path? (hg : g.WellFormed) (ht : g.IsSimple t) (hne : t.hops ≠ []) :
    ∃ p, g.path? t = some p ∧ p.trail = t ∧ p.nodes ⊆ g.nodes ∧ p.score = none ∧ p.id = Path.idOf t.root t.hops := by
  obtain ⟨nodes, hm, hn, hsub⟩ := exists_mapM_node? (ht.entities_subset hg)
  obtain ⟨p, hp, hpt, rfl, hrest⟩ := Path.exists_ofNodes?_eq_some hn hne ht.nodup
  exact ⟨p, by simp [path?, hm, hp], hpt, hsub, hrest⟩

/-- A trail without hops is no path. -/
theorem path?_eq_none (h : t.hops = []) : g.path? t = none := by
  have ho (nodes : List Node) : Path.ofNodes? nodes [] = none := by
    cases nodes with
    | nil => rfl
    | cons n ns => simp [Path.ofNodes?]
  simp only [path?, h, List.map_nil, ho]
  cases t.entities.mapM g.node? <;> rfl

theorem map_trail_filterMap_path? (hg : g.WellFormed) {ts : List Trail} (h : ∀ t ∈ ts, g.IsSimple t) :
    (ts.filterMap g.path?).map Path.trail = ts.filter fun t => !t.hops.isEmpty := by
  induction ts with
  | nil => rfl
  | cons t ts ih =>
    have ih := ih fun t ht => h t (List.mem_cons_of_mem _ ht)
    by_cases hne : t.hops = []
    · rw [List.filterMap_cons_none (path?_eq_none hne), ih, List.filter_cons_of_neg (by simp [hne])]
    · obtain ⟨p, hp, hpt, _⟩ := (h t List.mem_cons_self).exists_path? hg hne
      rw [List.filterMap_cons_some hp, List.map_cons, ih, hpt, List.filter_cons_of_pos (by simp [hne])]

end Graph

/-! ### Exhaustive enumerations -/

namespace Enumeration

variable {g : Graph} {caps : Caps} {e : Enumeration} {depth : Nat}

/-- The enumeration gives each maximal trail once, as a path over nodes of the graph, and records a limit if and only
if the cap on the depth cuts one of them off. -/
structure Exhausts (e : Enumeration) (g : Graph) (depth : Nat) : Prop where
  nodup_trails : (e.paths.map Path.trail).Nodup
  mem_trails : ∀ t, t ∈ e.paths.map Path.trail ↔ g.IsMaximal depth t
  nodes_subset : ∀ p ∈ e.paths, p.nodes ⊆ g.nodes
  id_eq : ∀ p ∈ e.paths, p.id = Path.idOf p.trail.root p.trail.hops
  not_scored : ∀ p ∈ e.paths, p.score = none
  mem_limits : ∀ l, l ∈ e.limits ↔ l = .depth depth ∧
    ∃ t, g.IsMaximal depth t ∧ t.hops.length = depth ∧ ∃ h ∈ g.affected t.tail, h.entity ∉ t.entities

/-- The longest path counts; without a path the depth is zero. -/
theorem isGreatest_depthReached (e : Enumeration) :
    IsGreatest {n | n ∈ 0 :: e.paths.map Path.depth} e.depthReached := by
  have h : (0 :: e.paths.map Path.depth).max? = some e.depthReached := by
    rw [List.max?_cons', List.foldl_map]
    rfl
  exact List.max?_eq_some_iff.1 h

theorem Exhausts.isGreatest_depthReached (he : e.Exhausts g depth) :
    IsGreatest (insert 0 ((fun t => t.hops.length) '' {t | g.IsMaximal depth t})) e.depthReached := by
  convert e.isGreatest_depthReached using 1
  ext n
  simp only [Set.mem_insert_iff, Set.mem_image, Set.mem_ofPred_eq, List.mem_cons, List.mem_map]
  refine or_congr_right ⟨?_, ?_⟩
  · rintro ⟨t, ht, rfl⟩
    obtain ⟨p, hp, rfl⟩ := List.mem_map.1 ((he.mem_trails t).2 ht)
    exact ⟨p, hp, p.length_hops_trail.symm⟩
  · rintro ⟨p, hp, rfl⟩
    exact ⟨p.trail, (he.mem_trails _).1 (List.mem_map_of_mem hp), p.length_hops_trail⟩

/-- If the cap on the depth is not recorded, no simple trail is longer than it allows. -/
theorem Exhausts.length_le (he : e.Exhausts g depth) (h : Limit.depth depth ∉ e.limits) (hd : 1 ≤ depth) {t : Trail}
    (ht : g.IsSimple t) : t.hops.length ≤ depth := by
  by_contra hlt
  obtain ⟨r, hops⟩ := t
  rw [not_le] at hlt
  -- the part of the trail up to the cap can be taken further by the next hop
  have hl : (hops.take depth).length = depth := List.length_take_of_le hlt.le
  rw [← List.take_append_drop depth hops, List.drop_eq_getElem_cons hlt] at ht
  obtain ⟨ht, hc⟩ := ht.of_append
  have hne : hops.take depth ≠ [] := List.ne_nil_of_length_pos (by omega)
  refine h ((he.mem_limits _).2 ⟨rfl, _, ⟨ht, hne, hl.le, .inl hl⟩, hl, ?_⟩)
  exact ⟨_, Graph.mem_continuations.1 hc⟩

/-- The paths of a walk that the cap on paths leaves alone. -/
theorem exhausts_of_walk_eq (hg : g.WellFormed) {caps : Caps}
    (hw : g.walk caps.atLeastOne g.nodes.length 0 [⟨g.root.entity, []⟩] = g.fullWalk caps.atLeastOne.depth) :
    (ofGraph g caps).Exhausts g caps.atLeastOne.depth := by
  generalize hd : caps.atLeastOne.depth = depth at hw
  have hpos : 0 < depth := hd ▸ Nat.le_max_left 1 caps.depth
  have hpaths : (ofGraph g caps).paths = (g.fullWalk depth).kept.filterMap g.path? := by
    rw [← hw]
    rfl
  have hlimits : (ofGraph g caps).limits = distinctBy id [] (g.fullWalk depth).limits := by
    rw [← hw]
    rfl
  have hsimple : ∀ t ∈ (g.fullWalk depth).kept, g.IsSimple t := fun t ht => ((Graph.mem_kept_fullWalk hg).1 ht).1
  have htrails := Graph.map_trail_filterMap_path? hg hsimple
  have hpath : ∀ p ∈ (ofGraph g caps).paths, p.nodes ⊆ g.nodes ∧ p.score = none ∧
      p.id = Path.idOf p.trail.root p.trail.hops := by
    intro p hp
    rw [hpaths] at hp
    obtain ⟨t, ht, hpt⟩ := List.mem_filterMap.1 hp
    have hne : t.hops ≠ [] := fun hne => by simp [Graph.path?_eq_none hne] at hpt
    obtain ⟨q, hq, rfl, hrest⟩ := (hsimple t ht).exists_path? hg hne
    obtain rfl : q = p := Option.some.inj (hq.symm.trans hpt)
    exact hrest
  refine ⟨?_, fun t => ?_, fun p hp => (hpath p hp).1, fun p hp => (hpath p hp).2.2, fun p hp => (hpath p hp).2.1,
    fun l => ?_⟩
  · rw [hpaths, htrails]
    exact (Graph.nodup_kept_fullWalk hg).filter _
  · rw [hpaths, htrails, Graph.isMaximal_iff_mem_kept hg, List.mem_filter]
    simp
  · rw [hlimits, ← Graph.mem_limits_fullWalk hg hpos, mem_distinctBy_id]

theorem exhausts_of_no_limit (hg : g.WellFormed) {caps : Caps}
    (h : ∀ cap, Limit.paths cap ∉ (ofGraph g caps).limits) : (ofGraph g caps).Exhausts g caps.atLeastOne.depth :=
  exhausts_of_walk_eq hg (Graph.walk_of_no_limit fun hm => h _ (mem_distinctBy_id.2 hm))

theorem exhausts_of_encard_le (hg : g.WellFormed) {caps : Caps}
    (h : {t | g.IsMaximal caps.atLeastOne.depth t}.encard ≤ caps.atLeastOne.paths) :
    (ofGraph g caps).Exhausts g caps.atLeastOne.depth :=
  exhausts_of_walk_eq hg
    (Graph.walk_eq_fullWalk_of_encard_le hg (Nat.le_max_left 1 caps.depth) (Nat.le_max_left 1 caps.paths) h)

/-- If there are no more maximal trails than paths are allowed, then exactly these are found, the cap on paths is
not recorded, the cap on the depth is recorded if it cuts one of them off, and the depth reached is that of the
longest. -/
theorem enumeration_of_encard_isMaximal_le (root : NamedEntity) (rootLevel : Option Int) (default : Nat)
    (rows : List Dependent) {depth paths : Nat} (hd : 1 ≤ depth) (hp : 1 ≤ paths)
    (h : {t | (Graph.ofDependents root rootLevel default rows).IsMaximal depth t}.encard ≤ paths) :
    let g := Graph.ofDependents root rootLevel default rows
    let e := ofGraph g ⟨depth, paths⟩
    e.Exhausts g depth ∧
      IsGreatest (insert 0 ((fun t => t.hops.length) '' {t | g.IsMaximal depth t})) e.depthReached := by
  have hg := Graph.ofDependents_wellFormed root rootLevel default rows
  have hc : (⟨depth, paths⟩ : Caps).atLeastOne = ⟨depth, paths⟩ := by
    simp only [Caps.atLeastOne, Caps.mk.injEq]
    omega
  have he : (ofGraph _ ⟨depth, paths⟩).Exhausts _ _ := exhausts_of_encard_le hg (by rwa [hc])
  rw [hc] at he
  exact ⟨he, he.isGreatest_depthReached⟩

/-- Two procedures that call each other; one of them reads and changes the table. -/
def mutualCallers : List Dependent :=
  let table : NamedEntity := ⟨⟨.table, 1⟩, none⟩
  let reader : NamedEntity := ⟨⟨.procedure, 2⟩, none⟩
  let caller : NamedEntity := ⟨⟨.procedure, 3⟩, none⟩
  [⟨reader, table, .select, 1, none⟩, ⟨caller, reader, .exec, 2, none⟩, ⟨reader, caller, .exec, 3, none⟩,
    ⟨reader, table, .update, 1, none⟩]

theorem enumeration_mutualCallers :
    let g := Graph.ofDependents ⟨⟨.table, 1⟩, none⟩ none 3 mutualCallers
    {t | g.IsMaximal 2 t}.encard ≤ 2 ∧ (ofGraph g ⟨2, 2⟩).Exhausts g 2 ∧
      IsGreatest (insert 0 ((fun t => t.hops.length) '' {t | g.IsMaximal 2 t})) (ofGraph g ⟨2, 2⟩).depthReached := by
  intro g
  have h : {t | g.IsMaximal 2 t}.encard ≤ 2 :=
    (Graph.encard_isMaximal_le (Graph.ofDependents_wellFormed _ _ _ _)).trans (by decide +kernel)
  exact ⟨h, enumeration_of_encard_isMaximal_le _ _ _ _ (by decide) (by decide) h⟩

end Enumeration

end ChangeImpact
