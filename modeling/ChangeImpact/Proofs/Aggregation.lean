import ChangeImpact.Proofs.Exposure
import ChangeImpact.Proofs.Order
import ChangeImpact.Risk
import Mathlib.Algebra.Order.BigOperators.Group.List
import Mathlib.Data.List.Count
import Mathlib.Data.List.Induction

/-!
# Exposures told by the paths

`Exposure.Describes` says what an exposure has to tell of its object, in terms of the places at which the paths meet it:
the least of them, the usages that lead there, the first of the worst paths through it, the sum of their risks and
their identities in order.  `Aggregates` adds that there is one exposure for each affected object and that they are
strictly in order.

`aggregates_ofPaths`: the exposures of paths that can be told apart are such a list.  It rests on `map_path_filter`,
by which the visits of an object name each path through it once, and in order.  No other list aggregates the same paths
(`Aggregates.eq`), and the same list comes out if visits are recorded one after the other (`foldl_record`).
-/

namespace ChangeImpact

/-! ### Places on a path -/

namespace Path

variable {p : Path} {u : Usage} {e : Entity} {d : Nat}

/-- A usage leads the path to an entity, at a position behind its root. -/
def Enters (p : Path) (u : Usage) (e : Entity) (d : Nat) : Prop :=
  ∃ i n, d = i + 1 ∧ p.usages[i]? = some u ∧ p.nodes[i + 1]? = some n ∧ n.entity = e

/-- The entities behind the root. -/
def affected (p : Path) : List Entity :=
  p.nodes.tail.map Node.entity

/-- The paths that affect an entity, in their order. -/
def through (paths : List Path) (e : Entity) : List Path :=
  paths.filter fun p => e ∈ p.affected

theorem affected_eq (p : Path) : p.affected = p.steps.map Step.entity := by
  rw [affected, nodes, List.tail_cons, List.map_map]
  rfl

theorem nodup_affected (p : Path) : p.affected.Nodup := by
  rw [affected_eq]
  exact (List.nodup_cons.1 p.entities_nodup).2

theorem mem_through {paths : List Path} : p ∈ through paths e ↔ p ∈ paths ∧ e ∈ p.affected := by
  rw [through, List.mem_filter, decide_eq_true_iff]

theorem map_entity_visits (p : Path) : p.visits.map Visit.entity = p.affected := by
  rw [visits, List.map_map, affected_eq, ← List.zipIdx_map_fst 0 p.steps, List.map_map, List.zipIdx_map_fst]
  rfl

theorem node_mem_of_mem_visits {v : Visit} (hv : v ∈ p.visits) : v.step.node ∈ v.path.nodes.tail := by
  obtain ⟨rfl, before, after, hsteps, _⟩ := mem_visits.1 hv
  rw [nodes, List.tail_cons, hsteps]
  exact List.mem_map_of_mem (List.mem_append_right _ List.mem_cons_self)

/-- A path has a visit for each place at which it meets an entity. -/
theorem enters_iff : p.Enters u e d ↔ ∃ v ∈ p.visits, v.entity = e ∧ v.step.usage = u ∧ v.distance = d := by
  simp only [Enters, visits, usages, nodes, List.mem_map, Prod.exists, List.mem_zipIdx_iff_getElem?,
    List.getElem?_cons_succ, List.getElem?_map, Option.map_eq_some_iff]
  constructor
  · rintro ⟨i, n, rfl, ⟨s, hs, rfl⟩, ⟨s', hs', rfl⟩, rfl⟩
    obtain rfl := Option.some.inj (hs.symm.trans hs')
    exact ⟨_, ⟨s, i, hs, rfl⟩, rfl, rfl, rfl⟩
  · rintro ⟨_, ⟨s, i, hs, rfl⟩, rfl, rfl, rfl⟩
    exact ⟨i, s.node, rfl, ⟨s, hs, rfl⟩, ⟨s, hs, rfl⟩, rfl⟩

/-- An entity is affected if some usage leads to it. -/
theorem mem_affected_iff : e ∈ p.affected ↔ ∃ u d, p.Enters u e d := by
  rw [← map_entity_visits, List.mem_map]
  constructor
  · rintro ⟨v, hv, rfl⟩
    exact ⟨v.step.usage, v.distance, enters_iff.2 ⟨v, hv, rfl, rfl, rfl⟩⟩
  · rintro ⟨u, d, h⟩
    obtain ⟨v, hv, he, _, _⟩ := enters_iff.1 h
    exact ⟨v, hv, he⟩

/-- A path meets an entity once if it affects it, and otherwise not at all. -/
theorem map_path_filter_visits (p : Path) (e : Entity) :
    (p.visits.filter (·.entity = e)).map Visit.path = through [p] e := by
  have hlength : (p.visits.filter (·.entity = e)).length = p.affected.count e := by
    rw [← List.countP_eq_length_filter, ← map_entity_visits, List.count, List.countP_map]
    exact List.countP_congr fun v _ => by simp
  have hpath : ∀ q ∈ (p.visits.filter (·.entity = e)).map Visit.path, q = p := by
    intro q hq
    obtain ⟨v, hv, rfl⟩ := List.mem_map.1 hq
    exact (mem_visits.1 (List.mem_filter.1 hv).1).1
  rw [List.eq_replicate_iff.2 ⟨by rw [List.length_map, hlength], hpath⟩, p.nodup_affected.count]
  by_cases he : e ∈ p.affected <;> simp [through, he]

/-- The visits of an entity are made by the paths through it, one by each and in their order. -/
theorem map_path_filter (paths : List Path) (e : Entity) :
    ((paths.flatMap visits).filter (·.entity = e)).map Visit.path = through paths e := by
  induction paths with
  | nil => rfl
  | cons p ps ih =>
    rw [List.flatMap_cons, List.filter_append, List.map_append, map_path_filter_visits, ih, through, through, through,
      ← List.filter_append, List.singleton_append]

end Path

/-! ### What an exposure has to tell -/

namespace Exposure

variable {paths : List Path} {x y : Exposure}

/-- The exposure tells of its object what the paths tell together. -/
structure Describes (paths : List Path) (x : Exposure) : Prop where
  node : ∃ p ps, Path.through paths x.entity = p :: ps ∧ ⟨x.object, x.criticality⟩ ∈ p.nodes.tail
  distance : IsLeast {d | ∃ u, ∃ p ∈ paths, p.Enters u x.entity d} x.distance
  mem_usages : ∀ u, u ∈ x.usages ↔ ∃ d, ∃ p ∈ paths, p.Enters u x.entity d
  usages_sorted : x.usages.Pairwise (·.rank < ·.rank)
  dominant : ∃ p, IsFirstGreatest Path.risk (Path.through paths x.entity) p ∧
    x.worstRisk = p.risk ∧ x.worstSeverity = p.severity ∧ x.dominantPath = p.id
  cumulativeRisk : x.cumulativeRisk = ((Path.through paths x.entity).map Path.risk).sum
  paths : x.paths = (Path.through paths x.entity).map Path.id

/-- The worse risk comes first, then the nearer object, then the entity that is less. -/
def Precedes (x y : Exposure) : Prop :=
  y.worstRisk < x.worstRisk ∨ x.worstRisk = y.worstRisk ∧
    (x.distance < y.distance ∨ x.distance = y.distance ∧ x.entity.le y.entity ∧ x.entity ≠ y.entity)

/-- There is one exposure for each entity that the paths affect, and each comes before those after it. -/
structure Aggregates (paths : List Path) (xs : List Exposure) : Prop where
  mem_entities : ∀ e, e ∈ xs.map entity ↔ ∃ p ∈ paths, e ∈ p.affected
  nodup_entities : (xs.map entity).Nodup
  describes : ∀ x ∈ xs, x.Describes paths
  sorted : xs.Pairwise Precedes

/-! ### The order of exposures -/

theorem le_iff : x.le y ↔ y.worstRisk < x.worstRisk ∨ x.worstRisk = y.worstRisk ∧
    (x.distance < y.distance ∨ x.distance = y.distance ∧ x.entity.le y.entity) := by
  unfold le
  split_ifs with hrisk hdistance
  · simp [hrisk, hdistance]
  · have hlt : x.distance ≤ y.distance ↔ x.distance < y.distance := by omega
    simp [hrisk, hdistance, hlt]
  · have hlt : y.worstRisk ≤ x.worstRisk ↔ y.worstRisk < x.worstRisk := by omega
    simp [hrisk, hlt]

theorem le_total (x y : Exposure) : x.le y ∨ y.le x := by
  have hentity := Entity.le_total x.entity y.entity
  rw [le_iff, le_iff]
  grind

theorem le_trans (x y z : Exposure) (hxy : x.le y) (hyz : y.le z) : x.le z := by
  have hentity : x.entity.le y.entity → y.entity.le z.entity → x.entity.le z.entity := Entity.le_trans
  rw [le_iff] at *
  grind

/-- No two exposures are of one entity, so their order is strict. -/
theorem sorted_ofPaths (paths : List Path) : (ofPaths paths).Pairwise Precedes := by
  have hle : (ofPaths paths).Pairwise (le · ·) := pairwise_sortBy le_trans le_total _
  have hne : (ofPaths paths).Pairwise (fun x y => x.entity ≠ y.entity) :=
    List.pairwise_map.1 (nodup_entities_ofPaths paths)
  refine (hle.and hne).imp ?_
  rintro x y ⟨h, hxy⟩
  rcases le_iff.1 h with h | ⟨hrisk, h | ⟨hdistance, h⟩⟩
  · exact .inl h
  · exact .inr ⟨hrisk, .inl h⟩
  · exact .inr ⟨hrisk, .inr ⟨hdistance, h, hxy⟩⟩

/-! ### What the visits of an entity amount to -/

/-- A place at which one of the paths meets an entity is a visit of it. -/
theorem exists_enters_iff {u : Usage} {e : Entity} {d : Nat} :
    (∃ p ∈ paths, p.Enters u e d) ↔
      ∃ v ∈ paths.flatMap Path.visits, v.entity = e ∧ v.step.usage = u ∧ v.distance = d := by
  simp only [Path.enters_iff, List.mem_flatMap]
  constructor
  · rintro ⟨p, hp, v, hv, h⟩
    exact ⟨v, ⟨p, hp, hv⟩, h⟩
  · rintro ⟨v, ⟨p, hp, hv⟩, h⟩
    exact ⟨p, hp, v, hv, h⟩

theorem mem_entities_iff {e : Entity} : e ∈ (ofPaths paths).map entity ↔ ∃ p ∈ paths, e ∈ p.affected := by
  rw [mem_entities_ofPaths]
  constructor
  · rintro ⟨v, hv, he⟩
    obtain ⟨p, hp, h⟩ := exists_enters_iff.2 ⟨v, hv, he, rfl, rfl⟩
    exact ⟨p, hp, Path.mem_affected_iff.2 ⟨_, _, h⟩⟩
  · rintro ⟨p, hp, he⟩
    obtain ⟨u, d, h⟩ := Path.mem_affected_iff.1 he
    obtain ⟨v, hv, he, _⟩ := exists_enters_iff.1 ⟨p, hp, h⟩
    exact ⟨v, hv, he⟩

/-- An exposure is at the least of the places of its object. -/
theorem isLeast_place (hx : x ∈ ofPaths paths) :
    IsLeast {d | ∃ u, ∃ p ∈ paths, p.Enters u x.entity d} x.distance := by
  have hset : {d | ∃ u, ∃ p ∈ paths, p.Enters u x.entity d} =
      {d | ∃ v ∈ paths.flatMap Path.visits, v.entity = x.entity ∧ v.distance = d} := by
    ext d
    constructor
    · rintro ⟨_, h⟩
      obtain ⟨v, hv, he, _, hd⟩ := exists_enters_iff.1 h
      exact ⟨v, hv, he, hd⟩
    · rintro ⟨v, hv, he, hd⟩
      exact ⟨v.step.usage, exists_enters_iff.2 ⟨v, hv, he, rfl, hd⟩⟩
  exact hset ▸ isLeast_distance hx

theorem mem_usages_iff_enters (hx : x ∈ ofPaths paths) {u : Usage} :
    u ∈ x.usages ↔ ∃ d, ∃ p ∈ paths, p.Enters u x.entity d := by
  rw [mem_usages hx]
  constructor
  · rintro ⟨v, hv, he, hu⟩
    exact ⟨v.distance, exists_enters_iff.2 ⟨v, hv, he, hu, rfl⟩⟩
  · rintro ⟨_, h⟩
    obtain ⟨v, hv, he, hu, _⟩ := exists_enters_iff.1 h
    exact ⟨v, hv, he, hu⟩

theorem foldr_risk_eq_sum (vs : List Visit) :
    vs.foldr (fun v total => v.path.risk + total) 0 = (vs.map fun v => v.path.risk).sum := by
  rw [List.sum_eq_foldr, List.foldr_map]

/-- The exposure of an entity's visits is told by the paths through it. -/
theorem describes_ofVisits {first : Visit} {others : List Visit} {e : Entity} (hids : (paths.map Path.id).Nodup)
    (hv : (paths.flatMap Path.visits).filter (·.entity = e) = first :: others)
    (hx : ofVisits first others ∈ ofPaths paths) : (ofVisits first others).Describes paths := by
  obtain ⟨hmem, he⟩ := List.mem_filter.1 (hv ▸ List.mem_cons_self : first ∈ List.filter _ _)
  have he : (ofVisits first others).entity = e := of_decide_eq_true he
  have hthrough : Path.through paths (ofVisits first others).entity = (first :: others).map Visit.path := by
    rw [he, ← Path.map_path_filter, hv]
  refine ⟨?node, isLeast_place hx, fun u => mem_usages_iff_enters hx, ?sorted, ?dominant, ?cumulativeRisk, ?identities⟩
  case node =>
    obtain ⟨p, _, hfirst⟩ := List.mem_flatMap.1 hmem
    exact ⟨first.path, others.map Visit.path, hthrough, Path.node_mem_of_mem_visits hfirst⟩
  case sorted =>
    have hall : Usage.all.Pairwise (·.rank < ·.rank) := by decide
    exact hall.sublist List.filter_sublist
  case dominant =>
    refine ⟨first.path.worst (others.map Visit.path), ?_, rfl, rfl, rfl⟩
    exact hthrough ▸ first.path.isFirstGreatest_worst _
  case cumulativeRisk =>
    rw [hthrough, List.map_map]
    exact foldr_risk_eq_sum (first :: others)
  case identities =>
    have hnodup : (((first :: others).map fun v => v.path.id).map id).Nodup := by
      have hsub : ((Path.through paths e).map Path.id).Sublist (paths.map Path.id) := List.filter_sublist.map _
      rw [List.map_id, ← Function.comp_def, ← List.map_map, ← hthrough, he]
      exact hsub.nodup hids
    rw [hthrough, List.map_map]
    exact distinctBy_of_nodup hnodup (by simp)

theorem describes_ofPaths (hids : (paths.map Path.id).Nodup) (hx : x ∈ ofPaths paths) : x.Describes paths := by
  obtain ⟨first, others, hv, rfl⟩ := mem_ofPaths.1 hx
  exact describes_ofVisits hids hv hx

/-- A sum of less than `2 ^ 32` risks, each of which is a number of 32 bits, is a number of 64 bits. -/
theorem cumulativeRisk_lt (hids : (paths.map Path.id).Nodup) (hlength : paths.length < 2 ^ 32)
    (hrisk : ∀ p ∈ paths, p.risk < 2 ^ 32) (hx : x ∈ ofPaths paths) : x.cumulativeRisk < 2 ^ 64 := by
  have hle : ∀ r ∈ (Path.through paths x.entity).map Path.risk, r ≤ 2 ^ 32 := by
    intro r hr
    obtain ⟨p, hp, rfl⟩ := List.mem_map.1 hr
    exact Nat.le_of_lt (hrisk p (Path.mem_through.1 hp).1)
  have hsum := List.sum_le_card_nsmul _ _ hle
  have hthrough : (Path.through paths x.entity).length ≤ paths.length := List.length_filter_le _ _
  rw [(describes_ofPaths hids hx).cumulativeRisk]
  rw [List.length_map, Nat.nsmul_eq_mul] at hsum
  omega

/-! ### Visit by visit -/

section Visits

variable {vs : List Visit} {v first : Visit} {others : List Visit} {e : Entity}

/-- The exposure of an object that is visited once more. -/
def visitAgain (x : Exposure) (v : Visit) : Exposure where
  object := x.object
  criticality := x.criticality
  distance := min x.distance v.distance
  usages := Usage.all.filter fun usage => x.usages.contains usage || v.step.usage == usage
  worstSeverity := if v.path.risk > x.worstRisk then v.path.severity else x.worstSeverity
  worstRisk := if v.path.risk > x.worstRisk then v.path.risk else x.worstRisk
  cumulativeRisk := x.cumulativeRisk + v.path.risk
  dominantPath := if v.path.risk > x.worstRisk then v.path.id else x.dominantPath
  paths := if x.paths.contains v.path.id then x.paths else x.paths ++ [v.path.id]

/-- Visits one object more: it is visited again if it is in the table, and otherwise comes to be its last. -/
def record (xs : List Exposure) (v : Visit) : List Exposure :=
  if xs.any (·.entity = v.entity) then xs.map fun x => if x.entity = v.entity then x.visitAgain v else x
  else xs ++ [ofVisits v []]

/-- One visit more does to the exposure of an object what it does to the visits. -/
theorem ofVisits_append_singleton : ofVisits first (others ++ [v]) = (ofVisits first others).visitAgain v := by
  have hworst : first.path.worst ((others ++ [v]).map Visit.path) =
      if v.path.risk > (first.path.worst (others.map Visit.path)).risk then v.path
      else first.path.worst (others.map Visit.path) := by
    rw [List.map_append, Path.worst, List.foldl_append]
    rfl
  have husages : (fun usage => (first :: (others ++ [v])).any fun w => w.step.usage == usage) =
      fun usage => (ofVisits first others).usages.contains usage || v.step.usage == usage := by
    funext usage
    have hknown : (ofVisits first others).usages.contains usage =
        (first :: others).any fun w => w.step.usage == usage := by
      rw [Bool.eq_iff_iff, List.contains_iff_mem]
      exact List.mem_filter.trans (and_iff_right usage.mem_all)
    rw [hknown, ← List.cons_append, List.any_append]
    simp only [List.any_cons, List.any_nil, Bool.or_false]
  have hsum : (ofVisits first (others ++ [v])).cumulativeRisk =
      (ofVisits first others).cumulativeRisk + v.path.risk := by
    rw [ofVisits, ofVisits]
    simp only [foldr_risk_eq_sum, ← List.cons_append, List.map_append, List.sum_append, List.map_cons, List.map_nil,
      List.sum_singleton]
  have hpaths : (ofVisits first (others ++ [v])).paths =
      if (ofVisits first others).paths.contains v.path.id then (ofVisits first others).paths
      else (ofVisits first others).paths ++ [v.path.id] := by
    rw [ofVisits, ofVisits]
    simp only [← List.cons_append, List.map_append, List.map_cons, List.map_nil, distinctBy_append_singleton]
  rw [visitAgain, mk.injEq]
  refine ⟨rfl, rfl, ?nearest, congrArg (Usage.all.filter ·) husages, ?severity, ?risk, hsum, ?dominant, hpaths⟩
  case nearest =>
    rw [ofVisits, List.foldl_append]
    rfl
  case severity => exact (congrArg Path.severity hworst).trans (apply_ite Path.severity _ _ _)
  case risk => exact (congrArg Path.risk hworst).trans (apply_ite Path.risk _ _ _)
  case dominant => exact (congrArg Path.id hworst).trans (apply_ite Path.id _ _ _)

/-- An object other than the visited one keeps its exposure. -/
theorem ofEntity?_append_singleton_of_ne (hne : v.entity ≠ e) : ofEntity? (vs ++ [v]) e = ofEntity? vs e := by
  have hvisits : (vs ++ [v]).filter (·.entity = e) = vs.filter (·.entity = e) := by
    rw [List.filter_append, List.filter_cons_of_neg (by simpa using hne), List.filter_nil, List.append_nil]
  rw [ofEntity?, ofEntity?, hvisits]

theorem ofEntity?_append_singleton_self :
    ofEntity? (vs ++ [v]) v.entity = some (((ofEntity? vs v.entity).map (visitAgain · v)).getD (ofVisits v [])) := by
  have hvisits : (vs ++ [v]).filter (·.entity = v.entity) = vs.filter (·.entity = v.entity) ++ [v] := by
    rw [List.filter_append, List.filter_cons_of_pos (by simp), List.filter_nil]
  rw [ofEntity?, ofEntity?, hvisits]
  cases hbefore : vs.filter (·.entity = v.entity) with
  | nil => rfl
  | cons first others => exact congrArg some ofVisits_append_singleton

/-- One visit more does to the table what it does to the visits. -/
theorem table_append_singleton (vs : List Visit) (v : Visit) : table (vs ++ [v]) = record (table vs) v := by
  have hany : (table vs).any (·.entity = v.entity) = (distinctBy id [] (vs.map Visit.entity)).contains v.entity := by
    rw [Bool.eq_iff_iff, List.contains_iff_mem, mem_distinctBy_id, ← mem_entities_table]
    simp
  rw [record, hany, table, List.map_append, List.map_singleton, distinctBy_append_singleton]
  by_cases hknown : (distinctBy id [] (vs.map Visit.entity)).contains v.entity
  · rw [if_pos hknown, if_pos hknown, table, List.map_filterMap]
    refine List.filterMap_congr fun e he => ?_
    by_cases heq : v.entity = e
    · subst heq
      obtain ⟨x, hx⟩ := exists_ofEntity?_eq_some (mem_distinctBy_id.1 he)
      rw [ofEntity?_append_singleton_self, hx, Option.map_some, Option.map_some, if_pos (entity_of_ofEntity? hx),
        Option.getD_some]
    · rw [ofEntity?_append_singleton_of_ne heq]
      cases hx : ofEntity? vs e with
      | none => rfl
      | some x => rw [Option.map_some, if_neg (entity_of_ofEntity? hx ▸ Ne.symm heq)]
  · have hnew : v.entity ∉ vs.map Visit.entity := fun hmem => hknown (by simpa using mem_distinctBy_id.2 hmem)
    have hothers : (distinctBy id [] (vs.map Visit.entity)).filterMap (ofEntity? (vs ++ [v])) = table vs := by
      refine List.filterMap_congr fun e he => ofEntity?_append_singleton_of_ne fun heq => ?_
      exact hnew (heq ▸ mem_distinctBy_id.1 he)
    have hlast : ofEntity? (vs ++ [v]) v.entity = some (ofVisits v []) := by
      rw [ofEntity?_append_singleton_self, ofEntity?_eq_none.2 hnew]
      rfl
    rw [if_neg hknown, if_neg hknown, List.filterMap_append, hothers, List.filterMap_cons, hlast, List.filterMap_nil]

/-- The table of all visits is made by one visit after the other. -/
theorem foldl_record (vs : List Visit) : vs.foldl record [] = table vs := by
  induction vs using List.reverseRecOn with
  | nil => rfl
  | append_singleton vs v ih =>
    rw [List.foldl_append, ih, table_append_singleton]
    rfl

end Visits

/-! ### The exposures that the paths determine -/

theorem Describes.eq (hx : x.Describes paths) (hy : y.Describes paths) (he : x.entity = y.entity) : x = y := by
  have hnode : (⟨x.object, x.criticality⟩ : Node) = ⟨y.object, y.criticality⟩ := by
    obtain ⟨p, _, hp, hmem⟩ := hx.node
    obtain ⟨q, _, hq, hmem'⟩ := hy.node
    obtain ⟨rfl, _⟩ := List.cons.inj (hp.symm.trans (he ▸ hq))
    exact List.inj_on_of_nodup_map p.nodup_affected hmem hmem' he
  have hdistance : x.distance = y.distance := hx.distance.unique (he ▸ hy.distance)
  have husages : x.usages = y.usages := by
    have hnodup {us : List Usage} (h : us.Pairwise (·.rank < ·.rank)) : us.Nodup :=
      h.imp fun hlt heq => Nat.ne_of_lt hlt (congrArg Usage.rank heq)
    have hperm : x.usages.Perm y.usages :=
      (List.perm_ext_iff_of_nodup (hnodup hx.usages_sorted) (hnodup hy.usages_sorted)).2
        fun u => (hx.mem_usages u).trans (he ▸ (hy.mem_usages u).symm)
    exact hperm.eq_of_pairwise (fun _ _ _ _ h h' => absurd h (Nat.lt_asymm h')) hx.usages_sorted hy.usages_sorted
  obtain ⟨p, hp, hrisk, hseverity, hid⟩ := hx.dominant
  obtain ⟨q, hq, hrisk', hseverity', hid'⟩ := hy.dominant
  obtain rfl := hp.eq (he ▸ hq)
  have hsum : x.cumulativeRisk = y.cumulativeRisk := by rw [hx.cumulativeRisk, hy.cumulativeRisk, he]
  have hpaths : x.paths = y.paths := by rw [hx.paths, hy.paths, he]
  cases x
  cases y
  simp only [mk.injEq]
  exact ⟨congrArg Node.object hnode, congrArg Node.criticality hnode, hdistance, husages,
    hseverity.trans hseverity'.symm, hrisk.trans hrisk'.symm, hsum, hid.trans hid'.symm, hpaths⟩

theorem Precedes.not_precedes (h : x.Precedes y) : ¬y.Precedes x := by
  intro h'
  have hne : x.entity.le y.entity → y.entity.le x.entity → x.entity = y.entity := Entity.le_antisymm
  unfold Precedes at h h'
  grind

/-- Paths leave no choice in what aggregates them. -/
theorem Aggregates.eq {xs ys : List Exposure} (hx : Aggregates paths xs) (hy : Aggregates paths ys) : xs = ys := by
  have hsub {xs ys : List Exposure} (hx : Aggregates paths xs) (hy : Aggregates paths ys) : ∀ x ∈ xs, x ∈ ys := by
    intro x hmem
    have he : x.entity ∈ ys.map entity := (hy.mem_entities _).2 ((hx.mem_entities _).1 (List.mem_map_of_mem hmem))
    obtain ⟨y, hmem', he⟩ := List.mem_map.1 he
    rwa [(hx.describes x hmem).eq (hy.describes y hmem') he.symm]
  have hperm : xs.Perm ys :=
    (List.perm_ext_iff_of_nodup hx.nodup_entities.of_map hy.nodup_entities.of_map).2
      fun x => ⟨hsub hx hy x, hsub hy hx x⟩
  exact hperm.eq_of_pairwise (fun _ _ _ _ h h' => absurd h' h.not_precedes) hx.sorted hy.sorted

/-- The exposures of paths with different identities tell of each affected entity what the paths tell together. -/
theorem aggregates_ofPaths (hids : (paths.map Path.id).Nodup) :
    Aggregates paths (ofPaths paths) ∧
      sortBy le ((paths.flatMap Path.visits).foldl record []) = ofPaths paths ∧
      (paths.length < 2 ^ 32 → (∀ p ∈ paths, p.risk < 2 ^ 32) →
        ∀ x ∈ ofPaths paths, x.cumulativeRisk < 2 ^ 64) := by
  have haggregates : Aggregates paths (ofPaths paths) := {
    mem_entities := fun _ => mem_entities_iff
    nodup_entities := nodup_entities_ofPaths paths
    describes := fun _ => describes_ofPaths hids
    sorted := sorted_ofPaths paths }
  have hvisits : sortBy le ((paths.flatMap Path.visits).foldl record []) = ofPaths paths := by
    rw [foldl_record, ofPaths_eq]
  exact ⟨haggregates, hvisits, fun hlength hrisk _ => cumulativeRisk_lt hids hlength hrisk⟩

/-- Two ways from a procedure to another one, by reads and over a deletion. -/
def readsAndDeletion : List Path :=
  let node (id : Int) : Node := ⟨⟨⟨.procedure, id⟩, none⟩, 3⟩
  [⟨"reads", node 1, [⟨.select, node 2⟩, ⟨.select, node 4⟩], none, by decide, by decide⟩,
    ⟨"deletion", node 1, [⟨.delete, node 3⟩, ⟨.exec, node 4⟩], none, by decide, by decide⟩].map (Risk.evaluate .modify)

theorem aggregates_ofPaths_readsAndDeletion :
    ((readsAndDeletion.map Path.id).Nodup ∧ readsAndDeletion.length < 2 ^ 32 ∧
        ∀ p ∈ readsAndDeletion, p.risk < 2 ^ 32) ∧
      Aggregates readsAndDeletion (ofPaths readsAndDeletion) ∧
        sortBy le ((readsAndDeletion.flatMap Path.visits).foldl record []) = ofPaths readsAndDeletion ∧
        ∀ x ∈ ofPaths readsAndDeletion, x.cumulativeRisk < 2 ^ 64 := by
  have hids : (readsAndDeletion.map Path.id).Nodup := by decide
  have hlength : readsAndDeletion.length < 2 ^ 32 := by decide
  have hrisk : ∀ p ∈ readsAndDeletion, p.risk < 2 ^ 32 := by decide +kernel
  obtain ⟨haggregates, hvisits, hlt⟩ := aggregates_ofPaths hids
  exact ⟨⟨hids, hlength, hrisk⟩, haggregates, hvisits, hlt hlength hrisk⟩

-- the shared procedure has the risk of the deletion and the sum of both
example : (ofPaths readsAndDeletion).map (fun x => (x.entity.id, x.distance, x.worstRisk, x.cumulativeRisk, x.paths)) =
    [(3, 1, 108, 108, ["deletion"]), (4, 2, 108, 135, ["reads", "deletion"]), (2, 1, 27, 27, ["reads"])] := by
  decide +kernel

end Exposure

end ChangeImpact
