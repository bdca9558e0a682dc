import ChangeImpact.Analysis
import ChangeImpact.Proofs.Exposure
import Mathlib.Order.Lattice.Nat

/-!
# Distances

The distance of an object from the root is the least number of rows that lead to it (`Reaches`), in any way.
Paths meet no object twice, and most of them are not even kept; still they show the distance, since a chain of
rows can be cut down to a simple trail (`Reaches.exists_isSimple`), and every simple trail is the beginning of a
kept one.

* `Analysis.exposures_of_no_limit_paths`: the affected objects are those within the depth, each at its distance.
-/

namespace ChangeImpact

/-! ### Chains of rows -/

/-- So many rows lead from the root to an object, each with the source of the one before it as its target. -/
inductive Reaches (rows : List Dependent) (root : Entity) : Nat → Entity → Prop
  | here : Reaches rows root 0 root
  | next {n : Nat} {row : Dependent} (h : Reaches rows root n row.target.entity) (hrow : row ∈ rows) :
    Reaches rows root (n + 1) row.source.entity

theorem Reaches.eq_root {rows : List Dependent} {root e : Entity} (h : Reaches rows root 0 e) : e = root := by
  cases h
  rfl

variable {root : NamedEntity} {rootLevel : Option Int} {default : Nat} {rows rows' : List Dependent}

/-- A chain of rows can be cut down to a trail that meets no object twice. -/
theorem Reaches.exists_isSimple (rootLevel : Option Int) (default : Nat) {n : Nat} {e : Entity}
    (hr : Reaches rows' root.entity n e) (hsub : rows' ⊆ rows) :
    ∃ t, (Graph.ofDependents root rootLevel default rows).IsSimple t ∧ t.tail = e ∧ t.hops.length ≤ n ∧
      ∀ h ∈ t.hops, ∃ row ∈ rows', row.source.entity = h.entity := by
  induction hr with
  | here => exact ⟨_, Graph.isSimple_start _, rfl, Nat.le_refl _, fun _ h => absurd h List.not_mem_nil⟩
  | @next n row _ hrow ih =>
    obtain ⟨t, ht, htail, hl, hsource⟩ := ih
    by_cases hmet : row.source.entity ∈ t.entities
    · -- the trail has met the object before and is cut off there
      obtain ⟨s, hs, hse, hp⟩ := ht.exists_tail_eq hmet
      have := hp.length_le
      exact ⟨s, hs, hse, by omega, fun h hh => hsource h (hp.subset hh)⟩
    · have ha : (⟨row.usage, row.source.entity⟩ : Hop) ∈
          (Graph.ofDependents root rootLevel default rows).affected t.tail :=
        Graph.mem_affected_ofDependents.2 ⟨row, hsub hrow, htail.symm, rfl, rfl⟩
      refine ⟨t.extend ⟨row.usage, row.source.entity⟩, ?_, Trail.tail_extend _ _, ?_, ?_⟩
      · exact Graph.isSimple_extend.2 ⟨ht, Graph.mem_continuations.2 ⟨ha, hmet⟩⟩
      · rw [Trail.hops_extend, List.length_append, List.length_singleton]
        omega
      · intro h hh
        rw [Trail.hops_extend, List.mem_append, List.mem_singleton] at hh
        rcases hh with hh | rfl
        · exact hsource h hh
        · exact ⟨row, hrow, rfl⟩

/-- The hops of a simple trail are rows; those whose sources the trail meets are enough. -/
theorem Graph.IsSimple.reaches {t : Trail} (ht : (Graph.ofDependents root rootLevel default rows).IsSimple t)
    (hrows : ∀ row ∈ rows, row.source.entity ∈ t.hops.map Hop.entity → row ∈ rows') :
    Reaches rows' root.entity t.hops.length t.tail := by
  induction t using Trail.induction_extend with
  | start r =>
    rw [Graph.isSimple_nil.1 ht]
    exact .here
  | extend t h ih =>
    obtain ⟨ht, hc⟩ := Graph.isSimple_extend.1 ht
    obtain ⟨row, hrow, htarget, hsource, _⟩ := Graph.mem_affected_ofDependents.1 (Graph.mem_continuations.1 hc).1
    have hr : Reaches rows' root.entity t.hops.length row.target.entity := by
      rw [htarget]
      refine ih ht fun row hrow hm => hrows row hrow ?_
      rw [Trail.hops_extend, List.map_append]
      exact List.mem_append_left _ hm
    rw [Trail.tail_extend, Trail.hops_extend, List.length_append, List.length_singleton, ← hsource]
    exact hr.next (hrows row hrow (by simp [hsource]))

theorem Graph.IsSimple.reaches_self {t : Trail}
    (ht : (Graph.ofDependents root rootLevel default rows).IsSimple t) :
    Reaches rows root.entity t.hops.length t.tail :=
  ht.reaches fun _ h _ => h

/-! ### The objects of an analysis -/

theorem Settings.bounds_of_fault?_eq_none {s : Settings} (h : s.fault? = none) :
    1 ≤ s.maxDepth ∧ s.maxDepth ≤ greatestDepth ∧ 1 ≤ s.maxPaths := by
  unfold fault? at h
  split at h
  · exact absurd h (by simp)
  · split at h
    · exact absurd h (by simp)
    · omega

namespace Analysis

theorem not_mem_limits {a : Analysis} (h : a.isTruncated = false) (l : Limit) : l ∉ a.limits := by
  rw [isTruncated, Bool.not_eq_false'] at h
  exact List.isEmpty_iff.1 h ▸ List.not_mem_nil

variable {settings : Settings} {policy : ApprovalPolicy} {change : Change}

section

variable (hv : settings.fault? = none)
  (h : ∀ cap, Limit.paths cap ∉ (ofDependents settings policy root rootLevel rows change).limits)
include hv h

/-- The enumeration behind an analysis with valid settings is exhaustive, unless it recorded the cap on paths. -/
theorem exhausts_of_no_limit_paths :
    let g := Graph.ofDependents root rootLevel settings.defaultCriticality rows
    (Enumeration.ofGraph g (caps settings)).Exhausts g settings.maxDepth := by
  have he := Enumeration.exhausts_of_no_limit
    (Graph.ofDependents_wellFormed root rootLevel settings.defaultCriticality rows) h
  have hd : (caps settings).atLeastOne.depth = settings.maxDepth :=
    Nat.max_eq_right (Settings.bounds_of_fault?_eq_none hv).1
  rwa [hd] at he

theorem mem_trails_ofDependents (t : Trail) :
    t ∈ (ofDependents settings policy root rootLevel rows change).paths.map Path.trail ↔
      (Graph.ofDependents root rootLevel settings.defaultCriticality rows).IsMaximal settings.maxDepth t := by
  have hp : (ofDependents settings policy root rootLevel rows change).paths.map Path.trail =
      (Enumeration.ofGraph (Graph.ofDependents root rootLevel settings.defaultCriticality rows)
        (caps settings)).paths.map Path.trail :=
    List.map_map ..
  rw [hp]
  exact (exhausts_of_no_limit_paths hv h).mem_trails t

/-- An analysis meets each object at the end of a simple trail within the depth. -/
theorem exists_visit_iff {e : Entity} {d : Nat} :
    (∃ v ∈ (ofDependents settings policy root rootLevel rows change).paths.flatMap Path.visits,
        v.entity = e ∧ v.distance = d) ↔
      ∃ t, (Graph.ofDependents root rootLevel settings.defaultCriticality rows).IsSimple t ∧ t.hops ≠ [] ∧
        t.tail = e ∧ t.hops.length = d ∧ d ≤ settings.maxDepth := by
  have hvisit := @Graph.exists_visit_iff _ _ _ (mem_trails_ofDependents hv h)
  constructor
  · rintro ⟨v, hmv, rfl, hd⟩
    obtain ⟨t, ht, rfl, hle⟩ := hvisit.1 ⟨v, hmv, rfl, hd⟩
    exact ⟨_, ht, by simp, Trail.tail_extend _ _, by simp, hle⟩
  · rintro ⟨t, ht, hne, rfl, rfl, hle⟩
    induction t using Trail.induction_extend with
    | start r => exact absurd rfl hne
    | extend t hop _ =>
      obtain ⟨v, hmv, hhop, hd⟩ := hvisit.2 ⟨t, ht, by simp, hle⟩
      exact ⟨v, hmv, by rw [Trail.tail_extend, ← hhop]; rfl, hd⟩

/-- A visit shows a chain of rows. -/
private theorem reaches_of_visit {v : Visit}
    (hmv : v ∈ (ofDependents settings policy root rootLevel rows change).paths.flatMap Path.visits) :
    v.entity ≠ root.entity ∧ v.distance ≤ settings.maxDepth ∧ Reaches rows root.entity v.distance v.entity := by
  obtain ⟨t, ht, hne, he, hd, hle⟩ := (exists_visit_iff hv h).1 ⟨v, hmv, rfl, rfl⟩
  rw [← he, ← hd]
  exact ⟨ht.tail_ne_root hne, hd ▸ hle, ht.reaches_self⟩

/-- A chain of rows within the depth shows in a visit. -/
private theorem exists_visit_of_reaches {n : Nat} {e : Entity} (hr : Reaches rows root.entity n e)
    (he : e ≠ root.entity) (hle : n ≤ settings.maxDepth) :
    ∃ v ∈ (ofDependents settings policy root rootLevel rows change).paths.flatMap Path.visits,
      v.entity = e ∧ v.distance ≤ n := by
  obtain ⟨t, ht, rfl, hl, _⟩ := hr.exists_isSimple rootLevel settings.defaultCriticality (List.Subset.refl rows)
  have hne : t.hops ≠ [] := by
    intro hn
    obtain ⟨r, hops⟩ := t
    obtain rfl : hops = [] := hn
    exact he (Graph.isSimple_nil.1 ht)
  obtain ⟨v, hmv, hve, hvd⟩ := (exists_visit_iff hv h).2 ⟨t, ht, hne, rfl, rfl, by omega⟩
  exact ⟨v, hmv, hve, by omega⟩

/-- The affected objects are those that a chain of rows within the depth leads to. -/
theorem mem_entities_exposures {e : Entity} :
    e ∈ (ofDependents settings policy root rootLevel rows change).exposures.map Exposure.entity ↔
      e ≠ root.entity ∧ ∃ n ≤ settings.maxDepth, Reaches rows root.entity n e := by
  refine (Exposure.mem_entities_ofPaths : _ ↔ ∃ v ∈ _, Visit.entity v = e).trans ⟨?_, ?_⟩
  · rintro ⟨v, hmv, rfl⟩
    obtain ⟨hne, hle, hr⟩ := reaches_of_visit hv h hmv
    exact ⟨hne, v.distance, hle, hr⟩
  · rintro ⟨hne, n, hle, hr⟩
    obtain ⟨v, hmv, hve, _⟩ := exists_visit_of_reaches hv h hr hne hle
    exact ⟨v, hmv, hve⟩

/-- The distance that is shown is that of the shortest chain of rows, with or without repetitions. -/
theorem isLeast_distance {x : Exposure}
    (hx : x ∈ (ofDependents settings policy root rootLevel rows change).exposures) :
    IsLeast {n | Reaches rows root.entity n x.entity} x.distance := by
  obtain ⟨⟨v, hmv, hve, hvd⟩, hmin⟩ := Exposure.isLeast_distance hx
  obtain ⟨hne, hle, hr⟩ := reaches_of_visit hv h hmv
  rw [hve, hvd] at hr
  refine ⟨hr, fun n hn => ?_⟩
  by_cases hnd : n ≤ settings.maxDepth
  · obtain ⟨w, hmw, hwe, hwd⟩ := exists_visit_of_reaches hv h hn (hve ▸ hne) hnd
    exact (hmin ⟨w, hmw, hwe, rfl⟩).trans hwd
  · omega

end

/-- Unless the cap on paths cut it short, an analysis has each object other than the root that is within the depth,
once and at its distance. -/
theorem exposures_of_no_limit_paths (hv : settings.fault? = none)
    (h : ∀ cap, Limit.paths cap ∉ (ofDependents settings policy root rootLevel rows change).limits) :
    let a := ofDependents settings policy root rootLevel rows change
    (∀ e, e ∈ a.exposures.map Exposure.entity ↔ e ≠ root.entity ∧
      ∃ d, 1 ≤ d ∧ d ≤ settings.maxDepth ∧ IsLeast {n | Reaches rows root.entity n e} d) ∧
    (a.exposures.map Exposure.entity).Nodup ∧
    ∀ x ∈ a.exposures, IsLeast {n | Reaches rows root.entity n x.entity} x.distance := by
  intro a
  refine ⟨fun e => ?_, Exposure.nodup_entities_ofPaths _, fun x hx => isLeast_distance hv h hx⟩
  rw [mem_entities_exposures hv h]
  refine and_congr_right fun hne => ⟨?_, ?_⟩
  · rintro ⟨n, hle, hr⟩
    have hchain : {n | Reaches rows root.entity n e}.Nonempty := ⟨n, hr⟩
    have hleast := isLeast_csInf hchain
    refine ⟨_, Nat.one_le_iff_ne_zero.2 fun h0 => ?_, (hleast.2 hr).trans hle, hleast⟩
    have hr0 := hleast.1
    rw [h0] at hr0
    exact hne hr0.eq_root
  · rintro ⟨d, _, hle, hleast⟩
    exact ⟨d, hle, hleast.1⟩

theorem exposures_mutualCallers :
    let settings : Settings := ⟨2, 2, .high, 3⟩
    let a := ofDependents settings ⟨.high⟩ ⟨⟨.table, 1⟩, none⟩ none Enumeration.mutualCallers .modify
    settings.fault? = none ∧ (∀ cap, Limit.paths cap ∉ a.limits) ∧
      (∀ e, e ∈ a.exposures.map Exposure.entity ↔ e ≠ ⟨.table, 1⟩ ∧
        ∃ d, 1 ≤ d ∧ d ≤ 2 ∧ IsLeast {n | Reaches Enumeration.mutualCallers ⟨.table, 1⟩ n e} d) ∧
      (a.exposures.map Exposure.entity).Nodup ∧
      ∀ x ∈ a.exposures, IsLeast {n | Reaches Enumeration.mutualCallers ⟨.table, 1⟩ n x.entity} x.distance := by
  intro settings a
  have hv : settings.fault? = none := by decide
  have hlimits : a.limits = [] := by decide +kernel
  have h : ∀ cap, Limit.paths cap ∉ a.limits := fun cap => hlimits ▸ List.not_mem_nil
  exact ⟨hv, h, exposures_of_no_limit_paths hv h⟩

end Analysis

end ChangeImpact
