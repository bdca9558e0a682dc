import ChangeImpact.Proofs.Distance
import ChangeImpact.Verdict

/-!
# What a verdict says of the objects next to the root

Four reasons are about the objects that use the root itself, each about one way of use.  An object counts for such a
reason if it is next to the root and uses an affected object in that way, which need not be the root (`mem_backing`).
A reason is about the root alone exactly if every object next to the root that uses an affected object in its way also
uses the root so.
-/

namespace ChangeImpact

variable {root : NamedEntity} {rootLevel : Option Int} {default : Nat} {rows : List Dependent}

/-! ### Use -/

/-- The object uses the root itself, in one of the given ways. -/
def UsesRoot (rows : List Dependent) (root : Entity) (uses : Usage → Bool) (e : Entity) : Prop :=
  ∃ row ∈ rows, row.source.entity = e ∧ row.target.entity = root ∧ uses row.usage

/-- The object uses the root or an object that is affected without it, in one of the given ways. -/
def UsesAffected (rows : List Dependent) (root : Entity) (uses : Usage → Bool) (e : Entity) : Prop :=
  ∃ row ∈ rows, row.source.entity = e ∧ uses row.usage ∧
    ∃ n, Reaches (rows.filter fun other => other.source.entity ≠ e) root n row.target.entity

theorem UsesRoot.usesAffected {root : Entity} {uses : Usage → Bool} {e : Entity} (h : UsesRoot rows root uses e) :
    UsesAffected rows root uses e := by
  obtain ⟨row, hrow, hsource, rfl, hu⟩ := h
  exact ⟨row, hrow, hsource, hu, 0, .here⟩

theorem reaches_one_iff {root e : Entity} :
    Reaches rows root 1 e ↔ ∃ row ∈ rows, row.source.entity = e ∧ row.target.entity = root := by
  constructor
  · rintro (_ | ⟨h, hrow⟩)
    exact ⟨_, hrow, rfl, h.eq_root⟩
  · rintro ⟨row, hrow, rfl, rfl⟩
    exact Reaches.here.next hrow

/-- A simple trail can end with a use if and only if the used object is affected without the one that uses it. -/
theorem Graph.exists_isSimple_extend {u : Usage} {e : Entity} :
    (∃ t : Trail, (ofDependents root rootLevel default rows).IsSimple (t.extend ⟨u, e⟩)) ↔
      e ≠ root.entity ∧ UsesAffected rows root.entity (· == u) e := by
  constructor
  · rintro ⟨t, ht⟩
    obtain ⟨ht, hc⟩ := isSimple_extend.1 ht
    obtain ⟨ha, hmet⟩ := mem_continuations.1 hc
    obtain ⟨row, hrow, htarget, hsource, hu⟩ := mem_affected_ofDependents.1 ha
    have hne : e ≠ t.root ∧ e ∉ t.hops.map Hop.entity := not_or.1 (List.mem_cons.not.1 hmet)
    refine ⟨fun he => hne.1 (he.trans ht.root_eq.symm), row, hrow, hsource, beq_iff_eq.2 hu, t.hops.length, ?_⟩
    rw [htarget]
    refine ht.reaches fun other hother hm => List.mem_filter.2 ⟨hother, decide_eq_true fun he => hne.2 ?_⟩
    exact he ▸ hm
  · rintro ⟨hne, row, hrow, hsource, hu, n, hr⟩
    obtain ⟨t, ht, htail, _, hall⟩ := hr.exists_isSimple rootLevel default (List.filter_subset_self rows)
    have ha : (⟨u, e⟩ : Hop) ∈ (ofDependents root rootLevel default rows).affected t.tail :=
      mem_affected_ofDependents.2 ⟨row, hrow, htail.symm, hsource, beq_iff_eq.1 hu⟩
    refine ⟨t, isSimple_extend.2 ⟨ht, mem_continuations.2 ⟨ha, ?_⟩⟩⟩
    refine List.not_mem_cons_of_ne_of_not_mem (fun he => hne (he.trans ht.root_eq)) fun hm => ?_
    obtain ⟨hop, hhop, hhe⟩ := List.mem_map.1 hm
    obtain ⟨other, hother, hos⟩ := hall hop hhop
    exact of_decide_eq_true (List.mem_filter.1 hother).2 (hos.trans hhe)

/-! ### The objects of an analysis that was not cut short -/

namespace Analysis

variable {settings : Settings} {policy : ApprovalPolicy} {change : Change}

/-- An object is next to the root if it uses the root in any way. -/
theorem distance_eq_one_iff (hv : settings.fault? = none)
    (h : ∀ cap, Limit.paths cap ∉ (ofDependents settings policy root rootLevel rows change).limits) {x : Exposure}
    (hx : x ∈ (ofDependents settings policy root rootLevel rows change).exposures) :
    x.distance = 1 ↔ UsesRoot rows root.entity (fun _ => true) x.entity := by
  have hne := ((mem_entities_exposures hv h).1 (List.mem_map_of_mem hx)).1
  obtain ⟨hr, hmin⟩ := isLeast_distance hv h hx
  have hone : Reaches rows root.entity 1 x.entity ↔ UsesRoot rows root.entity (fun _ => true) x.entity := by
    simp only [reaches_one_iff, UsesRoot, and_true]
  rw [← hone]
  constructor
  · intro hd
    exact hd ▸ hr
  · intro hr1
    have hle : x.distance ≤ 1 := hmin hr1
    have hpos : x.distance ≠ 0 := fun h0 => hne (h0 ▸ hr : Reaches rows root.entity 0 x.entity).eq_root
    omega

/-- The usages of an object are all in which it uses an affected one. -/
theorem mem_usages_iff (hv : settings.fault? = none)
    (ht : (ofDependents settings policy root rootLevel rows change).isTruncated = false) {x : Exposure}
    (hx : x ∈ (ofDependents settings policy root rootLevel rows change).exposures) {u : Usage} :
    u ∈ x.usages ↔ UsesAffected rows root.entity (· == u) x.entity := by
  have h (cap : Nat) := not_mem_limits ht (.paths cap)
  have hne := ((mem_entities_exposures hv h).1 (List.mem_map_of_mem hx)).1
  have hvisit := @Graph.exists_visit_iff _ _ _ (mem_trails_ofDependents hv h) ⟨u, x.entity⟩
  rw [Exposure.mem_usages hx, ← and_iff_right hne (b := UsesAffected _ _ _ _),
    ← @Graph.exists_isSimple_extend _ rootLevel settings.defaultCriticality]
  constructor
  · rintro ⟨v, hmv, hve, rfl⟩
    obtain ⟨t, htx, _⟩ := hvisit.1 ⟨v, hmv, congrArg (Hop.mk _) hve, rfl⟩
    exact ⟨t, htx⟩
  · rintro ⟨t, htx⟩
    have hle := (exhausts_of_no_limit_paths hv h).length_le (not_mem_limits ht _)
      (Settings.bounds_of_fault?_eq_none hv).1 htx
    obtain ⟨v, hmv, hhop, _⟩ := hvisit.2 ⟨t, htx, rfl, by simpa using hle⟩
    exact ⟨v, hmv, congrArg Hop.entity hhop, congrArg Hop.usage hhop⟩

theorem any_usages_iff (hv : settings.fault? = none)
    (ht : (ofDependents settings policy root rootLevel rows change).isTruncated = false) {x : Exposure}
    (hx : x ∈ (ofDependents settings policy root rootLevel rows change).exposures) {uses : Usage → Bool} :
    x.usages.any uses ↔ UsesAffected rows root.entity uses x.entity := by
  rw [List.any_eq_true]
  constructor
  · rintro ⟨u, hu, huses⟩
    obtain ⟨row, hrow, hsource, hru, hr⟩ := (mem_usages_iff hv ht hx).1 hu
    exact ⟨row, hrow, hsource, beq_iff_eq.1 hru ▸ huses, hr⟩
  · rintro ⟨row, hrow, hsource, huses, hr⟩
    exact ⟨row.usage, (mem_usages_iff hv ht hx).2 ⟨row, hrow, hsource, beq_self_eq_true _, hr⟩, huses⟩

end Analysis

/-! ### The objects behind a reason -/

namespace Verdict

variable {a : Analysis}

/-- The objects next to the root with a usage among the given ones. -/
def backing (a : Analysis) (uses : Usage → Bool) : List Exposure :=
  (direct a).filter fun x => x.usages.any uses

/-- The priorities of the reasons about the use of the root itself, and the usages that each is about. -/
def directReasons : List (Nat × (Usage → Bool)) :=
  [(1, (Usage.schemaBinding == ·)), (2, Usage.isWrite), (3, (Usage.exec == ·)), (6, (Usage.select == ·))]

/-- The evidence of the reasons of a priority. -/
def evidenceOf (a : Analysis) (priority : Nat) : List (List String) :=
  ((reasonsFor a).filter (·.priority = priority)).map Reason.evidence

private theorem filter_reason? (k priority : Nat) (statement : List Exposure → String) (implication : String)
    (es : List Exposure) : ((reason? priority statement implication es).filter fun r => decide (r.priority = k)) =
      if priority = k then reason? priority statement implication es else none := by
  unfold reason?
  split
  · split <;> rfl
  · simp only [Option.filter_some, decide_eq_true_eq]

/-- Each reason has the priority of its place. -/
private theorem filter_reasonsFor (k : Nat) (a : Analysis) :
    ((reasonsFor a).filter fun r => decide (r.priority = k)) =
    ([(1, schemaBound a), (2, writers a), (3, callers a), (4, referrers a), (5, critical a), (6, readers a),
      (7, indirect a), (8, truncation a)].filter fun r => decide (r.1 = k)).filterMap Prod.snd := by
  have hreferrers : ((referrers a).filter fun r => decide (r.priority = k)) =
      if 4 = k then referrers a else none := by
    unfold referrers
    split
    · exact filter_reason? ..
    · rw [Option.filter_none, ite_self]
  have htruncation : ((truncation a).filter fun r => decide (r.priority = k)) =
      if 8 = k then truncation a else none := by
    unfold truncation
    split
    · simp only [Option.filter_some, decide_eq_true_eq]
    · rw [Option.filter_none, ite_self]
  rw [reasonsFor, List.filter_filterMap, List.filterMap_filter]
  simp only [id, List.filterMap_cons, List.filterMap_nil, schemaBound, writers, callers, critical, readers, indirect,
    filter_reason?, hreferrers, htruncation, decide_eq_true_eq]

private theorem evidence_reason? (priority : Nat) (statement : List Exposure → String) (implication : String)
    (es : List Exposure) :
    ([(priority, reason? priority statement implication es)].filterMap Prod.snd).map Reason.evidence =
      if es = [] then [] else [es.map (·.object.label)] := by
  cases es <;> rfl

/-- The reason is there if an object is behind it, and names all of these. -/
theorem evidenceOf_eq {p : Nat × (Usage → Bool)} (hp : p ∈ directReasons) :
    evidenceOf a p.1 = if backing a p.2 = [] then [] else [(backing a p.2).map (·.object.label)] := by
  have hcontains (u : Usage) : ((direct a).filter fun x => x.usages.contains u) = backing a (u == ·) := by
    simp only [backing, List.contains_eq_any_beq]
  rw [evidenceOf, filter_reasonsFor]
  simp only [directReasons, List.mem_cons, List.not_mem_nil, or_false] at hp
  rcases hp with rfl | rfl | rfl | rfl
  · show ([(1, schemaBound a)].filterMap Prod.snd).map _ = _
    rw [← hcontains]
    unfold schemaBound
    exact evidence_reason? ..
  · show ([(2, writers a)].filterMap Prod.snd).map _ = _
    exact evidence_reason? ..
  · show ([(3, callers a)].filterMap Prod.snd).map _ = _
    rw [← hcontains]
    exact evidence_reason? ..
  · show ([(6, readers a)].filterMap Prod.snd).map _ = _
    rw [← hcontains]
    exact evidence_reason? ..

/-! ### The objects behind a reason and their use of the root -/

variable {settings : Settings} {policy : ApprovalPolicy} {change : Change}

/-- An object next to the root is behind a reason if it uses an affected object in the way of the reason. -/
theorem mem_backing (hv : settings.fault? = none)
    (ht : (Analysis.ofDependents settings policy root rootLevel rows change).isTruncated = false)
    {uses : Usage → Bool} {e : Entity} :
    e ∈ (backing (Analysis.ofDependents settings policy root rootLevel rows change) uses).map Exposure.entity ↔
      e ≠ root.entity ∧ UsesRoot rows root.entity (fun _ => true) e ∧ UsesAffected rows root.entity uses e := by
  have h (cap : Nat) := Analysis.not_mem_limits ht (.paths cap)
  simp only [backing, direct, List.mem_map, List.mem_filter, decide_eq_true_eq]
  constructor
  · rintro ⟨x, ⟨⟨hx, hd⟩, hu⟩, rfl⟩
    have hne := ((Analysis.mem_entities_exposures hv h).1 (List.mem_map_of_mem hx)).1
    exact ⟨hne, (Analysis.distance_eq_one_iff hv h hx).1 hd, (Analysis.any_usages_iff hv ht hx).1 hu⟩
  · rintro ⟨hne, hroot, hu⟩
    obtain ⟨row, hrow, hsource, htarget, _⟩ := hroot
    have hr : Reaches rows root.entity 1 e := reaches_one_iff.2 ⟨row, hrow, hsource, htarget⟩
    have hmem := (Analysis.mem_entities_exposures hv h).2
      ⟨hne, 1, (Settings.bounds_of_fault?_eq_none hv).1, hr⟩
    obtain ⟨x, hx, rfl⟩ := List.mem_map.1 hmem
    have hd := (Analysis.distance_eq_one_iff hv h hx).2 ⟨row, hrow, hsource, htarget, rfl⟩
    exact ⟨x, ⟨⟨hx, hd⟩, (Analysis.any_usages_iff hv ht hx).2 hu⟩, rfl⟩

/-- A reason about the use of the root names the objects next to the root that use any affected object in its way.  It
is right about the root exactly if each of them also uses the root in this way. -/
theorem evidenceOf_ofDependents (hv : settings.fault? = none)
    (ht : (Analysis.ofDependents settings policy root rootLevel rows change).isTruncated = false)
    {p : Nat × (Usage → Bool)} (hp : p ∈ directReasons) :
    let a := Analysis.ofDependents settings policy root rootLevel rows change
    evidenceOf a p.1 = (if backing a p.2 = [] then [] else [(backing a p.2).map (·.object.label)]) ∧
    (∀ e, e ∈ (backing a p.2).map Exposure.entity ↔
      e ≠ root.entity ∧ UsesRoot rows root.entity (fun _ => true) e ∧ UsesAffected rows root.entity p.2 e) ∧
    ((∀ e ∈ a.exposures.map Exposure.entity,
        e ∈ (backing a p.2).map Exposure.entity ↔ UsesRoot rows root.entity p.2 e) ↔
      ∀ e, e ≠ root.entity → UsesRoot rows root.entity (fun _ => true) e → UsesAffected rows root.entity p.2 e →
        UsesRoot rows root.entity p.2 e) := by
  intro a
  have hback (e : Entity) : e ∈ (backing a p.2).map Exposure.entity ↔ _ := mem_backing hv ht
  refine ⟨evidenceOf_eq hp, hback, ?_, ?_⟩
  · intro hright e hne hroot hu
    have hb := (hback e).2 ⟨hne, hroot, hu⟩
    have hx : e ∈ a.exposures.map Exposure.entity := by
      obtain ⟨x, hx, rfl⟩ := List.mem_map.1 hb
      exact List.mem_map_of_mem (List.mem_filter.1 (List.mem_filter.1 hx).1).1
    exact (hright e hx).1 hb
  · intro hright e he
    have hne := ((Analysis.mem_entities_exposures hv fun cap => Analysis.not_mem_limits ht _).1 he).1
    rw [hback]
    constructor
    · rintro ⟨_, hroot, hu⟩
      exact hright e hne hroot hu
    · intro hu
      have haffected := hu.usesAffected
      obtain ⟨row, hrow, hsource, htarget, _⟩ := hu
      exact ⟨hne, ⟨row, hrow, hsource, htarget, rfl⟩, haffected⟩

/-- Two procedures that read a table.  The first also calls the second. -/
def callingReaders : List Dependent :=
  let table : NamedEntity := ⟨⟨.table, 1⟩, none⟩
  let first : NamedEntity := ⟨⟨.procedure, 10⟩, none⟩
  let second : NamedEntity := ⟨⟨.procedure, 11⟩, none⟩
  [⟨first, table, .select, 1, none⟩, ⟨second, table, .select, 1, none⟩, ⟨first, second, .exec, 2, none⟩]

theorem evidenceOf_callingReaders :
    let a := Analysis.ofDependents .default ⟨.high⟩ ⟨⟨.table, 1⟩, none⟩ none callingReaders .modify
    let uses := (Usage.exec == ·)
    Settings.default.fault? = none ∧ a.isTruncated = false ∧
      evidenceOf a 3 = (if backing a uses = [] then [] else [(backing a uses).map (·.object.label)]) ∧
      (∀ e, e ∈ (backing a uses).map Exposure.entity ↔ e ≠ ⟨.table, 1⟩ ∧
        UsesRoot callingReaders ⟨.table, 1⟩ (fun _ => true) e ∧ UsesAffected callingReaders ⟨.table, 1⟩ uses e) ∧
      ((∀ e ∈ a.exposures.map Exposure.entity,
          e ∈ (backing a uses).map Exposure.entity ↔ UsesRoot callingReaders ⟨.table, 1⟩ uses e) ↔
        ∀ e, e ≠ ⟨.table, 1⟩ → UsesRoot callingReaders ⟨.table, 1⟩ (fun _ => true) e →
          UsesAffected callingReaders ⟨.table, 1⟩ uses e → UsesRoot callingReaders ⟨.table, 1⟩ uses e) := by
  intro a uses
  have hv : Settings.default.fault? = none := by decide
  have ht : a.isTruncated = false := by decide +kernel
  have hp : (3, uses) ∈ directReasons := by simp [directReasons, uses]
  exact ⟨hv, ht, evidenceOf_ofDependents hv ht hp⟩

/-- The first procedure is said to call the table, which it only reads. -/
theorem evidenceOf_callingReaders_wrong :
    let a := Analysis.ofDependents .default ⟨.high⟩ ⟨⟨.table, 1⟩, none⟩ none callingReaders .modify
    Settings.default.fault? = none ∧ a.isTruncated = false ∧ ⟨.procedure, 10⟩ ∈ a.exposures.map Exposure.entity ∧
      evidenceOf a 3 = [["stored_procedure#10"]] ∧
      ¬ UsesRoot callingReaders ⟨.table, 1⟩ (Usage.exec == ·) ⟨.procedure, 10⟩ := by
  refine ⟨by decide, by decide +kernel, by decide +kernel, by decide +kernel, ?_⟩
  unfold UsesRoot
  decide

end Verdict

end ChangeImpact
