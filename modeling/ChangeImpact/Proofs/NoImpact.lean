import ChangeImpact.Proofs.Monotone
import ChangeImpact.Proofs.Queue
import Mathlib.Tactic.TFAE

/-!
# No impact

An analysis says in several ways that a change affects nothing: it has no paths and no affected objects, a risk of zero,
a severity of none, no path that accounts for the worst.  All of them mean that no other object uses the changed one
(`Analysis.affects_nothing_tfae`).  Two things could break this and do not:

* (caps) caps of zero count as one, and a cap on paths leaves at least one path: `Enumeration.paths_ne_nil_iff`;
* (rounding) a risk is rounded down, but never below two: `Risk.bounds_ofPath`.  Computed in words of 64 and 32 bits it
  is the same: `Risk.ofPathInWords?_eq_some`.
-/

namespace ChangeImpact

/-! ### Paths -/

namespace Graph

variable {g : Graph} {depth : Nat}

/-- Some trail is maximal if and only if the root can be left. -/
theorem exists_isMaximal_iff (hd : 0 < depth) :
    (∃ t, g.IsMaximal depth t) ↔ g.continuations ⟨g.root.entity, []⟩ ≠ [] := by
  constructor
  · rintro ⟨t, ht⟩
    exact ht.continuations_start_ne_nil
  · intro hne
    obtain ⟨h, hh⟩ := List.exists_mem_of_ne_nil _ hne
    have hs : g.IsSimple (Trail.extend ⟨g.root.entity, []⟩ h) := isSimple_extend.2 ⟨g.isSimple_start, hh⟩
    obtain ⟨t, ht, _⟩ := hs.exists_isMaximal (by simp) (show 1 ≤ depth from hd)
    exact ⟨t, ht⟩

/-- The root is left over the rows by which others use it. -/
theorem continuations_start_ne_nil_iff (root : NamedEntity) (rootLevel : Option Int) (default : Nat)
    (rows : List Dependent) :
    (ofDependents root rootLevel default rows).continuations ⟨root.entity, []⟩ ≠ [] ↔
      ∃ row ∈ rows, row.target.entity = root.entity ∧ row.source.entity ≠ root.entity := by
  constructor
  · intro hne
    obtain ⟨h, hh⟩ := List.exists_mem_of_ne_nil _ hne
    obtain ⟨haffected, hnew⟩ := mem_continuations.1 hh
    obtain ⟨row, hrow, htarget, hsource, _⟩ := mem_affected_ofDependents.1 haffected
    exact ⟨row, hrow, htarget, fun heq => hnew (by simp [Trail.entities, ← hsource, heq])⟩
  · rintro ⟨row, hrow, htarget, hne⟩
    refine List.ne_nil_of_mem (a := ⟨row.usage, row.source.entity⟩) (mem_continuations.2 ⟨?_, ?_⟩)
    · exact mem_affected_ofDependents.2 ⟨row, hrow, htarget, rfl, rfl⟩
    · simpa [Trail.entities] using hne

end Graph

namespace Enumeration

variable {g : Graph} {caps : Caps} {p : Path}

/-- What is found is the path of a simple trail within the depth, over nodes of the graph, whatever the caps. -/
theorem isSimple_of_mem_paths (hg : g.WellFormed) (hp : p ∈ (ofGraph g caps).paths) :
    g.IsSimple p.trail ∧ p.depth ≤ caps.atLeastOne.depth ∧ p.nodes ⊆ g.nodes := by
  obtain ⟨t, ht, hpt⟩ := List.mem_filterMap.1 hp
  have hne : t.hops ≠ [] := fun hnil => by simp [Graph.path?_eq_none hnil] at hpt
  have hpos : 0 < caps.atLeastOne.paths := Nat.le_max_left 1 caps.paths
  obtain ⟨hs, hle, _⟩ := Graph.mem_kept_cappedWalk hg hpos ht
  obtain ⟨q, hq, rfl, hsub, _⟩ := hs.exists_path? hg hne
  obtain rfl : q = p := Option.some.inj (hq.symm.trans hpt)
  exact ⟨hs, q.length_hops_trail ▸ hle, hsub⟩

/-- Under any caps a path is found if some trail is maximal. -/
theorem paths_ne_nil (hg : g.WellFormed) {t : Trail} (ht : g.IsMaximal caps.atLeastOne.depth t) :
    (ofGraph g caps).paths ≠ [] := by
  have hdepth : 0 < caps.atLeastOne.depth := Nat.le_max_left 1 caps.depth
  have hpaths : 0 < caps.atLeastOne.paths := Nat.le_max_left 1 caps.paths
  by_cases hlimit : ∀ cap, Limit.paths cap ∉ (ofGraph g caps).limits
  · obtain ⟨p, hp, _⟩ := List.mem_map.1 (((exhausts_of_no_limit hg hlimit).mem_trails t).2 ht)
    exact List.ne_nil_of_mem hp
  · -- as many trails are kept as the cap allows, and all of them are maximal
    obtain ⟨cap, hcap⟩ := not_forall_not.1 hlimit
    have hlength := (Graph.length_kept_cappedWalk hg hpaths (mem_distinctBy_id.1 hcap)).2
    obtain ⟨s, hs⟩ := List.exists_mem_of_length_pos (hlength ▸ hpaths)
    have hmax := Graph.isMaximal_of_mem_kept hg hdepth hpaths ⟨t, ht⟩ hs
    obtain ⟨p, hp, _⟩ := hmax.simple.exists_path? hg hmax.ne_nil
    exact List.ne_nil_of_mem (List.mem_filterMap.2 ⟨s, hs, hp⟩)

/-- Something is found if and only if the root can be left. -/
theorem paths_ne_nil_iff (hg : g.WellFormed) (caps : Caps) :
    (ofGraph g caps).paths ≠ [] ↔ g.continuations ⟨g.root.entity, []⟩ ≠ [] := by
  have hdepth : 0 < caps.atLeastOne.depth := Nat.le_max_left 1 caps.depth
  rw [← Graph.exists_isMaximal_iff hdepth]
  constructor
  · intro hne
    obtain ⟨p, hp⟩ := List.exists_mem_of_ne_nil _ hne
    obtain ⟨hs, hle, _⟩ := isSimple_of_mem_paths hg hp
    obtain ⟨t, ht, _⟩ := hs.exists_isMaximal (by simpa [Path.trail] using p.steps_ne_nil)
      (p.length_hops_trail.trans_le hle)
    exact ⟨t, ht⟩
  · rintro ⟨t, ht⟩
    exact paths_ne_nil hg ht

end Enumeration

/-! ### The risk of a path -/

namespace Path

variable {p : Path}

/-- The worst criticality is that of a step, and no step has a higher one. -/
theorem isGreatest_worstCriticality (p : Path) :
    IsGreatest {n | ∃ s ∈ p.steps, s.node.criticality = n} p.worstCriticality := by
  obtain ⟨id, root, steps, score, hne, hnodup⟩ := p
  cases steps with
  | nil => exact absurd rfl hne
  | cons s ss =>
    have hfold : (ss.map fun s => s.node.criticality).foldl max s.node.criticality =
        (s :: ss).foldl (fun level s => max level s.node.criticality) 0 := by
      rw [List.foldl_map, List.foldl_cons, Nat.zero_max]
    have hmax : ((s :: ss).map fun s => s.node.criticality).max? =
        some ((s :: ss).foldl (fun level s => max level s.node.criticality) 0) := by
      rw [← hfold, List.map_cons, List.max?_cons']
    obtain ⟨hmem, hle⟩ := List.max?_eq_some_iff.1 hmax
    refine ⟨List.mem_map.1 hmem, ?_⟩
    rintro n ⟨s', hs', rfl⟩
    exact hle _ (List.mem_map_of_mem hs')

/-- Every affected object is as critical as objects can be. -/
def IsClamped (p : Path) : Prop :=
  ∀ s ∈ p.steps, Criticality.lowest ≤ s.node.criticality ∧ s.node.criticality ≤ Criticality.highest

theorem IsClamped.worstCriticality (h : p.IsClamped) : 1 ≤ p.worstCriticality ∧ p.worstCriticality ≤ 5 := by
  obtain ⟨⟨s, hs, heq⟩, _⟩ := p.isGreatest_worstCriticality
  exact heq ▸ h s hs

end Path

namespace Risk

variable {p : Path}

theorem weight_bounds (u : Usage) : 10 ≤ weight u ∧ weight u ≤ 50 := by
  cases u <;> decide

theorem changePercent_bounds (c : Change) : 50 ≤ changePercent c ∧ changePercent c ≤ 150 := by
  cases c <;> decide

theorem depthPercent_bounds (depth : Nat) : 50 ≤ depthPercent depth ∧ depthPercent depth ≤ 100 := by
  simp only [depthPercent, leastDepthPercent, stepPercent]
  omega

/-- The product of which a risk is the ten-thousandth part. -/
theorem bounds_product (c : Change) (h : p.IsClamped) :
    10 * 1 * 50 * 50 ≤ weight p.worstUsage * p.worstCriticality * changePercent c * depthPercent p.depth ∧
      weight p.worstUsage * p.worstCriticality * changePercent c * depthPercent p.depth ≤ 50 * 5 * 150 * 100 := by
  obtain ⟨hw, hw'⟩ := weight_bounds p.worstUsage
  obtain ⟨hl, hl'⟩ := h.worstCriticality
  obtain ⟨hc, hc'⟩ := changePercent_bounds c
  obtain ⟨hd, hd'⟩ := depthPercent_bounds p.depth
  constructor <;> gcongr

/-- A risk is not rounded down to zero. -/
theorem bounds_ofPath (c : Change) (h : p.IsClamped) : 2 ≤ ofPath c p ∧ ofPath c p ≤ 375 := by
  obtain ⟨hle, hge⟩ := bounds_product c h
  rw [ofPath]
  omega

/-! ### Risks in words -/

/-- The product of two words of 64 bits, if it fits into one. -/
def mul? (a b : UInt64) : Option UInt64 :=
  if a.toNat * b.toNat < UInt64.size then some (a * b) else none

/-- The word of 32 bits that is nearest to a number. -/
def saturate (n : Nat) : UInt32 :=
  .ofNat (min n (UInt32.size - 1))

/-- The percentage for a depth, where a great depth is taken for the greatest that a word holds. -/
def depthPercentInWords (depth : Nat) : UInt32 :=
  let taken := saturate ((saturate (depth - 1)).toNat * stepPercent)
  saturate (max leastDepthPercent (100 - taken.toNat))

/-- The risk of a path, multiplied step by step in words of 64 bits and then brought into one of 32 bits. There is none
if a product does not fit. -/
def ofPathInWords? (change : Change) (p : Path) : Option UInt32 := do
  let product ← mul? (.ofNat (weight p.worstUsage)) (.ofNat p.worstCriticality)
  let product ← mul? product (.ofNat (changePercent change))
  let product ← mul? product (depthPercentInWords p.depth).toUInt64
  return saturate (product / 10000).toNat

theorem exists_mul?_eq_some {a b : UInt64} (h : a.toNat * b.toNat < UInt64.size) :
    ∃ c, mul? a b = some c ∧ c.toNat = a.toNat * b.toNat :=
  ⟨a * b, if_pos h, (UInt64.toNat_mul a b).trans (Nat.mod_eq_of_lt h)⟩

theorem toNat_saturate (n : Nat) : (saturate n).toNat = min n (UInt32.size - 1) :=
  UInt32.toNat_ofNat_of_lt' (Nat.lt_of_le_pred (by decide) (Nat.min_le_right _ _))

theorem toNat_depthPercentInWords (depth : Nat) : (depthPercentInWords depth).toNat = depthPercent depth := by
  simp only [depthPercentInWords, toNat_saturate, depthPercent, leastDepthPercent, stepPercent, UInt32.size]
  omega

/-- No product is too large for a word, and no number is replaced by the nearest word, so the risk in words is the
risk. -/
theorem ofPathInWords?_eq_some (c : Change) (h : p.IsClamped) :
    (ofPathInWords? c p).map UInt32.toNat = some (ofPath c p) := by
  obtain ⟨_, hw⟩ := weight_bounds p.worstUsage
  obtain ⟨_, hl⟩ := h.worstCriticality
  obtain ⟨_, hc⟩ := changePercent_bounds c
  have hword {n bound : Nat} (hle : n ≤ bound) (hbound : bound < UInt64.size) : (UInt64.ofNat n).toNat = n :=
    UInt64.toNat_ofNat_of_lt' (hle.trans_lt hbound)
  have hweight := hword hw (by decide)
  have hlevel := hword hl (by decide)
  have hchange := hword hc (by decide)
  have hdepth : (depthPercentInWords p.depth).toUInt64.toNat = depthPercent p.depth :=
    (UInt32.toNat_toUInt64 _).trans (toNat_depthPercentInWords _)
  -- each product is at most that of the greatest factors
  have hle₁ : weight p.worstUsage * p.worstCriticality ≤ 50 * 5 := Nat.mul_le_mul hw hl
  have hle₂ : weight p.worstUsage * p.worstCriticality * changePercent c ≤ 50 * 5 * 150 := Nat.mul_le_mul hle₁ hc
  have hle₃ := (bounds_product c h).2
  obtain ⟨a, ha, hna⟩ := exists_mul?_eq_some (a := .ofNat (weight p.worstUsage)) (b := .ofNat p.worstCriticality)
    (by rw [hweight, hlevel]; exact hle₁.trans_lt (by decide))
  rw [hweight, hlevel] at hna
  obtain ⟨b, hb, hnb⟩ := exists_mul?_eq_some (a := a) (b := .ofNat (changePercent c))
    (by rw [hna, hchange]; exact hle₂.trans_lt (by decide))
  rw [hna, hchange] at hnb
  obtain ⟨d, hd, hnd⟩ := exists_mul?_eq_some (a := b) (b := (depthPercentInWords p.depth).toUInt64)
    (by rw [hnb, hdepth]; exact hle₃.trans_lt (by decide))
  rw [hnb, hdepth] at hnd
  have hrisk : (d / 10000).toNat = ofPath c p := by
    rw [UInt64.toNat_div, hnd, ofPath]
    rfl
  have hfits : ofPath c p ≤ UInt32.size - 1 := (bounds_ofPath c h).2.trans (by decide)
  simp only [ofPathInWords?, ha, hb, hd, Option.bind_eq_bind, Option.bind_some, Option.pure_def, Option.map_some,
    toNat_saturate, hrisk, Nat.min_eq_left hfits]

/-- Only a risk of zero is of no severity. -/
theorem severity_eq_none_iff {risk : Nat} : severity risk = .none ↔ risk = 0 := by
  rw [severity_eq]
  split_ifs <;> simp only [false_iff, true_iff] <;> omega

end Risk

/-! ### Analyses -/

namespace Summary

theorem worstSeverity_ofPaths (root : NamedEntity) {paths : List Path} (hg : ∀ p ∈ paths, p.IsGraded) :
    (ofPaths root paths).worstSeverity = Risk.severity (ofPaths root paths).worstRisk := by
  cases paths with
  | nil => rfl
  | cons p ps => exact hg _ (p.worst_mem ps)

/-- The worst risk is that of a path, if there is one. -/
theorem exists_worstRisk_eq (root : NamedEntity) {paths : List Path} (hne : paths ≠ []) :
    ∃ p ∈ paths, (ofPaths root paths).worstRisk = p.risk := by
  cases paths with
  | nil => exact absurd rfl hne
  | cons p ps => exact ⟨_, p.worst_mem ps, rfl⟩

theorem triggerPath_eq_none_iff {root : NamedEntity} {paths : List Path} :
    (ofPaths root paths).triggerPath = none ↔ paths = [] := by
  cases paths with
  | nil => exact iff_of_true rfl rfl
  | cons p ps => simp [ofPaths]

end Summary

theorem Exposure.ofPaths_eq_nil_iff {paths : List Path} : ofPaths paths = [] ↔ paths = [] := by
  constructor
  · intro hnil
    refine List.eq_nil_iff_forall_not_mem.2 fun p hp => ?_
    obtain ⟨s, ss, hs⟩ := List.exists_cons_of_ne_nil p.steps_ne_nil
    have hv : (⟨p, 1, s⟩ : Visit) ∈ paths.flatMap Path.visits :=
      List.mem_flatMap.2 ⟨p, hp, Path.mem_visits.2 ⟨rfl, [], ss, hs, rfl⟩⟩
    have hm : s.entity ∈ (ofPaths paths).map entity := mem_entities_ofPaths.2 ⟨_, hv, rfl⟩
    rw [hnil] at hm
    exact absurd hm List.not_mem_nil
  · rintro rfl
    rfl

namespace Analysis

variable {settings : Settings} {policy : ApprovalPolicy} {root : NamedEntity} {rootLevel : Option Int}
  {rows : List Dependent} {change : Change} {p : Path}

/-- The criticality of an affected object is its level, on paths as in the graph. -/
theorem criticality_of_mem_steps (hp : p ∈ (ofDependents settings policy root rootLevel rows change).paths) {s : Step}
    (hs : s ∈ p.steps) :
    s.node.criticality = Graph.level root.entity rootLevel rows settings.defaultCriticality s.entity := by
  obtain ⟨q, hq, rfl⟩ := List.mem_map.1 hp
  obtain ⟨_, _, hsub⟩ := Enumeration.isSimple_of_mem_paths (Graph.ofDependents_wellFormed _ _ _ _) hq
  have hn : s.node ∈ q.nodes := List.mem_cons_of_mem _ (List.mem_map_of_mem hs)
  exact Graph.criticality_of_mem_nodes (hsub hn)

theorem isClamped_of_mem_paths (hp : p ∈ (ofDependents settings policy root rootLevel rows change).paths) :
    p.IsClamped := by
  intro s hs
  rw [criticality_of_mem_steps hp hs]
  exact ⟨Criticality.lowest_le_clamp _, Criticality.clamp_le_highest _⟩

theorem risk_of_mem_paths (hp : p ∈ (ofDependents settings policy root rootLevel rows change).paths) :
    p.risk = Risk.ofPath change p := by
  obtain ⟨q, _, rfl⟩ := List.mem_map.1 hp
  rfl

theorem isGraded_of_mem_paths (hp : p ∈ (ofDependents settings policy root rootLevel rows change).paths) :
    p.IsGraded := by
  obtain ⟨q, _, rfl⟩ := List.mem_map.1 hp
  exact Path.isGraded_evaluate change q

theorem worstSeverity_eq :
    (ofDependents settings policy root rootLevel rows change).summary.worstSeverity =
      Risk.severity (ofDependents settings policy root rootLevel rows change).summary.worstRisk := by
  have hgraded : ∀ p ∈ (ofDependents settings policy root rootLevel rows change).paths, p.IsGraded :=
    fun p => isGraded_of_mem_paths
  exact Summary.worstSeverity_ofPaths root hgraded

/-- An analysis has a path if and only if another object uses the changed one. -/
theorem paths_ne_nil_iff :
    (ofDependents settings policy root rootLevel rows change).paths ≠ [] ↔
      ∃ row ∈ rows, row.target.entity = root.entity ∧ row.source.entity ≠ root.entity := by
  have hg := Graph.ofDependents_wellFormed root rootLevel settings.defaultCriticality rows
  rw [← Graph.continuations_start_ne_nil_iff root rootLevel settings.defaultCriticality]
  exact (not_congr List.map_eq_nil_iff).trans (Enumeration.paths_ne_nil_iff hg (caps settings))

theorem bounds_risk (hp : p ∈ (ofDependents settings policy root rootLevel rows change).paths) :
    2 ≤ p.risk ∧ p.risk ≤ 375 := by
  rw [risk_of_mem_paths hp]
  exact Risk.bounds_ofPath change (isClamped_of_mem_paths hp)

theorem worstRisk_eq_zero_iff :
    (ofDependents settings policy root rootLevel rows change).summary.worstRisk = 0 ↔
      (ofDependents settings policy root rootLevel rows change).paths = [] := by
  show (Summary.ofPaths root (ofDependents settings policy root rootLevel rows change).paths).worstRisk = 0 ↔ _
  constructor
  · intro hzero
    by_contra hne
    obtain ⟨p, hp, heq⟩ := Summary.exists_worstRisk_eq root hne
    have hpos := (bounds_risk hp).1
    rw [← heq, hzero] at hpos
    exact absurd hpos (by decide)
  · intro hnil
    rw [hnil]
    rfl

/-- All ways to say that a change affects nothing come to the same, for any settings. Every risk is exact and at least
two, and approval depends on the worst severity wherever there is a path. -/
theorem affects_nothing_tfae (settings : Settings) (policy : ApprovalPolicy) (root : NamedEntity)
    (rootLevel : Option Int) (rows : List Dependent) (change : Change) :
    let a := ofDependents settings policy root rootLevel rows change
    List.TFAE [¬ ∃ row ∈ rows, row.target.entity = root.entity ∧ row.source.entity ≠ root.entity,
      a.paths = [], a.exposures = [], a.summary.worstSeverity = .none, a.summary.worstRisk = 0,
      a.summary.triggerPath = none] ∧
    (∀ p ∈ a.paths, 2 ≤ p.risk ∧ p.risk ≤ 375 ∧
      p.risk = Risk.weight p.worstUsage * p.worstCriticality * Risk.changePercent change *
        Risk.depthPercent p.depth / 10000 ∧
      (Risk.ofPathInWords? change p).map UInt32.toNat = some p.risk) ∧
    (a.summary.requiresApproval ↔ a.paths ≠ [] ∧ policy.threshold.le a.summary.worstSeverity) := by
  intro a
  have hseverity : a.summary.worstSeverity = .none ↔ a.summary.worstRisk = 0 := by
    rw [worstSeverity_eq, Risk.severity_eq_none_iff]
  refine ⟨?_, fun p hp => ?_, ?_⟩
  · tfae_have 1 ↔ 2 := (not_congr paths_ne_nil_iff).symm.trans not_ne_iff
    tfae_have 2 ↔ 3 := Exposure.ofPaths_eq_nil_iff.symm
    tfae_have 4 ↔ 5 := hseverity
    tfae_have 2 ↔ 5 := worstRisk_eq_zero_iff.symm
    tfae_have 2 ↔ 6 := Summary.triggerPath_eq_none_iff.symm
    tfae_finish
  · have hexact := risk_of_mem_paths hp
    have hwords := Risk.ofPathInWords?_eq_some change (isClamped_of_mem_paths hp)
    exact ⟨(bounds_risk hp).1, (bounds_risk hp).2, hexact, hexact ▸ hwords⟩
  · have hrequires : a.summary.requiresApproval = policy.requires a.summary.worstSeverity := rfl
    rw [hrequires, ApprovalPolicy.requires, Bool.and_eq_true, bne_iff_ne, Ne, hseverity, worstRisk_eq_zero_iff]

end Analysis

end ChangeImpact
