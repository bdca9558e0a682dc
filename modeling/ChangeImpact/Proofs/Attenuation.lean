import ChangeImpact.Proofs.Distance
import ChangeImpact.Proofs.NoImpact

/-!
# One more dependent

A row that is added takes no simple trail away (`Graph.IsSimple.append`), so every path is still there or begins a longer
one, which meets the same objects and more: its usage is at least as severe and its criticality at least as high
(`Path.worst_le_of_hops_subset`).  But only maximal trails are kept, and a longer path counts for less by its depth.
Hence a row may lower the risk of a change (`Analysis.worstRisk_additionalCaller`), in this way only:

* the paths that the row does not take further keep their risks: `Analysis.exists_path_append`;
* so nothing gets better if one of them is of the worst risk: `Analysis.summary_below_append`.
-/

namespace ChangeImpact

/-- The row takes the trail further: its target is the last object, and its source is a new one. -/
def Dependent.Continues (row : Dependent) (t : Trail) : Prop :=
  row.target.entity = t.tail ∧ row.source.entity ∉ t.entities

instance (row : Dependent) (t : Trail) : Decidable (row.Continues t) :=
  inferInstanceAs (Decidable (_ ∧ _))

/-- The step from the target of a row to its source. -/
def Dependent.hop (row : Dependent) : Hop :=
  ⟨row.usage, row.source.entity⟩

/-! ### Trails -/

namespace Graph

variable {root : NamedEntity} {rootLevel : Option Int} {default : Nat} {rows : List Dependent} {row : Dependent}
  {t : Trail}

theorem mem_continuations_append {h : Hop} :
    h ∈ (ofDependents root rootLevel default (rows ++ [row])).continuations t ↔
      h ∈ (ofDependents root rootLevel default rows).continuations t ∨ row.Continues t ∧ h = row.hop := by
  obtain ⟨u, e⟩ := h
  simp only [mem_continuations, mem_affected_ofDependents, List.mem_append, List.mem_singleton, Dependent.Continues,
    Dependent.hop, Hop.mk.injEq]
  constructor
  · rintro ⟨⟨other, hother | rfl, htarget, rfl, rfl⟩, hnew⟩
    · exact .inl ⟨⟨other, hother, htarget, rfl, rfl⟩, hnew⟩
    · exact .inr ⟨⟨htarget, hnew⟩, rfl, rfl⟩
  · rintro (⟨⟨other, hother, hrest⟩, hnew⟩ | ⟨⟨htarget, hnew⟩, rfl, rfl⟩)
    · exact ⟨⟨other, .inl hother, hrest⟩, hnew⟩
    · exact ⟨⟨row, .inr rfl, htarget, rfl, rfl⟩, hnew⟩

/-- A trail stays simple when a row is added. -/
theorem IsSimple.append (ht : (ofDependents root rootLevel default rows).IsSimple t) (row : Dependent) :
    (ofDependents root rootLevel default (rows ++ [row])).IsSimple t := by
  induction t using Trail.induction_extend with
  | start r =>
    have hr : r = root.entity := isSimple_nil.1 ht
    exact isSimple_nil.2 hr
  | extend t h ih =>
    obtain ⟨ht, hc⟩ := isSimple_extend.1 ht
    exact isSimple_extend.2 ⟨ih ht, mem_continuations_append.2 (.inl hc)⟩

/-- A row without an annotation leaves all levels as they are. -/
theorem level_append_of_unannotated (root : Entity) (rootLevel : Option Int) (rows : List Dependent) (default : Nat)
    (e : Entity) (h : row.criticality = none) :
    level root rootLevel (rows ++ [row]) default e = level root rootLevel rows default e := by
  have hrow : [row].findSome? (fun row => if row.source.entity = e then row.criticality else none) = none := by
    simp [h]
  rw [level, level, annotation?, annotation?, List.findSome?_append, hrow, Option.or_none]

end Graph

/-! ### Paths that meet more -/

theorem Risk.weight_mono {u v : Usage} (h : u.le v) : weight u ≤ weight v := by
  cases u <;> cases v <;> first | decide | exact absurd h (by decide)

namespace Path

variable {p p' : Path}

/-- A path over the hops of another and more, where no object is less critical, is as bad but for its depth. -/
theorem worst_le_of_hops_subset (hhops : p.trail.hops ⊆ p'.trail.hops)
    (hlevel : ∀ s ∈ p.steps, ∀ s' ∈ p'.steps, s.entity = s'.entity → s.node.criticality ≤ s'.node.criticality) :
    p.worstUsage.le p'.worstUsage ∧ p.worstCriticality ≤ p'.worstCriticality := by
  have hstep : ∀ s ∈ p.steps, ∃ s' ∈ p'.steps, s'.hop = s.hop := fun s hs =>
    List.mem_map.1 (hhops (List.mem_map_of_mem hs))
  constructor
  · have hworst' : Usage.IsStrongest (.select :: p'.usages) p'.worstUsage := Usage.isStrongest_foldl_max _ _
    rcases List.mem_cons.1 (Usage.isStrongest_foldl_max p.usages .select).1 with hselect | hmem
    · exact (congrArg (Usage.le · _) hselect).trans (hworst'.2 _ List.mem_cons_self)
    · obtain ⟨s, hs, hs_eq⟩ := List.mem_map.1 hmem
      obtain ⟨s', hs', hhop⟩ := hstep s hs
      refine hworst'.2 _ (List.mem_cons_of_mem _ (List.mem_map.2 ⟨s', hs', ?_⟩))
      exact (congrArg Hop.usage hhop).trans hs_eq
  · obtain ⟨⟨s, hs, hs_eq⟩, _⟩ := p.isGreatest_worstCriticality
    obtain ⟨s', hs', hhop⟩ := hstep s hs
    rw [← hs_eq]
    exact (hlevel s hs s' hs' (congrArg Hop.entity hhop).symm).trans (p'.isGreatest_worstCriticality.2 ⟨s', hs', rfl⟩)

/-- The risk of a path for a change, if it had another depth. -/
def riskAtDepth (p : Path) (change : Change) (depth : Nat) : Nat :=
  Risk.weight p.worstUsage * p.worstCriticality * Risk.changePercent change * Risk.depthPercent depth / 10000

theorem riskAtDepth_le (change : Change) (depth : Nat) (husage : p.worstUsage.le p'.worstUsage)
    (hlevel : p.worstCriticality ≤ p'.worstCriticality) : p.riskAtDepth change depth ≤ p'.riskAtDepth change depth := by
  have hweight := Risk.weight_mono husage
  rw [riskAtDepth, riskAtDepth]
  gcongr

/-- No depth takes more than half of the risk away. -/
theorem half_riskAtDepth_le (p : Path) (change : Change) (depth depth' : Nat) :
    p.riskAtDepth change depth / 2 ≤ p.riskAtDepth change depth' := by
  have hle := (Risk.depthPercent_bounds depth).2
  have hge := (Risk.depthPercent_bounds depth').1
  generalize hn : Risk.weight p.worstUsage * p.worstCriticality * Risk.changePercent change = n
  have h100 : n * Risk.depthPercent depth ≤ n * 100 := Nat.mul_le_mul_left n hle
  have h50 : n * 50 ≤ n * Risk.depthPercent depth' := Nat.mul_le_mul_left n hge
  rw [riskAtDepth, riskAtDepth, hn]
  omega

theorem risk_le_worst (p : Path) (ps : List Path) : ∀ q ∈ p :: ps, q.risk ≤ (p.worst ps).risk :=
  fun _ hq => (p.isFirstGreatest_worst ps).le hq

end Path

/-! ### Analyses -/

/-- Nothing is worse in the first. -/
structure Summary.Below (s s' : Summary) : Prop where
  risk_le : s.worstRisk ≤ s'.worstRisk
  severity_le : s.worstSeverity.le s'.worstSeverity
  requiresApproval : s.requiresApproval → s'.requiresApproval

theorem Summary.risk_le_worstRisk (root : NamedEntity) {paths : List Path} {p : Path} (hp : p ∈ paths) :
    p.risk ≤ (ofPaths root paths).worstRisk := by
  cases paths with
  | nil => exact absurd hp List.not_mem_nil
  | cons q qs => exact q.risk_le_worst qs p hp

namespace Analysis

variable {settings : Settings} {policy : ApprovalPolicy} {root : NamedEntity} {rootLevel : Option Int}
  {rows rows' : List Dependent} {row : Dependent} {change : Change} {p p' : Path}

/-- Summaries compare by their worst risks. -/
theorem summary_below (h : (ofDependents settings policy root rootLevel rows change).summary.worstRisk ≤
      (ofDependents settings policy root rootLevel rows' change).summary.worstRisk) :
    (ofDependents settings policy root rootLevel rows change).summary.Below
      (ofDependents settings policy root rootLevel rows' change).summary := by
  have hle : (ofDependents settings policy root rootLevel rows change).summary.worstSeverity.le
      (ofDependents settings policy root rootLevel rows' change).summary.worstSeverity := by
    rw [worstSeverity_eq, worstSeverity_eq]
    exact Risk.severity_mono h
  exact ⟨h, hle, policy.requires_mono hle⟩

theorem risk_eq_riskAtDepth (hp : p ∈ (ofDependents settings policy root rootLevel rows change).paths) :
    p.risk = p.riskAtDepth change p.depth :=
  risk_of_mem_paths hp

/-- A path over the hops of another and more, where no object has a lower level, has at least the risk that the other
would have at its depth. -/
theorem riskAtDepth_le_risk (hp : p ∈ (ofDependents settings policy root rootLevel rows change).paths)
    (hp' : p' ∈ (ofDependents settings policy root rootLevel rows' change).paths)
    (hhops : p.trail.hops ⊆ p'.trail.hops)
    (hlevel : ∀ hop ∈ p.trail.hops, Graph.level root.entity rootLevel rows settings.defaultCriticality hop.entity ≤
      Graph.level root.entity rootLevel rows' settings.defaultCriticality hop.entity) :
    p.riskAtDepth change p'.depth ≤ p'.risk := by
  obtain ⟨husage, hworst⟩ := Path.worst_le_of_hops_subset hhops fun s hs s' hs' he => by
    rw [criticality_of_mem_steps hp hs, criticality_of_mem_steps hp' hs', ← he]
    exact hlevel s.hop (List.mem_map_of_mem hs)
  rw [risk_of_mem_paths hp']
  exact Path.riskAtDepth_le change _ husage hworst

section

variable (hv : settings.fault? = none)
  (h : (ofDependents settings policy root rootLevel rows change).isTruncated = false)
include hv h

/-- Where no limit is recorded, no simple trail is longer than the depth allows. -/
theorem length_le_of_not_truncated {t : Trail}
    (ht : (Graph.ofDependents root rootLevel settings.defaultCriticality rows).IsSimple t) :
    t.hops.length ≤ settings.maxDepth := by
  have he := exhausts_of_no_limit_paths hv fun cap => not_mem_limits h (.paths cap)
  exact he.length_le (not_mem_limits h _) (Settings.bounds_of_fault?_eq_none hv).1 ht

theorem mem_trails_of_not_truncated {t : Trail} :
    t ∈ (ofDependents settings policy root rootLevel rows change).paths.map Path.trail ↔
      (Graph.ofDependents root rootLevel settings.defaultCriticality rows).IsSimple t ∧ t.hops ≠ [] ∧
        (Graph.ofDependents root rootLevel settings.defaultCriticality rows).continuations t = [] := by
  rw [mem_trails_ofDependents hv fun cap => not_mem_limits h (.paths cap)]
  constructor
  · intro ⟨hs, hne, hle, hends⟩
    refine ⟨hs, hne, hends.elim (fun heq => ?_) Graph.continuations_eq_nil.2⟩
    -- a step further would be beyond the depth
    refine List.eq_nil_iff_forall_not_mem.2 fun hop hhop => ?_
    have hlong := length_le_of_not_truncated hv h (Graph.isSimple_extend.2 ⟨hs, hhop⟩)
    rw [Trail.hops_extend, List.length_append, List.length_singleton, heq] at hlong
    omega
  · intro ⟨hs, hne, hc⟩
    exact ⟨hs, hne, length_le_of_not_truncated hv h hs, .inr (Graph.continuations_eq_nil.1 hc)⟩

/-- Every simple trail that leaves the root begins a path. -/
theorem exists_path_of_isSimple {t : Trail}
    (ht : (Graph.ofDependents root rootLevel settings.defaultCriticality rows).IsSimple t) (hne : t.hops ≠ []) :
    ∃ p ∈ (ofDependents settings policy root rootLevel rows change).paths, t.hops <+: p.trail.hops := by
  obtain ⟨t', ht', hprefix⟩ := ht.exists_isMaximal hne (length_le_of_not_truncated hv h ht)
  have hmem := (mem_trails_ofDependents hv (fun cap => not_mem_limits h (.paths cap)) t').2 ht'
  obtain ⟨p, hp, rfl⟩ := List.mem_map.1 hmem
  exact ⟨p, hp, hprefix⟩

/-- A path that a row does not take further is still there when the row is added, and one that it takes further begins
another path. -/
theorem exists_path_append
    (h' : (ofDependents settings policy root rootLevel (rows ++ [row]) change).isTruncated = false)
    (hp : p ∈ (ofDependents settings policy root rootLevel rows change).paths) :
    ∃ p' ∈ (ofDependents settings policy root rootLevel (rows ++ [row]) change).paths,
      (¬ row.Continues p.trail → p'.trail = p.trail) ∧
      (row.Continues p.trail → p.trail.hops ++ [row.hop] <+: p'.trail.hops) := by
  obtain ⟨hs, hne, hc⟩ := (mem_trails_of_not_truncated hv h).1 (List.mem_map_of_mem hp)
  have hs' := hs.append row
  by_cases hrow : row.Continues p.trail
  · have hx := Graph.isSimple_extend.2 ⟨hs', Graph.mem_continuations_append.2 (.inr ⟨hrow, rfl⟩)⟩
    obtain ⟨p', hp', hprefix⟩ := exists_path_of_isSimple hv h' hx (by simp)
    exact ⟨p', hp', fun hn => absurd hrow hn, fun _ => hprefix⟩
  · have hc' : (Graph.ofDependents root rootLevel settings.defaultCriticality (rows ++ [row])).continuations p.trail =
        [] := by
      refine List.eq_nil_iff_forall_not_mem.2 fun hop hhop => ?_
      rcases Graph.mem_continuations_append.1 hhop with hhop | ⟨hcont, _⟩
      · exact absurd (hc ▸ hhop) List.not_mem_nil
      · exact hrow hcont
    obtain ⟨p', hp', htrail⟩ := List.mem_map.1 ((mem_trails_of_not_truncated hv h').2 ⟨hs', hne, hc'⟩)
    exact ⟨p', hp', fun _ => htrail, fun hcont => absurd hcont hrow⟩

/-- If the levels of all objects stay as they are, the first of these paths keeps its risk, and the other one has at
least the risk that the shorter path would have at its depth. -/
theorem exists_risk_append
    (h' : (ofDependents settings policy root rootLevel (rows ++ [row]) change).isTruncated = false)
    (hlevel : ∀ e ∈ (Graph.ofDependents root rootLevel settings.defaultCriticality rows).entities,
      Graph.level root.entity rootLevel rows settings.defaultCriticality e =
        Graph.level root.entity rootLevel (rows ++ [row]) settings.defaultCriticality e)
    (hp : p ∈ (ofDependents settings policy root rootLevel rows change).paths) :
    ∃ p' ∈ (ofDependents settings policy root rootLevel (rows ++ [row]) change).paths,
      (¬ row.Continues p.trail → p'.trail = p.trail ∧ p'.risk = p.risk) ∧
      (row.Continues p.trail → p.trail.hops ++ [row.hop] <+: p'.trail.hops) ∧
      p.depth ≤ p'.depth ∧ p.riskAtDepth change p'.depth ≤ p'.risk := by
  obtain ⟨hs, _⟩ := (mem_trails_of_not_truncated hv h).1 (List.mem_map_of_mem hp)
  have hlevels : ∀ hop ∈ p.trail.hops,
      Graph.level root.entity rootLevel rows settings.defaultCriticality hop.entity =
        Graph.level root.entity rootLevel (rows ++ [row]) settings.defaultCriticality hop.entity := fun hop hhop =>
    hlevel _ (hs.entities_subset (Graph.ofDependents_wellFormed _ _ _ _)
      (List.mem_cons_of_mem _ (List.mem_map_of_mem hhop)))
  obtain ⟨p', hp', hsame, hlonger⟩ := exists_path_append hv h h' hp
  have hprefix : p.trail.hops <+: p'.trail.hops := by
    by_cases hrow : row.Continues p.trail
    · exact (List.prefix_append _ _).trans (hlonger hrow)
    · rw [hsame hrow]
  have hdepth : p.depth ≤ p'.depth := by
    simpa only [Path.length_hops_trail] using hprefix.length_le
  have hrisk := riskAtDepth_le_risk hp hp' hprefix.subset fun hop hhop => (hlevels hop hhop).le
  refine ⟨p', hp', fun hrow => ⟨hsame hrow, ?_⟩, hlonger, hdepth, hrisk⟩
  -- over the same hops, each risk is at least the other
  have htrail := hsame hrow
  have hdepth' : p'.depth = p.depth := by
    rw [← p'.length_hops_trail, htrail, p.length_hops_trail]
  have hrisk' := riskAtDepth_le_risk hp' hp (htrail ▸ List.Subset.refl _) fun hop hhop =>
    (hlevels hop (htrail ▸ hhop)).ge
  rw [hdepth', ← risk_eq_riskAtDepth hp] at hrisk
  rw [← hdepth', ← risk_eq_riskAtDepth hp'] at hrisk'
  exact Nat.le_antisymm hrisk' hrisk

end

/-- One more row that leaves the levels of all objects as they are lowers the risk of a change only by the depth of the
paths that it takes further. If some path of the worst risk is not among these, or is so deep that its depth counts no
more, then nothing is better than before. All other paths keep their risks. -/
theorem summary_below_append (hv : settings.fault? = none)
    (h : (ofDependents settings policy root rootLevel rows change).isTruncated = false)
    (h' : (ofDependents settings policy root rootLevel (rows ++ [row]) change).isTruncated = false)
    (hlevel : ∀ e ∈ (Graph.ofDependents root rootLevel settings.defaultCriticality rows).entities,
      Graph.level root.entity rootLevel rows settings.defaultCriticality e =
        Graph.level root.entity rootLevel (rows ++ [row]) settings.defaultCriticality e) :
    let a := ofDependents settings policy root rootLevel rows change
    let a' := ofDependents settings policy root rootLevel (rows ++ [row]) change
    ((a.paths = [] ∨ ∃ p ∈ a.paths, p.risk = a.summary.worstRisk ∧
        (¬ row.Continues p.trail ∨ Risk.depthPercent p.depth = Risk.leastDepthPercent)) →
      a.summary.Below a'.summary) ∧
    (∀ p ∈ a.paths, ∃ p' ∈ a'.paths,
      (¬ row.Continues p.trail → p'.trail = p.trail ∧ p'.risk = p.risk) ∧
      (row.Continues p.trail →
        p.trail.hops ++ [row.hop] <+: p'.trail.hops ∧ p.riskAtDepth change p'.depth ≤ p'.risk)) ∧
    a.summary.worstRisk / 2 ≤ a'.summary.worstRisk := by
  intro a a'
  have hexists {p : Path} (hp : p ∈ a.paths) := exists_risk_append hv h h' hlevel hp
  have hworst {p' : Path} (hp' : p' ∈ a'.paths) : p'.risk ≤ a'.summary.worstRisk :=
    Summary.risk_le_worstRisk root hp'
  refine ⟨fun hcond => summary_below ?_, fun p hp => ?_, ?_⟩
  · rcases hcond with hnil | ⟨p, hp, hrisk, hrow⟩
    · exact (worstRisk_eq_zero_iff.2 hnil).trans_le (Nat.zero_le _)
    · obtain ⟨p', hp', hsame, _, hdepth, hle⟩ := hexists hp
      refine (hrisk.symm.le.trans ?_).trans (hworst hp')
      rcases hrow with hrow | hdeep
      · exact (hsame hrow).2.ge
      · -- the depth counts no more for the longer path either
        have hdeep' : Risk.depthPercent p'.depth = Risk.depthPercent p.depth := by
          simp only [Risk.depthPercent, Risk.leastDepthPercent, Risk.stepPercent] at hdeep ⊢
          omega
        rw [risk_eq_riskAtDepth hp, Path.riskAtDepth, ← hdeep']
        exact hle
  · obtain ⟨p', hp', hsame, hlonger, _, hle⟩ := hexists hp
    exact ⟨p', hp', hsame, fun hrow => ⟨hlonger hrow, hle⟩⟩
  · by_cases hnil : a.paths = []
    · rw [worstRisk_eq_zero_iff.2 hnil]
      exact Nat.zero_le _
    · obtain ⟨p, hp, hrisk⟩ := Summary.exists_worstRisk_eq root hnil
      obtain ⟨p', hp', _, _, _, hle⟩ := hexists hp
      have hhalf := p.half_riskAtDepth_le change p.depth p'.depth
      rw [← risk_eq_riskAtDepth hp] at hhalf
      calc a.summary.worstRisk / 2 = p.risk / 2 := congrArg (· / 2) hrisk
        _ ≤ p.riskAtDepth change p'.depth := hhalf
        _ ≤ p'.risk := hle
        _ ≤ a'.summary.worstRisk := hworst hp'

/-- A critical procedure that deletes rows of a table. -/
def criticalWriter : Dependent :=
  ⟨⟨⟨.procedure, 10⟩, none⟩, ⟨⟨.table, 1⟩, none⟩, .delete, 1, some 5⟩

/-- A view that reads the table. -/
def reader : Dependent :=
  ⟨⟨⟨.view, 20⟩, none⟩, ⟨⟨.table, 1⟩, none⟩, .select, 1, none⟩

/-- A procedure that reads the view. -/
def indirectReader : Dependent :=
  ⟨⟨⟨.procedure, 30⟩, none⟩, ⟨⟨.view, 20⟩, none⟩, .select, 2, none⟩

/-- A procedure that calls the critical one. -/
def caller : Dependent :=
  ⟨⟨⟨.procedure, 11⟩, none⟩, ⟨⟨.procedure, 10⟩, none⟩, .exec, 2, none⟩

/-- Nothing gets better by a row that takes only the path to the view further. -/
theorem summary_below_append_indirectReader :
    let settings : Settings := ⟨10, 10000, .critical, 3⟩
    let rows := [criticalWriter, reader]
    let a := ofDependents settings ⟨.critical⟩ ⟨⟨.table, 1⟩, none⟩ (some 2) rows .modify
    let a' := ofDependents settings ⟨.critical⟩ ⟨⟨.table, 1⟩, none⟩ (some 2) (rows ++ [indirectReader]) .modify
    settings.fault? = none ∧ a.isTruncated = false ∧ a'.isTruncated = false ∧
      (∃ p ∈ a.paths, p.risk = a.summary.worstRisk ∧ ¬ indirectReader.Continues p.trail) ∧
      a.summary.Below a'.summary ∧ a'.summary.requiresApproval = true := by
  intro settings rows a a'
  have hv : settings.fault? = none := by decide
  have h : a.isTruncated = false := by decide +kernel
  have h' : a'.isTruncated = false := by decide +kernel
  have hworst : ∃ p ∈ a.paths, p.risk = a.summary.worstRisk ∧ ¬ indirectReader.Continues p.trail := by
    decide +kernel
  obtain ⟨hbelow, _⟩ := summary_below_append hv h h' fun e _ =>
    (Graph.level_append_of_unannotated _ _ _ _ e rfl).symm
  obtain ⟨p, hp, hrisk, hrow⟩ := hworst
  exact ⟨hv, h, h', ⟨p, hp, hrisk, hrow⟩, hbelow (.inr ⟨p, hp, hrisk, .inl hrow⟩), by decide +kernel⟩

/-- The caller of the critical procedure takes the only path further, so the change is of a lower risk once the caller
is known, and needs no approval any more. -/
theorem worstRisk_additionalCaller :
    let settings : Settings := ⟨10, 10000, .critical, 3⟩
    let root : NamedEntity := ⟨⟨.table, 1⟩, none⟩
    let a := ofDependents settings ⟨.critical⟩ root none [criticalWriter] .modify
    let a' := ofDependents settings ⟨.critical⟩ root none ([criticalWriter] ++ [caller]) .modify
    settings.fault? = none ∧ a.isTruncated = false ∧ a'.isTruncated = false ∧
      (∀ e, Graph.level root.entity none [criticalWriter] settings.defaultCriticality e =
        Graph.level root.entity none ([criticalWriter] ++ [caller]) settings.defaultCriticality e) ∧
      ¬ a.summary.worstRisk ≤ a'.summary.worstRisk ∧ ¬ a.summary.worstSeverity.le a'.summary.worstSeverity ∧
      a.summary.requiresApproval = true ∧ a'.summary.requiresApproval = false := by
  intro settings root a a'
  have hlevel : ∀ e, Graph.level root.entity none [criticalWriter] settings.defaultCriticality e =
      Graph.level root.entity none ([criticalWriter] ++ [caller]) settings.defaultCriticality e :=
    fun e => (Graph.level_append_of_unannotated _ _ _ _ e rfl).symm
  exact ⟨by decide, by decide +kernel, by decide +kernel, hlevel, by decide +kernel, by decide +kernel,
    by decide +kernel, by decide +kernel⟩

end Analysis

end ChangeImpact
