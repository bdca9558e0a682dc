import ChangeImpact.Proofs.Agreement
import ChangeImpact.Proofs.Exposure
import Mathlib.Data.List.Forall2

/-!
# Risk grows with criticality

Two analyses of the same rows, but for the annotations, find the same paths, since a walk sees the links of a graph only
(`Graph.Below.walk_eq`).  If no object is more critical in the first and its change is not the graver one, then nothing
is worse in it: neither a path (`Path.Below.evaluate`), nor an object (`Exposure.ofVisits_le`), nor the change as a
whole (`Analysis.below_of_level_le`).
-/

namespace ChangeImpact

/-! ### Change, severity and risk -/

/-- The place of a change in the order of gravity. -/
def Change.rank : Change → Nat
  | .create => 0
  | .modify => 1
  | .delete => 2

theorem Risk.changePercent_mono {c c' : Change} (h : c.rank ≤ c'.rank) : changePercent c ≤ changePercent c' := by
  cases c <;> cases c' <;> first | decide | exact absurd h (by decide)

/-- The severity of a risk is the highest whose floor it reaches. -/
theorem Risk.severity_eq (risk : Nat) :
    severity risk =
      if 200 ≤ risk then .critical else if 120 ≤ risk then .high else if 50 ≤ risk then .medium
      else if 1 ≤ risk then .low else .none := by
  simp only [severity, floors, List.find?_cons, List.find?_nil]
  split_ifs <;> simp only [*, decide_true, decide_false, Option.map_some, Option.getD_some, Option.map_none,
    Option.getD_none]

theorem Risk.severity_mono {r r' : Nat} (h : r ≤ r') : (severity r).le (severity r') := by
  rw [severity_eq, severity_eq]
  split_ifs <;> first | rfl | omega

/-- Approval that is needed from a severity on is needed from a worse one on. -/
theorem ApprovalPolicy.requires_mono (policy : ApprovalPolicy) {s s' : Severity} (h : s.le s')
    (hs : policy.requires s) : policy.requires s' := by
  simp only [requires, Severity.le, Bool.and_eq_true, bne_iff_ne, ne_eq, decide_eq_true_eq] at *
  refine ⟨fun hnone => hs.1 ?_, hs.2.trans h⟩
  subst hnone
  cases s <;> first | rfl | exact absurd h (by decide)

/-! ### Nodes and steps -/

/-- The same object, not more critical. -/
structure Node.Below (n n' : Node) : Prop where
  object_eq : n.object = n'.object
  criticality_le : n.criticality ≤ n'.criticality

theorem Node.Below.entity_eq {n n' : Node} (h : n.Below n') : n.entity = n'.entity :=
  congrArg NamedEntity.entity h.object_eq

/-- The same use of the same object, not more critical. -/
structure Step.Below (s s' : Step) : Prop where
  usage_eq : s.usage = s'.usage
  node : s.node.Below s'.node

theorem Step.Below.entity_eq {s s' : Step} (h : s.Below s') : s.entity = s'.entity :=
  h.node.entity_eq

theorem Step.Below.hop_eq {s s' : Step} (h : s.Below s') : s.hop = s'.hop := by
  rw [hop, hop, h.usage_eq, h.entity_eq]

/-- Related lists are mapped to the same, if related elements are. -/
theorem map_eq_of_forall₂ {α β γ : Type} {r : α → β → Prop} {f : α → γ} {f' : β → γ} {as : List α} {bs : List β}
    (h : List.Forall₂ r as bs) (hf : ∀ a b, r a b → f a = f' b) : as.map f = bs.map f' := by
  have heq : List.Forall₂ Eq (as.map f) (bs.map f') :=
    List.forall₂_map_left_iff.2 (List.forall₂_map_right_iff.2 (h.imp hf))
  rwa [List.forall₂_eq_eq_eq] at heq

/-! ### Paths -/

/-- The same path over objects that are not more critical, with no higher risk and no worse severity. -/
structure Path.Below (p p' : Path) : Prop where
  id_eq : p.id = p'.id
  root : p.root.Below p'.root
  steps : List.Forall₂ Step.Below p.steps p'.steps
  risk_le : p.risk ≤ p'.risk
  severity_le : p.severity.le p'.severity

namespace Path

variable {p p' : Path}

theorem worstUsage_eq (h : List.Forall₂ Step.Below p.steps p'.steps) : p.worstUsage = p'.worstUsage := by
  rw [worstUsage, worstUsage, usages, usages, map_eq_of_forall₂ h fun _ _ hs => hs.usage_eq]

theorem worstCriticality_le (h : List.Forall₂ Step.Below p.steps p'.steps) :
    p.worstCriticality ≤ p'.worstCriticality := by
  have hfold {n n' : Nat} {ss ss' : List Step} (h : List.Forall₂ Step.Below ss ss') (hn : n ≤ n') :
      ss.foldl (fun level s => max level s.node.criticality) n ≤
        ss'.foldl (fun level s => max level s.node.criticality) n' := by
    induction h generalizing n n' with
    | nil => exact hn
    | cons hs _ ih => exact ih (max_le_max hn hs.node.criticality_le)
  exact hfold h (Nat.le_refl 0)

/-- For a change that is not graver the path gets no higher risk. -/
theorem Below.evaluate (h : p.Below p') {c c' : Change} (hc : c.rank ≤ c'.rank) :
    (Risk.evaluate c p).Below (Risk.evaluate c' p') := by
  have hrisk : Risk.ofPath c p ≤ Risk.ofPath c' p' := by
    have hdepth : p.depth = p'.depth := h.steps.length_eq
    rw [Risk.ofPath, Risk.ofPath, worstUsage_eq h.steps, hdepth]
    refine Nat.div_le_div_right (Nat.mul_le_mul_right _ (Nat.mul_le_mul ?_ (Risk.changePercent_mono hc)))
    exact Nat.mul_le_mul_left _ (worstCriticality_le h.steps)
  exact ⟨h.id_eq, h.root, h.steps, hrisk, Risk.severity_mono hrisk⟩

private theorem zipWith_below {others others' : List Node} (h : List.Forall₂ Node.Below others others')
    (usages : List Usage) :
    List.Forall₂ Step.Below (List.zipWith Step.mk usages others) (List.zipWith Step.mk usages others') := by
  induction h generalizing usages with
  | nil => simp
  | cons hn _ ih =>
    cases usages with
    | nil => exact .nil
    | cons u usages => exact .cons ⟨rfl, hn⟩ (ih usages)

/-- The same objects make a path or do not, whatever their criticality. -/
theorem ofNodes?_below {nodes nodes' : List Node} (h : List.Forall₂ Node.Below nodes nodes') (usages : List Usage) :
    Option.Rel Below (ofNodes? nodes usages) (ofNodes? nodes' usages) := by
  cases h with
  | nil => exact .none
  | @cons root root' others others' hroot hothers =>
    have hsteps := zipWith_below hothers usages
    have hentities := map_eq_of_forall₂ hsteps fun _ _ hs => hs.entity_eq
    have hhops := map_eq_of_forall₂ hsteps fun _ _ hs => hs.hop_eq
    have hnil : List.zipWith Step.mk usages others ≠ [] ↔ List.zipWith Step.mk usages others' ≠ [] := by
      rw [← List.length_pos_iff, ← List.length_pos_iff, hsteps.length_eq]
    simp only [ofNodes?, hothers.length_eq, hnil, hentities, hroot.entity_eq]
    split
    · split
      · exact .some ⟨by simp only [hhops], hroot, hsteps, Nat.le_refl 0, rfl⟩
      · exact .none
    · exact .none

end Path

/-! ### Graphs -/

/-- The same objects and links, where no object is more critical. -/
structure Graph.Below (g g' : Graph) : Prop where
  root : g.root.Below g'.root
  others : List.Forall₂ Node.Below g.others g'.others
  links_eq : g.links = g'.links

/-- The row without its annotation. -/
def Dependent.unannotated (row : Dependent) : Dependent :=
  { row with criticality := none }

namespace Graph

variable {g g' : Graph} {caps : Caps}

theorem Below.continuations_eq (h : g.Below g') (t : Trail) : g.continuations t = g'.continuations t := by
  simp only [continuations, affected, h.links_eq]

/-- Both graphs are walked through in the same way. -/
theorem Below.walk_eq (h : g.Below g') (levels kept : Nat) (level : List Trail) :
    g.walk caps levels kept level = g'.walk caps levels kept level := by
  induction levels generalizing kept level with
  | zero => rfl
  | succ levels ih =>
    have hfirst := @walkLevel_congr g g' caps level kept level.length fun t _ => h.continuations_eq t
    simp only [walk, hfirst, ih]

theorem Below.node?_rel (h : g.Below g') (e : Entity) : Option.Rel Node.Below (g.node? e) (g'.node? e) := by
  have hnodes : List.Forall₂ Node.Below g.nodes g'.nodes := .cons h.root h.others
  rw [node?, node?]
  generalize g.nodes = ns, g'.nodes = ns' at hnodes
  induction hnodes with
  | nil => exact .none
  | @cons n n' _ _ hn _ ih =>
    rw [List.find?_cons, List.find?_cons, hn.entity_eq]
    split
    · exact .some hn
    · exact ih

private theorem Below.mapM_node?_rel (h : g.Below g') (es : List Entity) :
    Option.Rel (List.Forall₂ Node.Below) (es.mapM g.node?) (es.mapM g'.node?) := by
  induction es with
  | nil => exact .some .nil
  | cons e es ih =>
    rw [List.mapM_cons, List.mapM_cons]
    have hn := h.node?_rel e
    generalize g.node? e = n?, g'.node? e = n?' at hn
    generalize es.mapM g.node? = ns?, es.mapM g'.node? = ns?' at ih
    cases hn with
    | none => exact .none
    | some hn =>
      cases ih with
      | none => exact .none
      | some hns => exact .some (.cons hn hns)

theorem Below.path?_rel (h : g.Below g') (t : Trail) : Option.Rel Path.Below (g.path? t) (g'.path? t) := by
  have hnodes := h.mapM_node?_rel t.entities
  rw [path?, path?]
  generalize t.entities.mapM g.node? = ns?, t.entities.mapM g'.node? = ns?' at hnodes
  cases hnodes with
  | none => exact .none
  | some hns => exact Path.ofNodes?_below hns _

/-- Both enumerations find the same paths and record the same limits. -/
theorem Below.ofGraph (h : g.Below g') (caps : Caps) :
    List.Forall₂ Path.Below (Enumeration.ofGraph g caps).paths (Enumeration.ofGraph g' caps).paths ∧
      (Enumeration.ofGraph g caps).limits = (Enumeration.ofGraph g' caps).limits := by
  have hlength : g.nodes.length = g'.nodes.length := congrArg (· + 1) h.others.length_eq
  have hpaths (ts : List Trail) : List.Forall₂ Path.Below (ts.filterMap g.path?) (ts.filterMap g'.path?) := by
    induction ts with
    | nil => exact .nil
    | cons t ts ih =>
      have ht := h.path?_rel t
      rw [List.filterMap_cons, List.filterMap_cons]
      generalize g.path? t = p?, g'.path? t = p?' at ht
      cases ht with
      | none => exact ih
      | some hp => exact .cons hp ih
  simp only [Enumeration.ofGraph, h.walk_eq, hlength, h.root.entity_eq]
  exact ⟨hpaths _, trivial⟩

/-- Rows that differ in annotations only give the same objects and links. -/
theorem below_ofDependents {root : NamedEntity} {rootLevel rootLevel' : Option Int} {default default' : Nat}
    {rows rows' : List Dependent} (hrows : rows.map Dependent.unannotated = rows'.map Dependent.unannotated)
    (hlevel : ∀ e ∈ (ofDependents root rootLevel default rows).entities,
      level root.entity rootLevel rows default e ≤ level root.entity rootLevel' rows' default' e) :
    (ofDependents root rootLevel default rows).Below (ofDependents root rootLevel' default' rows') := by
  have hlinks : rows.map linkOf = rows'.map linkOf := by
    have h := congrArg (List.map linkOf) hrows
    rwa [List.map_map, List.map_map] at h
  have hmentions : mentions rows = mentions rows' := by
    have h := congrArg mentions hrows
    rwa [mentions, mentions, List.flatMap_map, List.flatMap_map] at h
  refine ⟨⟨rfl, hlevel _ (root_mem_entities _)⟩, ?_, ?_⟩
  · simp only [ofDependents, ← hmentions, List.forall₂_map_left_iff, List.forall₂_map_right_iff, List.forall₂_same]
    intro object hobject
    refine ⟨rfl, hlevel _ ?_⟩
    rw [entities_ofDependents]
    exact List.mem_cons_of_mem _ (List.mem_map_of_mem hobject)
  · simp only [ofDependents, hlinks]

end Graph

/-! ### The worst of several paths -/

namespace Path

/-- The severity is that of the risk. -/
def IsGraded (p : Path) : Prop :=
  p.severity = Risk.severity p.risk

theorem isGraded_evaluate (c : Change) (p : Path) : (Risk.evaluate c p).IsGraded := rfl

theorem worst_mem (p : Path) (ps : List Path) : p.worst ps ∈ p :: ps :=
  (p.isFirstGreatest_worst ps).mem

theorem risk_worst_le {p p' : Path} {ps ps' : List Path} (hp : p.risk ≤ p'.risk)
    (h : List.Forall₂ (fun q q' => q.risk ≤ q'.risk) ps ps') : (p.worst ps).risk ≤ (p'.worst ps').risk := by
  induction h generalizing p p' with
  | nil => exact hp
  | @cons q q' _ _ hq _ ih =>
    rw [worst, worst, List.foldl_cons, List.foldl_cons]
    refine ih ?_
    split_ifs <;> omega

/-- The worst of paths that are below others is not worse than the worst of those. -/
theorem worst_le {p p' : Path} {ps ps' : List Path} (h : List.Forall₂ Below (p :: ps) (p' :: ps'))
    (hg : ∀ q ∈ p :: ps, q.IsGraded) (hg' : ∀ q ∈ p' :: ps', q.IsGraded) :
    (p.worst ps).risk ≤ (p'.worst ps').risk ∧ (p.worst ps).severity.le (p'.worst ps').severity := by
  obtain ⟨hp, hps⟩ := List.forall₂_cons.1 h
  have hrisk := risk_worst_le hp.risk_le (hps.imp fun _ _ hq => hq.risk_le)
  rw [hg _ (worst_mem p ps), hg' _ (worst_mem p' ps')]
  exact ⟨hrisk, Risk.severity_mono hrisk⟩

end Path

/-! ### Visits and exposures -/

/-- The same visit on paths of which the first is below the second. -/
structure Visit.Below (v v' : Visit) : Prop where
  path : v.path.Below v'.path
  distance_eq : v.distance = v'.distance
  step : v.step.Below v'.step

theorem Path.Below.visits {p p' : Path} (h : p.Below p') : List.Forall₂ Visit.Below p.visits p'.visits := by
  have hindex {ss ss' : List Step} (hs : List.Forall₂ Step.Below ss ss') (n : Nat) :
      List.Forall₂ (fun a b : Step × Nat => a.1.Below b.1 ∧ a.2 = b.2) (ss.zipIdx n) (ss'.zipIdx n) := by
    induction hs generalizing n with
    | nil => exact .nil
    | cons hs _ ih => exact .cons ⟨hs, rfl⟩ (ih (n + 1))
  refine List.forall₂_map_left_iff.2 (List.forall₂_map_right_iff.2 ((hindex h.steps 0).imp fun a b hab => ?_))
  exact ⟨h, congrArg (· + 1) hab.2, hab.1⟩

theorem visits_below {paths paths' : List Path} (h : List.Forall₂ Path.Below paths paths') :
    List.Forall₂ Visit.Below (paths.flatMap Path.visits) (paths'.flatMap Path.visits) :=
  List.rel_flatMap h fun _ _ hp => hp.visits

namespace Exposure

variable {paths paths' : List Path}

private theorem cumulativeRisk_le {vs vs' : List Visit} (h : List.Forall₂ Visit.Below vs vs') :
    vs.foldr (fun v total => v.path.risk + total) 0 ≤ vs'.foldr (fun v total => v.path.risk + total) 0 := by
  induction h with
  | nil => exact Nat.le_refl 0
  | cons hv _ ih => exact Nat.add_le_add hv.path.risk_le ih

/-- The object of some visits fares no worse than that of visits on paths above. -/
theorem ofVisits_le {v v' : Visit} {vs vs' : List Visit} (h : List.Forall₂ Visit.Below (v :: vs) (v' :: vs'))
    (hg : ∀ w ∈ v :: vs, w.path.IsGraded) (hg' : ∀ w ∈ v' :: vs', w.path.IsGraded) :
    (ofVisits v vs).worstRisk ≤ (ofVisits v' vs').worstRisk ∧
      (ofVisits v vs).worstSeverity.le (ofVisits v' vs').worstSeverity ∧
      (ofVisits v vs).cumulativeRisk ≤ (ofVisits v' vs').cumulativeRisk := by
  have hpaths : List.Forall₂ Path.Below ((v :: vs).map Visit.path) ((v' :: vs').map Visit.path) :=
    List.forall₂_map_left_iff.2 (List.forall₂_map_right_iff.2 (h.imp fun _ _ hw => hw.path))
  obtain ⟨hrisk, hseverity⟩ := Path.worst_le hpaths (by simpa using hg) (by simpa using hg')
  exact ⟨hrisk, hseverity, cumulativeRisk_le h⟩

theorem perm_entities_ofPaths (h : List.Forall₂ Path.Below paths paths') :
    ((ofPaths paths).map entity).Perm ((ofPaths paths').map entity) := by
  have hvisits : (paths.flatMap Path.visits).map Visit.entity = (paths'.flatMap Path.visits).map Visit.entity :=
    map_eq_of_forall₂ (visits_below h) fun _ _ hv => hv.step.entity_eq
  refine (List.perm_ext_iff_of_nodup (nodup_entities_ofPaths paths) (nodup_entities_ofPaths paths')).2 fun e => ?_
  rw [mem_entities_ofPaths, mem_entities_ofPaths, ← List.mem_map, ← List.mem_map, hvisits]

theorem ofPaths_le (h : List.Forall₂ Path.Below paths paths') (hg : ∀ p ∈ paths, p.IsGraded)
    (hg' : ∀ p ∈ paths', p.IsGraded) {x x' : Exposure} (hx : x ∈ ofPaths paths) (hx' : x' ∈ ofPaths paths')
    (he : x.entity = x'.entity) :
    x.worstRisk ≤ x'.worstRisk ∧ x.worstSeverity.le x'.worstSeverity ∧ x.cumulativeRisk ≤ x'.cumulativeRisk := by
  obtain ⟨first, others, hv, rfl⟩ := mem_ofPaths.1 hx
  obtain ⟨first', others', hv', rfl⟩ := mem_ofPaths.1 hx'
  have hvisits := visits_below h
  -- the visits of the object are paired in both lists
  have hown : List.Forall₂ Visit.Below (first :: others) (first' :: others') := by
    rw [← hv, ← hv', he]
    refine List.rel_filter (fun v v' hw => ?_) hvisits
    have hentity : v.entity = v'.entity := hw.step.entity_eq
    simp only [hentity]
  have hgraded {paths : List Path} {e : Entity} {ws : List Visit} (hg : ∀ p ∈ paths, p.IsGraded)
      (hw : (paths.flatMap Path.visits).filter (·.entity = e) = ws) : ∀ w ∈ ws, w.path.IsGraded := by
    intro w hmem
    obtain ⟨p, hp, hmem⟩ := List.mem_flatMap.1 (List.mem_of_mem_filter (hw ▸ hmem))
    exact (Path.mem_visits.1 hmem).1 ▸ hg p hp
  exact ofVisits_le hown (hgraded hg hv) (hgraded hg' hv')

end Exposure

/-! ### Analyses -/

/-- The analyses find the same paths and objects, and nothing is worse in the first. -/
structure Analysis.Below (a a' : Analysis) : Prop where
  limits_eq : a.limits = a'.limits
  depthReached_eq : a.depthReached = a'.depthReached
  paths : List.Forall₂ Path.Below a.paths a'.paths
  entities_perm : (a.exposures.map Exposure.entity).Perm (a'.exposures.map Exposure.entity)
  exposures_le : ∀ x ∈ a.exposures, ∀ x' ∈ a'.exposures, x.entity = x'.entity →
    x.worstRisk ≤ x'.worstRisk ∧ x.worstSeverity.le x'.worstSeverity ∧ x.cumulativeRisk ≤ x'.cumulativeRisk
  risk_le : a.summary.worstRisk ≤ a'.summary.worstRisk
  severity_le : a.summary.worstSeverity.le a'.summary.worstSeverity
  requiresApproval : a.summary.requiresApproval → a'.summary.requiresApproval

theorem Enumeration.depthReached_eq {e e' : Enumeration} (h : List.Forall₂ Path.Below e.paths e'.paths) :
    e.depthReached = e'.depthReached := by
  have hdepth : e.paths.map Path.depth = e'.paths.map Path.depth :=
    map_eq_of_forall₂ h fun _ _ hp => hp.steps.length_eq
  have hfold (ps : List Path) (n : Nat) :
      ps.foldl (fun depth p => max depth p.depth) n = (ps.map Path.depth).foldl max n := by
    rw [List.foldl_map]
  rw [depthReached, depthReached, hfold, hfold, hdepth]

theorem Summary.ofPaths_le (root : NamedEntity) {paths paths' : List Path}
    (h : List.Forall₂ Path.Below paths paths') (hg : ∀ p ∈ paths, p.IsGraded) (hg' : ∀ p ∈ paths', p.IsGraded) :
    (ofPaths root paths).worstRisk ≤ (ofPaths root paths').worstRisk ∧
      (ofPaths root paths).worstSeverity.le (ofPaths root paths').worstSeverity := by
  cases h with
  | nil => exact ⟨Nat.le_refl 0, rfl⟩
  | cons hp hps => exact Path.worst_le (.cons hp hps) hg hg'

/-- Where no object is more critical and the change is not graver, nothing is worse. The analyses may assume different
criticalities of objects without an annotation, and have different annotations of all objects; what counts is the
level that each object has in the end. -/
theorem Analysis.below_of_level_le {settings settings' : Settings} (policy : ApprovalPolicy) (root : NamedEntity)
    {rootLevel rootLevel' : Option Int} {rows rows' : List Dependent} {change change' : Change}
    (hdepth : settings.maxDepth = settings'.maxDepth) (hpaths : settings.maxPaths = settings'.maxPaths)
    (hrows : rows.map Dependent.unannotated = rows'.map Dependent.unannotated)
    (hlevel : ∀ e, (e = root.entity ∨ ∃ row ∈ rows, row.target.entity = e ∨ row.source.entity = e) →
      Graph.level root.entity rootLevel rows settings.defaultCriticality e ≤
        Graph.level root.entity rootLevel' rows' settings'.defaultCriticality e)
    (hchange : change.rank ≤ change'.rank) :
    (ofDependents settings policy root rootLevel rows change).Below
      (ofDependents settings' policy root rootLevel' rows' change') := by
  have hcaps : caps settings' = caps settings := by rw [caps, caps, hdepth, hpaths]
  have hgraph : (Graph.ofDependents root rootLevel settings.defaultCriticality rows).Below
      (Graph.ofDependents root rootLevel' settings'.defaultCriticality rows') :=
    Graph.below_ofDependents hrows fun e he => hlevel e (Graph.mem_entities_ofDependents.1 he)
  obtain ⟨hfound, hlimits⟩ := hgraph.ofGraph (caps settings)
  simp only [ofDependents, hcaps]
  generalize Enumeration.ofGraph _ (caps settings) = e at hfound hlimits ⊢
  generalize Enumeration.ofGraph _ (caps settings) = e' at hfound hlimits ⊢
  have hscored : List.Forall₂ Path.Below (e.paths.map (Risk.evaluate change)) (e'.paths.map (Risk.evaluate change')) :=
    List.forall₂_map_left_iff.2 (List.forall₂_map_right_iff.2 (hfound.imp fun _ _ hp => hp.evaluate hchange))
  have hgraded (c : Change) (ps : List Path) : ∀ p ∈ ps.map (Risk.evaluate c), p.IsGraded := by
    intro p hp
    obtain ⟨q, _, rfl⟩ := List.mem_map.1 hp
    exact Path.isGraded_evaluate c q
  obtain ⟨hrisk, hseverity⟩ := Summary.ofPaths_le root hscored (hgraded _ _) (hgraded _ _)
  exact
    { limits_eq := hlimits
      depthReached_eq := Enumeration.depthReached_eq hfound
      paths := hscored
      entities_perm := Exposure.perm_entities_ofPaths hscored
      exposures_le := fun x hx x' hx' => Exposure.ofPaths_le hscored (hgraded _ _) (hgraded _ _) hx hx'
      risk_le := hrisk
      severity_le := hseverity
      requiresApproval := policy.requires_mono hseverity }

/-- A procedure that changes a table, annotated or not, and a view of the table that the procedure reads. -/
def writerAndView (criticality : Option Int) : List Dependent :=
  let table : NamedEntity := ⟨⟨.table, 1⟩, some "dbo.Orders"⟩
  let view : NamedEntity := ⟨⟨.view, 2⟩, none⟩
  let writer : NamedEntity := ⟨⟨.procedure, 3⟩, some "dbo.Archive"⟩
  [⟨writer, table, .delete, 1, criticality⟩, ⟨view, table, .schemaBinding, 1, none⟩,
    ⟨writer, view, .select, 2, criticality⟩]

/-- Approval is needed once the procedure is critical and the table is to be deleted. -/
theorem below_writerAndView :
    let settings : Settings := ⟨3, 10, .critical, 1⟩
    let a := Analysis.ofDependents settings ⟨.critical⟩ ⟨⟨.table, 1⟩, none⟩ none (writerAndView none) .modify
    let a' := Analysis.ofDependents settings ⟨.critical⟩ ⟨⟨.table, 1⟩, none⟩ (some 5) (writerAndView (some 4)) .delete
    a.Below a' ∧ a.summary.requiresApproval = false ∧ a'.summary.requiresApproval = true := by
  intro settings a a'
  refine ⟨Analysis.below_of_level_le _ _ rfl rfl (by decide) ?_ (by decide), by decide +kernel, by decide +kernel⟩
  rintro e (rfl | ⟨row, hrow, rfl | rfl⟩)
  · decide
  · revert row
    decide
  · revert row
    decide

end ChangeImpact
