import ChangeImpact.Proofs.Aggregation
import ChangeImpact.Proofs.Monotone

/-!
# The summary and the exposures

The summary speaks for the first of the worst paths, and its trigger is the first of the most critical nodes on that
path.  Three searches have a part in this: one over the paths for the summary, one over the nodes of each path for its
score, and one over the paths through each entity for its exposure.  All find the first of the greatest, and what is
the first of the worst paths is so among those through one of its entities (`IsFirstGreatest.filter`).  Therefore the
exposure of the trigger has the same worst path as the summary (`agrees_ofPaths`), and no exposure comes before it that
is not as bad (`exists_first_exposure`).
-/

namespace ChangeImpact

/-- The dominant node is the first of the most critical ones that a path affects. -/
theorem Risk.isFirstGreatest_dominant (p : Path) : IsFirstGreatest Node.criticality p.nodes.tail (dominant p) := by
  rw [Path.nodes, List.tail_cons]
  cases hsteps : p.steps with
  | nil => exact absurd hsteps p.steps_ne_nil
  | cons s ss =>
    have hdominant : dominant p = (ss.map Step.node).foldl
        (fun best n => if n.criticality > best.criticality then n else best) s.node := by
      rw [dominant, hsteps, List.foldl_map]
    rw [hdominant, List.map_cons]
    exact isFirstGreatest_foldl Node.criticality s.node (ss.map Step.node)

/-- The path has been evaluated for the change. -/
def Path.IsEvaluated (change : Change) (p : Path) : Prop :=
  p.score = some (Risk.score change p)

theorem Path.IsEvaluated.isGraded {change : Change} {p : Path} (h : p.IsEvaluated change) : p.IsGraded := by
  rw [IsGraded, severity, risk, h]
  rfl

theorem Exposure.Precedes.worstRisk_le {x y : Exposure} (h : x.Precedes y) : y.worstRisk ≤ x.worstRisk := by
  rcases h with h | ⟨h, _⟩ <;> omega

namespace Summary

variable {change : Change} {paths : List Path} {p : Path}

/-- The summary and the exposures tell the same of the paths, by a path and a node on it that stand behind both. -/
structure Agrees (paths : List Path) (xs : List Exposure) (s : Summary) (p : Path) (n : Node) : Prop where
  worstRisk : IsGreatest {r | ∃ q ∈ paths, q.risk = r} s.worstRisk
  worstSeverity : (∃ q ∈ paths, q.severity = s.worstSeverity) ∧ ∀ q ∈ paths, q.severity.le s.worstSeverity
  path : IsFirstGreatest Path.risk paths p
  risk_path : p.risk = s.worstRisk
  triggerPath : s.triggerPath = some p.id
  node : IsFirstGreatest Node.criticality p.nodes.tail n
  trigger : s.trigger = n.object
  exposed : ∃ x ∈ xs, x.entity = s.trigger.entity ∧ x.worstRisk = s.worstRisk ∧
    x.worstSeverity = s.worstSeverity ∧ s.triggerPath = some x.dominantPath
  first : ∃ x rest, xs = x :: rest ∧ x.worstRisk = s.worstRisk

/-- The summary is made of the first of the worst paths. -/
theorem exists_isFirstGreatest (root : NamedEntity) (hne : paths ≠ []) (hscore : ∀ p ∈ paths, p.IsEvaluated change) :
    ∃ p, IsFirstGreatest Path.risk paths p ∧
      ofPaths root paths = ⟨p.severity, p.risk, (Risk.dominant p).object, some p.id, false⟩ := by
  cases paths with
  | nil => exact absurd rfl hne
  | cons p ps =>
    have hworst := p.isFirstGreatest_worst ps
    refine ⟨p.worst ps, hworst, ?_⟩
    simp only [ofPaths]
    rw [hscore _ hworst.mem]
    rfl

/-- An entity on the first of the worst paths is exposed by that path first of all. -/
theorem exists_exposure (hids : (paths.map Path.id).Nodup) (hp : IsFirstGreatest Path.risk paths p) {e : Entity}
    (he : e ∈ p.affected) :
    ∃ x ∈ Exposure.ofPaths paths, x.entity = e ∧
      x.worstRisk = p.risk ∧ x.worstSeverity = p.severity ∧ x.dominantPath = p.id := by
  obtain ⟨x, hx, rfl⟩ := List.mem_map.1 (Exposure.mem_entities_iff.2 ⟨p, hp.mem, he⟩)
  obtain ⟨q, hq, hdominant⟩ := (Exposure.describes_ofPaths hids hx).dominant
  obtain rfl := hq.eq (hp.filter (decide_eq_true he))
  exact ⟨x, hx, rfl, hdominant⟩

/-- No exposure is worse than the worst path. -/
theorem worstRisk_exposure_le (hids : (paths.map Path.id).Nodup) (hp : IsFirstGreatest Path.risk paths p)
    {x : Exposure} (hx : x ∈ Exposure.ofPaths paths) : x.worstRisk ≤ p.risk := by
  obtain ⟨q, hq, hrisk, _⟩ := (Exposure.describes_ofPaths hids hx).dominant
  rw [hrisk]
  exact hp.le (Path.mem_through.1 hq.mem).1

/-- If an exposure is as bad as the worst path, then the first one is. -/
theorem exists_first_exposure (hids : (paths.map Path.id).Nodup) (hp : IsFirstGreatest Path.risk paths p)
    {x : Exposure} (hx : x ∈ Exposure.ofPaths paths) (hrisk : x.worstRisk = p.risk) :
    ∃ y rest, Exposure.ofPaths paths = y :: rest ∧ y.worstRisk = p.risk := by
  have hsorted := Exposure.sorted_ofPaths paths
  cases hxs : Exposure.ofPaths paths with
  | nil => exact absurd (hxs ▸ hx) List.not_mem_nil
  | cons y ys =>
    have hle : p.risk ≤ y.worstRisk := by
      rw [hxs] at hx hsorted
      rcases List.mem_cons.1 hx with rfl | hx
      · exact Nat.le_of_eq hrisk.symm
      · exact hrisk ▸ ((List.pairwise_cons.1 hsorted).1 x hx).worstRisk_le
    have hge := worstRisk_exposure_le hids hp (hxs ▸ List.mem_cons_self : y ∈ Exposure.ofPaths paths)
    exact ⟨y, ys, rfl, Nat.le_antisymm hge hle⟩

/-- The summary of paths that are evaluated for one change agrees with their exposures. -/
theorem agrees_ofPaths (root : NamedEntity) (hne : paths ≠ []) (hids : (paths.map Path.id).Nodup)
    (hscore : ∀ p ∈ paths, p.IsEvaluated change) :
    ∃ p n, Agrees paths (Exposure.ofPaths paths) (ofPaths root paths) p n := by
  obtain ⟨p, hp, hsummary⟩ := exists_isFirstGreatest root hne hscore
  have hnode := Risk.isFirstGreatest_dominant p
  obtain ⟨x, hx, he, hrisk, hseverity, hpath⟩ := exists_exposure hids hp (List.mem_map_of_mem hnode.mem)
  have hgreatest : IsGreatest {r | ∃ q ∈ paths, q.risk = r} p.risk := by
    refine ⟨⟨p, hp.mem, rfl⟩, ?_⟩
    rintro _ ⟨q, hq, rfl⟩
    exact hp.le hq
  have hseverest : ∀ q ∈ paths, q.severity.le p.severity := by
    intro q hq
    rw [(hscore q hq).isGraded, (hscore p hp.mem).isGraded]
    exact Risk.severity_mono (hp.le hq)
  refine ⟨p, Risk.dominant p, ?_⟩
  rw [hsummary]
  exact {
    worstRisk := hgreatest
    worstSeverity := ⟨⟨p, hp.mem, rfl⟩, hseverest⟩
    path := hp
    risk_path := rfl
    triggerPath := rfl
    node := hnode
    trigger := rfl
    exposed := ⟨x, hx, he, hrisk, hseverity, congrArg some hpath.symm⟩
    first := exists_first_exposure hids hp hx hrisk }

open Exposure (readsAndDeletion)

theorem agrees_ofPaths_readsAndDeletion :
    (readsAndDeletion ≠ [] ∧ (readsAndDeletion.map Path.id).Nodup ∧
        ∀ p ∈ readsAndDeletion, p.IsEvaluated .modify) ∧
      ∃ p n, Agrees readsAndDeletion (Exposure.ofPaths readsAndDeletion)
        (ofPaths ⟨⟨.procedure, 1⟩, none⟩ readsAndDeletion) p n := by
  have hne : readsAndDeletion ≠ [] := List.cons_ne_nil _ _
  have hids : (readsAndDeletion.map Path.id).Nodup := by decide
  have hscore : ∀ p ∈ readsAndDeletion, p.IsEvaluated .modify := by
    intro p hp
    obtain ⟨q, _, rfl⟩ := List.mem_map.1 hp
    rfl
  exact ⟨⟨hne, hids, hscore⟩, agrees_ofPaths _ hne hids hscore⟩

-- of two procedures on the worst path that are alike critical, the nearer one is the trigger
example : ofPaths ⟨⟨.procedure, 1⟩, none⟩ readsAndDeletion =
    ⟨.medium, 108, ⟨⟨.procedure, 3⟩, none⟩, some "deletion", false⟩ := by
  decide +kernel

end Summary

end ChangeImpact
