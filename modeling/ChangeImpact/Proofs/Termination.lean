import ChangeImpact.Proofs.Queue

/-!
# The end of an enumeration

An enumeration takes the trails that wait one by one, and each may give others that wait after it.  No object is marked
as met for all trails together, and a huge cap on the depth bounds nothing.  It ends all the same (`ofGraph_ends`),
since no trail is taken twice and there are only finitely many simple ones:

* (no trail twice) a trail waits only after the one that it goes on from was taken, so what a trail gives when it is
  taken has neither been taken nor waits: `Distinguishes.take?`;
* (finitely many) a simple trail has fewer hops than there are objects: `finite_isSimple`.
-/

namespace ChangeImpact.Graph

variable {g : Graph} {caps : Caps} {depth : Nat} {t : Trail} {ts us taken : List Trail} {v w w' : Walk}

/-! ### Turns and runs -/

/-- Only the root waits. -/
def rootWaiting (g : Graph) : Walk :=
  ⟨[], [⟨g.root.entity, []⟩], [], false⟩

/-- Takes the first of the trails that wait. Nothing is taken once none waits or the enumeration was stopped. -/
def take? (g : Graph) (caps : Caps) (w : Walk) : Option (Trail × Walk) :=
  match w.stopped, w.waiting with
  | false, t :: ts =>
    let next := g.walkLevel caps w.kept.length (ts.length + 1) [t]
    some (t, ⟨w.kept ++ next.kept, ts ++ next.waiting, w.limits ++ next.limits, next.stopped⟩)
  | _, _ => none

/-- The trails that are taken on the way from one state to another, one in each turn. -/
inductive Takes (g : Graph) (caps : Caps) : Walk → List Trail → Walk → Prop
  | done (w : Walk) : g.Takes caps w [] w
  | take {w w' v : Walk} {t : Trail} {ts : List Trail} : g.take? caps w = some (t, w') → g.Takes caps w' ts v →
      g.Takes caps w (t :: ts) v

theorem take?_eq_some (h : g.take? caps w = some (t, w')) :
    ∃ ts, w.waiting = t :: ts ∧
      ∃ new, w'.waiting = ts ++ new ∧ new.Sublist (g.next caps.depth t) := by
  obtain ⟨kept, waiting, limits, stopped⟩ := w
  cases stopped with
  | true => cases h
  | false =>
    cases waiting with
    | nil => cases h
    | cons t' ts =>
      obtain ⟨rfl, rfl⟩ := Prod.mk.inj (Option.some.inj h)
      have hnew := g.sublist_waiting_walkLevel caps kept.length (ts.length + 1) [t']
      simp only [freeLevel, List.flatMap_cons, List.flatMap_nil, List.append_nil] at hnew
      exact ⟨ts, rfl, _, rfl, hnew⟩

theorem Takes.snoc (h : g.Takes caps w ts v) (ht : g.take? caps v = some (t, w')) :
    g.Takes caps w (ts ++ [t]) w' := by
  induction h with
  | done => exact .take ht (.done w')
  | take h _ ih => exact .take h (ih ht)

/-- Each turn is determined by the one before, so every run is the beginning of one that has come to its end. -/
theorem Takes.exists_append (h : g.Takes caps w ts w') (hv : g.Takes caps w us v) (hend : g.take? caps v = none) :
    ∃ rest, us = ts ++ rest ∧ g.Takes caps w' rest v := by
  induction h generalizing us with
  | done => exact ⟨us, rfl, hv⟩
  | take h _ ih =>
    cases hv with
    | done => exact absurd (h.symm.trans hend) (by simp)
    | take h' hv =>
      obtain ⟨rfl, rfl⟩ := Prod.mk.inj (Option.some.inj (h.symm.trans h'))
      obtain ⟨rest, rfl, hrest⟩ := ih hv
      exact ⟨rest, rfl, hrest⟩

/-- What stands in the queue at some time is reached by a run from the root. -/
theorem Queued.exists_takes (h : g.Queued caps w) : ∃ ts, g.Takes caps g.rootWaiting ts w := by
  induction h with
  | start => exact ⟨[], .done _⟩
  | @take trails t ts limits w _ hw ih =>
    obtain ⟨us, hus⟩ := ih
    exact ⟨us ++ [t], hus.snoc (by rw [take?, ← hw])⟩

/-! ### No trail is taken twice -/

/-- The trails that were taken and those that wait are simple and pairwise different, and a trail is among them only if
the one that it goes on from was taken. -/
structure Distinguishes (g : Graph) (taken waiting : List Trail) : Prop where
  simple : ∀ t ∈ taken ++ waiting, g.IsSimple t
  nodup : (taken ++ waiting).Nodup
  taken_of_extend : ∀ t h, t.extend h ∈ taken ++ waiting → t ∈ taken

theorem distinguishes_rootWaiting (g : Graph) : g.Distinguishes [] g.rootWaiting.waiting where
  simple t ht := by
    rw [List.mem_singleton.1 ht]
    exact g.isSimple_start
  nodup := List.nodup_singleton _
  taken_of_extend t h ht := by
    have hhops : t.hops ++ [h] = [] := congrArg Trail.hops (List.mem_singleton.1 ht)
    simp at hhops

/-- What a trail gives when it is taken is new, since it goes on from this trail, which was not taken before. -/
theorem Distinguishes.take? (hg : g.WellFormed) (hw : g.Distinguishes taken w.waiting)
    (h : g.take? caps w = some (t, w')) : g.Distinguishes (taken ++ [t]) w'.waiting := by
  obtain ⟨ts, hts, new, hnew, hsub⟩ := take?_eq_some h
  rw [hts] at hw
  obtain ⟨hsimple, hnodup, hparent⟩ := hw
  have heq : taken ++ [t] ++ w'.waiting = taken ++ t :: ts ++ new := by simp [hnew]
  have htaken : t ∉ taken := fun ht => (List.nodup_append.1 hnodup).2.2 t ht t List.mem_cons_self rfl
  have hextends : ∀ s ∈ new, ∃ h ∈ g.continuations t, s = t.extend h :=
    fun s hs => (mem_next.1 (hsub.subset hs)).2
  refine ⟨?_, ?_, ?_⟩
  · rw [heq]
    refine List.forall_mem_append.2 ⟨hsimple, fun s hs => ?_⟩
    obtain ⟨h, hh, rfl⟩ := hextends s hs
    exact isSimple_extend.2 ⟨hsimple t (List.mem_append_right _ List.mem_cons_self), hh⟩
  · rw [heq, List.nodup_append]
    refine ⟨hnodup, (hg.nodup_next t).sublist hsub, fun a ha b hb hab => ?_⟩
    obtain ⟨h, _, rfl⟩ := hextends b hb
    exact htaken (hparent t h (hab ▸ ha))
  · rw [heq]
    intro s h hs
    rcases List.mem_append.1 hs with hs | hs
    · exact List.mem_append_left _ (hparent s h hs)
    · obtain ⟨h', _, heq⟩ := hextends _ hs
      exact List.mem_append_right _ (List.mem_singleton.2 (Trail.extend_inj heq).1)

theorem Takes.distinguishes (hg : g.WellFormed) (h : g.Takes caps w ts v) (hw : g.Distinguishes taken w.waiting) :
    g.Distinguishes (taken ++ ts) v.waiting := by
  induction h generalizing taken with
  | done => rwa [List.append_nil]
  | @take _ _ _ t ts h _ ih =>
    rw [← List.singleton_append, ← List.append_assoc]
    exact ih (hw.take? hg h)

/-! ### There are finitely many trails -/

theorem exists_isLevel (g : Graph) (depth n : Nat) : ∃ level, g.IsLevel depth n level := by
  induction n with
  | zero => exact ⟨_, g.isLevel_start depth⟩
  | succ n ih =>
    obtain ⟨level, hlevel⟩ := ih
    exact ⟨_, hlevel.next⟩

theorem finite_isSimple (hg : g.WellFormed) : {t | g.IsSimple t}.Finite := by
  choose level hlevel using g.exists_isLevel g.nodes.length
  refine ((List.range g.nodes.length).flatMap level).finite_toSet.subset fun t ht => ?_
  have hlt := IsSimple.length_lt hg ht
  exact List.mem_flatMap.2 ⟨t.hops.length, List.mem_range.2 hlt, (hlevel _ t).2 ⟨ht, rfl, Nat.le_of_lt hlt⟩⟩

theorem length_le_ncard (hg : g.WellFormed) (hn : ts.Nodup) (hs : ∀ t ∈ ts, g.IsSimple t) :
    ts.length ≤ {t | g.IsSimple t}.ncard := by
  rw [← List.toFinset_card_of_nodup hn, ← Set.ncard_coe_finset]
  exact Set.ncard_le_ncard (fun t ht => hs t (List.mem_toFinset.1 ht)) (finite_isSimple hg)

end ChangeImpact.Graph

namespace ChangeImpact.Enumeration

open ChangeImpact.Graph

/-- An enumeration comes to an end on every graph and under all caps. It has a last turn, and all its runs are
beginnings of the run to this turn. In it no trail is taken twice, and only simple ones are, so there are no more turns
than simple trails, which are finitely many; and what was kept and recorded in the end is the enumeration. -/
theorem ofGraph_ends (root : NamedEntity) (rootLevel : Option Int) (default : Nat) (rows : List Dependent)
    (caps : Caps) :
    let g := Graph.ofDependents root rootLevel default rows
    {t | g.IsSimple t}.Finite ∧
    ∃ us v, g.Takes caps.atLeastOne g.rootWaiting us v ∧ g.take? caps.atLeastOne v = none ∧
      (∀ ts w, g.Takes caps.atLeastOne g.rootWaiting ts w →
        ∃ rest, us = ts ++ rest ∧ g.Takes caps.atLeastOne w rest v) ∧
      us.Nodup ∧ (∀ t ∈ us, g.IsSimple t) ∧ us.length ≤ {t | g.IsSimple t}.ncard ∧
      ofGraph g caps = ⟨v.kept.filterMap g.path?, distinctBy id [] v.limits⟩ := by
  intro g
  have hg : g.WellFormed := Graph.ofDependents_wellFormed root rootLevel default rows
  obtain ⟨left, hqueued, hleft⟩ := exists_queued_cappedWalk hg caps.atLeastOne
  obtain ⟨us, hus⟩ := hqueued.exists_takes
  have hend : g.take? caps.atLeastOne ⟨(g.cappedWalk caps.atLeastOne).kept, left,
      (g.cappedWalk caps.atLeastOne).limits, (g.cappedWalk caps.atLeastOne).stopped⟩ = none := by
    cases hs : (g.cappedWalk caps.atLeastOne).stopped with
    | true => rfl
    | false => rw [hleft hs]; rfl
  have hd := hus.distinguishes hg g.distinguishes_rootWaiting
  have hnodup : us.Nodup := (List.nodup_append.1 hd.nodup).1
  have hsimple : ∀ t ∈ us, g.IsSimple t := fun t ht => hd.simple t (List.mem_append_left _ ht)
  exact ⟨finite_isSimple hg, us, _, hus, hend, fun ts w hts => hts.exists_append hus hend, hnodup, hsimple,
    length_le_ncard hg hnodup hsimple, rfl⟩

end ChangeImpact.Enumeration
