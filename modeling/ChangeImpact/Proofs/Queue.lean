import ChangeImpact.Proofs.Agreement

/-!
# Enumerations that the cap on paths cuts short

The trails that wait, those of the level and those of the next one, are a queue: the first is taken out, and what it is
taken further to comes last.  `Queued` says what stands in the queue and what has been kept whenever a trail is taken.

* (one trail) as long as the queue is within the cap on paths, a trail that can go on always finds room for at least
  one that it goes on to, so it is never kept: `walkLevel_singleton_cases`, `Queued.length_le`;
* (the count) no trail is lost, so once the queue was full, what is kept and what waits never become fewer than the
  cap, and the walk ends with as many trails as it allows: `length_kept_walk`;
* (the limit) the cap on paths is recorded if and only if there are more maximal trails than it allows:
  `enumeration_of_paths_limit`.
-/

namespace ChangeImpact.Graph

variable {g : Graph} {caps : Caps} {t : Trail} {ts queue trails level : List Trail} {kept waiting n levels : Nat}

/-! ### One trail -/

/-- A level is walked through trail by trail. -/
theorem walkLevel_cons (g : Graph) (caps : Caps) (kept waiting : Nat) (t : Trail) (ts : List Trail) :
    g.walkLevel caps kept waiting (t :: ts) =
      let first := g.walkLevel caps kept waiting [t]
      if first.stopped then first
      else
        let rest := g.walkLevel caps (kept + first.kept.length) (waiting - 1 + first.waiting.length) ts
        ⟨first.kept ++ rest.kept, first.waiting ++ rest.waiting, first.limits ++ rest.limits, rest.stopped⟩ := by
  simp only [walkLevel]
  split
  · rfl
  · split
    · rfl
    · split
      · rfl
      · split <;> simp [Walk.keep, Walk.queue, Walk.finish]

/-- Where the trails that wait are within the cap on paths, a trail stops the walk, is kept since it ends, or gives at
least one trail that waits. Then the cap is recorded only if the queue is full. -/
theorem walkLevel_singleton_cases (g : Graph) (t : Trail) (kept others : Nat) (hle : others + 1 ≤ caps.paths) :
    let w := g.walkLevel caps kept (others + 1) [t]
    caps.paths ≤ kept ∧ w = .stop (.paths caps.paths) ∨
    kept < caps.paths ∧ w.stopped = false ∧ g.ends caps.depth t ∧ w.kept = [t] ∧ w.waiting = [] ∧
      (∀ cap, Limit.paths cap ∉ w.limits) ∨
    kept < caps.paths ∧ w.stopped = false ∧ ¬ g.ends caps.depth t ∧ w.kept = [] ∧ w.waiting ≠ [] ∧
      w.waiting <+: g.next caps.depth t ∧ others + w.waiting.length ≤ caps.paths ∧
      ∀ cap, Limit.paths cap ∈ w.limits → cap = caps.paths ∧ others + w.waiting.length = caps.paths := by
  intro w
  by_cases hk : caps.paths ≤ kept
  · exact .inl ⟨hk, by simp [w, walkLevel, hk]⟩
  right
  have hk' : kept < caps.paths := Nat.lt_of_not_le hk
  by_cases hc : (g.continuations t).isEmpty
  · left
    have he : g.ends caps.depth t := by simp [ends, hc]
    have hw : w = .keep t [] .finish := by simp [w, walkLevel, hk, hc]
    exact ⟨hk', by simp [hw, Walk.keep, Walk.finish], he, by simp [hw, Walk.keep, Walk.finish],
      by simp [hw, Walk.keep, Walk.finish], by simp [hw, Walk.keep, Walk.finish]⟩
  by_cases hd : caps.depth ≤ t.hops.length
  · left
    have he : g.ends caps.depth t := by simp [ends, hd]
    have hw : w = .keep t [.depth caps.depth] .finish := by simp [w, walkLevel, hk, hc, hd]
    exact ⟨hk', by simp [hw, Walk.keep, Walk.finish], he, by simp [hw, Walk.keep, Walk.finish],
      by simp [hw, Walk.keep, Walk.finish], by simp [hw, Walk.keep, Walk.finish]⟩
  right
  have he : ¬ g.ends caps.depth t := by simp [ends, hc, hd]
  have hroom : caps.paths - others ≠ 0 := by omega
  -- the trail goes on to as many as there is room for
  have hw : w.kept = [] ∧ w.waiting = (g.next caps.depth t).take (caps.paths - others) ∧ w.stopped = false ∧
      ∀ cap, Limit.paths cap ∈ w.limits → cap = caps.paths ∧ caps.paths - others < (g.next caps.depth t).length := by
    rw [next, if_neg he]
    simp only [w, walkLevel, Nat.add_sub_cancel, if_neg hk, if_neg hc, if_neg hd, if_neg hroom, Walk.queue, Walk.finish,
      List.append_nil, List.map_take, List.length_map, true_and]
    intro cap hm
    split at hm
    · exact absurd hm List.not_mem_nil
    · rename_i hl
      exact ⟨Limit.paths.inj (List.mem_singleton.1 hm), Nat.lt_of_not_le hl⟩
  obtain ⟨hwk, hww, hws, hwl⟩ := hw
  have hne := List.length_pos_iff.2 (next_ne_nil he)
  have hlen : w.waiting.length = min (caps.paths - others) (g.next caps.depth t).length := by
    rw [hww, List.length_take]
  refine ⟨hk', hws, he, hwk, List.length_pos_iff.1 (by omega), hww ▸ List.take_prefix _ _, by omega, fun cap hm => ?_⟩
  obtain ⟨hcap, hlt⟩ := hwl cap hm
  exact ⟨hcap, by omega⟩

/-! ### The queue -/

/-- What has been kept, what waits and which limits are recorded whenever the first of the trails that wait is taken.
-/
inductive Queued (g : Graph) (caps : Caps) : Walk → Prop
  | start : g.Queued caps ⟨[], [⟨g.root.entity, []⟩], [], false⟩
  | take {trails : List Trail} {t : Trail} {ts : List Trail} {limits : List Limit} {w : Walk}
      (h : g.Queued caps ⟨trails, t :: ts, limits, false⟩)
      (hw : g.walkLevel caps trails.length (ts.length + 1) [t] = w) :
      g.Queued caps ⟨trails ++ w.kept, ts ++ w.waiting, limits ++ w.limits, w.stopped⟩

/-- What is kept ends; no more is kept and no more waits than the cap on paths allows; and once that cap is recorded,
what is kept and what waits are together at least as many. -/
structure Bounded (g : Graph) (caps : Caps) (w : Walk) : Prop where
  length_waiting_le : w.waiting.length ≤ caps.paths
  length_kept_le : w.kept.length ≤ caps.paths
  ends : ∀ t ∈ w.kept, g.ends caps.depth t
  length_kept_eq : w.stopped = true → w.kept.length = caps.paths
  le_length : ∀ cap, Limit.paths cap ∈ w.limits → cap = caps.paths ∧ caps.paths ≤ w.kept.length + w.waiting.length

theorem Queued.bounded {w : Walk} (h : g.Queued caps w) (hp : 0 < caps.paths) : g.Bounded caps w := by
  induction h with
  | start =>
    exact ⟨hp, Nat.zero_le _, fun _ ht => absurd ht List.not_mem_nil, fun hs => absurd hs (by simp),
      fun _ hm => absurd hm List.not_mem_nil⟩
  | @take trails t ts limits w h hw ih =>
    obtain ⟨hq, hk, he, _, hl⟩ := ih
    dsimp only at hq hk he hl
    rw [List.length_cons] at hq hl
    have hends {us : List Trail} (hus : ∀ u ∈ us, g.ends caps.depth u) : ∀ u ∈ trails ++ us, g.ends caps.depth u :=
      fun u hu => (List.mem_append.1 hu).elim (he u) (hus u)
    have hcases := g.walkLevel_singleton_cases t trails.length ts.length hq
    simp only [hw] at hcases
    rcases hcases with ⟨hle, rfl⟩ | ⟨hlt, hs, hte, hwk, hww, hwl⟩ | ⟨hlt, hs, _, hwk, hne, _, hle, hwl⟩
    · -- the walk stops, and as many trails are kept as the cap allows
      have heq : trails.length = caps.paths := Nat.le_antisymm hk hle
      refine ⟨?_, ?_, ?_, fun _ => ?_, fun cap hm => ?_⟩ <;> simp only [Walk.stop, List.append_nil] at *
      · omega
      · exact hk
      · exact he
      · exact heq
      · rcases List.mem_append.1 hm with hm | hm
        · exact ⟨(hl cap hm).1, by omega⟩
        · exact ⟨Limit.paths.inj (List.mem_singleton.1 hm), by omega⟩
    · -- the trail is kept
      refine ⟨?_, ?_, ?_, fun h => ?_, fun cap hm => ?_⟩
      · simp only [hww, List.append_nil]
        omega
      · simp only [hwk, List.length_append, List.length_singleton]
        omega
      · simp only [hwk]
        exact hends fun u hu => List.mem_singleton.1 hu ▸ hte
      · simp only [hs, Bool.false_eq_true] at h
      · obtain ⟨hcap, hlen⟩ := hl cap ((List.mem_append.1 hm).resolve_right (hwl cap))
        simp only [hwk, hww, List.length_append, List.length_singleton, List.length_nil]
        exact ⟨hcap, by omega⟩
    · -- the trail goes on to one at least
      have hpos := List.length_pos_iff.2 hne
      refine ⟨?_, ?_, ?_, fun h => ?_, fun cap hm => ?_⟩
      · simp only [List.length_append]
        exact hle
      · simpa only [hwk, List.append_nil] using hk
      · simpa only [hwk, List.append_nil] using he
      · simp only [hs, Bool.false_eq_true] at h
      · simp only [hwk, List.append_nil, List.length_append]
        rcases List.mem_append.1 hm with hm | hm
        · obtain ⟨hcap, hlen⟩ := hl cap hm
          exact ⟨hcap, by omega⟩
        · obtain ⟨hcap, hlen⟩ := hwl cap hm
          exact ⟨hcap, by omega⟩

/-- A trail is kept only where it ends, never because none of those that it goes on to could be queued. -/
theorem Queued.ends_of_kept_ne_nil {limits : List Limit} (h : g.Queued caps ⟨trails, t :: ts, limits, false⟩)
    (hp : 0 < caps.paths) (hne : (g.walkLevel caps trails.length (ts.length + 1) [t]).kept ≠ []) :
    g.ends caps.depth t := by
  rcases g.walkLevel_singleton_cases t trails.length ts.length (h.bounded hp).length_waiting_le with
    ⟨_, hw⟩ | ⟨_, _, he, _⟩ | ⟨_, _, _, hwk, _⟩
  · exact absurd (by rw [hw]; rfl) hne
  · exact he
  · exact absurd hwk hne

/-! ### From the queue to the walk -/

/-- A level is taken from the front of the queue. -/
theorem Queued.walkLevel {limits : List Limit} (h : g.Queued caps ⟨trails, ts ++ queue, limits, false⟩) :
    let w := g.walkLevel caps trails.length (ts.length + queue.length) ts
    ∃ left, g.Queued caps ⟨trails ++ w.kept, left, limits ++ w.limits, w.stopped⟩ ∧
      (w.stopped = false → left = queue ++ w.waiting) := by
  induction ts generalizing queue trails limits with
  | nil => exact ⟨queue, by simpa [Graph.walkLevel, Walk.finish] using h, by simp [Graph.walkLevel, Walk.finish]⟩
  | cons t ts ih =>
    have hl : (t :: ts).length + queue.length = (ts ++ queue).length + 1 := by
      rw [List.length_cons, List.length_append]
      omega
    rw [List.cons_append] at h
    generalize hw : g.walkLevel caps trails.length ((ts ++ queue).length + 1) [t] = first
    have h' := h.take hw
    rw [walkLevel_cons, hl, hw]
    dsimp only at h' ⊢
    rcases hs : first.stopped with _ | _
    · rw [hs] at h'
      simp only [Bool.false_eq_true, if_false, Nat.add_sub_cancel]
      rw [List.append_assoc] at h'
      simpa only [List.length_append, List.append_assoc, Nat.add_assoc] using ih h'
    · rw [hs] at h'
      simp only [if_true]
      exact ⟨_, hs ▸ h', fun hf => absurd (hs.symm.trans hf) (by simp)⟩

/-- The walk from a level on is what comes of the queue: when it is not stopped, no trail waits any more. -/
theorem Queued.walk {limits : List Limit} (hg : g.WellFormed) (h : g.Queued caps ⟨trails, level, limits, false⟩)
    (hl : g.IsPartLevel caps.depth n level) (hn : g.nodes.length ≤ n + levels) :
    let w := g.walk caps levels trails.length level
    ∃ left, g.Queued caps ⟨trails ++ w.kept, left, limits ++ w.limits, w.stopped⟩ ∧
      (w.stopped = false → left = []) := by
  induction levels generalizing n trails limits level with
  | zero =>
    rw [hl.eq_nil hg hn] at h
    exact ⟨[], by simpa [Graph.walk, Walk.finish] using h, fun _ => rfl⟩
  | succ levels ih =>
    have hq : g.Queued caps ⟨trails, level ++ [], limits, false⟩ := by rwa [List.append_nil]
    obtain ⟨left, hfirst, hleft⟩ := hq.walkLevel
    simp only [List.length_nil, Nat.add_zero, List.nil_append] at hfirst hleft
    rw [Graph.walk]
    dsimp only
    split
    · rename_i hs
      exact ⟨left, hfirst, fun hf => absurd (hs.symm.trans hf) (by simp)⟩
    · rename_i hs
      rw [Bool.not_eq_true] at hs
      rw [hs, hleft hs] at hfirst
      have hrest := ih hfirst (hl.waiting trails.length level.length) (by omega)
      simpa only [List.length_append, List.append_assoc] using hrest

/-! ### What is kept -/

theorem sublist_kept_walkLevel (g : Graph) (caps : Caps) (kept waiting : Nat) (ts : List Trail) :
    (g.walkLevel caps kept waiting ts).kept.Sublist ts := by
  induction ts generalizing kept waiting with
  | nil => exact List.nil_sublist _
  | cons t ts ih =>
    rcases g.walkLevel_cons_cases caps kept waiting t ts with h | ⟨_, h⟩ | ⟨_, _, _, h⟩ <;> rw [h]
    · exact List.nil_sublist _
    · exact (ih _ _).cons_cons t
    · exact (ih _ _).cons t

theorem sublist_waiting_walkLevel (g : Graph) (caps : Caps) (kept waiting : Nat) (ts : List Trail) :
    (g.walkLevel caps kept waiting ts).waiting.Sublist (g.freeLevel caps.depth ts).waiting := by
  induction ts generalizing kept waiting with
  | nil => exact List.nil_sublist _
  | cons t ts ih =>
    rw [freeLevel_cons]
    rcases g.walkLevel_cons_cases caps kept waiting t ts with h | ⟨_, h⟩ | ⟨_, _, hq, h⟩ <;> rw [h]
    · exact List.nil_sublist _
    · exact (ih _ _).trans (List.sublist_append_right _ _)
    · exact hq.sublist.append (ih _ _)

/-- No trail is kept twice, since those of later levels are longer. -/
theorem IsPartLevel.nodup_kept (hg : g.WellFormed) (hl : g.IsPartLevel caps.depth n level) (hn : level.Nodup)
    (levels kept : Nat) : (g.walk caps levels kept level).kept.Nodup := by
  induction levels generalizing n kept level with
  | zero => exact List.nodup_nil
  | succ levels ih =>
    have hfirst := hn.sublist (g.sublist_kept_walkLevel caps kept level.length level)
    have hwaiting := (hg.nodup_waiting hn).sublist (g.sublist_waiting_walkLevel caps kept level.length level)
    rw [Graph.walk]
    dsimp only
    split
    · exact hfirst
    · refine List.nodup_append.2 ⟨hfirst, ih (hl.waiting kept level.length) hwaiting _, ?_⟩
      rintro t ht _ ht' rfl
      have h := (hl t (mem_kept_walkLevel ht)).2.1
      have h' := ((hl.waiting kept level.length).mem_kept ht').2.1
      omega

/-! ### From the root -/

/-- What becomes of all levels under both caps. -/
def cappedWalk (g : Graph) (caps : Caps) : Walk :=
  g.walk caps g.nodes.length 0 [⟨g.root.entity, []⟩]

/-- The walk ends with what the queue ends with. -/
theorem exists_queued_cappedWalk (hg : g.WellFormed) (caps : Caps) :
    ∃ left, g.Queued caps ⟨(g.cappedWalk caps).kept, left, (g.cappedWalk caps).limits, (g.cappedWalk caps).stopped⟩ ∧
      ((g.cappedWalk caps).stopped = false → left = []) := by
  have hstart : g.Queued caps ⟨[], [⟨g.root.entity, []⟩], [], false⟩ := .start
  exact hstart.walk hg (g.isLevel_start caps.depth).isPartLevel (by omega)

theorem mem_kept_cappedWalk (hg : g.WellFormed) (hp : 0 < caps.paths) (ht : t ∈ (g.cappedWalk caps).kept) :
    g.IsSimple t ∧ t.hops.length ≤ caps.depth ∧ g.ends caps.depth t := by
  obtain ⟨hs, _, hd⟩ := (g.isLevel_start caps.depth).isPartLevel.mem_kept ht
  obtain ⟨_, hq, _⟩ := exists_queued_cappedWalk hg caps
  exact ⟨hs, hd, (hq.bounded hp).ends t ht⟩

theorem nodup_kept_cappedWalk (hg : g.WellFormed) (caps : Caps) : (g.cappedWalk caps).kept.Nodup :=
  (g.isLevel_start caps.depth).isPartLevel.nodup_kept hg (List.nodup_singleton _) _ _

/-- Once the cap on paths is recorded, as many trails are kept as it allows. -/
theorem length_kept_cappedWalk (hg : g.WellFormed) (hp : 0 < caps.paths) {cap : Nat}
    (h : Limit.paths cap ∈ (g.cappedWalk caps).limits) :
    cap = caps.paths ∧ (g.cappedWalk caps).kept.length = caps.paths := by
  obtain ⟨left, hq, hleft⟩ := exists_queued_cappedWalk hg caps
  have hb := hq.bounded hp
  obtain ⟨hcap, hle⟩ := hb.le_length cap h
  refine ⟨hcap, ?_⟩
  rcases hs : (g.cappedWalk caps).stopped with _ | _
  · rw [hleft hs, List.length_nil] at hle
    exact Nat.le_antisymm hb.length_kept_le hle
  · exact hb.length_kept_eq hs

theorem paths_mem_limits_iff (hg : g.WellFormed) (hd : 0 < caps.depth) (hp : 0 < caps.paths) {cap : Nat} :
    Limit.paths cap ∈ (g.cappedWalk caps).limits ↔
      cap = caps.paths ∧ caps.paths < {t | g.IsMaximal caps.depth t}.encard := by
  constructor
  · intro h
    refine ⟨(length_kept_cappedWalk hg hp h).1, lt_of_not_ge fun hle => ?_⟩
    -- with so few maximal trails the walk is the free one, which records the cap on the depth only
    rw [cappedWalk, walk_eq_fullWalk_of_encard_le hg hd hp hle, mem_limits_fullWalk hg hd] at h
    exact absurd h.1 (by simp)
  · rintro ⟨rfl, hlt⟩
    by_contra h
    have hle : {t | g.IsMaximal caps.depth t}.encard ≤ _ := encard_isMaximal_le hg
    obtain ⟨_, hq, _⟩ := exists_queued_cappedWalk hg caps
    have hlen := (hq.bounded hp).length_kept_le
    rw [fullWalk, ← walk_of_no_limit h] at hle
    exact absurd (hlt.trans_le hle) (not_lt_of_ge (by exact_mod_cast hlen))

/-- A maximal trail takes the root further. -/
theorem IsMaximal.continuations_start_ne_nil {depth : Nat} (ht : g.IsMaximal depth t) :
    g.continuations ⟨g.root.entity, []⟩ ≠ [] := by
  obtain ⟨r, hops⟩ := t
  obtain rfl : r = g.root.entity := ht.simple.root_eq
  cases hops with
  | nil => exact absurd rfl ht.ne_nil
  | cons h hops =>
    have hs : g.IsSimple ⟨g.root.entity, [] ++ h :: hops⟩ := ht.simple
    exact List.ne_nil_of_mem hs.of_append.2

/-- Where some trail is maximal, the root alone is not kept, so all that is kept is maximal. -/
theorem isMaximal_of_mem_kept (hg : g.WellFormed) (hd : 0 < caps.depth) (hp : 0 < caps.paths)
    (hne : {t | g.IsMaximal caps.depth t}.Nonempty) (ht : t ∈ (g.cappedWalk caps).kept) :
    g.IsMaximal caps.depth t := by
  obtain ⟨t', ht'⟩ := hne
  obtain ⟨hs, hle, he⟩ := mem_kept_cappedWalk hg hp ht
  rw [ends_iff] at he
  refine ⟨hs, fun hnil => ?_, hle, he.symm.imp (fun h => by omega) continuations_eq_nil.1⟩
  obtain ⟨r, hops⟩ := t
  obtain rfl : hops = [] := hnil
  obtain rfl := isSimple_nil.1 hs
  exact he.elim (IsMaximal.continuations_start_ne_nil ht') (Nat.not_le_of_lt hd)

end ChangeImpact.Graph

namespace ChangeImpact.Enumeration

open ChangeImpact.Graph

/-- The cap on paths is recorded if and only if there are more maximal trails than it allows, and then as many of them
are found as it allows, each once. The trails that wait are never more than the cap allows, and a trail is kept only
where it ends, never for want of room. -/
theorem enumeration_of_paths_limit (root : NamedEntity) (rootLevel : Option Int) (default : Nat)
    (rows : List Dependent) {depth paths : Nat} (hd : 1 ≤ depth) (hp : 1 ≤ paths) :
    let g := Graph.ofDependents root rootLevel default rows
    let e := ofGraph g ⟨depth, paths⟩
    (∀ cap, Limit.paths cap ∈ e.limits ↔ cap = paths ∧ paths < {t | g.IsMaximal depth t}.encard) ∧
    (Limit.paths paths ∈ e.limits →
      e.paths.length = paths ∧ (e.paths.map Path.trail).Nodup ∧ ∀ p ∈ e.paths, g.IsMaximal depth p.trail) ∧
    (∃ w, g.Queued ⟨depth, paths⟩ w ∧ (w.stopped = false → w.waiting = []) ∧
      e = ⟨w.kept.filterMap g.path?, distinctBy id [] w.limits⟩) ∧
    ∀ w, g.Queued ⟨depth, paths⟩ w → w.waiting.length ≤ paths ∧
      ∀ t ts, w.waiting = t :: ts → w.stopped = false →
        (g.walkLevel ⟨depth, paths⟩ w.kept.length w.waiting.length [t]).kept ≠ [] → g.ends depth t := by
  intro g e
  have hg : g.WellFormed := Graph.ofDependents_wellFormed root rootLevel default rows
  have hcaps : (⟨depth, paths⟩ : Caps).atLeastOne = ⟨depth, paths⟩ := by
    simp only [Caps.atLeastOne, Caps.mk.injEq]
    omega
  have hd : 0 < (⟨depth, paths⟩ : Caps).depth := hd
  have hp : 0 < (⟨depth, paths⟩ : Caps).paths := hp
  have he : e = ⟨(g.cappedWalk ⟨depth, paths⟩).kept.filterMap g.path?,
      distinctBy id [] (g.cappedWalk ⟨depth, paths⟩).limits⟩ := by
    simp only [e, ofGraph, hcaps, cappedWalk]
  have hlimit (cap : Nat) : Limit.paths cap ∈ e.limits ↔ cap = paths ∧ paths < {t | g.IsMaximal depth t}.encard := by
    rw [he, mem_distinctBy_id]
    exact paths_mem_limits_iff hg hd hp
  refine ⟨hlimit, fun h => ?_, ?_, fun w hw => ?_⟩
  · have hmany := ((hlimit paths).1 h).2
    rw [he, mem_distinctBy_id] at h
    have hne : {t | g.IsMaximal depth t}.Nonempty := Set.encard_pos.1 (pos_of_gt hmany)
    have hmax : ∀ t ∈ (g.cappedWalk ⟨depth, paths⟩).kept, g.IsMaximal depth t :=
      fun t => isMaximal_of_mem_kept hg hd hp hne
    have htrails : e.paths.map Path.trail = (g.cappedWalk ⟨depth, paths⟩).kept := by
      rw [he, map_trail_filterMap_path? hg fun t ht => (hmax t ht).simple, List.filter_eq_self]
      exact fun t ht => by simpa using (hmax t ht).ne_nil
    refine ⟨?_, htrails ▸ nodup_kept_cappedWalk hg _, fun p hpath => hmax _ (htrails ▸ List.mem_map_of_mem hpath)⟩
    rw [← List.length_map, htrails]
    exact (length_kept_cappedWalk hg hp h).2
  · obtain ⟨left, hq, hleft⟩ := exists_queued_cappedWalk hg ⟨depth, paths⟩
    exact ⟨_, hq, hleft, he⟩
  · refine ⟨(hw.bounded hp).length_waiting_le, fun t ts hwait hs hne => ?_⟩
    obtain ⟨trails, waiting, limits, stopped⟩ := w
    dsimp only at hwait hs
    subst hwait hs
    exact hw.ends_of_kept_ne_nil hp hne

/-- Of the two maximal trails to the procedures that call each other, one is found. -/
theorem enumeration_mutualCallers_cut :
    let g := Graph.ofDependents ⟨⟨.table, 1⟩, none⟩ none 3 mutualCallers
    let e := ofGraph g ⟨2, 1⟩
    Limit.paths 1 ∈ e.limits ∧ 1 < {t | g.IsMaximal 2 t}.encard ∧ e.paths.length = 1 := by
  intro g e
  obtain ⟨hlimit, hfound, _⟩ := enumeration_of_paths_limit ⟨⟨.table, 1⟩, none⟩ none 3 mutualCallers
    (show 1 ≤ 2 by decide) (show 1 ≤ 1 by decide)
  have hm : Limit.paths 1 ∈ e.limits := by decide +kernel
  exact ⟨hm, ((hlimit 1).1 hm).2, (hfound hm).1⟩

end ChangeImpact.Enumeration
