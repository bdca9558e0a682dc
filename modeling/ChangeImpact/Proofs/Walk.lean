import ChangeImpact.Proofs.Trail
import Mathlib.Data.Set.Card

/-!
# Walks that the cap on paths leaves alone

Without the cap on paths a walk takes the simple trails level by level: `frontier depth n` holds those of `n` hops
that are still looked at, `settled` those that are kept.  A walk that records no limit on paths is this walk
(`walk_of_no_limit`), and so is one whose cap is at least the number of trails that the free walk keeps
(`walk_of_length_le`): every trail of a level is kept or gives one of the next level, so the trails kept and waiting
never become fewer.
-/

namespace ChangeImpact.Graph

variable {g : Graph} {caps : Caps} {depth : Nat} {t : Trail} {ts : List Trail}

/-! ### One trail -/

/-- The trail is kept where it stands. -/
def ends (g : Graph) (depth : Nat) (t : Trail) : Bool :=
  (g.continuations t).isEmpty || depth ≤ t.hops.length

/-- The trail could go on, but may not. -/
def cut (g : Graph) (depth : Nat) (t : Trail) : Bool :=
  !(g.continuations t).isEmpty && depth ≤ t.hops.length

/-- The trails that the trail is taken further to. -/
def next (g : Graph) (depth : Nat) (t : Trail) : List Trail :=
  if g.ends depth t then [] else (g.continuations t).map t.extend

theorem ends_iff : g.ends depth t ↔ g.continuations t = [] ∨ depth ≤ t.hops.length := by
  simp [ends]

theorem cut_iff : g.cut depth t ↔ g.continuations t ≠ [] ∧ depth ≤ t.hops.length := by
  simp [cut]

theorem mem_next {t' : Trail} :
    t' ∈ g.next depth t ↔ t.hops.length < depth ∧ ∃ h ∈ g.continuations t, t' = t.extend h := by
  unfold next
  split
  · rename_i he
    rcases ends_iff.1 he with hc | hd
    · simp [hc]
    · simp only [List.not_mem_nil, false_iff]
      intro ⟨hl, _⟩
      omega
  · rename_i he
    have hd : t.hops.length < depth := Nat.lt_of_not_le fun hd => he (ends_iff.2 (.inr hd))
    simp only [hd, true_and, List.mem_map, eq_comm]

theorem WellFormed.nodup_next (hg : g.WellFormed) (t : Trail) : (g.next depth t).Nodup := by
  unfold next
  split
  · exact List.nodup_nil
  · exact (hg.nodup_continuations t).map fun _ _ e => (Trail.extend_inj e).2

theorem next_ne_nil (he : ¬ g.ends depth t) : g.next depth t ≠ [] := by
  rw [next, if_neg he]
  intro hn
  exact he (ends_iff.2 (.inl (List.map_eq_nil_iff.1 hn)))

/-! ### One level -/

/-- What becomes of a level without a cap on paths. -/
def freeLevel (g : Graph) (depth : Nat) (ts : List Trail) : Walk where
  kept := ts.filter (g.ends depth)
  waiting := ts.flatMap (g.next depth)
  limits := (ts.filter (g.cut depth)).map fun _ => .depth depth
  stopped := false

/-- The cap on paths leaves a trail alone: there is room for the trail, or for all that it is taken further to. -/
def Fits (g : Graph) (caps : Caps) (kept waiting : Nat) (t : Trail) : Prop :=
  kept < caps.paths ∧ (g.next caps.depth t).length ≤ caps.paths - (waiting - 1)

theorem walkLevel_cons_of_fits {kept waiting : Nat} (hf : g.Fits caps kept waiting t) :
    g.walkLevel caps kept waiting (t :: ts) =
      let w := g.walkLevel caps (kept + if g.ends caps.depth t then 1 else 0)
        (waiting - 1 + (g.next caps.depth t).length) ts
      ⟨[t].filter (g.ends caps.depth) ++ w.kept, g.next caps.depth t ++ w.waiting,
        (([t].filter (g.cut caps.depth)).map fun _ => Limit.depth caps.depth) ++ w.limits, w.stopped⟩ := by
  obtain ⟨hk, hn⟩ := hf
  rw [walkLevel, if_neg (by omega)]
  by_cases hc : (g.continuations t).isEmpty
  · have he : g.ends caps.depth t := by simp [ends, hc]
    simp [hc, he, next, cut, Walk.keep]
  · by_cases hd : caps.depth ≤ t.hops.length
    · have he : g.ends caps.depth t := by simp [ends, hd]
      simp [hc, hd, he, next, cut, Walk.keep]
    · have he : ¬ g.ends caps.depth t := by simp [ends, hc, hd]
      rw [next, if_neg he, List.length_map] at hn
      have hpos : 0 < (g.continuations t).length := by
        rw [List.length_pos_iff]
        exact fun h => hc (List.isEmpty_iff.2 h)
      have hroom : caps.paths - (waiting - 1) ≠ 0 := by omega
      simp [hc, hd, he, hn, hroom, next, cut, Walk.queue, List.take_of_length_le hn]

theorem limit_of_not_fits {kept waiting : Nat} (hf : ¬ g.Fits caps kept waiting t) :
    Limit.paths caps.paths ∈ (g.walkLevel caps kept waiting (t :: ts)).limits := by
  rw [walkLevel]
  by_cases hk : caps.paths ≤ kept
  · simp [hk, Walk.stop]
  · have hn : ¬ (g.next caps.depth t).length ≤ caps.paths - (waiting - 1) := fun hn => hf ⟨by omega, hn⟩
    have he : ¬ g.ends caps.depth t := fun he => hn (by simp [next, he])
    rw [next, if_neg he, List.length_map] at hn
    obtain ⟨hc, hd⟩ := not_or.1 (mt ends_iff.2 he)
    simp only [if_neg hk, if_neg (show ¬ (g.continuations t).isEmpty = true by simpa using hc), if_neg hd, if_neg hn]
    split <;> simp [Walk.keep, Walk.queue]

theorem freeLevel_cons :
    g.freeLevel depth (t :: ts) =
      let w := g.freeLevel depth ts
      ⟨[t].filter (g.ends depth) ++ w.kept, g.next depth t ++ w.waiting,
        (([t].filter (g.cut depth)).map fun _ => Limit.depth depth) ++ w.limits, w.stopped⟩ := by
  have hs : t :: ts = [t] ++ ts := rfl
  simp only [freeLevel, List.flatMap_cons]
  rw [hs, List.filter_append, List.filter_append, List.map_append]

theorem walkLevel_of_no_limit {kept waiting : Nat}
    (h : Limit.paths caps.paths ∉ (g.walkLevel caps kept waiting ts).limits) :
    g.walkLevel caps kept waiting ts = g.freeLevel caps.depth ts := by
  induction ts generalizing kept waiting with
  | nil => rfl
  | cons t ts ih =>
    have hf : g.Fits caps kept waiting t := Classical.not_not.1 fun hf => h (limit_of_not_fits hf)
    rw [walkLevel_cons_of_fits hf] at h ⊢
    rw [ih fun hm => h (List.mem_append_right _ hm), freeLevel_cons]

/-- A trail is kept or taken further. -/
theorem length_le_freeLevel (g : Graph) (depth : Nat) (ts : List Trail) :
    ts.length ≤ (g.freeLevel depth ts).kept.length + (g.freeLevel depth ts).waiting.length := by
  induction ts with
  | nil => exact Nat.le_refl 0
  | cons t ts ih =>
    have ht : 1 ≤ ([t].filter (g.ends depth)).length + (g.next depth t).length := by
      by_cases he : g.ends depth t
      · simp [he]
      · have := List.length_pos_iff.2 (next_ne_nil he)
        omega
    rw [freeLevel_cons]
    simp only [List.length_append, List.length_cons]
    omega

/-- If the trails kept before, those that wait already and those that the level gives are within the cap, then the cap
plays no part. -/
theorem walkLevel_of_length_le (kept queued : Nat)
    (h : kept + queued + (g.freeLevel caps.depth ts).kept.length + (g.freeLevel caps.depth ts).waiting.length ≤
      caps.paths) :
    g.walkLevel caps kept (queued + ts.length) ts = g.freeLevel caps.depth ts := by
  induction ts generalizing kept queued with
  | nil => rfl
  | cons t ts ih =>
    have hl := g.length_le_freeLevel caps.depth ts
    have ht := g.length_le_freeLevel caps.depth [t]
    have hk : ([t].filter (g.ends caps.depth)).length = if g.ends caps.depth t then 1 else 0 := by
      by_cases he : g.ends caps.depth t <;> simp [he]
    rw [freeLevel_cons] at h
    simp only [freeLevel, List.flatMap_cons, List.flatMap_nil, List.append_nil, List.length_append,
      List.length_cons, List.length_nil] at h hl ht
    have hf : g.Fits caps kept (queued + (t :: ts).length) t := by
      refine ⟨by omega, ?_⟩
      rw [List.length_cons]
      omega
    have hw : queued + (t :: ts).length - 1 + (g.next caps.depth t).length =
        queued + (g.next caps.depth t).length + ts.length := by
      rw [List.length_cons]
      omega
    rw [walkLevel_cons_of_fits hf, freeLevel_cons, hw, ih]
    simp only [freeLevel]
    omega

/-! ### All levels -/

/-- What becomes of a level and as many after it without a cap on paths. -/
def freeWalk (g : Graph) (depth : Nat) : Nat → List Trail → Walk
  | 0, _ => .finish
  | levels + 1, level =>
    let first := g.freeLevel depth level
    let rest := g.freeWalk depth levels first.waiting
    ⟨first.kept ++ rest.kept, rest.waiting, first.limits ++ rest.limits, rest.stopped⟩

theorem walk_of_no_limit {levels kept : Nat} {level : List Trail}
    (h : Limit.paths caps.paths ∉ (g.walk caps levels kept level).limits) :
    g.walk caps levels kept level = g.freeWalk caps.depth levels level := by
  induction levels generalizing kept level with
  | zero => rfl
  | succ levels ih =>
    have hfirst : Limit.paths caps.paths ∉ (g.walkLevel caps kept level.length level).limits := by
      intro hm
      refine h ?_
      rw [walk]
      dsimp only
      split
      · exact hm
      · exact List.mem_append_left _ hm
    rw [walk, walkLevel_of_no_limit hfirst] at h ⊢
    dsimp only at h ⊢
    rw [freeWalk, if_neg (by simp [freeLevel])] at *
    rw [ih fun hm => h (List.mem_append_right _ hm)]

/-- The simple trails of `n` hops, if so many are allowed. -/
def IsLevel (g : Graph) (depth n : Nat) (level : List Trail) : Prop :=
  ∀ t, t ∈ level ↔ g.IsSimple t ∧ t.hops.length = n ∧ n ≤ depth

/-- Some of the simple trails of `n` hops, if so many are allowed. -/
def IsPartLevel (g : Graph) (depth n : Nat) (level : List Trail) : Prop :=
  ∀ t ∈ level, g.IsSimple t ∧ t.hops.length = n ∧ n ≤ depth

theorem IsLevel.isPartLevel {n : Nat} {level : List Trail} (hl : g.IsLevel depth n level) :
    g.IsPartLevel depth n level :=
  fun t ht => (hl t).1 ht

/-- No simple trail has as many hops as there are objects. -/
theorem IsPartLevel.eq_nil {n : Nat} {level : List Trail} (hg : g.WellFormed) (hl : g.IsPartLevel depth n level)
    (hn : g.nodes.length ≤ n) : level = [] := by
  refine List.eq_nil_iff_forall_not_mem.2 fun t ht => ?_
  obtain ⟨hs, rfl, _⟩ := hl t ht
  have := hs.length_lt hg
  omega

theorem isLevel_start (g : Graph) (depth : Nat) : g.IsLevel depth 0 [⟨g.root.entity, []⟩] := by
  intro t
  rw [List.mem_singleton]
  constructor
  · rintro rfl
    exact ⟨g.isSimple_start, rfl, Nat.zero_le _⟩
  · intro ⟨ht, hl, _⟩
    obtain ⟨r, hs⟩ := t
    obtain rfl := List.eq_nil_of_length_eq_zero hl
    rw [isSimple_nil.1 ht]

theorem IsLevel.next {n : Nat} {level : List Trail} (hl : g.IsLevel depth n level) :
    g.IsLevel depth (n + 1) (g.freeLevel depth level).waiting := by
  intro t'
  simp only [freeLevel, List.mem_flatMap, mem_next, hl _]
  constructor
  · rintro ⟨t, ⟨ht, hn, _⟩, hd, h, hh, rfl⟩
    exact ⟨isSimple_extend.2 ⟨ht, hh⟩, by simp [hn], by omega⟩
  · intro ⟨ht, hn, hd⟩
    induction t' using Trail.induction_extend with
    | start r => simp at hn
    | extend t h _ =>
      have hs := isSimple_extend.1 ht
      simp only [Trail.hops_extend, List.length_append, List.length_singleton] at hn
      exact ⟨t, ⟨hs.1, by omega, by omega⟩, by omega, h, hs.2, rfl⟩

theorem WellFormed.nodup_waiting {level : List Trail} (hg : g.WellFormed) (hl : level.Nodup) :
    (g.freeLevel depth level).waiting.Nodup := by
  refine List.nodup_flatMap.2 ⟨fun t _ => hg.nodup_next t, hl.imp fun hne => ?_⟩
  intro t ht ht'
  obtain ⟨_, h, _, rfl⟩ := mem_next.1 ht
  obtain ⟨_, h', _, e⟩ := mem_next.1 ht'
  exact hne (Trail.extend_inj e).1

/-- What is kept from a level on: the simple trails of as many hops or more that end under the cap on the depth. -/
theorem IsLevel.mem_kept {n levels : Nat} {level : List Trail} (hl : g.IsLevel depth n level) :
    t ∈ (g.freeWalk depth levels level).kept ↔
      g.IsSimple t ∧ n ≤ t.hops.length ∧ t.hops.length < n + levels ∧ t.hops.length ≤ depth ∧ g.ends depth t := by
  induction levels generalizing n level with
  | zero =>
    simp only [freeWalk, Walk.finish, List.not_mem_nil, false_iff]
    omega
  | succ levels ih =>
    simp only [freeWalk, List.mem_append, ih hl.next]
    have hfirst : t ∈ (g.freeLevel depth level).kept ↔
        (g.IsSimple t ∧ t.hops.length = n ∧ n ≤ depth) ∧ g.ends depth t := by
      rw [← hl t]
      exact List.mem_filter
    rw [hfirst]
    constructor
    · rintro (⟨⟨hs, hn, hd⟩, he⟩ | ⟨hs, hn, hk, hd, he⟩)
      · exact ⟨hs, by omega, by omega, by omega, he⟩
      · exact ⟨hs, by omega, by omega, hd, he⟩
    · intro ⟨hs, hn, hk, hd, he⟩
      by_cases hnl : t.hops.length = n
      · exact .inl ⟨⟨hs, hnl, by omega⟩, he⟩
      · exact .inr ⟨hs, by omega, by omega, hd, he⟩

/-- The cap on the depth is recorded if it cuts off one of the simple trails. -/
theorem IsLevel.mem_limits {n levels : Nat} {level : List Trail} {l : Limit} (hl : g.IsLevel depth n level) :
    l ∈ (g.freeWalk depth levels level).limits ↔ l = .depth depth ∧
      ∃ t, g.IsSimple t ∧ n ≤ t.hops.length ∧ t.hops.length < n + levels ∧ t.hops.length ≤ depth ∧ g.cut depth t := by
  induction levels generalizing n level with
  | zero =>
    simp only [freeWalk, Walk.finish, List.not_mem_nil, false_iff]
    rintro ⟨_, t, _, hn, hk, _⟩
    omega
  | succ levels ih =>
    simp only [freeWalk, List.mem_append, ih hl.next]
    have hfirst : l ∈ (g.freeLevel depth level).limits ↔
        ∃ t, ((g.IsSimple t ∧ t.hops.length = n ∧ n ≤ depth) ∧ g.cut depth t) ∧ .depth depth = l := by
      simp only [freeLevel, List.mem_map, List.mem_filter, hl _]
    rw [hfirst]
    constructor
    · rintro (⟨t, ⟨⟨hs, hn, hd⟩, hc⟩, rfl⟩ | ⟨rfl, t, hs, hn, hk, hd, hc⟩)
      · exact ⟨rfl, t, hs, by omega, by omega, by omega, hc⟩
      · exact ⟨rfl, t, hs, by omega, by omega, hd, hc⟩
    · rintro ⟨rfl, t, hs, hn, hk, hd, hc⟩
      by_cases hnl : t.hops.length = n
      · exact .inl ⟨t, ⟨⟨hs, hnl, by omega⟩, hc⟩, rfl⟩
      · exact .inr ⟨rfl, t, hs, by omega, by omega, hd, hc⟩

theorem IsLevel.nodup_kept {n levels : Nat} {level : List Trail} (hg : g.WellFormed) (hl : g.IsLevel depth n level)
    (hn : level.Nodup) : (g.freeWalk depth levels level).kept.Nodup := by
  induction levels generalizing n level with
  | zero => exact List.nodup_nil
  | succ levels ih =>
    refine List.nodup_append.2 ⟨hn.filter _, ih hl.next (hg.nodup_waiting hn), ?_⟩
    rintro t ht _ ht' rfl
    have h := ((hl t).1 (List.mem_filter.1 ht).1).2.1
    have h' := (hl.next.mem_kept.1 ht').2.1
    omega

/-- In the end at least as many trails are kept as there are in a level. -/
theorem IsLevel.length_le_kept {n levels : Nat} {level : List Trail} (hg : g.WellFormed)
    (hl : g.IsLevel depth n level) (hn : g.nodes.length ≤ n + levels) : level.length ≤ (g.freeWalk depth levels level).kept.length := by
  induction levels generalizing n level with
  | zero =>
    rw [hl.isPartLevel.eq_nil hg hn]
    exact Nat.zero_le _
  | succ levels ih =>
    have hfirst := g.length_le_freeLevel depth level
    have hrest := ih hl.next (by omega)
    simp only [freeWalk, List.length_append]
    omega

theorem walk_of_length_le {n levels kept : Nat} {level : List Trail} (hg : g.WellFormed)
    (hl : g.IsLevel caps.depth n level) (hn : g.nodes.length ≤ n + levels)
    (h : kept + (g.freeWalk caps.depth levels level).kept.length ≤ caps.paths) :
    g.walk caps levels kept level = g.freeWalk caps.depth levels level := by
  induction levels generalizing n kept level with
  | zero => rfl
  | succ levels ih =>
    have hrest := hl.next.length_le_kept hg (show g.nodes.length ≤ n + 1 + levels by omega)
    simp only [freeWalk, List.length_append] at h
    have hfirst : g.walkLevel caps kept (0 + level.length) level = _ :=
      walkLevel_of_length_le kept 0 (show _ ≤ caps.paths by omega)
    rw [Nat.zero_add] at hfirst
    rw [walk, freeWalk, hfirst]
    dsimp only
    rw [if_neg (by simp [freeLevel]), ih hl.next (by omega) (by omega)]

/-! ### From the root -/

/-- What becomes of all levels without a cap on paths. -/
def fullWalk (g : Graph) (depth : Nat) : Walk :=
  g.freeWalk depth g.nodes.length [⟨g.root.entity, []⟩]

theorem mem_kept_fullWalk (hg : g.WellFormed) :
    t ∈ (g.fullWalk depth).kept ↔ g.IsSimple t ∧ t.hops.length ≤ depth ∧ g.ends depth t := by
  rw [fullWalk, (g.isLevel_start depth).mem_kept]
  constructor
  · intro ⟨hs, _, _, hd, he⟩
    exact ⟨hs, hd, he⟩
  · intro ⟨hs, hd, he⟩
    have := hs.length_lt hg
    exact ⟨hs, by omega, by omega, hd, he⟩

theorem isMaximal_iff_mem_kept (hg : g.WellFormed) :
    g.IsMaximal depth t ↔ t ∈ (g.fullWalk depth).kept ∧ t.hops ≠ [] := by
  rw [mem_kept_fullWalk hg, ends_iff, continuations_eq_nil]
  constructor
  · intro ⟨hs, hne, hd, he⟩
    exact ⟨⟨hs, hd, he.symm.imp_right fun h => by omega⟩, hne⟩
  · intro ⟨⟨hs, hd, he⟩, hne⟩
    exact ⟨hs, hne, hd, he.symm.imp_left fun h => by omega⟩

theorem nodup_kept_fullWalk (hg : g.WellFormed) : (g.fullWalk depth).kept.Nodup :=
  (g.isLevel_start depth).nodup_kept hg (List.nodup_singleton _)

/-- The cap on the depth is recorded if it cuts a maximal trail off. -/
theorem mem_limits_fullWalk (hg : g.WellFormed) (hd : 0 < depth) {l : Limit} :
    l ∈ (g.fullWalk depth).limits ↔ l = .depth depth ∧
      ∃ t, g.IsMaximal depth t ∧ t.hops.length = depth ∧ ∃ h ∈ g.affected t.tail, h.entity ∉ t.entities := by
  rw [fullWalk, (g.isLevel_start depth).mem_limits]
  refine and_congr_right fun _ => exists_congr fun t => ?_
  have hc : g.continuations t ≠ [] ↔ ∃ h ∈ g.affected t.tail, h.entity ∉ t.entities := by
    rw [Ne, continuations_eq_nil]
    simp only [not_forall, exists_prop]
  rw [cut_iff, hc]
  constructor
  · intro ⟨hs, _, _, hle, hx, hge⟩
    exact ⟨⟨hs, List.length_pos_iff.1 (by omega), hle, .inl (by omega)⟩, by omega, hx⟩
  · intro ⟨hm, hl, hx⟩
    have := hm.simple.length_lt hg
    exact ⟨hm.simple, by omega, by omega, hm.length_le, hx, by omega⟩

private theorem length_le_encard {l : List Trail} {s : Set Trail} (hn : l.Nodup) (h : ∀ t ∈ l, t ∈ s) :
    (l.length : ℕ∞) ≤ s.encard := by
  rw [← List.toFinset_card_of_nodup hn, ← Set.encard_coe_eq_coe_finsetCard]
  exact Set.encard_le_encard fun t ht => h t (List.mem_toFinset.1 ht)

theorem encard_isMaximal_le (hg : g.WellFormed) :
    {t | g.IsMaximal depth t}.encard ≤ (g.fullWalk depth).kept.length := by
  have hsub : {t | g.IsMaximal depth t} ⊆ ((g.fullWalk depth).kept.toFinset : Set Trail) := by
    intro t ht
    exact List.mem_toFinset.2 ((isMaximal_iff_mem_kept hg).1 ht).1
  refine (Set.encard_le_encard hsub).trans ?_
  rw [Set.encard_coe_eq_coe_finsetCard]
  exact_mod_cast List.toFinset_card_le _

/-- The cap on paths plays no part if there are no more maximal trails than it allows. -/
theorem walk_eq_fullWalk_of_encard_le (hg : g.WellFormed) (hd : 0 < caps.depth) (hp : 0 < caps.paths)
    (h : {t | g.IsMaximal caps.depth t}.encard ≤ caps.paths) :
    g.walk caps g.nodes.length 0 [⟨g.root.entity, []⟩] = g.fullWalk caps.depth := by
  refine walk_of_length_le hg (g.isLevel_start _) (by omega) ?_
  show 0 + (g.fullWalk caps.depth).kept.length ≤ caps.paths
  rw [Nat.zero_add]
  have hn : (g.fullWalk caps.depth).kept.Nodup := nodup_kept_fullWalk hg
  by_cases hroot : ⟨g.root.entity, []⟩ ∈ (g.fullWalk caps.depth).kept
  · -- the root is kept only if nothing is affected by it, and then it is all that is kept
    have hsub : (g.fullWalk caps.depth).kept ⊆ [⟨g.root.entity, []⟩] := by
      intro t ht
      obtain ⟨_, _, he⟩ := (mem_kept_fullWalk hg).1 hroot
      obtain ⟨hs, _⟩ := (mem_kept_fullWalk hg).1 ht
      obtain ⟨r, hops⟩ := t
      have hc : g.continuations ⟨g.root.entity, []⟩ = [] := (ends_iff.1 he).resolve_right (by simpa using hd.ne')
      obtain rfl : r = g.root.entity := hs.root_eq
      cases hops with
      | nil => exact List.mem_singleton_self _
      | cons h hops =>
        have hs : g.IsSimple ⟨g.root.entity, [] ++ h :: hops⟩ := hs
        exact absurd (hc ▸ hs.of_append.2) List.not_mem_nil
    have := (hn.subperm hsub).length_le
    exact Nat.le_trans this hp
  · have hm : ∀ t ∈ (g.fullWalk caps.depth).kept, t ∈ {t | g.IsMaximal caps.depth t} := by
      intro t ht
      refine (isMaximal_iff_mem_kept hg).2 ⟨ht, fun hne => hroot ?_⟩
      obtain ⟨r, hops⟩ := t
      obtain rfl : hops = [] := hne
      rwa [isSimple_nil.1 ((mem_kept_fullWalk hg).1 ht).1] at ht
    exact_mod_cast (length_le_encard hn hm).trans h

end ChangeImpact.Graph
