import ChangeImpact.Exposure
import ChangeImpact.Proofs.Enumeration

/-!
# What the visits say of an object

The exposures are a table of the visited objects, sorted (`ofPaths_eq`, `mem_table`), so each object that some path
visits has one exposure (`nodup_entities_ofPaths`, `mem_entities_ofPaths`).  Its distance is the least of its visits
(`isLeast_distance`), its usages are those of its visits (`mem_usages`).  If the paths are those of the maximal trails,
the visits are the hops that simple trails end with (`exists_visit_iff`).

A search that keeps what it has unless it finds more finds the first of the greatest (`isFirstGreatest_foldl`), such
as the worst of several paths (`Path.isFirstGreatest_worst`).
-/

namespace ChangeImpact

/-! ### The first of the greatest -/

section IsFirstGreatest

variable {α : Type} {f : α → Nat} {as : List α} {a a' : α}

/-- The measure is smaller at all elements before this one, and not greater at those after it. -/
def IsFirstGreatest (f : α → Nat) (as : List α) (a : α) : Prop :=
  ∃ before after, as = before ++ a :: after ∧ (∀ b ∈ before, f b < f a) ∧ ∀ b ∈ after, f b ≤ f a

theorem IsFirstGreatest.mem (h : IsFirstGreatest f as a) : a ∈ as := by
  obtain ⟨before, after, rfl, _, _⟩ := h
  exact List.mem_append_right _ List.mem_cons_self

theorem IsFirstGreatest.le (h : IsFirstGreatest f as a) {b : α} (hb : b ∈ as) : f b ≤ f a := by
  obtain ⟨before, after, rfl, hbefore, hafter⟩ := h
  rcases List.mem_append.1 hb with hb | hb
  · exact Nat.le_of_lt (hbefore b hb)
  · rcases List.mem_cons.1 hb with rfl | hb
    · exact Nat.le_refl _
    · exact hafter b hb

theorem IsFirstGreatest.eq (h : IsFirstGreatest f as a) (h' : IsFirstGreatest f as a') : a = a' := by
  have hle := h.le h'.mem
  have hle' := h'.le h.mem
  obtain ⟨before, after, rfl, hbefore, _⟩ := h
  obtain ⟨before', after', heq, hbefore', _⟩ := h'
  -- the one that comes first in the list is not below the other
  rcases List.append_eq_append_iff.1 heq with ⟨between, rfl, hrest⟩ | ⟨between, rfl, hrest⟩
  · rcases List.cons_eq_append_iff.1 hrest with ⟨_, hrest⟩ | ⟨_, rfl, _⟩
    · exact (List.cons.inj hrest).1.symm
    · exact absurd (hbefore' a (by simp)) (by omega)
  · rcases List.cons_eq_append_iff.1 hrest with ⟨_, hrest⟩ | ⟨_, rfl, _⟩
    · exact (List.cons.inj hrest).1
    · exact absurd (hbefore a' (by simp)) (by omega)

/-- It is still the first of the greatest when others are left out. -/
theorem IsFirstGreatest.filter (h : IsFirstGreatest f as a) {p : α → Bool} (ha : p a) :
    IsFirstGreatest f (as.filter p) a := by
  obtain ⟨before, after, rfl, hbefore, hafter⟩ := h
  refine ⟨before.filter p, after.filter p, ?_, fun b hb => hbefore b (List.mem_filter.1 hb).1,
    fun b hb => hafter b (List.mem_filter.1 hb).1⟩
  rw [List.filter_append, List.filter_cons_of_pos ha]

/-- It stays so behind an element of a smaller measure. -/
theorem IsFirstGreatest.cons_of_lt (h : IsFirstGreatest f as a) {b : α} (hb : f b < f a) :
    IsFirstGreatest f (b :: as) a := by
  obtain ⟨before, after, rfl, hbefore, hafter⟩ := h
  exact ⟨b :: before, after, rfl, List.forall_mem_cons.2 ⟨hb, hbefore⟩, hafter⟩

/-- It stays so when an element is put in that does not exceed the one before it. -/
theorem IsFirstGreatest.cons_cons (h : IsFirstGreatest f (a' :: as) a) {b : α} (hb : f b ≤ f a') :
    IsFirstGreatest f (a' :: b :: as) a := by
  obtain ⟨before, after, heq, hbefore, hafter⟩ := h
  rcases List.cons_eq_append_iff.1 heq with ⟨rfl, heq⟩ | ⟨before, rfl, rfl⟩
  · obtain ⟨rfl, rfl⟩ := List.cons.inj heq
    exact ⟨[], b :: as, rfl, by simp, List.forall_mem_cons.2 ⟨hb, hafter⟩⟩
  · obtain ⟨ha', hbefore⟩ := List.forall_mem_cons.1 hbefore
    refine ⟨a' :: b :: before, after, rfl, ?_, hafter⟩
    exact List.forall_mem_cons.2 ⟨ha', List.forall_mem_cons.2 ⟨Nat.lt_of_le_of_lt hb ha', hbefore⟩⟩

/-- The best so far is given up for more only. -/
theorem isFirstGreatest_foldl (f : α → Nat) (a : α) (as : List α) :
    IsFirstGreatest f (a :: as) (as.foldl (fun best b => if f b > f best then b else best) a) := by
  induction as generalizing a with
  | nil => exact ⟨[], [], rfl, by simp, by simp⟩
  | cons b bs ih =>
    rw [List.foldl_cons]
    by_cases hab : f b > f a
    · rw [if_pos hab]
      exact (ih b).cons_of_lt (Nat.lt_of_lt_of_le hab ((ih b).le List.mem_cons_self))
    · rw [if_neg hab]
      exact (ih a).cons_cons (Nat.le_of_not_lt hab)

end IsFirstGreatest

theorem Path.isFirstGreatest_worst (p : Path) (ps : List Path) : IsFirstGreatest Path.risk (p :: ps) (p.worst ps) :=
  isFirstGreatest_foldl Path.risk p ps

/-! ### The visits of an object -/

/-- A visit is a step with those before it and those after it. -/
theorem Path.mem_visits {p : Path} {v : Visit} :
    v ∈ p.visits ↔
      v.path = p ∧ ∃ before after, p.steps = before ++ v.step :: after ∧ v.distance = before.length + 1 := by
  obtain ⟨q, d, s⟩ := v
  simp only [visits, List.mem_map, Prod.exists, List.mem_zipIdx_iff_getElem?, Visit.mk.injEq]
  constructor
  · rintro ⟨_, i, hi, rfl, rfl, rfl⟩
    obtain ⟨hl, rfl⟩ := List.getElem?_eq_some_iff.1 hi
    refine ⟨rfl, p.steps.take i, p.steps.drop (i + 1), ?_, ?_⟩
    · rw [← List.drop_eq_getElem_cons hl, List.take_append_drop]
    · rw [List.length_take_of_le (by omega)]
  · rintro ⟨rfl, before, after, hs, rfl⟩
    exact ⟨s, before.length, by simp [hs], rfl, rfl, rfl⟩

namespace Exposure

variable {paths : List Path} {vs : List Visit} {x : Exposure} {e : Entity}

/-- The exposure of an entity that is visited. -/
def ofEntity? (vs : List Visit) (e : Entity) : Option Exposure :=
  match vs.filter (·.entity = e) with
  | [] => none
  | first :: others => some (ofVisits first others)

/-- The exposures of all visited entities, in the order of their first visits. -/
def table (vs : List Visit) : List Exposure :=
  (distinctBy id [] (vs.map Visit.entity)).filterMap (ofEntity? vs)

theorem ofPaths_eq (paths : List Path) : ofPaths paths = sortBy le (table (paths.flatMap Path.visits)) := rfl

/-- The visits of an object are those of its exposure. -/
private theorem mem_cons_of_filter_eq {first : Visit} {others : List Visit}
    (h : vs.filter (·.entity = e) = first :: others) {v : Visit} :
    v ∈ first :: others ↔ v ∈ vs ∧ v.entity = e := by
  rw [← h, List.mem_filter, decide_eq_true_iff]

theorem ofEntity?_eq_some : ofEntity? vs e = some x ↔
    ∃ first others, vs.filter (·.entity = e) = first :: others ∧ x = ofVisits first others := by
  unfold ofEntity?
  cases vs.filter (·.entity = e) with
  | nil => simp
  | cons first others => simp [eq_comm]

theorem entity_of_ofEntity? (h : ofEntity? vs e = some x) : x.entity = e := by
  obtain ⟨first, others, hv, rfl⟩ := ofEntity?_eq_some.1 h
  exact ((mem_cons_of_filter_eq hv).1 List.mem_cons_self).2

theorem ofEntity?_eq_none : ofEntity? vs e = none ↔ e ∉ vs.map Visit.entity := by
  rw [Option.eq_none_iff_forall_ne_some]
  constructor
  · intro h he
    obtain ⟨v, hv, rfl⟩ := List.mem_map.1 he
    cases hf : vs.filter (·.entity = v.entity) with
    | nil => exact absurd (decide_eq_true rfl) (List.filter_eq_nil_iff.1 hf v hv)
    | cons first others => exact h _ (ofEntity?_eq_some.2 ⟨first, others, hf, rfl⟩)
  · intro he x hx
    obtain ⟨first, others, hf, _⟩ := ofEntity?_eq_some.1 hx
    obtain ⟨hfirst, hentity⟩ := (mem_cons_of_filter_eq hf).1 List.mem_cons_self
    exact he (List.mem_map.2 ⟨first, hfirst, hentity⟩)

theorem exists_ofEntity?_eq_some (he : e ∈ vs.map Visit.entity) : ∃ x, ofEntity? vs e = some x :=
  Option.ne_none_iff_exists'.1 (mt ofEntity?_eq_none.1 (not_not.2 he))

theorem mem_table : x ∈ table vs ↔ ofEntity? vs x.entity = some x := by
  rw [table, List.mem_filterMap]
  constructor
  · rintro ⟨e, _, h⟩
    rwa [entity_of_ofEntity? h]
  · intro h
    have he : x.entity ∈ vs.map Visit.entity := by
      by_contra hne
      rw [ofEntity?_eq_none.2 hne] at h
      cases h
    exact ⟨x.entity, mem_distinctBy_id.2 he, h⟩

theorem mem_entities_table : e ∈ (table vs).map entity ↔ e ∈ vs.map Visit.entity := by
  rw [List.mem_map]
  constructor
  · rintro ⟨x, hx, rfl⟩
    obtain ⟨e, he, hx⟩ := List.mem_filterMap.1 hx
    exact entity_of_ofEntity? hx ▸ mem_distinctBy_id.1 he
  · intro he
    obtain ⟨x, hx⟩ := exists_ofEntity?_eq_some he
    exact ⟨x, List.mem_filterMap.2 ⟨e, mem_distinctBy_id.2 he, hx⟩, entity_of_ofEntity? hx⟩

/-- An exposure is that of the visits of its object. -/
theorem mem_ofPaths : x ∈ ofPaths paths ↔ ∃ first others,
    (paths.flatMap Path.visits).filter (·.entity = x.entity) = first :: others ∧ x = ofVisits first others := by
  rw [ofPaths_eq, (perm_sortBy _ _).mem_iff, mem_table, ofEntity?_eq_some]

theorem mem_entities_ofPaths {e : Entity} :
    e ∈ (ofPaths paths).map entity ↔ ∃ v ∈ paths.flatMap Path.visits, v.entity = e := by
  rw [ofPaths_eq, ((perm_sortBy _ _).map entity).mem_iff, mem_entities_table, List.mem_map]

/-- What is made of different elements is different, if each element can be told from what is made of it. -/
private theorem nodup_map_filterMap {α β : Type} {f : α → Option β} {key : β → α} {as : List α}
    (hf : ∀ a b, f a = some b → key b = a) (h : as.Nodup) : ((as.filterMap f).map key).Nodup := by
  rw [List.Nodup, List.pairwise_map, List.pairwise_filterMap]
  refine h.imp ?_
  intro a a' hne b hb b' hb' hkey
  exact hne (by rw [← hf a b hb, ← hf a' b' hb', hkey])

theorem nodup_entities_ofPaths (paths : List Path) : ((ofPaths paths).map entity).Nodup := by
  rw [ofPaths_eq, ((perm_sortBy _ _).map entity).nodup_iff]
  exact nodup_map_filterMap (fun _ _ => entity_of_ofEntity?) (nodup_distinctBy_id _)

theorem isLeast_distance (hx : x ∈ ofPaths paths) :
    IsLeast {d | ∃ v ∈ paths.flatMap Path.visits, v.entity = x.entity ∧ v.distance = d} x.distance := by
  obtain ⟨first, others, hv, hx⟩ := mem_ofPaths.1 hx
  have hd : x.distance = (others.map Visit.distance).foldl min first.distance := by
    rw [hx, List.foldl_map]; rfl
  have hmin : ((first :: others).map Visit.distance).min? = some x.distance := by
    rw [List.map_cons, List.min?_cons', hd]
  obtain ⟨hmem, hle⟩ := List.min?_eq_some_iff.1 hmin
  constructor
  · obtain ⟨v, hmv, hvd⟩ := List.mem_map.1 hmem
    obtain ⟨hmv, hve⟩ := (mem_cons_of_filter_eq hv).1 hmv
    exact ⟨v, hmv, hve, hvd⟩
  · rintro d ⟨v, hmv, hve, rfl⟩
    exact hle _ (List.mem_map_of_mem ((mem_cons_of_filter_eq hv).2 ⟨hmv, hve⟩))

theorem mem_usages (hx : x ∈ ofPaths paths) {u : Usage} :
    u ∈ x.usages ↔ ∃ v ∈ paths.flatMap Path.visits, v.entity = x.entity ∧ v.step.usage = u := by
  obtain ⟨first, others, hv, hx⟩ := mem_ofPaths.1 hx
  have hu : x.usages = Usage.all.filter fun usage => (first :: others).any fun v => v.step.usage == usage := by
    rw [hx]; rfl
  rw [hu, List.mem_filter, List.any_eq_true]
  constructor
  · rintro ⟨_, v, hmv, hvu⟩
    obtain ⟨hmv, hve⟩ := (mem_cons_of_filter_eq hv).1 hmv
    exact ⟨v, hmv, hve, eq_of_beq hvu⟩
  · rintro ⟨v, hmv, hve, hvu⟩
    exact ⟨u.mem_all, v, (mem_cons_of_filter_eq hv).2 ⟨hmv, hve⟩, beq_iff_eq.2 hvu⟩

end Exposure

/-! ### Visits of maximal trails -/

/-- The maximal trails meet what a simple trail ends with, if it is no longer than they may be. -/
theorem Graph.exists_visit_iff {g : Graph} {depth : Nat} {paths : List Path}
    (h : ∀ t, t ∈ paths.map Path.trail ↔ g.IsMaximal depth t) {hop : Hop} {d : Nat} :
    (∃ v ∈ paths.flatMap Path.visits, v.step.hop = hop ∧ v.distance = d) ↔
      ∃ t : Trail, g.IsSimple (t.extend hop) ∧ d = t.hops.length + 1 ∧ d ≤ depth := by
  constructor
  · rintro ⟨v, hv, rfl, rfl⟩
    obtain ⟨p, hp, hv⟩ := List.mem_flatMap.1 hv
    obtain ⟨_, before, after, hs, hd⟩ := Path.mem_visits.1 hv
    have hm := (h p.trail).1 (List.mem_map_of_mem hp)
    have hops : p.trail.hops = before.map Step.hop ++ [v.step.hop] ++ after.map Step.hop := by
      simp [Path.trail, hs]
    have hl := hm.length_le
    rw [hops] at hl
    simp only [List.length_append, List.length_map, List.length_singleton] at hl
    exact ⟨⟨p.trail.root, before.map Step.hop⟩, hm.simple.of_prefix ⟨_, hops.symm⟩, by simp [hd], by omega⟩
  · rintro ⟨t, ht, rfl, hd⟩
    obtain ⟨t', ht', hp⟩ := ht.exists_isMaximal (by simp) (by simpa using hd)
    obtain ⟨p, hmp, rfl⟩ := List.mem_map.1 ((h t').2 ht')
    -- the steps of that path are the hops of the trail, the hop and what comes after it
    obtain ⟨after, hp⟩ := hp
    have hs : p.steps.map Step.hop = t.hops ++ hop :: after := by
      rw [Trail.hops_extend, List.append_assoc] at hp
      exact hp.symm
    obtain ⟨before, rest, hsteps, hb, hr⟩ := List.map_eq_append_iff.1 hs
    obtain ⟨s, rest, rfl, rfl, _⟩ := List.map_eq_cons_iff.1 hr
    have hl : before.length = t.hops.length := by rw [← hb, List.length_map]
    refine ⟨⟨p, before.length + 1, s⟩, List.mem_flatMap.2 ⟨p, hmp, ?_⟩, rfl, by simp [hl]⟩
    exact Path.mem_visits.2 ⟨rfl, before, rest, hsteps, rfl⟩

end ChangeImpact
