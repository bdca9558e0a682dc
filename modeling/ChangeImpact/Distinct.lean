/-!
# First occurrences

`distinctBy key seen as` keeps of each key the first element that has it, unless the key was seen before.

* `mem_of_mem_distinctBy`, `nodup_map_distinctBy`: what is kept was there, and no key is kept twice;
* `mem_map_distinctBy`: no key is lost; `mem_distinctBy_id` and `nodup_distinctBy_id` are for elements that are keys;
* `mem_distinctBy`, `rel_of_mem_distinctBy`: what is kept is the first element of its key;
* `distinctBy_of_nodup`: what has no repetitions is kept as it is;
* `distinctBy_map`: what is done to the elements without changing their keys can be done before or after;
* `distinctBy_append`: a list in two parts, where the second part has seen the keys of the first;
  `distinctBy_append_singleton`: one more element, where elements are keys;
* `distinctBy_eq_filter`: keys seen before can be left out afterwards.
-/

namespace ChangeImpact

variable {α κ : Type} [BEq κ]

/-- The elements whose key is neither among those seen nor that of an earlier element. -/
def distinctBy (key : α → κ) (seen : List κ) : List α → List α
  | [] => []
  | a :: as => if seen.contains (key a) then distinctBy key seen as else a :: distinctBy key (key a :: seen) as

theorem mem_of_mem_distinctBy {key : α → κ} {seen : List κ} {as : List α} {a : α}
    (h : a ∈ distinctBy key seen as) : a ∈ as := by
  induction as generalizing seen with
  | nil => exact h
  | cons b bs ih =>
    unfold distinctBy at h
    split at h
    · exact List.mem_cons_of_mem _ (ih h)
    · rcases List.mem_cons.1 h with h | h
      · exact h ▸ List.mem_cons_self
      · exact List.mem_cons_of_mem _ (ih h)

/-- A map that keeps the keys keeps the first occurrences. -/
theorem distinctBy_map {key : α → κ} {g : α → α} (hg : ∀ a, key (g a) = key a) (seen : List κ) (as : List α) :
    distinctBy key seen (as.map g) = (distinctBy key seen as).map g := by
  induction as generalizing seen with
  | nil => rfl
  | cons a as ih =>
    rw [List.map_cons, distinctBy, distinctBy, hg, ih, ih]
    split <;> rfl

variable [LawfulBEq κ]

theorem mem_map_distinctBy {key : α → κ} {seen : List κ} {as : List α} {k : κ} :
    k ∈ (distinctBy key seen as).map key ↔ k ∈ as.map key ∧ k ∉ seen := by
  induction as generalizing seen with
  | nil => simp [distinctBy]
  | cons b bs ih =>
    unfold distinctBy
    by_cases hb : key b ∈ seen
    · rw [if_pos (by simpa using hb), ih]
      grind
    · rw [if_neg (by simpa using hb)]
      simp only [List.map_cons, List.mem_cons, ih]
      grind

/-- What is kept is the first element of its key, and the key was not seen. -/
theorem mem_distinctBy {key : α → κ} {seen : List κ} {as : List α} {a : α} :
    a ∈ distinctBy key seen as ↔ key a ∉ seen ∧ as.find? (fun b => key b == key a) = some a := by
  induction as generalizing seen with
  | nil => simp [distinctBy]
  | cons b bs ih =>
    unfold distinctBy
    by_cases hb : key b ∈ seen
    · rw [if_pos (by simpa using hb), ih]
      refine and_congr_right fun ha => ?_
      have hne : key b ≠ key a := fun heq => ha (heq ▸ hb)
      rw [List.find?_cons_of_neg (by simpa using hne)]
    · rw [if_neg (by simpa using hb), List.mem_cons, ih]
      by_cases hkey : key b = key a
      · rw [List.find?_cons_of_pos (by simpa using hkey), Option.some.injEq, List.mem_cons]
        grind
      · rw [List.find?_cons_of_neg (by simpa using hkey), List.mem_cons]
        grind

/-- In a list that is in order, what is kept is in order with all elements of its key. -/
theorem rel_of_mem_distinctBy {key : α → κ} {seen : List κ} {as : List α} {r : α → α → Prop} (hr : ∀ a, r a a)
    (has : as.Pairwise r) {a b : α} (ha : a ∈ distinctBy key seen as) (hb : b ∈ as) (hkey : key b = key a) : r a b := by
  obtain ⟨_, before, after, rfl, hbefore⟩ := List.find?_eq_some_iff_append.1 (mem_distinctBy.1 ha).2
  rcases List.mem_append.1 hb with hb | hb
  · exact absurd hkey (by simpa using hbefore b hb)
  · rcases List.mem_cons.1 hb with rfl | hb
    · exact hr b
    · exact (List.pairwise_cons.1 (List.pairwise_append.1 has).2.1).1 b hb

theorem nodup_map_distinctBy (key : α → κ) (seen : List κ) (as : List α) :
    ((distinctBy key seen as).map key).Nodup := by
  induction as generalizing seen with
  | nil => simp [distinctBy]
  | cons b bs ih =>
    unfold distinctBy
    split
    · exact ih _
    · refine List.nodup_cons.2 ⟨fun h => ?_, ih _⟩
      exact (mem_map_distinctBy.1 h).2 List.mem_cons_self

theorem mem_distinctBy_id {as : List κ} {k : κ} : k ∈ distinctBy id [] as ↔ k ∈ as := by
  have h : k ∈ (distinctBy id [] as).map id ↔ k ∈ as.map id ∧ k ∉ [] := mem_map_distinctBy
  simpa using h

theorem nodup_distinctBy_id (as : List κ) : (distinctBy id [] as).Nodup := by
  have h := nodup_map_distinctBy id [] as
  rwa [List.map_id] at h

/-- Where every key is new, every element is kept. -/
theorem distinctBy_of_nodup {key : α → κ} {seen : List κ} {as : List α} (h : (as.map key).Nodup)
    (hseen : ∀ a ∈ as, key a ∉ seen) : distinctBy key seen as = as := by
  induction as generalizing seen with
  | nil => rfl
  | cons a as ih =>
    obtain ⟨ha, has⟩ := List.nodup_cons.1 h
    have hnew : ∀ b ∈ as, key b ∉ key a :: seen := by
      intro b hb hmem
      rcases List.mem_cons.1 hmem with heq | hmem
      · exact ha (List.mem_map.2 ⟨b, hb, heq⟩)
      · exact hseen b (List.mem_cons_of_mem _ hb) hmem
    rw [distinctBy, if_neg (by simpa using hseen a List.mem_cons_self), ih has hnew]

theorem distinctBy_congr {key : α → κ} {seen seen' : List κ} (h : ∀ k, k ∈ seen ↔ k ∈ seen') (as : List α) :
    distinctBy key seen as = distinctBy key seen' as := by
  induction as generalizing seen seen' with
  | nil => rfl
  | cons b bs ih =>
    have hb : seen.contains (key b) = seen'.contains (key b) := by simp [h]
    have hk : ∀ k, k ∈ key b :: seen ↔ k ∈ key b :: seen' := by simp [h]
    unfold distinctBy
    rw [hb, ih h, ih hk]

/-- Keys seen before can be left out afterwards. -/
theorem distinctBy_append_seen (key : α → κ) (before seen : List κ) (as : List α) :
    distinctBy key (before ++ seen) as = (distinctBy key seen as).filter fun a => !before.contains (key a) := by
  induction as generalizing seen with
  | nil => rfl
  | cons a as ih =>
    have hnext : distinctBy key (key a :: (before ++ seen)) as =
        (distinctBy key (key a :: seen) as).filter fun a => !before.contains (key a) := by
      rw [← ih]
      exact distinctBy_congr (fun k => by grind) as
    by_cases hseen : key a ∈ seen
    · have hboth : key a ∈ before ++ seen := List.mem_append_right _ hseen
      rw [distinctBy, distinctBy, if_pos (by simpa using hboth), if_pos (by simpa using hseen), ih]
    · rw [distinctBy, distinctBy, if_neg (c := seen.contains (key a)) (by simpa using hseen)]
      by_cases hbefore : key a ∈ before
      · -- the element that is kept on the right goes with the filter, and its key is known on both sides
        have hboth : key a ∈ before ++ seen := List.mem_append_left _ hbefore
        rw [if_pos (by simpa using hboth), List.filter_cons_of_neg (by simpa using hbefore), ← hnext]
        exact distinctBy_congr (fun k => by grind) as
      · rw [if_neg (by simp [hbefore, hseen]), List.filter_cons_of_pos (by simpa using hbefore), hnext]

theorem distinctBy_eq_filter (key : α → κ) (seen : List κ) (as : List α) :
    distinctBy key seen as = (distinctBy key [] as).filter fun a => !seen.contains (key a) := by
  rw [← distinctBy_append_seen, List.append_nil]

theorem distinctBy_append (key : α → κ) (seen : List κ) (as bs : List α) :
    distinctBy key seen (as ++ bs) = distinctBy key seen as ++ distinctBy key (as.map key ++ seen) bs := by
  induction as generalizing seen with
  | nil => rfl
  | cons a as ih =>
    simp only [List.cons_append, distinctBy]
    split
    · rename_i ha
      rw [ih]
      refine congrArg _ (distinctBy_congr (fun k => ?_) bs)
      have ha : key a ∈ seen := by simpa using ha
      grind
    · rw [ih, List.cons_append]
      refine congrArg _ (congrArg _ (distinctBy_congr (fun k => ?_) bs))
      grind

/-- One more element is kept if it was not. -/
theorem distinctBy_append_singleton (as : List κ) (k : κ) :
    distinctBy id [] (as ++ [k]) =
      if (distinctBy id [] as).contains k then distinctBy id [] as else distinctBy id [] as ++ [k] := by
  have hkept : (distinctBy id [] as).contains k = (as.map id ++ []).contains k := by
    rw [Bool.eq_iff_iff, List.contains_iff_mem, List.contains_iff_mem, mem_distinctBy_id, List.map_id, List.append_nil]
  rw [distinctBy_append, hkept, distinctBy, id]
  by_cases hk : (as.map id ++ []).contains k
  · rw [if_pos hk, if_pos hk, distinctBy, List.append_nil]
  · rw [if_neg hk, if_neg hk, distinctBy]

end ChangeImpact
