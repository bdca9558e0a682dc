/-!
# Sorting

`sortBy le` sorts by insertion; elements that are not told apart by `le` keep their order.

* `perm_sortBy`: nothing is lost or added;
* `pairwise_sortBy`: the result is in order, for a total and transitive `le`;
* `sortBy_eq_self`: what is in order stays as it is;
* `lexLe`: the order of keys with several components, which is total and transitive.
-/

namespace ChangeImpact

variable {α : Type}

/-- Puts an element in front of the first that it does not exceed. -/
def insertBy (le : α → α → Bool) (a : α) : List α → List α
  | [] => [a]
  | b :: bs => if le a b then a :: b :: bs else b :: insertBy le a bs

def sortBy (le : α → α → Bool) : List α → List α
  | [] => []
  | a :: as => insertBy le a (sortBy le as)

theorem perm_insertBy (le : α → α → Bool) (a : α) (as : List α) : (insertBy le a as).Perm (a :: as) := by
  induction as with
  | nil => exact List.Perm.refl _
  | cons b bs ih =>
    unfold insertBy
    split
    · exact List.Perm.refl _
    · exact (ih.cons b).trans (List.Perm.swap a b bs)

theorem perm_sortBy (le : α → α → Bool) (as : List α) : (sortBy le as).Perm as := by
  induction as with
  | nil => exact List.Perm.refl _
  | cons a as ih => exact (perm_insertBy le a _).trans (ih.cons a)

theorem pairwise_insertBy {le : α → α → Bool} (trans : ∀ a b c, le a b → le b c → le a c)
    (total : ∀ a b, le a b ∨ le b a) (a : α) {as : List α} (h : as.Pairwise (le · ·)) :
    (insertBy le a as).Pairwise (le · ·) := by
  induction as with
  | nil => simp [insertBy]
  | cons b bs ih =>
    rw [List.pairwise_cons] at h
    unfold insertBy
    split
    · rename_i hab
      refine List.pairwise_cons.2 ⟨fun c hc => ?_, List.pairwise_cons.2 h⟩
      rcases List.mem_cons.1 hc with rfl | hc
      · exact hab
      · exact trans _ _ _ hab (h.1 c hc)
    · rename_i hab
      refine List.pairwise_cons.2 ⟨fun c hc => ?_, ih h.2⟩
      rcases List.mem_cons.1 ((perm_insertBy le a bs).mem_iff.1 hc) with rfl | hc
      · exact (total _ _).resolve_left hab
      · exact h.1 c hc

theorem pairwise_sortBy {le : α → α → Bool} (trans : ∀ a b c, le a b → le b c → le a c)
    (total : ∀ a b, le a b ∨ le b a) (as : List α) : (sortBy le as).Pairwise (le · ·) := by
  induction as with
  | nil => exact List.Pairwise.nil
  | cons a as ih => exact pairwise_insertBy trans total a ih

theorem sortBy_eq_self {le : α → α → Bool} {as : List α} (h : as.Pairwise (le · ·)) : sortBy le as = as := by
  induction as with
  | nil => rfl
  | cons a as ih =>
    obtain ⟨ha, has⟩ := List.pairwise_cons.1 h
    rw [sortBy, ih has]
    cases as with
    | nil => rfl
    | cons b bs => rw [insertBy, if_pos (ha b List.mem_cons_self)]

/-! ### Keys with several components -/

/-- The first component that differs decides; a key comes before those that it begins. -/
def lexLe : List Int → List Int → Bool
  | [], _ => true
  | _ :: _, [] => false
  | a :: as, b :: bs => a < b || (a == b && lexLe as bs)

theorem lexLe_cons (a b : Int) (as bs : List Int) :
    lexLe (a :: as) (b :: bs) ↔ a < b ∨ a = b ∧ lexLe as bs := by
  simp [lexLe]

theorem lexLe_total (as bs : List Int) : lexLe as bs ∨ lexLe bs as := by
  induction as generalizing bs with
  | nil => simp [lexLe]
  | cons a as ih =>
    cases bs with
    | nil => simp [lexLe]
    | cons b bs =>
      rw [lexLe_cons, lexLe_cons]
      rcases Int.lt_trichotomy a b with h | rfl | h
      · exact .inl (.inl h)
      · exact (ih bs).imp (fun h => .inr ⟨rfl, h⟩) fun h => .inr ⟨rfl, h⟩
      · exact .inr (.inl h)

theorem lexLe_trans (as bs cs : List Int) (h : lexLe as bs) (h' : lexLe bs cs) : lexLe as cs := by
  induction as generalizing bs cs with
  | nil => simp [lexLe]
  | cons a as ih =>
    cases bs with
    | nil => simp [lexLe] at h
    | cons b bs =>
      cases cs with
      | nil => simp [lexLe] at h'
      | cons c cs =>
        rw [lexLe_cons] at h h' ⊢
        rcases h with h | ⟨rfl, h⟩ <;> rcases h' with h' | ⟨rfl, h'⟩
        · exact .inl (Int.lt_trans h h')
        · exact .inl h
        · exact .inl h'
        · exact .inr ⟨rfl, ih bs cs h h'⟩

end ChangeImpact
