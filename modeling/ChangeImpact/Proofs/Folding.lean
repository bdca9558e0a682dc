import ChangeImpact.Proofs.Names

/-!
# Texts up to case

Lower-casing looks at what stands around a character only for a capital sigma, whose image has a form for the end of a
word.  With the two forms taken for one, a text is put into lower case character by character (`toList_fold`), so texts
that are put together can be compared part by part.

* `sameCase`: equality in lower case, with one form of the small sigma;
* `lower_eq_iff`: beyond ASCII there are capitals for `i` and `k`, but a text without these letters is the lower case
  of ASCII texts only;
* `fold_eq_iff`: to a text without a small sigma the two forms make no difference.
-/

namespace ChangeImpact.Text

/-- The small sigma for its final form, and every other character for itself. -/
def plainSigma (c : Char) : Char :=
  if c = 'ς' then 'σ' else c

/-- The text in lower case, with one form of the small sigma. -/
def fold (s : String) : String :=
  (lower s).map plainSigma

/-- Equality up to case. -/
def sameCase (s t : String) : Bool :=
  fold s == fold t

theorem sameCase_iff {s t : String} : sameCase s t ↔ fold s = fold t :=
  beq_iff_eq

/-! ### Character by character -/

/-- The characters that a character becomes, wherever it stands. -/
def foldChar (c : Char) : List Char :=
  (lowerChar [] c []).map plainSigma

theorem map_plainSigma_lowerChar (before : List Char) (c : Char) (after : List Char) :
    (lowerChar before c after).map plainSigma = foldChar c := by
  unfold foldChar lowerChar
  split
  · rfl
  · split
    · -- either form of the small sigma becomes the plain one
      cases meetsCased before <;> cases meetsCased after <;> rfl
    · rfl

theorem map_plainSigma_lowerFrom (before cs : List Char) :
    (lowerFrom before cs).map plainSigma = cs.flatMap foldChar := by
  induction cs generalizing before with
  | nil => rfl
  | cons c cs ih => rw [lowerFrom, List.map_append, map_plainSigma_lowerChar, ih, List.flatMap_cons]

theorem toList_fold (s : String) : (fold s).toList = s.toList.flatMap foldChar := by
  rw [fold, String.toList_map, lower, String.toList_ofList, map_plainSigma_lowerFrom]

/-! ### ASCII characters -/

/-- The character is in ASCII, and no character beyond ASCII becomes it in lower case. -/
def IsOwnLower (c : Char) : Prop :=
  c.toNat < 0x80 ∧ c ≠ 'i' ∧ c ≠ 'k' ∧ c ≠ '\x00'

instance (c : Char) : Decidable (IsOwnLower c) :=
  inferInstanceAs (Decidable (_ ∧ _))

/-- Of the runs of code points beyond ASCII, only that of the Kelvin sign leads to ASCII. -/
theorem image_of_mem_lowercaseRuns :
    ∀ run ∈ lowercaseRuns, run.last < 0x80 ∨ 0x80 ≤ run.image ∨ (run.first = run.last ∧ run.image = 'k'.toNat) := by
  decide +kernel

theorem not_isOwnLower_imageIn {c : Char} (hc : 0x80 ≤ c.toNat) : ¬ IsOwnLower (imageIn lowercaseRuns c) := by
  intro hown
  unfold imageIn at hown
  cases himage : lowercaseRuns.findSome? (·.image? c) with
  | none =>
    rw [himage] at hown
    exact absurd hown.1 (by simpa using hc)
  | some d =>
    rw [himage, Option.getD_some] at hown
    obtain ⟨hascii, _, hk, hnul⟩ := hown
    obtain ⟨run, hrun, hd⟩ := List.exists_of_findSome?_eq_some himage
    unfold CaseRun.image? at hd
    split at hd
    · rename_i hin
      obtain rfl := Option.some.inj hd
      simp only [Bool.and_eq_true, decide_eq_true_eq] at hin
      rcases image_of_mem_lowercaseRuns run hrun with hlast | hfar | ⟨hone, hkelvin⟩
      · omega
      · by_cases hvalid : (run.image + (c.toNat - run.first)).isValidChar
        · rw [Char.ofNat, dif_pos hvalid] at hascii
          change run.image + (c.toNat - run.first) < 0x80 at hascii
          omega
        · exact hnul (by rw [Char.ofNat, dif_neg hvalid]; rfl)
      · have hoffset : c.toNat - run.first = 0 := by omega
        exact hk (by rw [hoffset, hkelvin]; rfl)
    · cases hd

theorem lowerChar_of_ascii {c : Char} (hc : c.toNat < 0x80) (before after : List Char) :
    lowerChar before c after = [c.toLower] :=
  if_pos hc

theorem not_isOwnLower_of_mem_lowerChar {before after : List Char} {c d : Char} (hc : 0x80 ≤ c.toNat)
    (hd : d ∈ lowerChar before c after) : ¬ IsOwnLower d := by
  unfold lowerChar at hd
  rw [if_neg (by omega)] at hd
  split at hd
  · rw [List.mem_singleton] at hd
    subst hd
    split <;> decide
  · split at hd
    · rcases List.mem_cons.1 hd with rfl | hd
      · decide
      · rw [List.mem_singleton] at hd
        subst hd
        decide
    · rw [List.mem_singleton] at hd
      subst hd
      exact not_isOwnLower_imageIn hc

theorem lowerChar_ne_nil (before : List Char) (c : Char) (after : List Char) : lowerChar before c after ≠ [] := by
  unfold lowerChar
  repeat' split
  all_goals exact List.cons_ne_nil _ _

theorem map_toLower_of_lowerFrom {before cs ds : List Char} (h : lowerFrom before cs = ds)
    (hds : ∀ d ∈ ds, IsOwnLower d) : cs.map Char.toLower = ds := by
  subst h
  induction cs generalizing before with
  | nil => rfl
  | cons c cs ih =>
    rw [lowerFrom] at hds ⊢
    obtain ⟨hfirst, hrest⟩ := List.forall_mem_append.1 hds
    have hc : c.toNat < 0x80 := by
      by_contra hbeyond
      obtain ⟨d, hd⟩ := List.exists_mem_of_ne_nil _ (lowerChar_ne_nil before c cs)
      exact not_isOwnLower_of_mem_lowerChar (by omega) hd (hfirst d hd)
    rw [lowerChar_of_ascii hc, List.map_cons, ih hrest]
    rfl

theorem toLower_of_beyond {c : Char} (hc : 0x80 ≤ c.toNat) : c.toLower = c := by
  unfold Char.toLower
  split
  · rename_i h
    have hlast : c.toNat ≤ 'Z'.toNat := UInt32.le_iff_toNat_le.1 h.2
    exact absurd (Nat.le_trans hc hlast) (by decide)
  · rfl

/-- A text of characters that come from ASCII only is the lower case of ASCII texts only. -/
theorem lower_eq_iff {s t : String} (ht : ∀ c ∈ t.toList, IsOwnLower c) : lower s = t ↔ asciiLower s = t := by
  constructor
  · intro h
    refine String.toList_inj.1 ?_
    rw [toList_asciiLower]
    have hfrom : lowerFrom [] s.toList = t.toList := by rw [← h, lower, String.toList_ofList]
    exact map_toLower_of_lowerFrom hfrom ht
  · rintro rfl
    refine lower_of_ascii fun c hc => ?_
    by_contra hbeyond
    have hlower : c.toLower.toNat < 0x80 := by
      refine (ht c.toLower ?_).1
      rw [toList_asciiLower]
      exact List.mem_map_of_mem hc
    rw [toLower_of_beyond (by omega)] at hlower
    exact hbeyond hlower

theorem plainSigma_eq_iff {c d : Char} (hd : d.toNat < 0x80) : plainSigma c = d ↔ c = d := by
  unfold plainSigma
  split
  · rename_i hc
    subst hc
    refine iff_of_false ?_ ?_ <;> rintro rfl <;> exact absurd hd (by decide)
  · rfl

theorem map_plainSigma_eq_iff {cs ds : List Char} (hds : ∀ d ∈ ds, d.toNat < 0x80) :
    cs.map plainSigma = ds ↔ cs = ds := by
  induction cs generalizing ds with
  | nil => rfl
  | cons c cs ih =>
    cases ds with
    | nil => simp
    | cons d ds =>
      obtain ⟨hd, hds⟩ := List.forall_mem_cons.1 hds
      rw [List.map_cons, List.cons.injEq, List.cons.injEq, plainSigma_eq_iff hd, ih hds]

/-- To a text in ASCII the two forms of the small sigma make no difference. -/
theorem fold_eq_iff {s t : String} (ht : ∀ c ∈ t.toList, c.toNat < 0x80) : fold s = t ↔ lower s = t := by
  rw [fold, ← String.toList_inj, String.toList_map, map_plainSigma_eq_iff ht, String.toList_inj]

/-! ### Points -/

theorem foldChar_period : foldChar '.' = ['.'] := by
  decide +kernel

theorem period_mem_foldChar {c : Char} : '.' ∈ foldChar c ↔ c = '.' := by
  refine ⟨fun h => ?_, fun h => by simp [h, foldChar_period]⟩
  obtain ⟨d, hd, hperiod⟩ := List.mem_map.1 h
  rw [plainSigma_eq_iff (by decide)] at hperiod
  subst hperiod
  by_cases hc : c.toNat < 0x80
  · rw [lowerChar_of_ascii hc, List.mem_singleton] at hd
    exact (toLower_eq_iff (by decide)).1 hd.symm
  · exact absurd (by decide) (not_isOwnLower_of_mem_lowerChar (by omega) hd)

/-- Putting a text into lower case neither makes nor removes a point. -/
theorem period_mem_fold {s : String} : '.' ∈ (fold s).toList ↔ '.' ∈ s.toList := by
  rw [toList_fold, List.mem_flatMap]
  simp only [period_mem_foldChar, exists_eq_right]

theorem period_mem_lower {s : String} : '.' ∈ (lower s).toList ↔ '.' ∈ s.toList := by
  have hfold : '.' ∈ (fold s).toList ↔ '.' ∈ (lower s).toList := by
    rw [fold, String.toList_map, List.mem_map]
    simp only [plainSigma_eq_iff (show '.'.toNat < 0x80 by decide), exists_eq_right]
  rw [← hfold, period_mem_fold]

theorem toList_dotted (s t : String) : (s!"{s}.{t}").toList = s.toList ++ '.' :: t.toList := by
  simp only [String.toList_append, List.append_assoc]
  rfl

theorem toList_fold_dotted (s t : String) : (fold s!"{s}.{t}").toList = (fold s).toList ++ '.' :: (fold t).toList := by
  rw [toList_fold, toList_dotted, List.flatMap_append, List.flatMap_cons, foldChar_period, ← toList_fold, ← toList_fold]
  rfl

end ChangeImpact.Text
