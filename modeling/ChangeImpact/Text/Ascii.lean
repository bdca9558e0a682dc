/-!
# ASCII case and marks

Keywords, aliases and catalog names are compared without regard to the case of ASCII letters; all other characters
stand for themselves, except that the store takes a U+0000 for the end of a name (`sameNoCase`). A mark in front of a
name tells what it names, and case does not matter to it (`isMarked_asciiLower`, `isMarked_asciiUpper`).
-/

namespace ChangeImpact.Text

/-- The text with its ASCII letters in lower case. -/
def asciiLower (s : String) : String :=
  s.map Char.toLower

/-- The text with its ASCII letters in upper case. -/
def asciiUpper (s : String) : String :=
  s.map Char.toUpper

/-- Equality up to the case of ASCII letters. -/
def sameAsciiCase (s t : String) : Bool :=
  asciiLower s == asciiLower t

/-- The text in front of the first U+0000. -/
def beforeNul (s : String) : String :=
  .ofList (s.toList.takeWhile (· != '\x00'))

/-- Equality as the tables of the store compare names: up to the case of ASCII letters, and up to the first U+0000. Of
what stands behind that only the length in bytes counts. -/
def sameNoCase (s t : String) : Bool :=
  s.utf8ByteSize == t.utf8ByteSize && sameAsciiCase (beforeNul s) (beforeNul t)

/-- The first character is the mark. -/
def isMarked (mark : Char) (s : String) : Bool :=
  s.toList.head? == some mark

theorem sameAsciiCase_iff {s t : String} : sameAsciiCase s t ↔ asciiLower s = asciiLower t :=
  beq_iff_eq

theorem toLower_eq_iff {c d : Char} (hd : ¬ d.isAlpha) : c.toLower = d ↔ c = d := by
  unfold Char.toLower
  delta Char.isAlpha Char.isUpper Char.isLower at hd
  simp at *
  grind

theorem toUpper_eq_iff {c d : Char} (hd : ¬ d.isAlpha) : c.toUpper = d ↔ c = d := by
  unfold Char.toUpper
  delta Char.isAlpha Char.isUpper Char.isLower at hd
  simp at *
  grind

theorem isMarked_map {mark : Char} {f : Char → Char} (hf : ∀ c, f c = mark ↔ c = mark) (s : String) :
    isMarked mark (s.map f) = isMarked mark s := by
  rw [isMarked, isMarked, String.toList_map]
  cases s.toList with
  | nil => rfl
  | cons c cs =>
    rw [Bool.eq_iff_iff]
    simp [hf]

theorem isMarked_asciiLower {mark : Char} (hmark : ¬ mark.isAlpha) (s : String) :
    isMarked mark (asciiLower s) = isMarked mark s :=
  isMarked_map (fun _ => toLower_eq_iff hmark) s

theorem isMarked_asciiUpper {mark : Char} (hmark : ¬ mark.isAlpha) (s : String) :
    isMarked mark (asciiUpper s) = isMarked mark s :=
  isMarked_map (fun _ => toUpper_eq_iff hmark) s

end ChangeImpact.Text
