import ChangeImpact.Text.Ascii

/-!
# Object names

A name is written in parts, from the server or database down to the object. A part that is left out
(`Sales..Orders`) is kept as an empty text.
-/

namespace ChangeImpact.Sql

structure Name where
  parts : List String
  deriving DecidableEq, Repr

namespace Name

/-- The last part. -/
def base (n : Name) : String :=
  n.parts.getLast?.getD ""

/-- The parts before the last. -/
def qualifier (n : Name) : List String :=
  n.parts.dropLast

/-- Joins the parts that are present with periods. -/
def joinPresent (parts : List String) : String :=
  ".".intercalate (parts.filter (!·.isEmpty))

/-- The database, the schema and the object, as far as they are present. The server part is dropped. -/
def qualified (n : Name) : String :=
  joinPresent (n.parts.drop (n.parts.length - 3))

/-- The name has one part only. -/
def isBare (n : Name) : Bool :=
  n.parts.length == 1

/-- Temporary tables and variables name no object of the catalog. -/
def isTemporary (n : Name) : Bool :=
  Text.isMarked '#' n.base || Text.isMarked '@' n.base

/-- The name as it was written. -/
def dotted (n : Name) : String :=
  ".".intercalate n.parts

variable {n t : Name}

theorem qualified_of_isBare (h : n.isBare) : n.qualified = n.base := by
  obtain ⟨parts⟩ := n
  obtain ⟨part, rfl⟩ := List.length_eq_one_iff.1 (eq_of_beq h)
  by_cases hempty : part = "" <;> simp [qualified, base, joinPresent, hempty]

theorem isTemporary_congr (h : Text.sameAsciiCase t.base n.base) : t.isTemporary = n.isTemporary := by
  have hmarked {mark : Char} (hmark : ¬ mark.isAlpha) : Text.isMarked mark t.base = Text.isMarked mark n.base := by
    rw [← Text.isMarked_asciiLower hmark, Text.sameAsciiCase_iff.1 h, Text.isMarked_asciiLower hmark]
  rw [isTemporary, isTemporary, hmarked (by decide), hmarked (by decide)]

end Name

end ChangeImpact.Sql
