/-!
# Criticality

How much an object matters, from one to five. Annotations arrive unchecked and are brought into this range.
-/

namespace ChangeImpact.Criticality

def lowest : Nat := 1

def highest : Nat := 5

/-- What is assumed of an object without an annotation, unless the settings say otherwise. -/
def usual : Nat := 3

/-- The level of the range that is nearest to an annotation. -/
def clamp (level : Int) : Nat :=
  min highest (max lowest level.toNat)

theorem lowest_le_clamp (level : Int) : lowest ≤ clamp level := by
  simp only [clamp, lowest, highest]; omega

theorem clamp_le_highest (level : Int) : clamp level ≤ highest := by
  simp only [clamp, lowest, highest]; omega

end ChangeImpact.Criticality
