/-!
# Sets of code points and case mappings

* `CodePoints`: a set of code points as a list of closed ranges;
* `CaseRun`: evenly spaced code points that a case mapping moves by one and the same distance.
-/

namespace ChangeImpact.Text

/-- A set of code points, given by closed ranges. -/
abbrev CodePoints := List (Nat × Nat)

def CodePoints.contains (set : CodePoints) (c : Char) : Bool :=
  set.any fun (first, last) => first ≤ c.toNat && c.toNat ≤ last

/-- The code points `first, first + stride, …, last`, mapped to `image, image + stride, …`. -/
structure CaseRun where
  first : Nat
  last : Nat
  stride : Nat
  image : Nat

def CaseRun.image? (run : CaseRun) (c : Char) : Option Char :=
  if run.first ≤ c.toNat && c.toNat ≤ run.last && (c.toNat - run.first) % run.stride == 0 then
    some (.ofNat (run.image + (c.toNat - run.first)))
  else none

/-- The image of a character under the first run that covers it, else the character itself. -/
def imageIn (runs : List CaseRun) (c : Char) : Char :=
  (runs.findSome? (·.image? c)).getD c

end ChangeImpact.Text
