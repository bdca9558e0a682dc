import ChangeImpact.Text.CodePoints

/-!
# Blank characters

The code points with the Unicode property `White_Space`, and trimming by it.
-/

namespace ChangeImpact.Text

def blank : CodePoints := [
    (0x9, 0xd), (0x20, 0x20), (0x85, 0x85), (0xa0, 0xa0), (0x1680, 0x1680), (0x2000, 0x200a), (0x2028, 0x2029),
    (0x202f, 0x202f), (0x205f, 0x205f), (0x3000, 0x3000)]

def isBlank (c : Char) : Bool :=
  blank.contains c

/-- Every character of the text is blank. -/
def allBlank (s : String) : Bool :=
  s.toList.all isBlank

def trimEnd (cs : List Char) : List Char :=
  (cs.reverse.dropWhile isBlank).reverse

/-- The text without the blanks at its two ends. -/
def trim (s : String) : String :=
  .ofList (trimEnd (s.toList.dropWhile isBlank))

end ChangeImpact.Text
