import ChangeImpact.Document.Yaml.Character

/-!
# Places in a text

The rest of a text together with the line and the column at which it begins, both counted from zero.
-/

namespace ChangeImpact.Yaml

structure Place where
  line : Nat
  column : Nat
  rest : List Char

namespace Place

/-- The beginning of a text. A byte order mark there is passed over, but takes a column. -/
def start : List Char → Place
  | '\ufeff' :: cs => ⟨0, 1, cs⟩
  | cs => ⟨0, 0, cs⟩

/-- The line and the column behind a character. -/
def past (position : Nat × Nat) (c : Char) : Nat × Nat :=
  if isBreak c then (position.1 + 1, 0) else (position.1, position.2 + 1)

/-- The place some characters further on. -/
def drop (n : Nat) (p : Place) : Place :=
  let (line, column) := (p.rest.take n).foldl past (p.line, p.column)
  ⟨line, column, p.rest.drop n⟩

theorem rest_drop (n : Nat) (p : Place) : (p.drop n).rest = p.rest.drop n :=
  rfl

def dropWhile (pass : Char → Bool) (p : Place) : Place :=
  p.drop (p.rest.takeWhile pass).length

theorem length_rest_dropWhile_le (pass : Char → Bool) (p : Place) :
    (p.dropWhile pass).rest.length ≤ p.rest.length := by
  simp only [dropWhile, rest_drop, List.length_drop]
  omega

/-- Passes a comment, if there is one. -/
def dropComment (p : Place) : Place :=
  if p.rest.head? == some '#' then p.dropWhile (!isBreak ·) else p

theorem length_rest_dropComment_le (p : Place) : p.dropComment.rest.length ≤ p.rest.length := by
  unfold dropComment
  split
  · exact length_rest_dropWhile_le _ p
  · exact Nat.le_refl _

/-- The next line, if nothing but a comment stands before it. -/
def nextLine? (p : Place) : Option Place :=
  let q := (p.dropWhile isBlank).dropComment
  if beginsBreak q.rest then some (q.drop 1) else none

/-- A mark that begins or ends a document: three dashes or dots at the beginning of a line. -/
def isAtMark (mark : Char) (p : Place) : Bool :=
  p.column == 0 && p.rest.take 3 == [mark, mark, mark] && beginsSpace (p.rest.drop 3)

def isAtDocumentMark (p : Place) : Bool :=
  p.isAtMark '-' || p.isAtMark '.'

end Place

end ChangeImpact.Yaml
