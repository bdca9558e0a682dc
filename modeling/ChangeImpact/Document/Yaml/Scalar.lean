import ChangeImpact.Document.Yaml.Place
import ChangeImpact.Text.Digits

/-!
# Scalars of YAML

The text of a scalar that is plain, quoted or a block. Lines of a plain or quoted scalar are folded: a line break
between words becomes a space, and of several breaks in a row the first is left out. A line or paragraph separator is
kept as it is.
-/

namespace ChangeImpact.Yaml

/-! ### Gaps between words -/

/-- What several line breaks in a row become. -/
def foldBreaks : List Char → List Char
  | ['\n'] => [' ']
  | '\n' :: more => more
  | breaks => breaks

/-- What spaces between two words become. -/
def foldGap (gap : List Char) : List Char :=
  if gap.any isBreak then foldBreaks (gap.filter isBreak) else gap

/-- Whether spaces hold a tab within the indentation of a line. The column counts from the last line break on. -/
def indentsByTab (indent : Nat) : Option Nat → List Char → Bool
  | _, [] => false
  | column, c :: cs =>
    if isBreak c then indentsByTab indent (some 0) cs
    else (c == '\t' && column.any (· < indent)) || indentsByTab indent (column.map (· + 1)) cs

/-! ### Plain scalars -/

/-- The characters up to a space or a mark that ends a plain scalar. Within brackets a colon may not stand directly
before a mark. -/
def readWord (inBrackets : Bool) : List Char → Option (List Char)
  | [] => some []
  | c :: cs =>
    if isSpace c then some []
    else if inBrackets && c == ':' && cs.head?.any (fun d => d == '?' || isBracketMark d) then none
    else if (c == ':' && beginsSpace cs) || (inBrackets && isBracketMark c) then some []
    else (readWord inBrackets cs).map (c :: ·)

/-- What a plain scalar goes on with behind a gap: its text, whether a line break was passed behind it, and the place
behind it. Outside of brackets every line has to be indented. -/
def readPlain (inBrackets : Bool) (indent : Nat) (gap : List Char) (p : Place) :
    Option (List Char × Bool × Place) :=
  let word := if p.isAtDocumentMark || p.rest.head? == some '#' then some [] else readWord inBrackets p.rest
  match word with
  | none => none
  | some [] => some ([], gap.any isBreak, p)
  | some (c :: cs) =>
    let q := p.drop (cs.length + 1)
    let next := q.rest.takeWhile isSpace
    let r := q.drop next.length
    let word := foldGap gap ++ c :: cs
    if indentsByTab indent none next then none
    else if next = [] ∨ (!inBrackets && r.column < indent) then some (word, next.any isBreak, r)
    else (readPlain inBrackets indent next r).map fun (text, rest) => (word ++ text, rest)
termination_by p.rest.length
decreasing_by
  rename_i h
  have : next.length ≤ q.rest.length := (List.takeWhile_sublist _).length_le
  have : 0 < next.length := List.length_pos_iff.2 fun e => h (.inl e)
  have : q.rest.length ≤ p.rest.length := by simp only [q, Place.rest_drop, List.length_drop]; omega
  simp only [Place.rest_drop, List.length_drop]
  omega

/-! ### Quoted scalars -/

def simpleEscape? (c : Char) : Option Char :=
  match c with
  | '0' => some '\x00'
  | 'a' => some '\x07'
  | 'b' => some '\x08'
  | 't' | '\t' => some '\t'
  | 'n' => some '\n'
  | 'v' => some '\x0b'
  | 'f' => some '\x0c'
  | 'r' => some '\r'
  | 'e' => some '\x1b'
  | ' ' | '"' | '/' | '\\' => some c
  | 'N' => some '\u0085'
  | '_' => some '\u00a0'
  | 'L' => some '\u2028'
  | 'P' => some '\u2029'
  | _ => none

/-- The character of a code point in hexadecimal digits. -/
def codePoint? (digits : Nat) (cs : List Char) : Option Char := do
  if cs.length < digits then none
  let code ← Text.readDigits 16 (cs.take digits)
  if code.isValidChar then some (.ofNat code) else none

/-- The character that is meant by what follows a backslash, and the count of characters that it takes. -/
def readEscape : List Char → Option (Char × Nat)
  | [] => none
  | 'x' :: cs => (codePoint? 2 cs).map (·, 3)
  | 'u' :: cs => (codePoint? 4 cs).map (·, 5)
  | 'U' :: cs => (codePoint? 8 cs).map (·, 9)
  | c :: _ => (simpleEscape? c).map (·, 1)

/-- What begins with `c` in a quoted scalar: a piece of its text, or its end, and the count of characters behind `c`
that belong to it. A line break behind a backslash does not count, but those after it do. -/
def readPiece (quote c : Char) (cs : List Char) : Option (Option (List Char) × Nat) :=
  if isSpace c then
    let gap := cs.takeWhile isSpace
    some (some (foldGap (c :: gap)), gap.length)
  else if c == quote then
    if quote == '\'' && cs.head? == some quote then some (some [quote], 1) else some (none, 0)
  else if quote == '"' && c == '\\' then
    if cs.head?.any isBreak then
      let gap := (cs.drop 1).takeWhile isSpace
      some (some (gap.filter isBreak), gap.length + 1)
    else (readEscape cs).map fun (e, n) => (some [e], n)
  else some (some [c], 0)

/-- The text of a quoted scalar and the place behind its closing quote. -/
def readQuoted (quote : Char) (p : Place) : Option (List Char × Place) :=
  if p.isAtDocumentMark then none
  else
    match _h : p.rest with
    | [] => none
    | c :: cs =>
      match readPiece quote c cs with
      | none => none
      | some (none, n) => some ([], p.drop (n + 1))
      | some (some piece, n) => (readQuoted quote (p.drop (n + 1))).map fun (text, q) => (piece ++ text, q)
termination_by p.rest.length
decreasing_by
  simp only [Place.rest_drop, _h, List.length_drop, List.length_cons]
  omega

/-! ### Blocks -/

/-- What happens to the line breaks at the end of a block. -/
inductive Chomping where
  | clip
  | strip
  | keep
  deriving DecidableEq, Repr

def chomping? : Option Char → Option Chomping
  | some '-' => some .strip
  | some '+' => some .keep
  | _ => none

def indentation? (c : Option Char) : Option Nat :=
  (c.filter Char.isDigit).map fun c => c.toNat - '0'.toNat

/-- The head of a block: its chomping, its indentation if that is given, and the count of characters. -/
def readHead (cs : List Char) : Option (Chomping × Option Nat × Nat) :=
  let head :=
    match chomping? cs[0]?, indentation? cs[0]? with
    | some chomping, _ => (some chomping, indentation? cs[1]?)
    | none, some n => (chomping? cs[1]?, some n)
    | none, none => (none, none)
  let count := (if head.1.isSome then 1 else 0) + (if head.2.isSome then 1 else 0)
  if head.2 == some 0 then none else some (head.1.getD .clip, head.2, count)

/-- Passes the spaces of an indentation; where none is given, all spaces. -/
def passIndent (indent : Option Nat) (p : Place) : Place :=
  let spaces := p.rest.takeWhile (· == ' ')
  p.drop ((indent.map fun n => min (n - p.column) spaces.length).getD spaces.length)

theorem length_rest_passIndent_le (indent : Option Nat) (p : Place) :
    (passIndent indent p).rest.length ≤ p.rest.length := by
  simp only [passIndent, Place.rest_drop, List.length_drop]
  omega

/-- Passes empty lines and the indentation of the line after them, which may not hold a tab. Where no indentation is
given, it goes up to the first character that is no space. Answers with the line breaks, the greatest column on the
way and the place. -/
def passEmptyLines (indent : Option Nat) (p : Place) : Option (List Char × Nat × Place) :=
  match _h : (passIndent indent p).rest with
  | [] => some ([], (passIndent indent p).column, passIndent indent p)
  | c :: _ =>
    let column := (passIndent indent p).column
    if c == '\t' && indent.all (column < ·) then none
    else if isBreak c then
      (passEmptyLines indent ((passIndent indent p).drop 1)).map fun (breaks, widest, r) =>
        (c :: breaks, max column widest, r)
    else some ([], column, passIndent indent p)
termination_by p.rest.length
decreasing_by
  have := congrArg List.length _h
  have := length_rest_passIndent_le indent p
  simp only [Place.rest_drop, List.length_drop, List.length_cons] at *
  omega

theorem length_rest_le_of_passEmptyLines {indent : Option Nat} {p r : Place} {breaks : List Char} {widest : Nat}
    (h : passEmptyLines indent p = some (breaks, widest, r)) : r.rest.length ≤ p.rest.length := by
  fun_induction passEmptyLines indent p generalizing breaks widest with
  | case1 p =>
    simp only [Option.some.injEq, Prod.mk.injEq] at h
    obtain ⟨_, _, rfl⟩ := h
    exact length_rest_passIndent_le indent p
  | case2 => simp at h
  | case3 p =>
    rename_i ih
    obtain ⟨_, hr, he⟩ := Option.map_eq_some_iff.1 h
    simp only [Prod.mk.injEq] at he
    obtain ⟨_, _, rfl⟩ := he
    have := ih hr
    have := length_rest_passIndent_le indent p
    simp only [Place.rest_drop, List.length_drop] at *
    omega
  | case4 p =>
    simp only [Option.some.injEq, Prod.mk.injEq] at h
    obtain ⟨_, _, rfl⟩ := h
    exact length_rest_passIndent_le indent p

/-- What a block goes on with behind a line. A block ends before a line that is indented less. `ending` is the line
break of the line before, `breaks` are those of the empty lines after it, and `isIndented` tells whether it was
indented further.

Where lines are folded, a line break between two lines that are not indented further becomes a space, or is left out
if empty lines follow it. -/
def readLines (isFolded : Bool) (chomping : Chomping) (indent : Nat) (ending : List Char) (isIndented : Bool)
    (breaks : List Char) (p : Place) : Option (List Char × Place) :=
  let tail :=
    match chomping with
    | .strip => []
    | .clip => ending
    | .keep => ending ++ breaks
  match _h : p.rest with
  | [] => some (tail, p)
  | c :: cs =>
    if p.column ≠ indent then some (tail, p)
    else
      let isFolding := isFolded && ending == ['\n'] && !isIndented && !isBlank c
      let glue := if !isFolding then ending ++ breaks else if breaks.isEmpty then [' '] else breaks
      let line := c :: cs.takeWhile (!isBreak ·)
      let q := p.drop line.length
      match _hr : passEmptyLines (some indent) (q.drop 1) with
      | none => none
      | some (next, _, r) =>
        (readLines isFolded chomping indent (q.rest.take 1) (isBlank c) next r).map fun (text, place) =>
          (glue ++ line ++ text, place)
termination_by p.rest.length
decreasing_by
  have := length_rest_le_of_passEmptyLines _hr
  simp only [q, line, Place.rest_drop, List.length_drop, List.length_cons, _h] at this ⊢
  omega

/-- The text of a block behind its mark, and the place behind it. Lines are indented by `least` at least. -/
def readBlock (isFolded : Bool) (least : Nat) (p : Place) : Option (List Char × Place) := do
  let (chomping, given, n) ← readHead p.rest
  let p ← (p.drop n).nextLine?
  let given := given.map (least - 1 + ·)
  let (breaks, widest, p) ← passEmptyLines given p
  readLines isFolded chomping (given.getD (max widest (max least 1))) [] false breaks p

end ChangeImpact.Yaml
