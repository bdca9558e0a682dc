import ChangeImpact.Document.Yaml.Scalar
import ChangeImpact.Document.Yaml.Tag

/-!
# The tokens of a text

A text is cut into tokens from the left. A key is known by the colon behind it only: where one may begin, its place is
kept, and when the colon is met, the tokens of a key, and of an object if the key is the first one of it, are put in
there. A key ends on the line on which it begins, and is not longer than 1024 characters.

Outside of brackets, blocks are told by columns. A list or an object begins at a column further in than that of the
block around it, and ends before the next token further out.
-/

namespace ChangeImpact.Yaml

/-- Where a key may have begun. -/
structure KeyStart where
  /-- The count of tokens before it. -/
  index : Nat
  line : Nat
  column : Nat
  /-- Nothing but a key can stand there. -/
  isRequired : Bool

structure Scanner where
  place : Place
  tokens : Array Token
  /-- The least column within the block that is open: one more than the column of the block, or zero outside of all. -/
  least : Nat
  /-- The same for the blocks around it, the innermost first. -/
  outer : List Nat
  /-- A key or a block may begin here. -/
  keyAllowed : Bool
  key : Option KeyStart
  /-- One for each bracket that is open: where a key may have begun in front of it, the innermost first. -/
  brackets : List (Option KeyStart)
  /-- The names of anchors with their numbers. -/
  names : List (String × Nat)

namespace Scanner

def start (text : List Char) : Scanner :=
  ⟨.start text, #[], 0, [], true, none, [], []⟩

def inBrackets (s : Scanner) : Bool :=
  !s.brackets.isEmpty

/-- Adds a token of so many characters. -/
def push (token : Token) (length : Nat) (s : Scanner) : Scanner :=
  { s with tokens := s.tokens.push token, place := s.place.drop length }

/-! ### Keys -/

/-- Gives up the place where a key may have begun; fails if there has to be one. -/
def dropKey (s : Scanner) : Option Scanner :=
  if s.key.any KeyStart.isRequired then none else some { s with key := none }

/-- Keeps the place as one where a key may have begun. -/
def saveKey (s : Scanner) : Option Scanner :=
  if s.keyAllowed then
    let isRequired := !s.inBrackets && s.least == s.place.column + 1
    s.dropKey.map ({ · with key := some ⟨s.tokens.size, s.place.line, s.place.column, isRequired⟩ })
  else some s

/-- The key that may have begun at a place, unless that is too far back. -/
def freshKey (p : Place) : Option KeyStart → Option (Option KeyStart)
  | none => some none
  | some k =>
    if k.line == p.line && p.column ≤ k.column + 1024 then some (some k)
    else if k.isRequired then none
    else some none

/-- Gives up the places that are too far back. -/
def dropStaleKeys (s : Scanner) : Option Scanner := do
  return { s with key := ← freshKey s.place s.key, brackets := ← s.brackets.mapM (freshKey s.place) }

/-! ### Blocks -/

/-- Begins a block at a column, unless it is not further in than the one that is open. Its token is put in front of
those from `index` on. -/
def openBlock (token : Token) (column index : Nat) (s : Scanner) : Scanner :=
  if s.inBrackets || column < s.least then s
  else { s with
    tokens := s.tokens.insertIdxIfInBounds index token
    least := column + 1
    outer := s.least :: s.outer }

/-- Ends the blocks whose least column is greater than `limit`. -/
def closeAll (limit least : Nat) (tokens : Array Token) : List Nat → Array Token × Nat × List Nat
  | [] => (tokens, least, [])
  | l :: ls => if limit < least then closeAll limit l (tokens.push .blockEnd) ls else (tokens, least, l :: ls)

def closeBlocks (limit : Nat) (s : Scanner) : Scanner :=
  if s.inBrackets then s
  else
    let (tokens, least, outer) := closeAll limit s.least s.tokens s.outer
    { s with tokens := tokens, least := least, outer := outer }

/-! ### Blanks and comments -/

/-- Passes blanks, line breaks and comments. A tab may not stand where a block may begin. -/
def passVoid (inBrackets keyAllowed : Bool) (p : Place) : Bool × Place :=
  let q := (p.dropWhile fun c => c == ' ' || (c == '\t' && (inBrackets || !keyAllowed))).dropComment
  match _h : q.rest with
  | [] => (keyAllowed, q)
  | c :: _ => if isBreak c then passVoid inBrackets (keyAllowed || !inBrackets) (q.drop 1) else (keyAllowed, q)
termination_by p.rest.length
decreasing_by
  have := congrArg List.length _h
  have := Place.length_rest_dropComment_le
    (p.dropWhile fun c => c == ' ' || (c == '\t' && (inBrackets || !keyAllowed)))
  have := Place.length_rest_dropWhile_le (fun c => c == ' ' || (c == '\t' && (inBrackets || !keyAllowed))) p
  simp only [q, Place.rest_drop, List.length_drop, List.length_cons] at *
  omega

/-! ### Tokens -/

/-- Ends all blocks before something that stands outside of them. -/
def leaveBlocks (s : Scanner) : Option Scanner :=
  (s.closeBlocks 0).dropKey.map ({ · with keyAllowed := false })

def directive (s : Scanner) : Option Scanner := do
  let s ← s.leaveBlocks
  let (token, rest) ← readDirective (s.place.rest.drop 1)
  let place ← (s.place.drop (s.place.rest.length - rest.length)).nextLine?
  return { s.push token 0 with place := place }

def documentMark (token : Token) (s : Scanner) : Option Scanner :=
  s.leaveBlocks.map (·.push token 3)

def openBracket (token : Token) (s : Scanner) : Option Scanner :=
  s.saveKey.map fun s =>
    { s.push token 1 with keyAllowed := true, key := none, brackets := s.key :: s.brackets }

def closeBracket (token : Token) (s : Scanner) : Option Scanner :=
  s.dropKey.map fun s =>
    match s.brackets with
    | [] => { s.push token 1 with keyAllowed := false }
    | key :: brackets => { s.push token 1 with keyAllowed := false, key := key, brackets := brackets }

def comma (s : Scanner) : Option Scanner :=
  s.dropKey.map ({ ·.push .comma 1 with keyAllowed := true })

/-- Begins a block at this place, which has to be one where a block may begin. -/
def openBlockHere (token : Token) (s : Scanner) : Option Scanner :=
  if s.inBrackets || s.keyAllowed then some (s.openBlock token s.place.column s.tokens.size) else none

def dash (s : Scanner) : Option Scanner := do
  let s ← (← s.openBlockHere .listBlock).dropKey
  return { s.push .dash 1 with keyAllowed := true }

/-- A key that is marked as such. -/
def keyMark (s : Scanner) : Option Scanner := do
  let s ← (← s.openBlockHere .objectBlock).dropKey
  return { s.push .key 1 with keyAllowed := !s.inBrackets }

/-- The colon between a key and its value. Without a key before it, it stands behind one that is marked, or for an
empty one. -/
def colon (s : Scanner) : Option Scanner :=
  match s.key with
  | some k =>
    let s := { s with tokens := s.tokens.insertIdxIfInBounds k.index .key, key := none, keyAllowed := false }
    some ((s.openBlock .objectBlock k.column k.index).push .value 1)
  | none =>
    (s.openBlockHere .objectBlock).map fun s => { s.push .value 1 with keyAllowed := !s.inBrackets }

/-- A name may be followed by a space or by some of the marks. -/
def endsName : List Char → Bool
  | [] => true
  | c :: _ => isSpace c || "?:,]\x7d%@\x60".toList.contains c

/-- The name behind the mark of an anchor or a reference. -/
def name? (s : Scanner) : Option (List Char) :=
  let cs := s.place.rest.drop 1
  let name := cs.takeWhile isNameChar
  if name.isEmpty || !endsName (cs.drop name.length) then none else some name

/-- An anchor has the count of the names before it as its number; its name may have had another one. -/
def anchor (s : Scanner) : Option Scanner := do
  let s ← s.saveKey
  let name ← s.name?
  let number := s.names.length
  let names := (.ofList name, number) :: s.names.filter (·.1 != .ofList name)
  return { s.push (.anchor number) (name.length + 1) with keyAllowed := false, names := names }

def reference (s : Scanner) : Option Scanner := do
  let s ← s.saveKey
  let name ← s.name?
  let number ← s.names.lookup (.ofList name)
  return { s.push (.reference number) (name.length + 1) with keyAllowed := false }

def tag (s : Scanner) : Option Scanner := do
  let s ← s.saveKey
  let (handle, suffix, rest) ← readTag (s.place.rest.drop 1)
  if !(beginsSpace rest || (s.inBrackets && rest.head? == some ',')) then none
  let token := .tag (.ofList handle) (.ofList suffix)
  return { s.push token (s.place.rest.length - rest.length) with keyAllowed := false }

def block (style : Style) (s : Scanner) : Option Scanner := do
  let s ← s.dropKey
  let (text, place) ← readBlock (style == .folded) s.least (s.place.drop 1)
  return { s.push (.scalar style (.ofList text)) 0 with keyAllowed := true, place := place }

def quoted (quote : Char) (s : Scanner) : Option Scanner := do
  let s ← s.saveKey
  let (text, place) ← readQuoted quote (s.place.drop 1)
  return { s.push (.scalar .quoted (.ofList text)) 0 with keyAllowed := false, place := place }

/-- A block may begin behind a plain scalar if a line ends there. -/
def plain (s : Scanner) : Option Scanner := do
  let s ← s.saveKey
  let (text, isBroken, place) ← readPlain s.inBrackets s.least [] s.place
  return { s.push (.scalar .plain (.ofList text)) 0 with keyAllowed := isBroken, place := place }

/-- Whether a plain scalar begins with a character, which is followed by `cs`. -/
def beginsPlain (inBrackets : Bool) (c : Char) (cs : List Char) : Bool :=
  if c == '-' then !cs.head?.any isBlank
  else if c == '?' || c == ':' then !inBrackets && !beginsSpace cs
  else !isSpace c && !isBracketMark c && !"#&*!|>'\"%@\x60".toList.contains c

/-- Takes the token that begins with `c`, which is followed by `cs`. -/
def token (s : Scanner) (c : Char) (cs : List Char) : Option Scanner :=
  if c == '%' && s.place.column == 0 then s.directive
  else if s.place.isAtMark '-' then s.documentMark .documentStart
  else if s.place.isAtMark '.' then s.documentMark .documentEnd
  else if c == '[' then s.openBracket .openList
  else if c == '\x7b' then s.openBracket .openObject
  else if c == ']' then s.closeBracket .closeList
  else if c == '\x7d' then s.closeBracket .closeObject
  else if c == ',' then s.comma
  else if c == '-' && beginsSpace cs then s.dash
  else if c == '?' && (s.inBrackets || beginsSpace cs) then s.keyMark
  else if c == ':' && (s.inBrackets || beginsSpace cs) then s.colon
  else if c == '*' then s.reference
  else if c == '&' then s.anchor
  else if c == '!' then s.tag
  else if c == '|' && !s.inBrackets then s.block .literal
  else if c == '>' && !s.inBrackets then s.block .folded
  else if c == '\'' || c == '"' then s.quoted c
  else if beginsPlain s.inBrackets c cs then s.plain
  else none

/-- The tokens of the rest of the text, of which there are fewer than `bound`. -/
def scan (bound : Nat) (s : Scanner) : Option (Array Token) :=
  match bound with
  | 0 => none
  | bound + 1 => do
    let (keyAllowed, place) := passVoid s.inBrackets s.keyAllowed s.place
    let next ← { s with keyAllowed := keyAllowed, place := place }.dropStaleKeys
    let next := next.closeBlocks (place.column + 1)
    match place.rest with
    | [] => next.leaveBlocks.map (·.tokens)
    | c :: cs => (← next.token c cs).scan bound

end Scanner

/-- The tokens of a text, which must consist of characters that may stand in it. What is written of a token is a
character at least. -/
def tokens? (text : String) : Option (List Token) :=
  let cs := text.toList
  if cs.all isPrintable then (Scanner.start (unifyBreaks cs)).scan (cs.length + 1) |>.map Array.toList else none

end ChangeImpact.Yaml
