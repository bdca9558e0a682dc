import ChangeImpact.Document.Yaml.Place
import ChangeImpact.Document.Yaml.Token
import ChangeImpact.Text.Digits

/-!
# Tags and directives of YAML

A tag tells the type of a node by an address, which is written in full or as a suffix behind a handle. Directives in
front of a document give its version and what its handles are short for.
-/

namespace ChangeImpact.Yaml

/-! ### Addresses -/

/-- A character that may stand in an address; a full one may hold marks of lists. -/
def isAddressChar (isFull : Bool) (c : Char) : Bool :=
  isNameChar c || ";/?:@&=+$.%!~*'()".toList.contains c || (isFull && ",[]".toList.contains c)

/-- An octet, written as a percent sign and two digits. -/
def octet? (cs : List Char) : Option Nat :=
  match cs with
  | '%' :: a :: b :: _ => Text.readDigits 16 [a, b]
  | _ => none

/-- How many octets a character has by its first one, and the bits of it in there. -/
def leadingOctet? (octet : Nat) : Option (Nat × Nat) :=
  if octet < 0x80 then some (1, octet)
  else if octet < 0xc0 then none
  else if octet < 0xe0 then some (2, octet - 0xc0)
  else if octet < 0xf0 then some (3, octet - 0xe0)
  else if octet < 0xf8 then some (4, octet - 0xf0)
  else none

/-- The code point that goes on with so many octets. -/
def trailingOctets? (bits : Nat) : Nat → List Char → Option Nat
  | 0, _ => some bits
  | n + 1, cs => do
    let octet ← octet? cs
    if 0x80 ≤ octet && octet < 0xc0 then trailingOctets? (bits * 64 + (octet - 0x80)) n (cs.drop 3) else none

/-- A character written as octets, and the count of characters that it takes. -/
def octets? (cs : List Char) : Option (Char × Nat) := do
  let (n, bits) ← leadingOctet? (← octet? cs)
  let code ← trailingOctets? bits (n - 1) (cs.drop 3)
  some (.ofNat code, 3 * n)

/-- The characters of an address as far as it goes, and the rest of the text. -/
def readAddress (isFull : Bool) (cs : List Char) : Option (List Char × List Char) :=
  match cs with
  | [] => some ([], [])
  | c :: rest =>
    if !isAddressChar isFull c then some ([], c :: rest)
    else if c == '%' then
      match octets? (c :: rest) with
      | none => none
      | some (e, n) => (readAddress isFull (rest.drop (n - 1))).map fun (text, rest) => (e :: text, rest)
    else (readAddress isFull rest).map fun (text, rest) => (c :: text, rest)
termination_by cs.length
decreasing_by all_goals (simp only [List.length_drop, List.length_cons]; omega)

/-! ### Tags -/

/-- What is written behind the first mark of a tag: a handle, which ends with a mark, or nothing of that kind. -/
def handleName? (cs : List Char) : Option (List Char) :=
  let name := cs.takeWhile isNameChar
  if (cs.drop name.length).head? == some '!' then some name else none

/-- A tag behind its first mark: its handle, its suffix and the rest of the text. A handle of no characters is that of
a full address. The mark alone is a full address too. -/
def readTag (cs : List Char) : Option (List Char × List Char × List Char) :=
  match cs with
  | '<' :: cs => do
    match ← readAddress true cs with
    | (c :: address, '>' :: rest) => some ([], c :: address, rest)
    | _ => none
  | cs =>
    match handleName? cs with
    | some name => do
      match ← readAddress false (cs.drop (name.length + 1)) with
      | ([], _) => none
      | (suffix, rest) => some ('!' :: name ++ ['!'], suffix, rest)
    | none => do
      match ← readAddress false cs with
      | ([], rest) => some ([], ['!'], rest)
      | (suffix, rest) => some (['!'], suffix, rest)

/-! ### Directives -/

/-- A number in a version: at most nine digits. -/
def versionPart? (cs : List Char) : Option (Nat × List Char) := do
  let digits := cs.takeWhile Char.isDigit
  if 9 < digits.length then none
  some (← Text.readDigits 10 digits, cs.drop digits.length)

/-- The value of the directive that gives a version. -/
def readVersion (cs : List Char) : Option (Token × List Char) := do
  match ← versionPart? (cs.dropWhile isBlank) with
  | (major, '.' :: cs) =>
    let (minor, rest) ← versionPart? cs
    some (.version major minor, rest)
  | _ => none

/-- The value of the directive that says what a handle is short for. -/
def readShorthand (cs : List Char) : Option (Token × List Char) := do
  match cs.dropWhile isBlank with
  | '!' :: cs =>
    let (handle, cs) :=
      match handleName? cs with
      | some name => ('!' :: name ++ ['!'], cs.drop (name.length + 1))
      | none => (['!'], cs)
    if !cs.head?.any isBlank then none
    let (address, rest) ← readAddress true (cs.dropWhile isBlank)
    if address.isEmpty || !beginsSpace rest then none
    some (.shorthand (.ofList handle) (.ofList address), rest)
  | _ => none

/-- A directive behind its mark, and the rest of the text. -/
def readDirective (cs : List Char) : Option (Token × List Char) :=
  let name := cs.takeWhile isNameChar
  let rest := cs.drop name.length
  if !beginsSpace rest then none
  else if name == "YAML".toList then readVersion rest
  else if name == "TAG".toList then readShorthand rest
  else none

end ChangeImpact.Yaml
