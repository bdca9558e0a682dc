import ChangeImpact.Document
import ChangeImpact.Text.Digits

/-!
# Documents in JSON

The text is first cut into tokens; a stack of open lists and objects then takes the tokens one by one. The state says
what may come next, so a text is refused at the first token that does not fit.

The grammar admits numbers beyond all doubles, and code units that are no character on their own. A text with such a
value in it is a document, in which the value is illegible; an object with an illegible name is so as a whole.

* `Json.read`: the document that a text stands for;
* `Json.write`: a text on one line; `Json.writeLines`: a text with one value a line, indented by two spaces a level.
-/

namespace ChangeImpact.Json

/-! ### Tokens -/

inductive Token where
  | openList
  | closeList
  | openObject
  | closeObject
  | comma
  | colon
  /-- A string, with its text if it is legible. -/
  | quoted (text : Option String)
  | scalar (value : Document)

/-- Where the reading of a string stands. -/
inductive Escape where
  | none
  /-- After a backslash. -/
  | mark
  /-- Within the four digits of a code unit, with some of them left. -/
  | unit (left value : Nat)

def simpleEscape? (c : Char) : Option Char :=
  match c with
  | '"' | '\\' | '/' => some c
  | 'b' => some '\x08'
  | 'f' => some '\x0c'
  | 'n' => some '\n'
  | 'r' => some '\r'
  | 't' => some '\t'
  | _ => none

/-- The text of a string in the making. -/
structure Spelling where
  /-- The characters so far in reverse, or none if a surrogate among them stood alone. -/
  done : Option (List Char)
  /-- A first surrogate, which waits for the second. -/
  high : Option Nat

namespace Spelling

def empty : Spelling :=
  ⟨some [], none⟩

def push (s : Spelling) (c : Char) : Spelling :=
  ⟨if s.high.isSome then none else s.done.map (c :: ·), none⟩

/-- Adds a code unit: a character, or half of one. -/
def pushUnit (s : Spelling) (unit : Nat) : Spelling :=
  let isLow := 0xdc00 ≤ unit && unit ≤ 0xdfff
  match s.high with
  | some h =>
    let c := Char.ofNat (0x10000 + (h - 0xd800) * 0x400 + (unit - 0xdc00))
    ⟨if isLow then s.done.map (c :: ·) else none, none⟩
  | none =>
    if isLow then ⟨none, none⟩
    else if 0xd800 ≤ unit && unit ≤ 0xdbff then ⟨s.done, some unit⟩
    else s.push (.ofNat unit)

def text? (s : Spelling) : Option String :=
  if s.high.isSome then none else s.done.map fun cs => .ofList cs.reverse

end Spelling

/-- Reads a string behind its opening quote. `n` counts the characters passed. Answers with the text and the count up
to and with the closing quote. -/
def readString (state : Escape) (s : Spelling) (n : Nat) : List Char → Option (Option String × Nat)
  | [] => none
  | c :: cs =>
    match state with
    | .none =>
      if c == '\\' then readString .mark s (n + 1) cs
      else if c == '"' then some (s.text?, n + 1)
      else if c < ' ' then none
      else readString .none (s.push c) (n + 1) cs
    | .mark =>
      if c == 'u' then readString (.unit 4 0) s (n + 1) cs
      else (simpleEscape? c).bind fun e => readString .none (s.push e) (n + 1) cs
    | .unit left value =>
      match Text.digitValue? c with
      | none => none
      | some d =>
        let value := value * 16 + d
        if left == 1 then readString .none (s.pushUnit value) (n + 1) cs
        else readString (.unit (left - 1) value) s (n + 1) cs

/-- A power of ten by which a mantissa is scaled; none if a number would have far more digits than any double. -/
def scaleOf? (down : Bool) (exponent : Nat) (mantissa : Int) : Option Rat :=
  if mantissa == 0 then some 1
  else if down then some (if exponent ≤ 100000 then 1 / 10 ^ exponent else 0)
  else if exponent ≤ 100000 then some (10 ^ exponent)
  else none

/-- The least magnitude that is nearer to 2^1024 than to the greatest double. -/
def tooLarge : Rat :=
  (1 <<< 1024 - 1 <<< 970 : Nat)

/-- A number: digits without a leading zero, and perhaps a fraction and an exponent, which need digits of their own.
Answers with the value and the count of characters. -/
def readNumber (text : List Char) : Option (Document × Nat) := do
  let negative := text.head? == some '-'
  let sign := if negative then 1 else 0
  let whole := (text.drop sign).takeWhile Char.isDigit
  let n := sign + whole.length
  if whole.isEmpty || (whole.head? == some '0' && whole.length != 1) then none
  let point := (text.drop n).head? == some '.'
  let fraction := if point then (text.drop (n + 1)).takeWhile Char.isDigit else []
  if point && fraction.isEmpty then none
  let n := if point then n + 1 + fraction.length else n
  let scaled := [some 'e', some 'E'].contains (text.drop n).head?
  let down := scaled && (text.drop (n + 1)).head? == some '-'
  let signed := down || (scaled && (text.drop (n + 1)).head? == some '+')
  let m := if signed then n + 2 else n + 1
  let power := if scaled then (text.drop m).takeWhile Char.isDigit else []
  if scaled && power.isEmpty then none
  let mantissa ← Text.readDigits 10 (whole ++ fraction)
  let mantissa : Int := if negative then -mantissa else mantissa
  if !point && !scaled && !(negative && mantissa == 0) then return (.int mantissa, n)
  let exponent ← if scaled then Text.readDigits 10 power else some 0
  let unscaled : Rat := mantissa / 10 ^ fraction.length
  let value := ((scaleOf? down exponent mantissa).map (unscaled * ·)).filter fun q => q < tooLarge && -tooLarge < q
  return (value.elim .illegible .real, if scaled then m + power.length else n)

def readWord (text : List Char) : Option (Document × Nat) :=
  if "null".toList.isPrefixOf text then some (.null, 4)
  else if "true".toList.isPrefixOf text then some (.bool true, 4)
  else if "false".toList.isPrefixOf text then some (.bool false, 5)
  else none

/-- The token that starts with `c`, or none for a blank, and the count of characters after the first. -/
def nextToken (c : Char) (cs : List Char) : Option (Option Token × Nat) :=
  if c == ' ' || c == '\t' || c == '\n' || c == '\r' then some (none, 0)
  else if c == '[' then some (some .openList, 0)
  else if c == ']' then some (some .closeList, 0)
  else if c == '\x7b' then some (some .openObject, 0)
  else if c == '\x7d' then some (some .closeObject, 0)
  else if c == ',' then some (some .comma, 0)
  else if c == ':' then some (some .colon, 0)
  else if c == '"' then (readString .none .empty 0 cs).map fun (s, n) => (some (.quoted s), n)
  else
    (if c == '-' || c.isDigit then readNumber (c :: cs) else readWord (c :: cs)).map
      fun (d, n) => (some (.scalar d), n - 1)

def scan (done : List Token) : List Char → Option (List Token)
  | [] => some done.reverse
  | c :: cs =>
    match nextToken c cs with
    | none => none
    | some (none, n) => scan done (cs.drop n)
    | some (some token, n) => scan (token :: done) (cs.drop n)
termination_by cs => cs.length
decreasing_by all_goals (simp only [List.length_drop, List.length_cons]; omega)

/-! ### Reading -/

/-- An open list or object with what it holds so far, in reverse; an object holds none once a name is illegible. -/
inductive Frame where
  | items (done : List Document)
  | fields (done : Option (List (String × Document))) (name : Option String)

/-- What may come next. -/
inductive Expectation where
  | value
  /-- A value, or the end of the list just opened. -/
  | valueOrClose
  | name
  /-- A name, or the end of the object just opened. -/
  | nameOrClose
  | colon
  /-- A comma, or the end of what is open. -/
  | next
  /-- Nothing but the end of the text. -/
  | finished (document : Document)

structure Reader where
  frames : List Frame
  expected : Expectation

namespace Reader

/-- Puts a value where it belongs. -/
def deliver (frames : List Frame) (d : Document) : Reader :=
  match frames with
  | [] => ⟨[], .finished d⟩
  | .items done :: rest => ⟨.items (d :: done) :: rest, .next⟩
  | .fields done name :: rest => ⟨.fields (done.bind fun fs => name.map fun n => (n, d) :: fs) none :: rest, .next⟩

def openFrame (r : Reader) (frame : Frame) (expected : Expectation) : Reader :=
  ⟨frame :: r.frames, expected⟩

def close (r : Reader) (token : Token) : Option Reader :=
  match token, r.frames with
  | .closeList, .items done :: rest => some (deliver rest (.list done.reverse))
  | .closeObject, .fields done _ :: rest =>
    some (deliver rest (done.elim .illegible fun fs => .object fs.reverse))
  | _, _ => none

def setName (r : Reader) (name : Option String) : Option Reader :=
  match r.frames with
  | .fields done _ :: rest => some ⟨.fields done name :: rest, .colon⟩
  | _ => none

def separate (r : Reader) : Option Reader :=
  match r.frames with
  | .items done :: rest => some ⟨.items done :: rest, .value⟩
  | .fields done name :: rest => some ⟨.fields done name :: rest, .name⟩
  | [] => none

def step (r : Reader) (token : Token) : Option Reader :=
  match r.expected, token with
  | .value, .openList | .valueOrClose, .openList => some <| r.openFrame (.items []) .valueOrClose
  | .value, .openObject | .valueOrClose, .openObject => some <| r.openFrame (.fields (some []) none) .nameOrClose
  | .value, .scalar d | .valueOrClose, .scalar d => some (deliver r.frames d)
  | .value, .quoted s | .valueOrClose, .quoted s => some (deliver r.frames (s.elim .illegible .text))
  | .valueOrClose, .closeList => r.close .closeList
  | .name, .quoted name | .nameOrClose, .quoted name => r.setName name
  | .nameOrClose, .closeObject => r.close .closeObject
  | .colon, .colon => some { r with expected := .value }
  | .next, .comma => r.separate
  | .next, .closeList => r.close .closeList
  | .next, .closeObject => r.close .closeObject
  | _, _ => none

end Reader

def read (text : String) : Option Document := do
  let tokens ← scan [] text.toList
  let reader ← tokens.foldlM Reader.step ⟨[], .value⟩
  match reader.expected with
  | .finished d => some d
  | _ => none

/-! ### Writing -/

/-- The sixteen digits. -/
def hexDigit (n : Nat) : Char :=
  if n < 10 then .ofNat ('0'.toNat + n) else .ofNat ('a'.toNat + (n - 10))

def escape (c : Char) : List Char :=
  if c == '"' then ['\\', '"']
  else if c == '\\' then ['\\', '\\']
  else if c == '\n' then ['\\', 'n']
  else if c == '\r' then ['\\', 'r']
  else if c == '\t' then ['\\', 't']
  else if c == '\x08' then ['\\', 'b']
  else if c == '\x0c' then ['\\', 'f']
  else if c < ' ' then ['\\', 'u', '0', '0', hexDigit (c.toNat / 16), hexDigit (c.toNat % 16)]
  else [c]

def quote (s : String) : String :=
  "\"" ++ String.ofList (s.toList.flatMap escape) ++ "\""

/-- The digits of a fraction in lowest terms whose denominator has no other prime factors than two and five, as many
as it has; at least one. -/
def fractionDigits (denominator : Nat) : Nat → Nat → List Char
  | 0, _ => []
  | places + 1, rest =>
    let scaled := rest * 10
    let digit := hexDigit (scaled / denominator)
    if scaled % denominator == 0 then [digit]
    else digit :: fractionDigits denominator places (scaled % denominator)

/-- A number with a point and all its decimals, up to as many as a double can have. -/
def writeReal (q : Rat) : String :=
  let sign := if q.num < 0 then "-" else ""
  let whole := q.num.natAbs / q.den
  sign ++ toString whole ++ "." ++ String.ofList (fractionDigits q.den 1100 (q.num.natAbs % q.den))

def writeScalar : Document → String
  | .null => "null"
  | .bool true => "true"
  | .bool false => "false"
  | .int n => toString n
  | .real q => writeReal q
  | .text s => quote s
  | .list _ => "[]"
  | .object _ => "\x7b\x7d"
  | .illegible => "null"

/-- What stands between two parts of a value: nothing on one line, else a line break and the indentation. -/
def lineBreak (level : Option Nat) : String :=
  match level with
  | none => ""
  | some n => "\n" ++ String.ofList (List.replicate (2 * n) ' ')

mutual

/-- Writes a document. With a level, parts stand on lines of their own, indented by their level. -/
def writeAt (level : Option Nat) : Document → String
  | .list (item :: items) =>
    let inside := level.map (· + 1)
    "[" ++ lineBreak inside ++ writeAt inside item ++ writeItems inside items ++ lineBreak level ++ "]"
  | .object ((name, value) :: fields) =>
    let inside := level.map (· + 1)
    "\x7b" ++ lineBreak inside ++ writeField inside name ++ writeAt inside value ++ writeFields inside fields ++
      lineBreak level ++ "\x7d"
  | d => writeScalar d

def writeItems (level : Option Nat) : List Document → String
  | [] => ""
  | item :: items => "," ++ lineBreak level ++ writeAt level item ++ writeItems level items

def writeField (level : Option Nat) (name : String) : String :=
  quote name ++ if level.isSome then ": " else ":"

def writeFields (level : Option Nat) : List (String × Document) → String
  | [] => ""
  | (name, value) :: fields =>
    "," ++ lineBreak level ++ writeField level name ++ writeAt level value ++ writeFields level fields

end

/-- The document on one line. -/
def write (d : Document) : String :=
  writeAt none d

/-- The document with one value a line. -/
def writeLines (d : Document) : String :=
  writeAt (some 0) d

end ChangeImpact.Json
