import ChangeImpact.Sql.Token
import ChangeImpact.Text.Alphabetic
import ChangeImpact.Text.Blank
import ChangeImpact.Text.Numeric

/-!
# Scanning a definition

The first character of the remaining text decides which rule reads the next piece. A piece is a token, or blank space
or a comment, which are dropped; it has at least one character, so scanning ends. A string, quoted name, comment or
dollar string without an end makes the whole text unreadable.
-/

namespace ChangeImpact.Sql

/-- What a rule reads: the lexeme, if the piece is not dropped, and the number of characters after the first. -/
structure Piece where
  lexeme : Option Lexeme
  extra : Nat

namespace Piece

def dropped (extra : Nat) : Piece := ⟨none, extra⟩

def read (lexeme : Lexeme) (extra : Nat) : Piece := ⟨some lexeme, extra⟩

end Piece

/-! ### Words -/

def startsWord (c : Char) : Bool :=
  Text.isAlphabetic c || c == '_'

def continuesWord (c : Char) : Bool :=
  Text.isAlphabetic c || c.isDigit || c == '@' || c == '$' || c == '#' || c == '_'

/-- A word of the characters `head` and all that continue it. -/
def wordPiece (head rest : List Char) : Piece :=
  let tail := rest.takeWhile continuesWord
  .read (.word (.ofList (head ++ tail)) false) (head.length + tail.length - 1)

/-- The text of a quoted name and the number of characters up to and with its end; a doubled end stands for itself. -/
def quotedName (close : Char) : List Char → Option (List Char × Nat)
  | [] => none
  | [c] => if c == close then some ([], 1) else none
  | c :: d :: cs =>
    if c == close then
      if d == close then (quotedName close cs).map fun (text, n) => (close :: text, n + 2)
      else some ([], 1)
    else (quotedName close (d :: cs)).map fun (text, n) => (c :: text, n + 1)

/-! ### Literals -/

/-- The number of characters up to and with the end of a string; a doubled quote does not end it, and with `escapes`
neither does a quote after a backslash. -/
def stringLength (escapes : Bool) : List Char → Option Nat
  | [] => none
  | [c] => if c == '\'' then some 1 else none
  | c :: d :: cs =>
    if c == '\'' then
      if d == '\'' then (stringLength escapes cs).map (· + 2) else some 1
    else if escapes && c == '\\' then (stringLength escapes cs).map (· + 2)
    else (stringLength escapes (d :: cs)).map (· + 1)

def isHexDigit (c : Char) : Bool :=
  c.isDigit || ('a' ≤ c && c ≤ 'f') || ('A' ≤ c && c ≤ 'F')

def digits (cs : List Char) : Nat :=
  (cs.takeWhile Char.isDigit).length

/-- The length of an exponent: a mark, an optional sign and at least one digit. -/
def exponentLength : List Char → Nat
  | mark :: cs =>
    if mark == 'e' || mark == 'E' then
      let sign := match cs with
        | c :: _ => if c == '+' || c == '-' then 1 else 0
        | [] => 0
      let n := digits (cs.drop sign)
      if n == 0 then 0 else 1 + sign + n
    else 0
  | [] => 0

/-- A number, or a period without digits. -/
def numberPiece (text : List Char) : Piece :=
  let whole := digits text
  let afterWhole := text.drop whole
  if text.take whole == ['0'] && afterWhole.head? == some 'x' then
    .read .literal (1 + ((afterWhole.drop 1).takeWhile isHexDigit).length)
  else
    let point := if afterWhole.head? == some '.' then 1 else 0
    let fraction := digits (afterWhole.drop point)
    if whole == 0 && fraction == 0 then .read .period 0
    else
      let mantissa := whole + point + fraction
      let exponent := exponentLength (text.drop mantissa)
      let suffix := if (text.drop (mantissa + exponent)).head? == some 'L' then 1 else 0
      .read .literal (mantissa + exponent + suffix - 1)

/-! ### Comments -/

def lineCommentLength (cs : List Char) : Nat :=
  (cs.takeWhile (· != '\n')).length

/-- The number of characters up to and with the end of a block comment. -/
def blockCommentLength : List Char → Option Nat
  | [] => none
  | c :: cs =>
    if c == '*' && cs.head? == some '/' then some 2 else (blockCommentLength cs).map (· + 1)

/-! ### Operators -/

/-- The operators of several characters, each before those that it starts with. -/
def operators : List String := [
  "->>", "->", "||/", "||", "|/", "=>", "==", "!=", "!!", "!~~*", "!~~", "!~*", "!~", "<=>", "<=", "<>", "<<", "<@",
  ">=", ">>", "::", ":=", "&&", "^@", "~~*", "~~", "~*"]

/-- How an operator is written; inequality has two spellings and one form. -/
def operatorText (spelling : String) : String :=
  if spelling == "!=" then "<>" else spelling

def operatorPiece (text : List Char) : Option Piece :=
  (operators.find? fun op => op.toList.isPrefixOf text).map fun op =>
    .read (.symbol (operatorText op)) (op.length - 1)

/-! ### Placeholders and dollar strings -/

/-- The value of a dollar string without a tag and the number of characters up to and with its end. `held` says that
the character before was a dollar sign, which belongs to the value unless the next one completes the end. -/
def dollarString (held : Bool) : List Char → Option (List Char × Nat)
  | [] => none
  | c :: cs =>
    if held then
      if c == '$' then some ([], 1)
      else (dollarString false cs).map fun (text, n) => ('$' :: c :: text, n + 1)
    else if c == '$' then (dollarString true cs).map fun (text, n) => (text, n + 1)
    else (dollarString false cs).map fun (text, n) => (c :: text, n + 1)

/-- The text before the first occurrence of `mark`. -/
def textBefore (mark : List Char) : List Char → Option (List Char)
  | [] => if mark == [] then some [] else none
  | c :: cs => if mark.isPrefixOf (c :: cs) then some [] else (textBefore mark cs).map (c :: ·)

def dollarPiece (cs : List Char) : Option Piece :=
  match cs with
  | '$' :: rest =>
    (dollarString false rest).map fun (value, n) => .read (.symbol s!"$${String.ofList value}$$") (n + 1)
  | _ =>
    let tag := cs.takeWhile fun c => Text.isAlphabetic c || Text.isNumeric c || c == '_'
    let name := String.ofList ('$' :: tag)
    match cs.drop tag.length with
    | '$' :: rest =>
      let mark := '$' :: tag ++ ['$']
      (textBefore mark rest).map fun value =>
        .read (.symbol s!"{name}${String.ofList value}{name}$") (2 * tag.length + value.length + 3)
    | _ => some (.read (.word name false) tag.length)

/-! ### Temporary names and variables -/

def hashPiece (cs : List Char) : Piece :=
  match cs with
  | [] => .read (.symbol "#") 0
  | c :: rest =>
    if c == ' ' then .read (.symbol "#") 0
    else if c == '-' then .read (.symbol "#-") 1
    else if c == '>' then
      if rest.head? == some '>' then .read (.symbol "#>>") 2 else .read (.symbol "#>") 1
    else wordPiece ['#', c] rest

def atPiece (cs : List Char) : Piece :=
  match cs with
  | [] => .read (.symbol "@") 0
  | c :: rest =>
    if c == ' ' || c == '\'' || c == '"' || c == '\x60' then .read (.symbol "@") 0
    else if c == '>' then .read (.symbol "@>") 1
    else if c == '?' then .read (.symbol "@?") 1
    else if c == '@' then
      match rest with
      | [] => .read (.symbol "@@") 1
      | d :: more => if d == ' ' then .read (.symbol "@@") 1 else wordPiece ['@', '@', d] more
    else wordPiece ['@', c] rest

/-! ### The next piece -/

/-- The piece that starts with `c` and goes on in `cs`, or nothing if it has no end. -/
def nextPiece (c : Char) (cs : List Char) : Option Piece :=
  let isQuoteNext := cs.head? == some '\''
  if c == ' ' || c == '\t' || c == '\n' || c == '\r' then some (.dropped 0)
  else if (c == 'N' || c == 'n') && isQuoteNext then
    (stringLength false (cs.drop 1)).map fun n => .read .literal (n + 1)
  else if (c == 'X' || c == 'x') && isQuoteNext then
    (stringLength true (cs.drop 1)).map fun n => .read .literal (n + 1)
  else if c == '\'' then (stringLength false cs).map fun n => .read .literal n
  else if c == '"' then
    (quotedName '"' cs).map fun (text, n) => .read (.word (.ofList text) true) n
  else if c == '[' then
    (quotedName ']' cs).map fun (text, n) => .read (.word (.ofList text) true) n
  else if c.isDigit || c == '.' then some (numberPiece (c :: cs))
  else if c == '(' then some (.read .openParen 0)
  else if c == ')' then some (.read .closeParen 0)
  else if c == ',' then some (.read .comma 0)
  else if c == ';' then some (.read .semicolon 0)
  else if c == '*' then some (.read .star 0)
  else if c == '-' && cs.head? == some '-' then some (.dropped (lineCommentLength cs))
  else if c == '/' && cs.head? == some '*' then
    (blockCommentLength (cs.drop 1)).map fun n => .dropped (n + 1)
  else if let some piece := operatorPiece (c :: cs) then some piece
  else if c == '=' then some (.read .equals 0)
  else if c == '#' then some (hashPiece cs)
  else if c == '@' then some (atPiece cs)
  else if c == '?' then
    let number := cs.takeWhile Text.isNumeric
    some (.read (.word (.ofList ('?' :: number)) false) number.length)
  else if c == '$' then dollarPiece cs
  else if startsWord c then some (wordPiece [c] cs)
  else if Text.isBlank c then some (.dropped 0)
  else some (.read (.symbol c.toString) 0)

/-- The tokens of a text that starts on the given line. -/
def scanFrom (line : Nat) : List Char → Option (List Token)
  | [] => some []
  | c :: cs => do
    let piece ← nextPiece c cs
    let taken := c :: cs.take piece.extra
    let tokens ← scanFrom (line + taken.count '\n') (cs.drop piece.extra)
    return piece.lexeme.toList.map (⟨·, line⟩) ++ tokens
termination_by cs => cs.length
decreasing_by simp only [List.length_drop, List.length_cons]; omega

/-- The tokens of a definition, or nothing if a piece of it has no end. -/
def Token.scan (sql : String) : Option (List Token) :=
  scanFrom 1 sql.toList

end ChangeImpact.Sql
