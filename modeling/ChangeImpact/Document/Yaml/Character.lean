/-!
# Characters of YAML

Which characters may stand in a text, and which of them separate words or end a line.
-/

namespace ChangeImpact.Yaml

/-- A character that may stand in a text. Others can only be written with an escape. -/
def isPrintable (c : Char) : Bool :=
  c == '\t' || c == '\n' || c == '\r' || (' ' ≤ c && c ≤ '~') || c == '\u0085' ||
    ('\u00a0' ≤ c && c != '\ufffe' && c != '\uffff')

/-- Writes a line feed for a carriage return, with or without a line feed behind it, and for a next line. -/
def unifyBreaks : List Char → List Char
  | [] => []
  | '\r' :: '\n' :: cs => '\n' :: unifyBreaks cs
  | c :: cs => (if c == '\r' || c == '\u0085' then '\n' else c) :: unifyBreaks cs

/-- A line break: a line feed, a line separator or a paragraph separator. -/
def isBreak (c : Char) : Bool :=
  c == '\n' || c == '\u2028' || c == '\u2029'

def isBlank (c : Char) : Bool :=
  c == ' ' || c == '\t'

def isSpace (c : Char) : Bool :=
  isBlank c || isBreak c

/-- A space or the end of the text. -/
def beginsSpace : List Char → Bool
  | [] => true
  | c :: _ => isSpace c

/-- A line break or the end of the text. -/
def beginsBreak : List Char → Bool
  | [] => true
  | c :: _ => isBreak c

/-- A character in the name of an anchor, a directive or a shorthand. -/
def isNameChar (c : Char) : Bool :=
  c.isAlphanum || c == '_' || c == '-'

/-- A character with a meaning within brackets. -/
def isBracketMark (c : Char) : Bool :=
  c == ',' || c == '[' || c == ']' || c == '\x7b' || c == '\x7d'

end ChangeImpact.Yaml
