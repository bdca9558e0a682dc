import ChangeImpact.Text.Ascii

/-!
# Tokens of a definition

* `Lexeme`: the shapes of tokens that matter for finding references;
* `Lexeme.keyword?`: the upper-case text of a word that may be a keyword, which a quoted word never is;
* `Lexeme.describe`: how an unexpected token is named in a diagnostic.
-/

namespace ChangeImpact.Sql

inductive Lexeme where
  /-- An identifier or keyword, or a placeholder; `quoted` for a name in brackets or double quotes. -/
  | word (text : String) (quoted : Bool)
  /-- A number or a string. -/
  | literal
  | period
  | comma
  | openParen
  | closeParen
  | equals
  | semicolon
  | star
  /-- Any other operator or sign. -/
  | symbol (text : String)
  deriving DecidableEq, Repr

namespace Lexeme

/-- The upper-case text of an unquoted word. -/
def keyword? : Lexeme → Option String
  | word text false => some (Text.asciiUpper text)
  | _ => none

def isWord : Lexeme → Bool
  | word .. => true
  | _ => false

/-- An unquoted word that starts with `@`. -/
def isVariable : Lexeme → Bool
  | word text false => Text.isMarked '@' text
  | _ => false

def describe : Lexeme → String
  | word text _ => s!"'{text}'"
  | literal => "literal"
  | period => "'.'"
  | comma => "','"
  | openParen => "'('"
  | closeParen => "')'"
  | equals => "'='"
  | semicolon => "';'"
  | star => "'*'"
  | symbol text => s!"'{text}'"

end Lexeme

/-- A token and the line, counted from one, on which it starts. -/
structure Token where
  lexeme : Lexeme
  line : Nat
  deriving DecidableEq, Repr

end ChangeImpact.Sql
