import ChangeImpact.Sql.Token

/-!
# Keywords and operators

Keywords are compared in upper case. `Tokens.keyword? n` is the keyword that may stand `n` tokens ahead.
-/

namespace ChangeImpact.Sql

/-- The words that start a statement, and so end the one before it where the semicolon is left out. -/
def statementKeywords : List String := [
  "SELECT", "INSERT", "UPDATE", "DELETE", "MERGE", "EXEC", "EXECUTE", "WITH", "IF", "ELSE", "WHILE", "BEGIN", "END",
  "DECLARE", "SET", "RETURN", "PRINT", "TRUNCATE", "CREATE", "ALTER", "DROP", "OPEN", "FETCH", "CLOSE", "DEALLOCATE",
  "RAISERROR", "THROW", "GOTO", "BREAK", "CONTINUE", "COMMIT", "ROLLBACK", "SAVE", "GO", "USE", "WAITFOR", "GRANT",
  "DENY", "REVOKE"]

/-- The statements that refer to no object in a way that matters. -/
def ignoredStatements : List String := [
  "PRINT", "RAISERROR", "THROW", "DROP", "OPEN", "FETCH", "CLOSE", "DEALLOCATE", "GOTO", "BREAK", "CONTINUE", "COMMIT",
  "ROLLBACK", "SAVE", "USE", "WAITFOR", "GRANT", "DENY", "REVOKE"]

/-- The words that are neither an alias nor an expression, since a clause starts or goes on with them. -/
def clauseKeywords : List String := [
  "FROM", "WHERE", "GROUP", "HAVING", "ORDER", "UNION", "EXCEPT", "INTERSECT", "INTO", "ON", "JOIN", "INNER", "LEFT",
  "RIGHT", "FULL", "CROSS", "OUTER", "APPLY", "OPTION", "FOR", "AND", "OR", "NOT", "WHEN", "THEN", "AS", "OUTPUT",
  "USING", "VALUES", "PIVOT", "UNPIVOT", "TABLESAMPLE", "OFFSET", "ASC", "DESC", "BY", "IS", "IN", "LIKE", "BETWEEN",
  "ESCAPE", "COLLATE", "OVER"]

def routineKinds : List String := ["PROCEDURE", "PROC", "VIEW", "FUNCTION", "TRIGGER"]

def joinHints : List String := ["LOOP", "HASH", "MERGE", "REMOTE"]

def tableHints : List String := [
  "NOLOCK", "READUNCOMMITTED", "READCOMMITTED", "REPEATABLEREAD", "SERIALIZABLE", "UPDLOCK", "HOLDLOCK", "ROWLOCK",
  "PAGLOCK", "TABLOCK", "TABLOCKX", "XLOCK", "READPAST", "NOWAIT"]

/-- The comparison operators apart from equality. -/
def comparisonSymbols : List String := ["<>", "!=", "<", ">", "<=", ">=", "!<", "!>"]

/-- The arithmetic operators apart from the star. -/
def arithmeticSymbols : List String := ["+", "-", "/", "%", "&", "|", "^", "||"]

/-- Neither an alias nor an expression can be this unquoted word. -/
def isReserved (word : String) : Bool :=
  let keyword := Text.asciiUpper word
  statementKeywords.contains keyword || clauseKeywords.contains keyword

/-! ### Looking ahead -/

/-- The tokens that are still to be read. -/
abbrev Tokens := List Token

namespace Tokens

def lexeme? (ts : Tokens) (n : Nat) : Option Lexeme :=
  ts[n]?.map Token.lexeme

def keyword? (ts : Tokens) (n : Nat) : Option String :=
  (ts.lexeme? n).bind Lexeme.keyword?

def hasLexeme (ts : Tokens) (n : Nat) (lexeme : Lexeme) : Bool :=
  ts.lexeme? n == some lexeme

def hasKeyword (ts : Tokens) (n : Nat) (keyword : String) : Bool :=
  ts.keyword? n == some keyword

def hasKeywordOf (ts : Tokens) (n : Nat) (keywords : List String) : Bool :=
  (ts.keyword? n).any keywords.contains

def hasVariable (ts : Tokens) (n : Nat) : Bool :=
  (ts.lexeme? n).any Lexeme.isVariable

def hasWord (ts : Tokens) (n : Nat) : Bool :=
  (ts.lexeme? n).any Lexeme.isWord

/-- `WITH name AS` or `WITH name (`, as opposed to the options that `WITH` introduces elsewhere. -/
def startsCtes (ts : Tokens) : Bool :=
  ts.hasKeyword 0 "WITH" && ts.hasWord 1 && (ts.hasKeyword 2 "AS" || ts.hasLexeme 2 .openParen)

def startsStatement (ts : Tokens) : Bool :=
  if ts.hasKeyword 0 "WITH" then ts.startsCtes else ts.hasKeywordOf 0 statementKeywords

/-- A statement ends here. -/
def atBoundary (ts : Tokens) : Bool :=
  ts.isEmpty || ts.hasLexeme 0 .semicolon || ts.startsStatement

/-- `SELECT` or `WITH`. -/
def startsQuery (ts : Tokens) (n : Nat) : Bool :=
  ts.hasKeyword n "SELECT" || ts.hasKeyword n "WITH"

/-- The line of the next token. -/
def line? (ts : Tokens) : Option Nat :=
  ts.head?.map Token.line

end Tokens

end ChangeImpact.Sql
