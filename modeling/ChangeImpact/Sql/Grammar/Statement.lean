import ChangeImpact.Sql.Grammar.Query

/-!
# Statements

Writes, calls, control flow and the definitions of routines. Everything else is passed over up to the next statement.
-/

namespace ChangeImpact.Sql.Grammar

open ChangeImpact.Sql.Parser

variable (inner : Grammar)

/-! ### Writes -/

/-- `=`, or an arithmetic operator joined with it. -/
def assignmentLength (ts : Tokens) : Nat :=
  match ts.lexeme? 0 with
  | some .equals => 1
  | some (.symbol text) =>
    if arithmeticSymbols.contains text && ts.hasLexeme 1 .equals then 2
    else if text.utf8ByteSize == 2 && text.endsWith "=" && !comparisonSymbols.contains text then 1
    else 0
  | _ => 0

def assignmentOperator : Parser Unit := do
  match ← look assignmentLength with
  | 0 => fail Lexeme.equals.describe
  | n => skip n

def assignments : Parser (List Assignment) :=
  commaSeparated do
    let target ← if ← acceptIf (·.hasVariable 0) 1 then pure .variable else .column <$> objectName
    assignmentOperator
    return ⟨target, ← inner.expr⟩

/-- `OUTPUT` with its columns and the table that they go to. -/
def skipOutput : Parser Unit := do
  if ← acceptKeyword "OUTPUT" then
    discard <| commaSeparated do
      discard inner.expr
      discard aliasName
    if ← acceptKeyword "INTO" then
      discard objectName
      skipOptionalGroup

def update : Parser Update := do
  expectKeyword "UPDATE"
  skipTop inner
  let target ← objectName
  skipTableHints
  expectKeyword "SET"
  let assignments ← assignments inner
  skipOutput inner
  let sources ← fromClause inner
  let filter ← whereClause inner
  skipOptions
  return ⟨target, assignments, sources, filter⟩

def delete : Parser Delete := do
  expectKeyword "DELETE"
  skipTop inner
  discard <| acceptKeyword "FROM"
  let target ← objectName
  skipTableHints
  skipOutput inner
  let sources ← fromClause inner
  let filter ← whereClause inner
  skipOptions
  return ⟨target, sources, filter⟩

/-- What a `WHEN` clause does. -/
def mergeAction : Parser MergeAction := do
  if ← acceptKeyword "UPDATE" then
    expectKeyword "SET"
    return .update (← assignments inner)
  else if ← acceptKeyword "DELETE" then return .delete
  else if ← acceptKeyword "INSERT" then
    skipOptionalGroup
    if ← acceptKeyword "VALUES" then
      expect .openParen
      let values ← exprList inner
      expect .closeParen
      return .insert values
    else
      expectKeyword "DEFAULT"
      expectKeyword "VALUES"
      return .insert []
  else fail "UPDATE, DELETE or INSERT"

/-- A clause behind its `WHEN`. -/
def mergeClause : Parser MergeClause := do
  discard <| acceptKeyword "NOT"
  expectKeyword "MATCHED"
  if ← acceptKeyword "BY" then
    unless ← acceptKeyword "TARGET" do
      expectKeyword "SOURCE"
  let condition ← if ← acceptKeyword "AND" then some <$> inner.expr else pure none
  expectKeyword "THEN"
  return ⟨condition, ← mergeAction inner⟩

def merge : Parser Merge := do
  expectKeyword "MERGE"
  skipTop inner
  discard <| acceptKeyword "INTO"
  let target ← objectName
  skipTableHints
  let targetAlias ← aliasName
  expectKeyword "USING"
  let source ← inner.source
  expectKeyword "ON"
  let on ← inner.expr
  let clauses ← loop (keywordSeparator "WHEN") (fun clauses _ => return clauses ++ [← mergeClause inner]) []
  skipOutput inner
  skipOptions
  return ⟨target, targetAlias, source, on, clauses⟩

/-! ### Calls -/

/-- The arguments of a call without parentheses, and the options behind them. -/
def execArgs : Parser (List Expr) := do
  let ended (ts : Tokens) := ts.atBoundary || ts.hasKeyword 0 "WITH"
  let arg : Parser Expr := do
    let expr ← inner.expr
    skipBy fun ts => (ts.takeWhile fun t => t.lexeme.keyword?.any ["OUTPUT", "OUT", "READONLY"].contains).length
    return expr
  let args ← if ← look ended then pure [] else do
    let first ← arg
    loop (fun ts => if ts.hasLexeme 0 .comma then some (0, ()) else none)
      (fun args _ => do
        if ← look ended then return args
        return args ++ [← arg]) [first]
  if ← acceptIf (fun ts => ts.hasKeyword 0 "WITH" && !ts.startsCtes) 1 then skipCall
  return args

/-- A call behind its keyword, or nothing if its target is known only when it runs. -/
def exec : Parser (Option Exec) := do
  skip 1
  if ← look (·.hasLexeme 0 .openParen) then
    skipGroup
    skipCall
    noteDynamicSql
    return none
  else
    discard <| acceptIf (fun ts => ts.hasVariable 0 && ts.hasLexeme 1 .equals) 2
    if ← acceptIf (·.hasVariable 0) 1 then
      discard <| execArgs inner
      noteDynamicSql
      return none
    else
      let procedure ← objectName
      let args ← execArgs inner
      if Text.sameAsciiCase procedure.base "sp_executesql" then
        noteDynamicSql
        return none
      else return some ⟨procedure, args⟩

def insertSource : Parser InsertSource := do
  if ← acceptKeyword "VALUES" then return .rows (← valueRows inner)
  else if ← acceptIf (fun ts => ts.hasKeyword 0 "DEFAULT" && ts.hasKeyword 1 "VALUES") 2 then return .defaults
  else if ← look (·.hasKeywordOf 0 ["EXEC", "EXECUTE"]) then
    match ← exec inner with
    | some call => return .exec call
    | none => return .dynamicSql
  else return .query (← inner.query)

def insert : Parser Insert := do
  expectKeyword "INSERT"
  skipTop inner
  discard <| acceptKeyword "INTO"
  let target ← objectName
  skipTableHints
  if ← look (fun ts => ts.hasLexeme 0 .openParen && !ts.startsQuery 1) then skipGroup
  skipOutput inner
  return ⟨target, ← insertSource inner⟩

/-- A statement behind its common table expressions; those of a query are all that it has. -/
def withCtes : Parser Statement := do
  let ctes ← ctes inner
  if ← look (fun ts => ts.hasKeyword 0 "SELECT" || ts.hasLexeme 0 .openParen) then
    return .query { ← inner.query with ctes }
  else if ← look (·.hasKeyword 0 "INSERT") then return .withCtes ctes (.insert (← insert inner))
  else if ← look (·.hasKeyword 0 "UPDATE") then return .withCtes ctes (.update (← update inner))
  else if ← look (·.hasKeyword 0 "DELETE") then return .withCtes ctes (.delete (← delete inner))
  else if ← look (·.hasKeyword 0 "MERGE") then return .withCtes ctes (.merge (← merge inner))
  else fail "SELECT, INSERT, UPDATE, DELETE or MERGE"

/-! ### Control flow -/

/-- Statements up to the end or to one of the keywords. A statement that cannot be read is noted and passed over. -/
def statements (stopWords : List String) : Parser (List Statement) :=
  recovering (·.hasKeywordOf 0 stopWords) (Tokens.boundaryDistance 0 0) inner.statement

/-- `BEGIN … END`, also with `TRY` or `CATCH` behind both words. -/
def block : Parser (Option Statement) := do
  if ← look (·.hasKeywordOf 1 ["TRAN", "TRANSACTION", "DISTRIBUTED"]) then
    skipStatement
    return none
  skip 1
  let kind ← look fun ts => ["TRY", "CATCH"].find? (ts.hasKeyword 0)
  if kind.isSome then skip 1
  let body ← statements inner ["END"]
  if ← acceptKeyword "END" then
    if let some keyword := kind then discard <| acceptKeyword keyword
  else note .missingEnd
  return some (.block body)

def skipSemicolons : Parser Unit :=
  skipBy fun ts => (ts.takeWhile (·.lexeme == .semicolon)).length

/-- The statement behind a condition. -/
def branchBody : Parser Statement := do
  skipSemicolons
  return (← inner.statement).getD (.block [])

def branch : Parser Statement := do
  skip 1
  let condition ← inner.expr
  let yes ← branchBody inner
  skipSemicolons
  let no ← if ← acceptKeyword "ELSE" then some <$> branchBody inner else pure none
  return .branch condition yes no

def whileLoop : Parser Statement := do
  skip 1
  let condition ← inner.expr
  return .loop condition (← branchBody inner)

/-- `DECLARE name CURSOR … FOR query`, behind the first word. -/
def cursor : Parser Statement := do
  skipBy fun ts => (ts.takeWhile (·.lexeme.keyword? != some "FOR")).length
  expectKeyword "FOR"
  let query ← inner.query
  if ← acceptIf (fun ts => ts.hasKeyword 0 "FOR" && ts.hasKeyword 1 "UPDATE") 2 then
    if ← acceptKeyword "OF" then discard <| commaSeparated identifier
  return .query query

/-- A declared variable and the expression it starts with. -/
def declaration : Parser (Option Expr) := do
  unless ← acceptIf (·.hasVariable 0) 1 do
    fail "variable"
  discard <| acceptKeyword "AS"
  if ← acceptKeyword "TABLE" then skipGroup
  else
    unless ← acceptKeyword "CURSOR" do
      skipTypeName
  if ← accept .equals then return some (← inner.expr)
  return none

def declare : Parser Statement := do
  skip 1
  if ← look (·.hasVariable 0) then
    return .evaluate ((← commaSeparated (declaration inner)).filterMap id)
  else cursor inner

/-- The assignment of a variable; other settings are passed over. -/
def set : Parser (Option Statement) := do
  if ← look (·.hasVariable 1) then
    skip 2
    assignmentOperator
    return some (.evaluate [← inner.expr])
  else
    skipStatement
    return none

def returnStatement : Parser Statement := do
  skip 1
  if ← look Tokens.atBoundary then return .evaluate []
  return .evaluate [← inner.expr]

/-! ### Routines -/

/-- The definition of a routine, whose body goes up to the end of the batch. Other definitions are passed over. -/
def definition : Parser (Option Statement) := do
  let kindAt ← look fun ts => if ts.hasKeyword 1 "OR" && ts.hasKeyword 2 "ALTER" then 3 else 1
  if ← look (·.hasKeywordOf kindAt routineKinds) then
    skip (kindAt + 1)
    let name ← objectName
    match ← look (Tokens.bodyDistance? 0 false false) with
    | some (n, schemaBound) =>
      skip n
      return some (.routine name schemaBound (← statements inner ["GO"]))
    | none =>
      skipBy List.length
      note (.noBody name.qualified)
      return some (.routine name false [])
  else
    skipStatement
    return none

/-! ### Any statement -/

def execStatement : Parser (Option Statement) := do
  if ← look (·.hasKeyword 1 "AS") then
    skipStatement
    return none
  else
    match ← exec inner with
    | some call => return some (.exec call)
    | none => return some .dynamicSql

/-- A statement that starts with the keyword. -/
def keywordStatement (keyword : String) : Parser (Option Statement) := do
  match keyword with
  | "SELECT" => return some (.query (← inner.query))
  | "WITH" => some <$> withCtes inner
  | "INSERT" => return some (.insert (← insert inner))
  | "UPDATE" =>
    if ← look (·.hasKeyword 1 "STATISTICS") then
      skipStatement
      return none
    else return some (.update (← update inner))
  | "DELETE" => return some (.delete (← delete inner))
  | "MERGE" => return some (.merge (← merge inner))
  | "TRUNCATE" =>
    skip 1
    expectKeyword "TABLE"
    return some (.truncate (← objectName))
  | "EXEC" | "EXECUTE" => execStatement inner
  | "BEGIN" => block inner
  | "IF" => some <$> branch inner
  | "WHILE" => some <$> whileLoop inner
  | "DECLARE" => some <$> declare inner
  | "SET" => set inner
  | "RETURN" => some <$> returnStatement inner
  | "CREATE" | "ALTER" => definition inner
  | "GO" =>
    skip 1
    return none
  | "END" | "ELSE" =>
    note (.stray keyword)
    skip 1
    return none
  | _ =>
    if ignoredStatements.contains keyword then
      skipStatement
      return none
    else if ← acceptIf (·.hasLexeme 1 (.symbol ":")) 2 then return none
    else fail "statement"

def anyStatement : Parser (Option Statement) := do
  match ← peek with
  | none => return none
  | some .semicolon =>
    skip 1
    return none
  | some .openParen =>
    if ← look (·.startsQuery 1) then return some (.query (← inner.query)) else fail "statement"
  | some (.word text false) => keywordStatement inner (Text.asciiUpper text)
  | some _ => fail "statement"

end ChangeImpact.Sql.Grammar
