import ChangeImpact.Extraction.Scope
import ChangeImpact.Reference

/-!
# Findings

What a statement tree says about other objects, in the order of the text. A finding may occur several times.

* `exprFindings`, `queryFindings`, `sourceFindings` and their companions follow the tree of a query;
* `Statement.findings` follows statements.
-/

namespace ChangeImpact.Extraction

open Sql

inductive Finding where
  | uses (kind : ObjectKind) (name : String) (usage : Usage)
  | joins (condition : JoinCondition)
  | column (reference : ColumnReference)
  deriving DecidableEq, Repr

/-- What a finding depends on besides the tree below it. -/
structure Context where
  scope : Scope
  /-- The innermost routine is bound to the schema. -/
  schemaBound : Bool
  /-- An equality of columns found here is a condition of a join. -/
  inJoin : Bool

namespace Context

/-- Within a frame of bindings. -/
def within (ctx : Context) (frame : Scope) : Context :=
  { ctx with scope := frame ++ ctx.scope }

def joining (ctx : Context) : Context :=
  { ctx with inJoin := true }

def apart (ctx : Context) : Context :=
  { ctx with inJoin := false }

/-- How a source is used. -/
def reading (ctx : Context) : Usage :=
  if ctx.schemaBound then .schemaBinding else .select

end Context

/-! ### Names -/

/-- A table that is written. -/
def writeFindings (ctx : Context) (name : Name) (usage : Usage) : List Finding :=
  (ctx.scope.written name).toList.map (.uses .table · usage)

/-- The table of a column: what its qualifier stands for, or the last part of the qualifier. -/
def columnTable (scope : Scope) (qualifier : List String) : Option String :=
  if qualifier.isEmpty then none
  else
    match scope.qualifier qualifier with
    | .table name => some name
    | _ => qualifier.getLast?.filter (!·.isEmpty)

def columnFindings (ctx : Context) (name : Name) : List Finding :=
  if name.parts.isEmpty then []
  else [.column ⟨columnTable ctx.scope name.qualifier, name.base, name.dotted⟩]

/-- The table that a side of a join condition belongs to, if it names one. -/
def sideTable (scope : Scope) (name : Name) : Option String :=
  if name.qualifier.isEmpty then none
  else
    match scope.qualifier name.qualifier with
    | .table table => some table
    | .unbound part => if part.isEmpty then none else some part
    | .derived => none

def joinFindings (ctx : Context) (left right : Name) : List Finding :=
  match sideTable ctx.scope left, sideTable ctx.scope right with
  | some leftTable, some rightTable => [.joins ⟨leftTable, left.base, rightTable, right.base⟩]
  | _, _ => []

/-- A source that is a table. -/
def tableFindings (ctx : Context) (name : Name) : List Finding :=
  (ctx.scope.referenced name).toList.map (.uses .table · ctx.reading)

/-- A source that is a call. -/
def tableFunctionFindings (ctx : Context) (name : Name) : List Finding :=
  if name.isTemporary then [] else [.uses .function name.qualified ctx.reading]

/-- A call in an expression; only a qualified name can be that of a function in the catalog. -/
def functionFindings (ctx : Context) (name : Name) : List Finding :=
  if name.parts.length < 2 || name.isTemporary then [] else [.uses .function name.qualified ctx.reading]

/-- An equality of two columns within a join. -/
def equalityFindings (ctx : Context) : Expr → Operator → Expr → List Finding
  | .column left, .equals, .column right => if ctx.inJoin then joinFindings ctx left right else []
  | _, _, _ => []

/-! ### Queries and expressions -/

mutual

def exprFindings (ctx : Context) : Expr → List Finding
  | .column name => columnFindings ctx name
  | .variable => []
  | .literal => []
  | .binary left op right => equalityFindings ctx left op right ++ exprFindings ctx left ++ exprFindings ctx right
  | .call name args => functionFindings ctx name ++ exprsFindings ctx.apart args
  | .subquery query => queryFindings ctx query
  | .group operands => exprsFindings ctx operands

def exprsFindings (ctx : Context) : List Expr → List Finding
  | [] => []
  | expr :: exprs => exprFindings ctx expr ++ exprsFindings ctx exprs

def optionalFindings (ctx : Context) : Option Expr → List Finding
  | none => []
  | some expr => exprFindings ctx expr

/-- The common table expressions of a query are in scope in each other. -/
def queryFindings (ctx : Context) : Query → List Finding
  | ⟨ctes, body, orderBy⟩ =>
    let ctx := (ctx.within (cteFrame ctes)).apart
    ctesFindings ctx ctes ++ bodyFindings ctx body ++ exprsFindings ctx orderBy

def ctesFindings (ctx : Context) : List Cte → List Finding
  | [] => []
  | ⟨_, query⟩ :: ctes => queryFindings ctx query ++ ctesFindings ctx ctes

def bodyFindings (ctx : Context) : QueryBody → List Finding
  | .select block => selectFindings ctx block
  | .nested query => queryFindings ctx query
  | .combine left right => bodyFindings ctx left ++ bodyFindings ctx right

def selectFindings (ctx : Context) : Select → List Finding
  | ⟨columns, into, sources, filter, groupBy, having⟩ =>
    let ctx := (ctx.within (sourcesFrame ctx.scope sources)).apart
    into.toList.flatMap (writeFindings ctx · .insert) ++ sourcesFindings ctx sources ++ exprsFindings ctx columns ++
      optionalFindings ctx filter ++ exprsFindings ctx groupBy ++ optionalFindings ctx having

def sourcesFindings (ctx : Context) : List Joined → List Finding
  | [] => []
  | joined :: sources => joinedFindings ctx joined ++ sourcesFindings ctx sources

def joinedFindings (ctx : Context) : Joined → List Finding
  | ⟨first, joins⟩ => sourceFindings ctx first ++ joinsFindings ctx joins

def joinsFindings (ctx : Context) : List Join → List Finding
  | [] => []
  | ⟨source, on⟩ :: joins =>
    sourceFindings ctx source ++ optionalFindings ctx.joining on ++ joinsFindings ctx joins

def sourceFindings (ctx : Context) : Source → List Finding
  | .table name _ => tableFindings ctx name
  | .call name args _ => tableFunctionFindings ctx name ++ exprsFindings ctx.apart args
  | .derived query _ => queryFindings ctx query
  | .rows cells _ => exprsFindings ctx.apart cells
  | .joined inner => joinedFindings ctx.apart inner

end

/-! ### Statements -/

def assignmentsFindings (ctx : Context) (assignments : List Assignment) : List Finding :=
  assignments.flatMap fun a => exprFindings ctx a.target ++ exprFindings ctx a.value

/-- A called procedure and the arguments of the call. -/
def execFindings (ctx : Context) (call : Exec) : List Finding :=
  let name := call.procedure.qualified
  let callee := if call.procedure.isTemporary || name.isEmpty then [] else [.uses .procedure name .exec]
  callee ++ exprsFindings ctx call.args

def insertFindings (ctx : Context) (insert : Insert) : List Finding :=
  writeFindings ctx insert.target .insert ++
    match insert.source with
    | .rows cells => exprsFindings ctx cells
    | .query query => queryFindings ctx query
    | .exec call => execFindings ctx call
    | .dynamicSql => []
    | .defaults => []

def updateFindings (ctx : Context) (update : Update) : List Finding :=
  let ctx := ctx.within (sourcesFrame ctx.scope update.sources)
  writeFindings ctx update.target .update ++ sourcesFindings ctx update.sources ++
    assignmentsFindings ctx update.assignments ++ optionalFindings ctx update.filter

def deleteFindings (ctx : Context) (delete : Delete) : List Finding :=
  let ctx := ctx.within (sourcesFrame ctx.scope delete.sources)
  writeFindings ctx delete.target .delete ++ sourcesFindings ctx delete.sources ++ optionalFindings ctx delete.filter

def MergeAction.usage : MergeAction → Usage
  | .insert _ => .insert
  | .update _ => .update
  | .delete => .delete

/-- The most severe usage of the clauses; a `MERGE` without a clause counts as an update. -/
def mergeUsage (clauses : List MergeClause) : Usage :=
  (Usage.max? (clauses.map (MergeAction.usage ·.action))).getD .update

def mergeActionFindings (ctx : Context) : MergeAction → List Finding
  | .update assignments => assignmentsFindings ctx assignments
  | .insert values => exprsFindings ctx values
  | .delete => []

def mergeFindings (ctx : Context) (merge : Merge) : List Finding :=
  let frame := bindTable ctx.scope [] merge.target merge.targetAlias
  let ctx := ctx.within (bindSource ctx.scope frame merge.source)
  writeFindings ctx merge.target (mergeUsage merge.clauses) ++ sourceFindings ctx merge.source ++
    exprFindings ctx.joining merge.on ++
    merge.clauses.flatMap fun clause =>
      optionalFindings ctx clause.condition ++ mergeActionFindings ctx clause.action

mutual

def statementFindings (ctx : Context) : Statement → List Finding
  | .query query => queryFindings ctx query
  | .insert insert => insertFindings ctx insert
  | .update update => updateFindings ctx update
  | .delete delete => deleteFindings ctx delete
  | .merge merge => mergeFindings ctx merge
  | .truncate target => writeFindings ctx target .delete
  | .exec call => execFindings ctx call
  | .withCtes ctes body =>
    let ctx := ctx.within (cteFrame ctes)
    ctesFindings ctx ctes ++ statementFindings ctx body
  | .block body => statementsFindings ctx body
  | .branch condition yes no =>
    exprFindings ctx condition ++ statementFindings ctx yes ++
      match no with
      | some no => statementFindings ctx no
      | none => []
  | .loop condition body => exprFindings ctx condition ++ statementFindings ctx body
  | .routine _ schemaBound body => statementsFindings { ctx with schemaBound } body
  | .evaluate exprs => exprsFindings ctx exprs
  | .dynamicSql => []

def statementsFindings (ctx : Context) : List Statement → List Finding
  | [] => []
  | statement :: statements => statementFindings ctx statement ++ statementsFindings ctx statements

end

end ChangeImpact.Extraction
