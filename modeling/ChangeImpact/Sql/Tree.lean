import ChangeImpact.Sql.Name

/-!
# Statement trees

What is kept of a definition: the names of objects, the clauses in which they stand, aliases, and expressions down to
the columns, calls and subqueries in them.

* `Expr`, `Query`, `Select`, `Source` and their parts are defined together, since queries occur in expressions;
* `Statement` is built over them, with one structure for each of the statements that write or call.
-/

namespace ChangeImpact.Sql

inductive Operator where
  | equals
  | and
  | or
  | other
  deriving DecidableEq, Repr

mutual

inductive Expr where
  | column (name : Name)
  | variable
  | literal
  | binary (left : Expr) (op : Operator) (right : Expr)
  | call (name : Name) (args : List Expr)
  | subquery (query : Query)
  /-- Operands whose operator does not matter, such as the arms of a `CASE`. -/
  | group (operands : List Expr)

/-- A query with the common table expressions in front of it. -/
structure Query where
  ctes : List Cte
  body : QueryBody
  orderBy : List Expr

structure Cte where
  name : String
  query : Query

inductive QueryBody where
  | select (block : Select)
  | nested (query : Query)
  /-- `UNION`, `EXCEPT` or `INTERSECT`. -/
  | combine (left right : QueryBody)

/-- One `SELECT` block, within which aliases are visible. -/
structure Select where
  columns : List Expr
  into : Option Name
  sources : List Joined
  filter : Option Expr
  groupBy : List Expr
  having : Option Expr

/-- A source and those joined to it. -/
structure Joined where
  first : Source
  joins : List Join

/-- A join, with its `ON` predicate if it has one. -/
structure Join where
  source : Source
  on : Option Expr

inductive Source where
  | table (name : Name) (calledAs : Option String)
  | call (name : Name) (args : List Expr) (calledAs : Option String)
  | derived (query : Query) (calledAs : Option String)
  /-- Rows written out with `VALUES`, cell by cell. -/
  | rows (cells : List Expr) (calledAs : Option String)
  | joined (inner : Joined)

end

structure Assignment where
  target : Expr
  value : Expr

structure Exec where
  procedure : Name
  args : List Expr

inductive InsertSource where
  | rows (cells : List Expr)
  | query (query : Query)
  | exec (call : Exec)
  | dynamicSql
  | defaults

structure Insert where
  target : Name
  source : InsertSource

structure Update where
  target : Name
  assignments : List Assignment
  sources : List Joined
  filter : Option Expr

structure Delete where
  target : Name
  sources : List Joined
  filter : Option Expr

inductive MergeAction where
  | update (assignments : List Assignment)
  | delete
  | insert (values : List Expr)

/-- One `WHEN` clause of a `MERGE`. -/
structure MergeClause where
  condition : Option Expr
  action : MergeAction

structure Merge where
  target : Name
  targetAlias : Option String
  source : Source
  on : Expr
  clauses : List MergeClause

inductive Statement where
  | query (query : Query)
  | insert (insert : Insert)
  | update (update : Update)
  | delete (delete : Delete)
  | merge (merge : Merge)
  | truncate (target : Name)
  | exec (call : Exec)
  /-- A writing statement with common table expressions in front of it. -/
  | withCtes (ctes : List Cte) (body : Statement)
  | block (body : List Statement)
  | branch (condition : Expr) (yes : Statement) (no : Option Statement)
  | loop (condition : Expr) (body : Statement)
  /-- The definition of a procedure, view, function or trigger. -/
  | routine (name : Name) (schemaBound : Bool) (body : List Statement)
  /-- The expressions of a `DECLARE`, `SET` or `RETURN`. -/
  | evaluate (exprs : List Expr)
  /-- A call whose target is known only when it runs. -/
  | dynamicSql

end ChangeImpact.Sql
