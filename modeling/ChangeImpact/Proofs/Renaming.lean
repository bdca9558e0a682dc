import ChangeImpact.Sql.Tree

/-!
# Other texts in the same tree

`rename f` puts its image under `f` in the place of every text in a name, an alias or a tree, and keeps the tree as it
is.  Trees that are equal after renaming have one shape.  The identity changes nothing (`Renames.rename_id`), so that
equality is equality after renaming, too.
-/

namespace ChangeImpact.Sql

/-- Values that may hold texts. -/
class Renames (α : Type) where
  rename : (String → String) → α → α
  rename_id : ∀ a, rename id a = a

export Renames (rename rename_id)

variable {α : Type} {f : String → String}

instance : Renames String := ⟨fun f s => f s, fun _ => rfl⟩

instance : Renames Bool := ⟨fun _ b => b, fun _ => rfl⟩

instance : Renames Unit := ⟨fun _ u => u, fun _ => rfl⟩

theorem map_eq_self {as : List α} {g : α → α} (h : ∀ a ∈ as, g a = a) : as.map g = as :=
  (List.map_congr_left h).trans (List.map_id' as)

instance [Renames α] : Renames (List α) where
  rename f as := as.map (rename f)
  rename_id _ := map_eq_self fun a _ => rename_id a

instance [Renames α] : Renames (Option α) where
  rename f a := a.map (rename f)
  rename_id a := by cases a <;> simp [rename_id]

instance : Renames Name where
  rename f n := ⟨rename f n.parts⟩
  rename_id n := congrArg Name.mk (rename_id n.parts)

/-! ### Queries and expressions -/

mutual

def renameExpr (f : String → String) : Expr → Expr
  | .column name => .column (rename f name)
  | .variable => .variable
  | .literal => .literal
  | .binary left op right => .binary (renameExpr f left) op (renameExpr f right)
  | .call name args => .call (rename f name) (args.map (renameExpr f))
  | .subquery query => .subquery (renameQuery f query)
  | .group operands => .group (operands.map (renameExpr f))

def renameOptional (f : String → String) : Option Expr → Option Expr
  | none => none
  | some expr => some (renameExpr f expr)

def renameQuery (f : String → String) : Query → Query
  | ⟨ctes, body, orderBy⟩ => ⟨ctes.map (renameCte f), renameQueryBody f body, orderBy.map (renameExpr f)⟩

def renameCte (f : String → String) : Cte → Cte
  | ⟨name, query⟩ => ⟨f name, renameQuery f query⟩

def renameQueryBody (f : String → String) : QueryBody → QueryBody
  | .select block => .select (renameSelect f block)
  | .nested query => .nested (renameQuery f query)
  | .combine left right => .combine (renameQueryBody f left) (renameQueryBody f right)

def renameSelect (f : String → String) : Select → Select
  | ⟨columns, into, sources, filter, groupBy, having⟩ =>
    ⟨columns.map (renameExpr f), rename f into, sources.map (renameJoined f), renameOptional f filter,
      groupBy.map (renameExpr f), renameOptional f having⟩

def renameJoined (f : String → String) : Joined → Joined
  | ⟨first, joins⟩ => ⟨renameSource f first, joins.map (renameJoin f)⟩

def renameJoin (f : String → String) : Join → Join
  | ⟨source, on⟩ => ⟨renameSource f source, renameOptional f on⟩

def renameSource (f : String → String) : Source → Source
  | .table name calledAs => .table (rename f name) (rename f calledAs)
  | .call name args calledAs => .call (rename f name) (args.map (renameExpr f)) (rename f calledAs)
  | .derived query calledAs => .derived (renameQuery f query) (rename f calledAs)
  | .rows cells calledAs => .rows (cells.map (renameExpr f)) (rename f calledAs)
  | .joined inner => .joined (renameJoined f inner)

end

mutual

theorem renameExpr_id : (expr : Expr) → renameExpr id expr = expr
  | .column name => by rw [renameExpr, rename_id]
  | .variable => by rw [renameExpr]
  | .literal => by rw [renameExpr]
  | .binary left op right => by rw [renameExpr, renameExpr_id left, renameExpr_id right]
  | .call name args => by rw [renameExpr, rename_id, map_eq_self fun e _ => renameExpr_id e]
  | .subquery query => by rw [renameExpr, renameQuery_id query]
  | .group operands => by rw [renameExpr, map_eq_self fun e _ => renameExpr_id e]

theorem renameOptional_id : (expr : Option Expr) → renameOptional id expr = expr
  | none => by rw [renameOptional]
  | some expr => by rw [renameOptional, renameExpr_id expr]

theorem renameQuery_id : (query : Query) → renameQuery id query = query
  | ⟨ctes, body, orderBy⟩ => by
    rw [renameQuery, map_eq_self fun c _ => renameCte_id c, renameQueryBody_id body,
      map_eq_self fun e _ => renameExpr_id e]

theorem renameCte_id : (cte : Cte) → renameCte id cte = cte
  | ⟨name, query⟩ => by rw [renameCte, renameQuery_id query, id]

theorem renameQueryBody_id : (body : QueryBody) → renameQueryBody id body = body
  | .select block => by rw [renameQueryBody, renameSelect_id block]
  | .nested query => by rw [renameQueryBody, renameQuery_id query]
  | .combine left right => by rw [renameQueryBody, renameQueryBody_id left, renameQueryBody_id right]

theorem renameSelect_id : (block : Select) → renameSelect id block = block
  | ⟨columns, into, sources, filter, groupBy, having⟩ => by
    rw [renameSelect, map_eq_self fun e _ => renameExpr_id e, rename_id, map_eq_self fun j _ => renameJoined_id j,
      renameOptional_id filter, map_eq_self fun e _ => renameExpr_id e, renameOptional_id having]

theorem renameJoined_id : (joined : Joined) → renameJoined id joined = joined
  | ⟨first, joins⟩ => by rw [renameJoined, renameSource_id first, map_eq_self fun j _ => renameJoin_id j]

theorem renameJoin_id : (join : Join) → renameJoin id join = join
  | ⟨source, on⟩ => by rw [renameJoin, renameSource_id source, renameOptional_id on]

theorem renameSource_id : (source : Source) → renameSource id source = source
  | .table name calledAs => by rw [renameSource, rename_id, rename_id]
  | .call name args calledAs => by
    rw [renameSource, rename_id, map_eq_self fun e _ => renameExpr_id e, rename_id]
  | .derived query calledAs => by rw [renameSource, renameQuery_id query, rename_id]
  | .rows cells calledAs => by rw [renameSource, map_eq_self fun e _ => renameExpr_id e, rename_id]
  | .joined inner => by rw [renameSource, renameJoined_id inner]

end

instance : Renames Expr := ⟨renameExpr, renameExpr_id⟩

instance : Renames Query := ⟨renameQuery, renameQuery_id⟩

instance : Renames Cte := ⟨renameCte, renameCte_id⟩

instance : Renames QueryBody := ⟨renameQueryBody, renameQueryBody_id⟩

instance : Renames Select := ⟨renameSelect, renameSelect_id⟩

instance : Renames Joined := ⟨renameJoined, renameJoined_id⟩

instance : Renames Join := ⟨renameJoin, renameJoin_id⟩

instance : Renames Source := ⟨renameSource, renameSource_id⟩

theorem renameOptional_eq (expr : Option Expr) : renameOptional f expr = rename f expr := by
  cases expr <;> rw [renameOptional] <;> rfl

/-! ### Statements -/

instance : Renames Assignment where
  rename f a := ⟨rename f a.target, rename f a.value⟩
  rename_id a := by simp only [rename_id]

instance : Renames Exec where
  rename f c := ⟨rename f c.procedure, rename f c.args⟩
  rename_id c := by simp only [rename_id]

instance : Renames InsertSource where
  rename f
    | .rows cells => .rows (rename f cells)
    | .query query => .query (rename f query)
    | .exec call => .exec (rename f call)
    | .dynamicSql => .dynamicSql
    | .defaults => .defaults
  rename_id s := by cases s <;> simp only [rename_id]

instance : Renames Insert where
  rename f i := ⟨rename f i.target, rename f i.source⟩
  rename_id i := by simp only [rename_id]

instance : Renames Update where
  rename f u := ⟨rename f u.target, rename f u.assignments, rename f u.sources, rename f u.filter⟩
  rename_id u := by simp only [rename_id]

instance : Renames Delete where
  rename f d := ⟨rename f d.target, rename f d.sources, rename f d.filter⟩
  rename_id d := by simp only [rename_id]

instance : Renames MergeAction where
  rename f
    | .update assignments => .update (rename f assignments)
    | .delete => .delete
    | .insert values => .insert (rename f values)
  rename_id a := by cases a <;> simp only [rename_id]

instance : Renames MergeClause where
  rename f c := ⟨rename f c.condition, rename f c.action⟩
  rename_id c := by simp only [rename_id]

instance : Renames Merge where
  rename f m :=
    ⟨rename f m.target, rename f m.targetAlias, rename f m.source, rename f m.on, rename f m.clauses⟩
  rename_id m := by simp only [rename_id]

mutual

def renameStatement (f : String → String) : Statement → Statement
  | .query query => .query (rename f query)
  | .insert insert => .insert (rename f insert)
  | .update update => .update (rename f update)
  | .delete delete => .delete (rename f delete)
  | .merge merge => .merge (rename f merge)
  | .truncate target => .truncate (rename f target)
  | .exec call => .exec (rename f call)
  | .withCtes ctes body => .withCtes (rename f ctes) (renameStatement f body)
  | .block body => .block (body.map (renameStatement f))
  | .branch condition yes no =>
    .branch (rename f condition) (renameStatement f yes) (renameOptionalStatement f no)
  | .loop condition body => .loop (rename f condition) (renameStatement f body)
  | .routine name schemaBound body => .routine (rename f name) schemaBound (body.map (renameStatement f))
  | .evaluate exprs => .evaluate (rename f exprs)
  | .dynamicSql => .dynamicSql

def renameOptionalStatement (f : String → String) : Option Statement → Option Statement
  | none => none
  | some statement => some (renameStatement f statement)

end

mutual

theorem renameStatement_id : (statement : Statement) → renameStatement id statement = statement
  | .query query => by rw [renameStatement, rename_id]
  | .insert insert => by rw [renameStatement, rename_id]
  | .update update => by rw [renameStatement, rename_id]
  | .delete delete => by rw [renameStatement, rename_id]
  | .merge merge => by rw [renameStatement, rename_id]
  | .truncate target => by rw [renameStatement, rename_id]
  | .exec call => by rw [renameStatement, rename_id]
  | .withCtes ctes body => by rw [renameStatement, rename_id, renameStatement_id body]
  | .block body => by rw [renameStatement, map_eq_self fun s _ => renameStatement_id s]
  | .branch condition yes no => by
    rw [renameStatement, rename_id, renameStatement_id yes, renameOptionalStatement_id no]
  | .loop condition body => by rw [renameStatement, rename_id, renameStatement_id body]
  | .routine name schemaBound body => by
    rw [renameStatement, rename_id, map_eq_self fun s _ => renameStatement_id s]
  | .evaluate exprs => by rw [renameStatement, rename_id]
  | .dynamicSql => by rw [renameStatement]

theorem renameOptionalStatement_id : (statement : Option Statement) → renameOptionalStatement id statement = statement
  | none => by rw [renameOptionalStatement]
  | some statement => by rw [renameOptionalStatement, renameStatement_id statement]

end

instance : Renames Statement := ⟨renameStatement, renameStatement_id⟩

theorem renameOptionalStatement_eq (statement : Option Statement) :
    renameOptionalStatement f statement = rename f statement := by
  cases statement <;> rw [renameOptionalStatement] <;> rfl

end ChangeImpact.Sql
