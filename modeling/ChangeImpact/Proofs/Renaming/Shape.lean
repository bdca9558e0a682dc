import ChangeImpact.Proofs.Renaming
import Mathlib.Data.List.Forall2

/-!
# The shape of a tree

The shape of a tree is the tree with every text in it erased.  Texts may be replaced one after the other or at once
(`rename_rename`), so trees that are equal under any renaming have one shape: `shape_eq_of_rename_eq`.
-/

namespace ChangeImpact.Sql

/-- Replacing texts twice is replacing them once. -/
class LawfulRenames (α : Type) [Renames α] : Prop where
  rename_rename : ∀ (f g : String → String) (a : α), rename f (rename g a) = rename (f ∘ g) a

export LawfulRenames (rename_rename)

variable {α : Type} {f g : String → String}

theorem map_map_of_forall (as : List α) {k l m : α → α} (h : ∀ a ∈ as, k (l a) = m a) :
    (as.map l).map k = as.map m := by
  rw [List.map_map]
  exact List.map_congr_left h

instance : LawfulRenames String := ⟨fun _ _ _ => rfl⟩

instance [Renames α] [LawfulRenames α] : LawfulRenames (List α) :=
  ⟨fun f g _ => map_map_of_forall _ fun a _ => rename_rename f g a⟩

instance [Renames α] [LawfulRenames α] : LawfulRenames (Option α) where
  rename_rename f g a := by
    cases a with
    | none => rfl
    | some a => exact congrArg some (rename_rename f g a)

instance : LawfulRenames Name := ⟨fun f g n => congrArg Name.mk (rename_rename f g n.parts)⟩

/-! ### Queries and expressions -/

mutual

theorem renameExpr_renameExpr : (expr : Expr) → renameExpr f (renameExpr g expr) = renameExpr (f ∘ g) expr
  | .column name => by simp only [renameExpr, rename_rename]
  | .variable => by simp only [renameExpr]
  | .literal => by simp only [renameExpr]
  | .binary left op right => by simp only [renameExpr, renameExpr_renameExpr left, renameExpr_renameExpr right]
  | .call name args => by
    have hargs := map_map_of_forall args fun e _ => renameExpr_renameExpr e
    simp only [renameExpr, rename_rename, hargs]
  | .subquery query => by simp only [renameExpr, renameQuery_renameQuery query]
  | .group operands => by
    have hoperands := map_map_of_forall operands fun e _ => renameExpr_renameExpr e
    simp only [renameExpr, hoperands]

theorem renameOptional_renameOptional :
    (expr : Option Expr) → renameOptional f (renameOptional g expr) = renameOptional (f ∘ g) expr
  | none => by simp only [renameOptional]
  | some expr => by simp only [renameOptional, renameExpr_renameExpr expr]

theorem renameQuery_renameQuery : (query : Query) → renameQuery f (renameQuery g query) = renameQuery (f ∘ g) query
  | ⟨ctes, body, orderBy⟩ => by
    have hctes := map_map_of_forall ctes fun c _ => renameCte_renameCte c
    have horderBy := map_map_of_forall orderBy fun e _ => renameExpr_renameExpr e
    simp only [renameQuery, hctes, renameQueryBody_renameQueryBody body, horderBy]

theorem renameCte_renameCte : (cte : Cte) → renameCte f (renameCte g cte) = renameCte (f ∘ g) cte
  | ⟨name, query⟩ => by simp only [renameCte, renameQuery_renameQuery query, Function.comp_apply]

theorem renameQueryBody_renameQueryBody :
    (body : QueryBody) → renameQueryBody f (renameQueryBody g body) = renameQueryBody (f ∘ g) body
  | .select block => by simp only [renameQueryBody, renameSelect_renameSelect block]
  | .nested query => by simp only [renameQueryBody, renameQuery_renameQuery query]
  | .combine left right => by
    simp only [renameQueryBody, renameQueryBody_renameQueryBody left, renameQueryBody_renameQueryBody right]

theorem renameSelect_renameSelect :
    (block : Select) → renameSelect f (renameSelect g block) = renameSelect (f ∘ g) block
  | ⟨columns, into, sources, filter, groupBy, having⟩ => by
    have hcolumns := map_map_of_forall columns fun e _ => renameExpr_renameExpr e
    have hsources := map_map_of_forall sources fun j _ => renameJoined_renameJoined j
    have hgroupBy := map_map_of_forall groupBy fun e _ => renameExpr_renameExpr e
    simp only [renameSelect, hcolumns, rename_rename, hsources, renameOptional_renameOptional filter, hgroupBy,
      renameOptional_renameOptional having]

theorem renameJoined_renameJoined :
    (joined : Joined) → renameJoined f (renameJoined g joined) = renameJoined (f ∘ g) joined
  | ⟨first, joins⟩ => by
    have hjoins := map_map_of_forall joins fun j _ => renameJoin_renameJoin j
    simp only [renameJoined, renameSource_renameSource first, hjoins]

theorem renameJoin_renameJoin : (join : Join) → renameJoin f (renameJoin g join) = renameJoin (f ∘ g) join
  | ⟨source, on⟩ => by simp only [renameJoin, renameSource_renameSource source, renameOptional_renameOptional on]

theorem renameSource_renameSource :
    (source : Source) → renameSource f (renameSource g source) = renameSource (f ∘ g) source
  | .table name calledAs => by simp only [renameSource, rename_rename]
  | .call name args calledAs => by
    have hargs := map_map_of_forall args fun e _ => renameExpr_renameExpr e
    simp only [renameSource, rename_rename, hargs]
  | .derived query calledAs => by simp only [renameSource, renameQuery_renameQuery query, rename_rename]
  | .rows cells calledAs => by
    have hcells := map_map_of_forall cells fun e _ => renameExpr_renameExpr e
    simp only [renameSource, rename_rename, hcells]
  | .joined inner => by simp only [renameSource, renameJoined_renameJoined inner]

end

instance : LawfulRenames Expr := ⟨fun _ _ => renameExpr_renameExpr⟩

instance : LawfulRenames Query := ⟨fun _ _ => renameQuery_renameQuery⟩

instance : LawfulRenames Cte := ⟨fun _ _ => renameCte_renameCte⟩

instance : LawfulRenames Joined := ⟨fun _ _ => renameJoined_renameJoined⟩

instance : LawfulRenames Source := ⟨fun _ _ => renameSource_renameSource⟩

/-! ### Statements -/

instance : LawfulRenames Assignment where
  rename_rename f g a := congrArg₂ Assignment.mk (rename_rename f g a.target) (rename_rename f g a.value)

instance : LawfulRenames Exec where
  rename_rename f g c := congrArg₂ Exec.mk (rename_rename f g c.procedure) (rename_rename f g c.args)

instance : LawfulRenames InsertSource where
  rename_rename f g s := by
    cases s with
    | rows cells => exact congrArg InsertSource.rows (rename_rename f g cells)
    | query query => exact congrArg InsertSource.query (rename_rename f g query)
    | exec call => exact congrArg InsertSource.exec (rename_rename f g call)
    | dynamicSql => rfl
    | defaults => rfl

instance : LawfulRenames Insert where
  rename_rename f g i := congrArg₂ Insert.mk (rename_rename f g i.target) (rename_rename f g i.source)

instance : LawfulRenames Update where
  rename_rename f g u := by
    show Update.mk (rename f (rename g u.target)) (rename f (rename g u.assignments)) (rename f (rename g u.sources))
      (rename f (rename g u.filter)) = _
    rw [rename_rename, rename_rename, rename_rename, rename_rename]
    rfl

instance : LawfulRenames Delete where
  rename_rename f g d := by
    show Delete.mk (rename f (rename g d.target)) (rename f (rename g d.sources)) (rename f (rename g d.filter)) = _
    rw [rename_rename, rename_rename, rename_rename]
    rfl

instance : LawfulRenames MergeAction where
  rename_rename f g a := by
    cases a with
    | update assignments => exact congrArg MergeAction.update (rename_rename f g assignments)
    | delete => rfl
    | insert values => exact congrArg MergeAction.insert (rename_rename f g values)

instance : LawfulRenames MergeClause where
  rename_rename f g c := congrArg₂ MergeClause.mk (rename_rename f g c.condition) (rename_rename f g c.action)

instance : LawfulRenames Merge where
  rename_rename f g m := by
    show Merge.mk (rename f (rename g m.target)) (rename f (rename g m.targetAlias)) (rename f (rename g m.source))
      (rename f (rename g m.on)) (rename f (rename g m.clauses)) = _
    rw [rename_rename, rename_rename, rename_rename, rename_rename, rename_rename]
    rfl

mutual

theorem renameStatement_renameStatement :
    (statement : Statement) → renameStatement f (renameStatement g statement) = renameStatement (f ∘ g) statement
  | .query query => by simp only [renameStatement, rename_rename]
  | .insert insert => by simp only [renameStatement, rename_rename]
  | .update update => by simp only [renameStatement, rename_rename]
  | .delete delete => by simp only [renameStatement, rename_rename]
  | .merge merge => by simp only [renameStatement, rename_rename]
  | .truncate target => by simp only [renameStatement, rename_rename]
  | .exec call => by simp only [renameStatement, rename_rename]
  | .withCtes ctes body => by simp only [renameStatement, rename_rename, renameStatement_renameStatement body]
  | .block body => by
    have hbody := map_map_of_forall body fun s _ => renameStatement_renameStatement s
    simp only [renameStatement, hbody]
  | .branch condition yes no => by
    simp only [renameStatement, rename_rename, renameStatement_renameStatement yes,
      renameOptionalStatement_renameOptionalStatement no]
  | .loop condition body => by simp only [renameStatement, rename_rename, renameStatement_renameStatement body]
  | .routine name schemaBound body => by
    have hbody := map_map_of_forall body fun s _ => renameStatement_renameStatement s
    simp only [renameStatement, rename_rename, hbody]
  | .evaluate exprs => by simp only [renameStatement, rename_rename]
  | .dynamicSql => by simp only [renameStatement]

theorem renameOptionalStatement_renameOptionalStatement : (statement : Option Statement) →
    renameOptionalStatement f (renameOptionalStatement g statement) = renameOptionalStatement (f ∘ g) statement
  | none => by simp only [renameOptionalStatement]
  | some statement => by simp only [renameOptionalStatement, renameStatement_renameStatement statement]

end

instance : LawfulRenames Statement := ⟨fun _ _ => renameStatement_renameStatement⟩

/-! ### Shapes -/

/-- What is left when all texts are erased. -/
def shape [Renames α] (a : α) : α :=
  rename (fun _ => "") a

/-- Trees that are equal once some texts are taken for others have one shape. -/
theorem shape_eq_of_rename_eq [Renames α] [LawfulRenames α] {a b : α} (h : rename f a = rename f b) :
    shape a = shape b := by
  have hshape (c : α) : shape (rename f c) = shape c := rename_rename _ f c
  rw [← hshape a, h, hshape b]

end ChangeImpact.Sql
