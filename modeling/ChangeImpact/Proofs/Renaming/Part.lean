import ChangeImpact.Proofs.Frame
import ChangeImpact.Proofs.Renaming

/-!
# Other texts in the parts of a script

A tree with other texts has the same parts with other texts: `Part.parts_rename`.  The common table expressions and the
items of a part are renamed with it, too (`Part.ctes_rename`, `Part.items_rename`).
-/

namespace ChangeImpact.Extraction

open Sql

variable {α β : Type} [Renames α] [Renames β] {f : String → String}

/-! ### Lists -/

theorem rename_append (as bs : List α) : rename f (as ++ bs) = rename f as ++ rename f bs :=
  List.map_append

theorem map_rename (c : α → β) (hc : ∀ a, rename f (c a) = c (rename f a)) (as : List α) :
    (rename f as).map c = rename f (as.map c) := by
  show (as.map (rename f)).map c = (as.map c).map (rename f)
  rw [List.map_map, List.map_map]
  exact List.map_congr_left fun a _ => (hc a).symm

theorem toList_map_rename (c : α → β) (hc : ∀ a, rename f (c a) = c (rename f a)) (a : Option α) :
    (rename f a).toList.map c = rename f (a.toList.map c) := by
  cases a with
  | none => rfl
  | some a => exact map_rename c hc [a]

theorem flatMap_rename (c : α → List β) (hc : ∀ a, c (rename f a) = rename f (c a)) (as : List α) :
    (rename f as).flatMap c = rename f (as.flatMap c) := by
  show (as.map (rename f)).flatMap c = (as.flatMap c).map (rename f)
  rw [List.flatMap_map, List.map_flatMap]
  exact List.flatMap_congr fun a _ => hc a

/-! ### Parts -/

instance : Renames Part where
  rename f
    | .statement s => .statement (rename f s)
    | .exec c => .exec (rename f c)
    | .query q => .query (rename f q)
    | .body b => .body (rename f b)
    | .select b => .select (rename f b)
    | .source s => .source (rename f s)
    | .on e => .on (rename f e)
    | .expr e => .expr (rename f e)
  rename_id p := by cases p <;> simp only [rename_id]

private theorem exprs_rename (es : List Expr) : (rename f es).map Part.expr = rename f (es.map Part.expr) :=
  map_rename Part.expr (fun _ => rfl) es

private theorem optional_rename (e : Option Expr) :
    (rename f e).toList.map Part.expr = rename f (e.toList.map Part.expr) :=
  toList_map_rename Part.expr (fun _ => rfl) e

private theorem statements_rename (ss : List Statement) :
    (rename f ss).map Part.statement = rename f (ss.map Part.statement) :=
  map_rename Part.statement (fun _ => rfl) ss

private theorem ctes_rename (ctes : List Cte) :
    (rename f ctes).map (Part.query ·.query) = rename f (ctes.map (Part.query ·.query)) := by
  refine map_rename (Part.query ·.query) (fun cte => ?_) ctes
  obtain ⟨name, query⟩ := cte
  show rename f (Part.query query) = .query (renameCte f ⟨name, query⟩).query
  rw [renameCte]
  rfl

private theorem joinedParts_rename (j : Joined) : joinedParts (rename f j) = rename f (joinedParts j) := by
  obtain ⟨first, joins⟩ := j
  show joinedParts (renameJoined f ⟨first, joins⟩) = _
  rw [renameJoined]
  refine congrArg (Part.source (rename f first) :: ·) (flatMap_rename _ (fun join => ?_) joins)
  obtain ⟨source, on⟩ := join
  show Part.source (renameJoin f ⟨source, on⟩).source :: ((renameJoin f ⟨source, on⟩).on.toList.map .on) = _
  rw [renameJoin, renameOptional_eq]
  exact congrArg (Part.source (rename f source) :: ·) (toList_map_rename Part.on (fun _ => rfl) on)

private theorem sources_rename (js : List Joined) :
    (rename f js).flatMap joinedParts = rename f (js.flatMap joinedParts) :=
  flatMap_rename joinedParts joinedParts_rename js

private theorem assignmentParts_rename (as : List Assignment) :
    assignmentParts (rename f as) = rename f (assignmentParts as) :=
  flatMap_rename (fun a : Assignment => [Part.expr a.target, .expr a.value]) (fun _ => rfl) as

private theorem mergeActionParts_rename (a : MergeAction) :
    mergeActionParts (rename f a) = rename f (mergeActionParts a) := by
  cases a with
  | update assignments => exact assignmentParts_rename assignments
  | insert values => exact exprs_rename values
  | delete => rfl

private theorem insertSourceParts_rename (s : InsertSource) :
    insertSourceParts (rename f s) = rename f (insertSourceParts s) := by
  cases s with
  | rows cells => exact exprs_rename cells
  | _ => rfl

private theorem exprParts_rename (e : Expr) : exprParts (rename f e) = rename f (exprParts e) := by
  show exprParts (renameExpr f e) = _
  cases e with
  | call name args =>
    rw [renameExpr]
    exact exprs_rename args
  | group operands =>
    rw [renameExpr]
    exact exprs_rename operands
  | _ => rw [renameExpr]; rfl

private theorem sourceParts_rename (s : Source) : sourceParts (rename f s) = rename f (sourceParts s) := by
  show sourceParts (renameSource f s) = _
  cases s with
  | call name args calledAs =>
    rw [renameSource]
    exact exprs_rename args
  | rows cells calledAs =>
    rw [renameSource]
    exact exprs_rename cells
  | joined inner =>
    rw [renameSource]
    exact joinedParts_rename inner
  | _ => rw [renameSource]; rfl

private theorem bodyParts_rename (b : QueryBody) : bodyParts (rename f b) = rename f (bodyParts b) := by
  show bodyParts (renameQueryBody f b) = _
  cases b <;> rw [renameQueryBody] <;> rfl

private theorem statementParts_rename (s : Statement) :
    statementParts (rename f s) = rename f (statementParts s) := by
  show statementParts (renameStatement f s) = _
  cases s with
  | insert insert =>
    rw [renameStatement]
    exact insertSourceParts_rename insert.source
  | update update =>
    rw [renameStatement]
    simp only [statementParts, rename_append]
    exact congrArg₂ _ (congrArg₂ _ (sources_rename _) (assignmentParts_rename _)) (optional_rename _)
  | delete delete =>
    rw [renameStatement]
    simp only [statementParts, rename_append]
    exact congrArg₂ _ (sources_rename _) (optional_rename _)
  | merge merge =>
    rw [renameStatement]
    refine congrArg (Part.source (rename f merge.source) :: .on (rename f merge.on) :: ·) ?_
    refine flatMap_rename _ (fun clause => ?_) merge.clauses
    rw [rename_append]
    exact congrArg₂ _ (optional_rename _) (mergeActionParts_rename _)
  | withCtes ctes body =>
    rw [renameStatement]
    simp only [statementParts, rename_append]
    exact congrArg₂ _ (ctes_rename ctes) rfl
  | block body =>
    rw [renameStatement]
    exact statements_rename body
  | branch condition yes no =>
    rw [renameStatement, renameOptionalStatement_eq]
    exact congrArg (Part.expr (rename f condition) :: .statement (rename f yes) :: ·)
      (toList_map_rename Part.statement (fun _ => rfl) no)
  | routine name schemaBound body =>
    rw [renameStatement]
    exact statements_rename body
  | evaluate exprs =>
    rw [renameStatement]
    exact exprs_rename exprs
  | _ => rw [renameStatement]; rfl

theorem Part.parts_rename (p : Part) : (rename f p).parts = rename f p.parts := by
  cases p with
  | statement s => exact statementParts_rename s
  | exec c => exact exprs_rename c.args
  | query q =>
    obtain ⟨ctes, body, orderBy⟩ := q
    show (Part.query (renameQuery f ⟨ctes, body, orderBy⟩)).parts = _
    rw [renameQuery]
    simp only [parts, rename_append]
    exact congrArg₂ _ (ctes_rename ctes) (congrArg (Part.body (rename f body) :: ·) (exprs_rename orderBy))
  | body b => exact bodyParts_rename b
  | select b =>
    obtain ⟨columns, into, sources, filter, groupBy, having⟩ := b
    show (Part.select (renameSelect f ⟨columns, into, sources, filter, groupBy, having⟩)).parts = _
    rw [renameSelect]
    simp only [parts, rename_append, renameOptional_eq]
    exact congrArg₂ _ (congrArg₂ _ (congrArg₂ _ (congrArg₂ _ (sources_rename _) (exprs_rename _)) (optional_rename _))
      (exprs_rename _)) (optional_rename _)
  | source s => exact sourceParts_rename s
  | on e => exact exprParts_rename e
  | expr e => exact exprParts_rename e

/-! ### What parts bind -/

instance : Renames Item where
  rename f item := ⟨rename f item.table?, rename f item.calledAs⟩
  rename_id item := by simp only [rename_id]

mutual

theorem sourceItems_rename : (s : Source) → sourceItems (renameSource f s) = rename f (sourceItems s)
  | .table name calledAs => by rw [renameSource]; rfl
  | .call name args calledAs => by rw [renameSource]; rfl
  | .derived query calledAs => by rw [renameSource]; rfl
  | .rows cells calledAs => by rw [renameSource]; rfl
  | .joined inner => by rw [renameSource, sourceItems, joinedItems_rename inner]; rfl

theorem joinedItems_rename : (j : Joined) → joinedItems (renameJoined f j) = rename f (joinedItems j)
  | ⟨first, joins⟩ => by
    rw [renameJoined, joinedItems, joinedItems, sourceItems_rename first, joinsItems_rename joins, rename_append]

theorem joinsItems_rename : (joins : List Join) → joinsItems (joins.map (renameJoin f)) = rename f (joinsItems joins)
  | [] => rfl
  | ⟨source, on⟩ :: joins => by
    rw [List.map_cons, renameJoin, joinsItems, joinsItems, sourceItems_rename source, joinsItems_rename joins,
      rename_append]

end

namespace Part

theorem ctes_rename (p : Part) : (rename f p).ctes = rename f p.ctes := by
  cases p with
  | statement s =>
    show (Part.statement (renameStatement f s)).ctes = _
    cases s <;> rw [renameStatement] <;> rfl
  | query q =>
    obtain ⟨ctes, body, orderBy⟩ := q
    show (renameQuery f ⟨ctes, body, orderBy⟩).ctes = _
    rw [renameQuery]
    rfl
  | _ => rfl

theorem items_rename (p : Part) : (rename f p).items = rename f p.items := by
  cases p with
  | statement s =>
    show (Part.statement (renameStatement f s)).items = _
    cases s with
    | update update =>
      rw [renameStatement]
      exact flatMap_rename joinedItems joinedItems_rename update.sources
    | delete delete =>
      rw [renameStatement]
      exact flatMap_rename joinedItems joinedItems_rename delete.sources
    | merge merge =>
      rw [renameStatement]
      exact congrArg (⟨some (rename f merge.target), rename f merge.targetAlias⟩ :: ·) (sourceItems_rename merge.source)
    | _ => rw [renameStatement]; rfl
  | select b =>
    obtain ⟨columns, into, sources, filter, groupBy, having⟩ := b
    show (renameSelect f ⟨columns, into, sources, filter, groupBy, having⟩).sources.flatMap joinedItems = _
    rw [renameSelect]
    exact flatMap_rename joinedItems joinedItems_rename sources
  | _ => rfl

theorem schemaBound?_rename (p : Part) : (rename f p).schemaBound? = p.schemaBound? := by
  cases p with
  | statement s =>
    show (Part.statement (renameStatement f s)).schemaBound? = _
    cases s <;> rw [renameStatement] <;> rfl
  | _ => rfl

theorem joins_rename (p : Part) (outer : Bool) : (rename f p).joins outer = p.joins outer := by
  have hcall (e : Expr) : isCall (rename f e) = isCall e := by
    show isCall (renameExpr f e) = _
    cases e <;> rw [renameExpr] <;> rfl
  cases p with
  | on e => exact congrArg (!·) (hcall e)
  | expr e => exact congrArg (outer && !·) (hcall e)
  | _ => rfl

end Part

end ChangeImpact.Extraction
