import ChangeImpact.Proofs.Renaming.Part
import Mathlib

/-!
# Scripts in lower case

A script with all names and aliases in lower case says what the script says, in lower case: `statementsFindings_lower`.
Scopes are the reason: their keys are in lower case anyway, so that each binding and each lookup goes through
(`Item.bind_lower`, `Scope.find?_lower`), and with them all that is said about a name.  A part says by itself, and hands
on to the parts inside of it, the same in lower case (`Part.own_lower`, `Part.inside_lower`).
-/

namespace ChangeImpact

open Sql

/-! ### Texts in lower case -/

namespace Text

theorem asciiLower_asciiLower (s : String) : asciiLower (asciiLower s) = asciiLower s := by
  simp [asciiLower, Function.comp_def]

theorem asciiUpper_asciiLower (s : String) : asciiUpper (asciiLower s) = asciiUpper s := by
  simp [asciiUpper, asciiLower, Function.comp_def]

theorem isEmpty_asciiLower (s : String) : (asciiLower s).isEmpty = s.isEmpty := by
  rw [Bool.eq_iff_iff]
  simp [asciiLower]

theorem asciiLower_append (s t : String) : asciiLower (s ++ t) = asciiLower s ++ asciiLower t :=
  String.toList_inj.1 (by simp [asciiLower])

theorem asciiLower_intercalate (separator : String) (parts : List String) :
    asciiLower (separator.intercalate parts) = (asciiLower separator).intercalate (parts.map asciiLower) := by
  induction parts with
  | nil => simp [asciiLower]
  | cons part parts ih =>
    cases parts with
    | nil => simp
    | cons other parts =>
      simp only [List.map_cons, String.intercalate_cons_cons, asciiLower_append] at ih ⊢
      rw [ih]

end Text

open Text

variable {α : Type} [Renames α]

/-- With all texts in lower case. -/
abbrev lower (a : α) : α :=
  rename asciiLower a

theorem lower_append (as bs : List α) : lower (as ++ bs) = lower as ++ lower bs :=
  List.map_append

/-! ### Names in lower case -/

namespace Sql.Name

@[simp] theorem parts_lower (n : Name) : (lower n).parts = n.parts.map asciiLower :=
  rfl

@[simp] theorem base_lower (n : Name) : (lower n).base = asciiLower n.base := by
  have hempty : asciiLower "" = "" := by simp [asciiLower]
  rw [base, base, parts_lower, List.getLast?_map]
  cases n.parts.getLast? with
  | none => exact hempty.symm
  | some part => rfl

@[simp] theorem qualifier_lower (n : Name) : (lower n).qualifier = n.qualifier.map asciiLower :=
  List.map_dropLast.symm

private theorem asciiLower_period : asciiLower "." = "." := by
  decide +kernel

@[simp] theorem joinPresent_lower (parts : List String) :
    joinPresent (parts.map asciiLower) = asciiLower (joinPresent parts) := by
  have hpresent : (fun part : String => !part.isEmpty) ∘ asciiLower = fun part => !part.isEmpty :=
    funext fun part => congrArg _ (isEmpty_asciiLower part)
  rw [joinPresent, joinPresent, asciiLower_intercalate, asciiLower_period, List.filter_map, hpresent]

@[simp] theorem qualified_lower (n : Name) : (lower n).qualified = asciiLower n.qualified := by
  rw [qualified, qualified, ← joinPresent_lower, parts_lower, List.length_map, List.map_drop]

@[simp] theorem dotted_lower (n : Name) : (lower n).dotted = asciiLower n.dotted := by
  rw [dotted, dotted, asciiLower_intercalate, asciiLower_period, parts_lower]

@[simp] theorem isBare_lower (n : Name) : (lower n).isBare = n.isBare := by
  rw [isBare, isBare, parts_lower, List.length_map]

@[simp] theorem isTemporary_lower (n : Name) : (lower n).isTemporary = n.isTemporary :=
  isTemporary_congr (sameAsciiCase_iff.2 (by rw [base_lower, asciiLower_asciiLower]))

end Sql.Name

namespace Extraction

/-! ### Scopes in lower case -/

instance : Renames Binding where
  rename f
    | .table name => .table (f name)
    | .derived => .derived
    | .cte => .cte
  rename_id b := by cases b <;> rfl

/-- The bindings in lower case, as their keys are. -/
def Scope.lower (scope : Scope) : Scope :=
  scope.map fun (key, b) => (key, ChangeImpact.lower b)

@[simp] theorem lower_eq_cte {b : Binding} : lower b = .cte ↔ b = .cte := by
  cases b with
  | cte => exact iff_of_true rfl rfl
  | _ => exact iff_of_false nofun nofun

namespace Scope

variable {scope frame : Scope}

@[simp] theorem find?_lower (scope : Scope) (name : String) :
    scope.lower.find? (asciiLower name) = (scope.find? name).map ChangeImpact.lower := by
  rw [find?, find?, asciiLower_asciiLower, Scope.lower]
  induction scope with
  | nil => rfl
  | cons entry scope ih =>
    obtain ⟨key, b⟩ := entry
    rw [List.map_cons, List.lookup_cons, List.lookup_cons, ih]
    split <;> rfl

@[simp] theorem find?_lower_beq_cte (scope : Scope) (name : String) :
    (scope.lower.find? (asciiLower name) == some .cte) = (scope.find? name == some .cte) := by
  rw [find?_lower, Bool.eq_iff_iff]
  simp

@[simp] theorem lower_append (frame outer : Scope) : (frame ++ outer).lower = frame.lower ++ outer.lower :=
  List.map_append

@[simp] theorem bind_lower (scope : Scope) (name : String) (b : Binding) :
    scope.lower.bind (asciiLower name) (ChangeImpact.lower b) = (scope.bind name b).lower := by
  rw [bind, bind, asciiLower_asciiLower]
  rfl

@[simp] theorem bindNew_lower (scope : Scope) (name : String) (b : Binding) :
    scope.lower.bindNew (asciiLower name) (ChangeImpact.lower b) = (scope.bindNew name b).lower := by
  rw [bindNew, bindNew, find?_lower, Option.isSome_map, bind_lower]
  split <;> rfl

end Scope

theorem name_lower (cte : Cte) : (lower cte).name = asciiLower cte.name := by
  obtain ⟨name, query⟩ := cte
  show (renameCte asciiLower ⟨name, query⟩).name = asciiLower name
  rw [renameCte]

theorem cteFrame_lower (ctes : List Cte) : cteFrame (lower ctes) = (cteFrame ctes).lower := by
  show (ctes.map lower).map _ = (ctes.map _).map _
  rw [List.map_map, List.map_map]
  refine List.map_congr_left fun cte _ => ?_
  simp only [Function.comp, name_lower, asciiLower_asciiLower]
  rfl

theorem tableBinding_lower (outer : Scope) (name : Name) :
    tableBinding outer.lower (lower name) = lower (tableBinding outer name) := by
  simp only [tableBinding, Name.isTemporary_lower, Name.isBare_lower, Name.base_lower, Name.qualified_lower,
    Scope.find?_lower_beq_cte]
  split_ifs <;> rfl

/-! ### Items in lower case -/

namespace Item

theorem binding_lower (outer : Scope) (item : Item) :
    (lower item).binding outer.lower = lower (item.binding outer) := by
  obtain ⟨table?, calledAs⟩ := item
  cases table? with
  | none => rfl
  | some name => exact tableBinding_lower outer name

theorem names_lower (item : Item) : (lower item).names = item.names.map asciiLower := by
  obtain ⟨table?, calledAs⟩ := item
  cases table? with
  | none => rfl
  | some name =>
    show (if (lower name).isBare then [(lower name).base] else [(lower name).qualified, (lower name).base]) =
      (if name.isBare then [name.base] else [name.qualified, name.base]).map asciiLower
    rw [Name.isBare_lower, Name.base_lower, Name.qualified_lower]
    split <;> rfl

theorem bindAlias_lower (frame : Scope) (calledAs : Option String) (b : Binding) :
    bindAlias frame.lower (lower calledAs) (lower b) = (bindAlias frame calledAs b).lower := by
  cases calledAs with
  | none => rfl
  | some alternative => exact frame.bind_lower alternative b

theorem bind_lower (outer frame : Scope) (item : Item) :
    (lower item).bind outer.lower frame.lower = (item.bind outer frame).lower := by
  have halias : (lower item).calledAs = lower item.calledAs := rfl
  rw [bind_eq, bind_eq, binding_lower, names_lower, halias, bindAlias_lower, List.foldl_map]
  exact List.foldl_hom Scope.lower fun frame name => frame.bindNew_lower name _

theorem foldl_bind_lower (outer frame : Scope) (items : List Item) :
    (lower items).foldl (bind outer.lower) frame.lower = (items.foldl (bind outer) frame).lower := by
  show (items.map lower).foldl _ _ = _
  rw [List.foldl_map]
  exact List.foldl_hom Scope.lower fun frame item => item.bind_lower outer frame

end Item

/-! ### What a name says in lower case -/

instance : Renames Qualifier where
  rename f
    | .table name => .table (f name)
    | .derived => .derived
    | .unbound part => .unbound (f part)
  rename_id q := by cases q <;> rfl

instance : Renames JoinCondition where
  rename f j := ⟨f j.leftTable, f j.leftColumn, f j.rightTable, f j.rightColumn⟩
  rename_id _ := rfl

instance : Renames ColumnReference where
  rename f c := ⟨rename f c.table, f c.column, f c.path⟩
  rename_id c := by simp only [rename_id, id]

instance : Renames Finding where
  rename f
    | .uses kind name usage => .uses kind (f name) usage
    | .joins condition => .joins (rename f condition)
    | .column reference => .column (rename f reference)
  rename_id finding := by cases finding <;> simp only [rename_id, id]

/-- The context with its bindings in lower case. -/
def Context.lower (ctx : Context) : Context :=
  { ctx with scope := ctx.scope.lower }

theorem Context.scope_lower (ctx : Context) : ctx.lower.scope = ctx.scope.lower :=
  rfl

theorem qualifier_lower (scope : Scope) (parts : List String) :
    scope.lower.qualifier (parts.map asciiLower) = lower (scope.qualifier parts) := by
  have hlast : (parts.map asciiLower).getLast?.getD "" = asciiLower (parts.getLast?.getD "") :=
    Name.base_lower ⟨parts⟩
  simp only [Scope.qualifier, Name.joinPresent_lower, hlast, Scope.find?_lower]
  -- the last part is looked up only if the whole is not bound
  cases scope.find? (Name.joinPresent parts) with
  | none =>
    cases scope.find? (parts.getLast?.getD "") with
    | none => rfl
    | some b => cases b <;> rfl
  | some b => cases b <;> rfl

theorem presentName_lower (name : Name) :
    Scope.presentName (lower name) = lower (Scope.presentName name) := by
  rw [Scope.presentName, Scope.presentName, Name.qualified_lower, isEmpty_asciiLower]
  split <;> rfl

theorem referenced_lower (scope : Scope) (name : Name) :
    scope.lower.referenced (lower name) = lower (scope.referenced name) := by
  simp only [Scope.referenced, Name.isTemporary_lower, Name.isBare_lower, Name.base_lower, Scope.find?_lower_beq_cte,
    presentName_lower]
  split_ifs <;> rfl

theorem written_lower (scope : Scope) (name : Name) :
    scope.lower.written (lower name) = lower (scope.written name) := by
  simp only [Scope.written, Name.isTemporary_lower, Name.isBare_lower, Name.base_lower, Scope.find?_lower,
    presentName_lower]
  split_ifs
  · rfl
  · cases scope.find? name.base with
    | none => rfl
    | some b => cases b <;> rfl
  · rfl

theorem columnTable_lower (scope : Scope) (qualifier : List String) :
    columnTable scope.lower (qualifier.map asciiLower) = lower (columnTable scope qualifier) := by
  rw [columnTable, columnTable, List.isEmpty_map, qualifier_lower]
  split
  · rfl
  have hlast : (qualifier.map asciiLower).getLast?.filter (!·.isEmpty) =
      lower (qualifier.getLast?.filter (!·.isEmpty)) := by
    rw [List.getLast?_map]
    cases qualifier.getLast? with
    | none => rfl
    | some part =>
      simp only [Option.map_some, Option.filter_some, isEmpty_asciiLower]
      split <;> rfl
  cases scope.qualifier qualifier with
  | table name => rfl
  | _ => exact hlast

theorem sideTable_lower (scope : Scope) (name : Name) :
    sideTable scope.lower (lower name) = lower (sideTable scope name) := by
  rw [sideTable, sideTable, Name.qualifier_lower, List.isEmpty_map, qualifier_lower]
  split
  · rfl
  cases scope.qualifier name.qualifier with
  | table name => rfl
  | derived => rfl
  | unbound part =>
    show (if (asciiLower part).isEmpty then none else some (asciiLower part)) = _
    rw [isEmpty_asciiLower]
    dsimp only
    split <;> rfl

variable {ctx : Context}

theorem writeFindings_lower (name : Name) (usage : Usage) :
    writeFindings ctx.lower (lower name) usage = lower (writeFindings ctx name usage) := by
  rw [writeFindings, writeFindings, Context.scope_lower, written_lower]
  exact toList_map_rename (Finding.uses .table · usage) (fun _ => rfl) _

theorem tableFindings_lower (name : Name) : tableFindings ctx.lower (lower name) = lower (tableFindings ctx name) := by
  rw [tableFindings, tableFindings, Context.scope_lower, referenced_lower]
  exact toList_map_rename (Finding.uses .table · ctx.reading) (fun _ => rfl) _

theorem columnFindings_lower (name : Name) :
    columnFindings ctx.lower (lower name) = lower (columnFindings ctx name) := by
  rw [columnFindings, columnFindings, Name.parts_lower, List.isEmpty_map, Context.scope_lower, Name.qualifier_lower,
    columnTable_lower, Name.base_lower, Name.dotted_lower]
  split <;> rfl

theorem joinFindings_lower (left right : Name) :
    joinFindings ctx.lower (lower left) (lower right) = lower (joinFindings ctx left right) := by
  rw [joinFindings, joinFindings, Context.scope_lower, sideTable_lower, sideTable_lower, Name.base_lower,
    Name.base_lower]
  cases sideTable ctx.scope left <;> cases sideTable ctx.scope right <;> rfl

theorem tableFunctionFindings_lower (name : Name) :
    tableFunctionFindings ctx.lower (lower name) = lower (tableFunctionFindings ctx name) := by
  rw [tableFunctionFindings, tableFunctionFindings, Name.isTemporary_lower, Name.qualified_lower]
  split <;> rfl

theorem functionFindings_lower (name : Name) :
    functionFindings ctx.lower (lower name) = lower (functionFindings ctx name) := by
  rw [functionFindings, functionFindings, Name.isTemporary_lower, Name.qualified_lower, Name.parts_lower,
    List.length_map]
  split <;> rfl

theorem calleeFindings_lower (name : Name) : calleeFindings (lower name) = lower (calleeFindings name) := by
  rw [calleeFindings, calleeFindings, Name.isTemporary_lower, Name.qualified_lower, isEmpty_asciiLower]
  split <;> rfl

theorem equalityFindings_lower (left : Expr) (op : Operator) (right : Expr) :
    equalityFindings ctx.lower (lower left) op (lower right) = lower (equalityFindings ctx left op right) := by
  show equalityFindings ctx.lower (renameExpr _ left) op (renameExpr _ right) = _
  cases left with
  | column leftName =>
    cases right with
    | column rightName =>
      rw [renameExpr, renameExpr]
      cases op with
      | equals =>
        simp only [equalityFindings, joinFindings_lower]
        show (if ctx.inJoin then _ else _) = _
        split <;> rfl
      | _ => rfl
    | _ =>
      rw [renameExpr, renameExpr]
      cases op <;> rfl
  | _ =>
    rw [renameExpr]
    cases op <;> rfl

theorem exprOwn_lower (e : Expr) : exprOwn ctx.lower (lower e) = lower (exprOwn ctx e) := by
  show exprOwn ctx.lower (renameExpr _ e) = _
  cases e with
  | column name =>
    rw [renameExpr]
    exact columnFindings_lower name
  | binary left op right =>
    rw [renameExpr]
    exact equalityFindings_lower left op right
  | call name args =>
    rw [renameExpr]
    exact functionFindings_lower name
  | _ => rw [renameExpr]; rfl

theorem sourceOwn_lower (s : Source) : sourceOwn ctx.lower (lower s) = lower (sourceOwn ctx s) := by
  show sourceOwn ctx.lower (renameSource _ s) = _
  cases s with
  | table name calledAs =>
    rw [renameSource]
    exact tableFindings_lower name
  | call name args calledAs =>
    rw [renameSource]
    exact tableFunctionFindings_lower name
  | _ => rw [renameSource]; rfl

theorem mergeUsage_lower (clauses : List MergeClause) : mergeUsage (lower clauses) = mergeUsage clauses := by
  have husage : (fun clause : MergeClause => MergeAction.usage clause.action) ∘ lower =
      fun clause => MergeAction.usage clause.action := by
    funext ⟨condition, action⟩
    cases action <;> rfl
  show (Usage.max? ((clauses.map lower).map _)).getD _ = _
  rw [List.map_map, husage, mergeUsage]

theorem statementOwn_lower (s : Statement) : statementOwn ctx.lower (lower s) = lower (statementOwn ctx s) := by
  show statementOwn ctx.lower (renameStatement _ s) = _
  cases s with
  | insert insert =>
    rw [renameStatement]
    exact writeFindings_lower insert.target .insert
  | update update =>
    rw [renameStatement]
    exact writeFindings_lower update.target .update
  | delete delete =>
    rw [renameStatement]
    exact writeFindings_lower delete.target .delete
  | merge merge =>
    rw [renameStatement]
    show writeFindings ctx.lower (lower merge.target) (mergeUsage (lower merge.clauses)) = _
    rw [mergeUsage_lower]
    exact writeFindings_lower merge.target _
  | truncate target =>
    rw [renameStatement]
    exact writeFindings_lower target .delete
  | _ => rw [renameStatement]; rfl

/-! ### What a part says in lower case -/

namespace Part

theorem own_lower (p : Part) : (lower p).own ctx.lower = lower (p.own ctx) := by
  cases p with
  | statement s => exact statementOwn_lower s
  | exec c => exact calleeFindings_lower c.procedure
  | select b =>
    obtain ⟨columns, into, sources, filter, groupBy, having⟩ := b
    show (renameSelect _ ⟨columns, into, sources, filter, groupBy, having⟩).into.toList.flatMap _ = _
    rw [renameSelect]
    cases into with
    | none => rfl
    | some name =>
      show writeFindings _ (lower name) _ ++ [] = lower (writeFindings _ name _ ++ [])
      rw [writeFindings_lower, List.append_nil, List.append_nil]
  | source s => exact sourceOwn_lower s
  | on e => exact exprOwn_lower e
  | expr e => exact exprOwn_lower e
  | _ => rfl

theorem frame_lower (p : Part) (outer : Scope) : (lower p).frame outer.lower = (p.frame outer).lower := by
  rw [frame_eq, frame_eq, items_rename, ctes_rename, cteFrame_lower, Item.foldl_bind_lower]

theorem inside_lower (p : Part) (ctx : Context) : (lower p).inside ctx.lower = (p.inside ctx).lower := by
  rw [inside, inside, Context.scope_lower, frame_lower, schemaBound?_rename, joins_rename, ← Scope.lower_append]
  rfl

/-- By induction on the part, in every context at once, since the parts inside stand in other contexts. -/
theorem findings_lower (p : Part) (ctx : Context) : (lower p).findings ctx.lower = lower (p.findings ctx) := by
  induction p using Part.induction generalizing ctx with
  | step p ih =>
    rw [findings_eq, findings_eq, inside_lower, own_lower, parts_rename, ChangeImpact.lower_append]
    show _ ++ (p.parts.map lower).flatMap _ = _ ++ (p.parts.flatMap _).map lower
    rw [List.flatMap_map, List.map_flatMap]
    exact congrArg _ (List.flatMap_congr fun q hq => ih q hq _)

end Part

/-- A script in lower case says what the script says, in lower case. -/
theorem statementsFindings_lower (ss : List Statement) (ctx : Context) :
    statementsFindings ctx.lower (lower ss) = lower (statementsFindings ctx ss) := by
  induction ss with
  | nil => rfl
  | cons s ss ih =>
    have hs : statementFindings ctx.lower (lower s) = lower (statementFindings ctx s) :=
      (Part.statement s).findings_lower ctx
    show statementsFindings ctx.lower (lower s :: lower ss) = _
    rw [statementsFindings, statementsFindings, ih, hs, lower_append]

end Extraction

end ChangeImpact
