import ChangeImpact.Distinct
import ChangeImpact.Extraction.Finding
import ChangeImpact.Sql.Script
import ChangeImpact.Sql.Token.Scan

/-!
# Extraction

From the text of a definition to the references in it. Each of the three lists holds what was found in the order in
which it was found first, without repetitions; names of objects are compared without regard to ASCII case.

A text without readable tokens refers to nothing. Only a definition that is nested too deeply is refused.
-/

namespace ChangeImpact

structure Extraction where
  references : List Reference
  joins : List JoinCondition
  columns : List ColumnReference
  diagnostics : List Sql.Diagnostic
  /-- The number of calls whose target is known only when they run. -/
  dynamicSql : Nat

namespace Extraction

open Sql

/-- Nothing was found. -/
def empty : Extraction :=
  ⟨[], [], [], [], 0⟩

/-- No reference, join condition or column was found. -/
def isEmpty (e : Extraction) : Bool :=
  e.references.isEmpty && e.joins.isEmpty && e.columns.isEmpty

/-- What makes two references from one definition the same. -/
def referenceKey (r : Reference) : ObjectKind × String × Usage :=
  (r.targetKind, Text.asciiLower r.targetName, r.usage)

def referencesOf (owner : Entity) (findings : List Finding) : List Reference :=
  distinctBy referenceKey [] <| findings.filterMap fun
    | .uses kind name usage => some ⟨owner, kind, name, usage⟩
    | _ => none

/-- Every reference comes from the object whose definition was read. -/
theorem source_of_mem_referencesOf {owner : Entity} {findings : List Finding} {r : Reference}
    (h : r ∈ referencesOf owner findings) : r.source = owner := by
  obtain ⟨f, _, hf⟩ := List.mem_filterMap.1 (mem_of_mem_distinctBy h)
  cases f with
  | uses kind name usage => exact Option.some.inj hf ▸ rfl
  | joins condition => cases hf
  | column reference => cases hf

def joinsOf (findings : List Finding) : List JoinCondition :=
  distinctBy id [] <| findings.filterMap fun
    | .joins condition => some condition
    | _ => none

def columnsOf (findings : List Finding) : List ColumnReference :=
  distinctBy id [] <| findings.filterMap fun
    | .column reference => some reference
    | _ => none

/-- The context of a whole definition. -/
def Context.initial : Context :=
  ⟨[], false, false⟩

/-- What the statements of a definition say about other objects. -/
def ofStatements (owner : Entity) (statements : List Statement) : Extraction :=
  let findings := statementsFindings .initial statements
  ⟨referencesOf owner findings, joinsOf findings, columnsOf findings, [], 0⟩

def ofScript (owner : Entity) (script : Script) : Extraction :=
  { ofStatements owner script.statements with
    diagnostics := script.diagnostics
    dynamicSql := script.dynamicSql }

/-- What the text of a definition says about other objects. -/
def ofText (owner : Entity) (sql : String) : Except NestingTooDeep Extraction :=
  match Token.scan sql with
  | none => .ok empty
  | some tokens => (ofScript owner) <$> Script.ofTokens tokens

end Extraction

end ChangeImpact
