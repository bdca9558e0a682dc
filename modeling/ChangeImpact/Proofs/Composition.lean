import ChangeImpact.Extraction

/-!
# Composition of extractions

What is found in a sequence of statements is what is found in its first part, followed by what is new in its second
part. Nothing is found twice, so a repetition adds nothing, and neither does a block around the statements.

* `Extraction.followedBy` puts two extractions in a row; `IsDistinct` says that nothing comes twice in one;
* `statementsFindings_append`: the findings of a statement do not depend on the statements before it;
* `distinctBy_append_eq_addNew`: first occurrences in two lists in a row.
-/

namespace ChangeImpact

section AddNew

variable {α κ : Type} [BEq κ]

/-- A list followed by the elements of another whose keys it does not have. -/
def addNew (key : α → κ) (as bs : List α) : List α :=
  as ++ bs.filter fun b => !(as.map key).contains (key b)

variable [LawfulBEq κ]

theorem addNew_self (key : α → κ) (as : List α) : addNew key as as = as := by
  have hnone : as.filter (fun a => !(as.map key).contains (key a)) = [] := by
    refine List.filter_eq_nil_iff.2 fun a ha => ?_
    have hkey : key a ∈ as.map key := List.mem_map_of_mem ha
    simpa using hkey
  rw [addNew, hnone, List.append_nil]

theorem distinctBy_append_eq_addNew (key : α → κ) (as bs : List α) :
    distinctBy key [] (as ++ bs) = addNew key (distinctBy key [] as) (distinctBy key [] bs) := by
  have hkept : ∀ k, k ∈ as.map key ++ [] ↔ k ∈ (distinctBy key [] as).map key := by simp [mem_map_distinctBy]
  rw [distinctBy_append, distinctBy_congr hkept, distinctBy_eq_filter key (List.map _ _), addNew]

end AddNew

namespace Extraction

open Sql

/-- An extraction and what another one has that it does not have yet. -/
def followedBy (e f : Extraction) : Extraction where
  references := addNew referenceKey e.references f.references
  joins := addNew id e.joins f.joins
  columns := addNew id e.columns f.columns
  diagnostics := e.diagnostics ++ f.diagnostics
  dynamicSql := e.dynamicSql + f.dynamicSql

/-- Nothing comes twice, where the names of two references are compared without regard to case. -/
structure IsDistinct (e : Extraction) : Prop where
  references : (e.references.map referenceKey).Nodup
  joins : e.joins.Nodup
  columns : e.columns.Nodup

/-- The findings of a statement depend on the context alone, which is the same for all statements in a row. -/
theorem statementsFindings_append (ctx : Context) (ss ts : List Statement) :
    statementsFindings ctx (ss ++ ts) = statementsFindings ctx ss ++ statementsFindings ctx ts := by
  induction ss with
  | nil => simp only [List.nil_append, statementsFindings]
  | cons s ss ih => simp only [List.cons_append, statementsFindings, ih, List.append_assoc]

theorem statementsFindings_block (ctx : Context) (ss : List Statement) :
    statementsFindings ctx [.block ss] = statementsFindings ctx ss := by
  simp only [statementsFindings, statementFindings, List.append_nil]

section Lists

variable (owner : Entity) (fs gs : List Finding)

theorem referencesOf_append :
    referencesOf owner (fs ++ gs) = addNew referenceKey (referencesOf owner fs) (referencesOf owner gs) := by
  unfold referencesOf
  rw [List.filterMap_append, distinctBy_append_eq_addNew]

theorem joinsOf_append : joinsOf (fs ++ gs) = addNew id (joinsOf fs) (joinsOf gs) := by
  unfold joinsOf
  rw [List.filterMap_append, distinctBy_append_eq_addNew]

theorem columnsOf_append : columnsOf (fs ++ gs) = addNew id (columnsOf fs) (columnsOf gs) := by
  unfold columnsOf
  rw [List.filterMap_append, distinctBy_append_eq_addNew]

end Lists

variable (owner : Entity) (s t : List Statement)

theorem ofStatements_append :
    ofStatements owner (s ++ t) = (ofStatements owner s).followedBy (ofStatements owner t) := by
  simp only [ofStatements, followedBy, statementsFindings_append, referencesOf_append, joinsOf_append, columnsOf_append,
    List.append_nil]

theorem isDistinct_ofStatements : (ofStatements owner s).IsDistinct where
  references := nodup_map_distinctBy referenceKey [] _
  joins := nodup_distinctBy_id _
  columns := nodup_distinctBy_id _

/-- What has no diagnostics is not changed by its repetition. -/
theorem followedBy_self {e : Extraction} (hdiagnostics : e.diagnostics = []) (hdynamic : e.dynamicSql = 0) :
    e.followedBy e = e := by
  simp only [followedBy, addNew_self, hdiagnostics, hdynamic, List.append_nil]
  cases e
  simp_all

/-- Statements in a row are read one after the other: the second part adds what the first does not have. Nothing is
found twice, everything comes from the owner, and neither a repetition nor a block changes what is found. -/
theorem ofStatements_compositional :
    ofStatements owner (s ++ t) = (ofStatements owner s).followedBy (ofStatements owner t) ∧
      (ofStatements owner s).IsDistinct ∧
      (∀ r ∈ (ofStatements owner s).references, r.source = owner) ∧
      ofStatements owner (s ++ s) = ofStatements owner s ∧
      ofStatements owner [.block s] = ofStatements owner s := by
  refine ⟨ofStatements_append owner s t, isDistinct_ofStatements owner s, ?_, ?_, ?_⟩
  · exact fun r hr => source_of_mem_referencesOf hr
  · rw [ofStatements_append]
    exact followedBy_self rfl rfl
  · unfold ofStatements
    rw [statementsFindings_block]

end Extraction

end ChangeImpact
