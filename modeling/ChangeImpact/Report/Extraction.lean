import ChangeImpact.Document
import ChangeImpact.Extraction

/-!
# Extractions as documents
-/

namespace ChangeImpact

open Document (ofOption ofNat)

def Reference.document (r : Reference) : Document :=
  .object [
    ("source_type", .text r.source.kind.name),
    ("source_id", .int r.source.id),
    ("target_type", .text r.targetKind.name),
    ("target_name", .text r.targetName),
    ("dependency_type", .text r.usage.name)]

def JoinCondition.document (j : JoinCondition) : Document :=
  .object [
    ("left_table", .text j.leftTable),
    ("left_column", .text j.leftColumn),
    ("right_table", .text j.rightTable),
    ("right_column", .text j.rightColumn)]

def ColumnReference.document (c : ColumnReference) : Document :=
  .object [
    ("table", ofOption .text c.table),
    ("column", .text c.column),
    ("full_path", .text c.path)]

def Sql.Diagnostic.document (d : Sql.Diagnostic) : Document :=
  .object [("line", ofNat d.line), ("message", .text d.message)]

def Extraction.document (e : Extraction) : Document :=
  .object [
    ("dependencies", .list (e.references.map Reference.document)),
    ("join_conditions", .list (e.joins.map JoinCondition.document)),
    ("columns", .list (e.columns.map ColumnReference.document)),
    ("diagnostics", .list (e.diagnostics.map Sql.Diagnostic.document)),
    ("dynamic_sql", ofNat e.dynamicSql)]

end ChangeImpact
