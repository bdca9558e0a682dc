import ChangeImpact.Report.Store

/-!
# Snapshots of a store

The form in which a store is kept between two runs of the program: its objects and its edges as documents.
-/

namespace ChangeImpact

open Readable (optional?)

namespace Catalog.Object

def ofDocument? (d : Document) : Option Object := do
  match ← d.record? ["id", "project_id", "object_type", "schema_name", "name", "criticality_level", "definition"] with
  | [some id, some project, some kind, schema, some name, criticality, definition] =>
    return {
      id := ← id.asInt?
      project := ← project.asInt?
      kind := ← kind.asText?.bind ObjectKind.ofName?
      schema := (← optional? Document.asText? schema).getD ""
      name := ← name.asText?
      criticality := ← optional? (Document.asNat? Criticality.highest) criticality
      definition := ← optional? Document.asText? definition }
  | _ => none

end Catalog.Object

def Usage.ofName? (name : String) : Option Usage :=
  Usage.all.find? (·.name == name)

def Document.asRational? : Document → Option Rat
  | .int n => some n
  | .real q => some q
  | _ => none

namespace Edge

def ofDocument? (d : Document) : Option Edge := do
  match ← d.record? ["project_id", "source_type", "source_id", "target_type", "target_id", "dependency_type",
      "confidence"] with
  | [some project, some sourceKind, some sourceId, some targetKind, some targetId, some usage, some confidence] =>
    return {
      project := ← project.asInt?
      source := ⟨← sourceKind.asText?.bind ObjectKind.ofName?, ← sourceId.asInt?⟩
      target := ⟨← targetKind.asText?.bind ObjectKind.ofName?, ← targetId.asInt?⟩
      usage := ← usage.asText?.bind Usage.ofName?
      confidence := ← confidence.asRational? }
  | _ => none

end Edge

namespace Store

def document (s : Store) : Document :=
  .object [
    ("objects", .list (s.objects.map Catalog.Object.document)),
    ("dependencies", .list (s.edges.map Edge.document))]

def ofDocument? (d : Document) : Option Store := do
  match ← d.record? ["objects", "dependencies"] with
  | [some objects, some edges] =>
    return {
      objects := ← (← objects.asItems?).mapM Catalog.Object.ofDocument?
      edges := ← (← edges.asItems?).mapM Edge.ofDocument? }
  | _ => none

end Store

end ChangeImpact
