import ChangeImpact.Entity
import ChangeImpact.Readable

/-!
# Declarations

What a catalog document says about the objects of a project, one declaration for each. Nothing is checked here: names
may be blank, and criticalities out of range.
-/

namespace ChangeImpact

/-- The kind that a name in a document stands for, written exactly. -/
def ObjectKind.ofName? : String → Option ObjectKind
  | "table" => some .table
  | "view" => some .view
  | "stored_procedure" | "procedure" => some .procedure
  | "function" => some .function
  | _ => none

namespace Catalog

structure Declaration where
  kind : ObjectKind
  schema : Option String
  name : String
  criticality : Option Nat
  definition : Option String
  deriving DecidableEq, Repr

open Readable

variable {δ : Type} [Readable δ]

/-- The declaration that a record stands for. -/
def Declaration.read? (d : δ) : Option Declaration := do
  match ← record? ["type", "schema", "name", "criticality", "definition"] d with
  | [some kind, schema, some name, criticality, definition] =>
    return {
      kind := ← (word? kind).bind ObjectKind.ofName?
      schema := ← optional? text? schema
      name := ← text? name
      criticality := ← optional? (upTo? 255) criticality
      definition := ← optional? text? definition }
  | _ => none

/-- The declarations of a catalog document. -/
def declarations? (d : δ) : Option (List Declaration) := do
  match ← record? ["objects"] d with
  | [some objects] => (← items? objects).mapM Declaration.read?
  | _ => some []

end Catalog

end ChangeImpact
