import ChangeImpact.Document

/-!
# The form of catalog documents

A description of catalog documents in the vocabulary of JSON Schema.
-/

namespace ChangeImpact.Catalog.Schema

/-- A word with what it means. -/
def constant (word meaning : String) : Document :=
  .object [("description", .text meaning), ("type", .text "string"), ("const", .text word)]

def kinds : Document :=
  .object [
    ("description", .text "Kinds of schema objects that participate in the dependency graph."),
    ("oneOf", .list [
      constant "table" "Base table",
      constant "view" "View (table-like when referenced)",
      constant "stored_procedure" "Stored procedure",
      constant "function" "Scalar or table-valued function"])]

def optionalText (meaning : String) : Document :=
  .object [
    ("description", .text meaning),
    ("type", .list [.text "string", .text "null"]),
    ("default", .null)]

def declaration : Document :=
  .object [
    ("description", .text "One object entry of an importable catalog document."),
    ("type", .text "object"),
    ("properties", .object [
      ("type", .object [("description", .text "Object kind"), ("$ref", .text "#/$defs/EntityType")]),
      ("schema", optionalText "Schema name (defaults to none; procedures are treated as \x60dbo\x60)"),
      ("name", .object [("description", .text "Object name"), ("type", .text "string")]),
      ("criticality", .object [
        ("description", .text "Business criticality (1..=5)"),
        ("type", .list [.text "integer", .text "null"]),
        ("format", .text "uint8"),
        ("minimum", .int 0),
        ("maximum", .int 255),
        ("default", .null)]),
      ("definition", optionalText "SQL definition for views, procedures and functions")]),
    ("required", .list [.text "type", .text "name"])]

def document : Document :=
  .object [
    ("$schema", .text "https://json-schema.org/draft/2020-12/schema"),
    ("title", .text "CatalogDocument"),
    ("description", .text "An importable catalog document (JSON or YAML)."),
    ("type", .text "object"),
    ("properties", .object [
      ("objects", .object [
        ("description", .text "Objects to upsert into the project"),
        ("type", .text "array"),
        ("items", .object [("$ref", .text "#/$defs/CatalogObject")]),
        ("default", .list [])])]),
    ("$defs", .object [("CatalogObject", declaration), ("EntityType", kinds)])]

end ChangeImpact.Catalog.Schema
