import ChangeImpact.Catalog.Declaration
import ChangeImpact.Document.Json
import ChangeImpact.Document.Yaml
import ChangeImpact.Error
import ChangeImpact.FileName
import ChangeImpact.Text.Ascii

/-!
# Catalogs in a file

The extension of a file tells the format of the catalog in it.
-/

namespace ChangeImpact.Catalog

/-- The reader of the format that a file is in. -/
def readerFor? (file : String) : Option (String → Option (List Declaration)) :=
  match (FileName.extension? file).map Text.asciiLower with
  | some "json" => some fun text => (Json.read text).bind declarations?
  | some "yaml" | some "yml" => some fun text => (Yaml.read text).bind declarations?
  | _ => none

/-- The declarations that the text of a file holds. -/
def ofText (file text : String) : Except Error (List Declaration) :=
  match readerFor? file with
  | none => .error (.unknownFormat file)
  | some read =>
    match read text with
    | some ds => .ok ds
    | none => .error .unreadableCatalog

end ChangeImpact.Catalog
