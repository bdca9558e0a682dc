import ChangeImpact.Text.Blank
import ChangeImpact.Text.Lowercase

/-!
# Names of objects

An object is named with or without its schema, and brackets may stand around either. Where no schema is known the
default schema is meant.
-/

namespace ChangeImpact.Catalog

/-- The schema of objects that are named without one. -/
def defaultSchema : String :=
  "dbo"

/-- The text without brackets and without blanks at its ends. -/
def bareName (name : String) : String :=
  Text.trim <| .ofList <| name.toList.filter fun c => c != '[' && c != ']'

/-- Takes the default schema away from a name that goes on behind it. -/
def dropDefaultSchema (name : String) : String :=
  match name.toList with
  | 'd' :: 'b' :: 'o' :: '.' :: c :: cs => .ofList (c :: cs)
  | _ => name

/-- A reference as it is looked up: without brackets, in lower case, and without the default schema. -/
def normalizedName (name : String) : String :=
  dropDefaultSchema (Text.lower (bareName name))

/-- A bare name before and behind its last point; without a point there is no schema. -/
def splitName (name : String) : Option String × String :=
  let reversed := (bareName name).toList.reverse
  let base := String.ofList (reversed.takeWhile (· != '.')).reverse
  match reversed.dropWhile (· != '.') with
  | [] => (none, base)
  | _ :: schema => (some (.ofList schema.reverse), base)

/-- The schema and the name, or just the name where the schema is empty. -/
def qualifiedName (schema name : String) : String :=
  if schema.isEmpty then name else s!"{schema}.{name}"

end ChangeImpact.Catalog
