import ChangeImpact.Catalog.Entry
import ChangeImpact.Catalog.Name
import ChangeImpact.Sorting
import ChangeImpact.Text.Ascii

/-!
# Looking names up

A name index holds the entries of one family of objects in the order of their numbers. A normalized name is looked
for in three places, and within each the first entry counts:

1. among the keys, `schema.name` or just `name` for an entry without a schema;
2. if it has no point, among the names of the entries with a schema, those in the default schema first;
3. among the keys, with the default schema in front.
-/

namespace ChangeImpact.Resolution

open Catalog (Entry defaultSchema)

/-- An entry with the schema that it is filed under, if any, and its name, both in lower case. -/
structure Filed where
  entry : Entry
  schema : Option String
  name : String

namespace Filed

/-- Files an entry under its schema. An entry without a schema may be filed under the default one. -/
def ofEntry (assumeDefault : Bool) (entry : Entry) : Filed where
  entry := entry
  schema :=
    match entry.schema.map Text.trim with
    | some "" | none => if assumeDefault then some defaultSchema else none
    | some schema => some (Text.lower schema)
  name := Text.lower entry.name

/-- The name with the schema in front, if there is one. -/
def key (f : Filed) : String :=
  match f.schema with
  | some schema => s!"{schema}.{f.name}"
  | none => f.name

/-- The schema as it is shown: as it was written, or the default one. -/
def shownSchema (f : Filed) : String :=
  match f.entry.schema with
  | some schema => if Text.allBlank schema then defaultSchema else schema
  | none => defaultSchema

def inDefaultSchema (f : Filed) : Bool :=
  Text.sameAsciiCase f.shownSchema defaultSchema

end Filed

abbrev NameIndex := List Filed

/-- An entry with the schemas that its name was found in, if there were several. -/
structure Match where
  found : Filed
  schemas : List String

namespace NameIndex

def ofEntries (assumeDefault : Bool) (entries : List Entry) : NameIndex :=
  (sortBy (fun a b : Entry => a.entity.id ≤ b.entity.id) entries).map (Filed.ofEntry assumeDefault)

def byKey? (index : NameIndex) (key : String) : Option Match :=
  (index.find? (·.key == key)).map fun found => ⟨found, []⟩

/-- The entries that a name without a schema may mean. -/
def candidates (index : NameIndex) (name : String) : List Filed :=
  index.filter fun f => f.schema.isSome && f.name == name

def byName? (index : NameIndex) (name : String) : Option Match :=
  match index.candidates name with
  | [] => none
  | [found] => some ⟨found, []⟩
  | first :: others =>
    let all := first :: others
    some ⟨(all.find? Filed.inDefaultSchema).getD first, all.map Filed.shownSchema⟩

def lookup? (index : NameIndex) (name : String) : Option Match :=
  (index.byKey? name)
    <|> (if name.toList.contains '.' then none else index.byName? name)
    <|> index.byKey? s!"{defaultSchema}.{name}"

end NameIndex

end ChangeImpact.Resolution
