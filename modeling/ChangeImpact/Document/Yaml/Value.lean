import ChangeImpact.Document.Yaml.Node
import ChangeImpact.Readable
import ChangeImpact.Text.Digits

/-!
# Values in YAML

What a node is read as.

* A scalar without quotes stands for whatever is asked for; as a number it may have a base of its own.
* A scalar without quotes and without characters is a list or a record that has nothing in it.
* A record is an object, never a list.
* A word may be written as a tag.
-/

namespace ChangeImpact.Yaml

/-- A node of a text together with the nodes that references in it stand for. -/
structure Value where
  anchored : Anchored
  root : Node

namespace Value

/-- The node itself, or the one that a reference stands for: of the nodes with its number, the last one. -/
def node? (v : Value) : Option Node :=
  match v.root with
  | .reference number => v.anchored.reverse.lookup number
  | node => some node

/-- Another node of the same text. -/
def sibling (v : Value) (node : Node) : Value :=
  { v with root := node }

/-! ### Scalars -/

/-- Plain scalars that stand for nothing. -/
def isNullWord (text : String) : Bool :=
  ["~", "null", "Null", "NULL"].contains text

def text? (v : Value) : Option String :=
  match v.node? with
  | some (.scalar _ _ text) => some text
  | _ => none

/-- A number in digits with the mark of a base in front of them. -/
def basedNumber? (cs : List Char) : Option Nat :=
  match cs with
  | '0' :: 'x' :: cs => Text.readDigits 16 cs
  | '0' :: 'o' :: cs => Text.readDigits 8 cs
  | '0' :: 'b' :: cs => Text.readDigits 2 cs
  | _ => none

/-- A number without a sign; in base ten it has no leading zero. -/
def magnitude? (cs : List Char) : Option Nat :=
  match basedNumber? cs with
  | some n => some n
  | none => if cs.head? == some '0' && cs != ['0'] then none else Text.readDigits 10 cs

/-- A number may have a plus sign, but no minus sign, even if it is zero. -/
def number? (text : String) : Option Nat :=
  match text.toList with
  | '+' :: cs => magnitude? cs
  | cs => magnitude? cs

def natural? (v : Value) : Option Nat :=
  match v.node? with
  | some (.scalar .plain _ text) => number? text
  | some (.scalar .literal (some "tag:yaml.org,2002:int") text) => number? text
  | _ => none

/-- The word that a tag is, if it has no address but one within the text. -/
def tagWord? (tag : String) : Option String :=
  match tag.toList with
  | '!' :: cs => some (.ofList cs)
  | _ => none

/-- A word is the text of a scalar, or the tag of a scalar that stands for nothing. -/
def word? (v : Value) : Option String :=
  match v.node? with
  | some (.scalar style tag text) =>
    match tag.bind tagWord? with
    | some word => if style == .plain && (text.isEmpty || isNullWord text) then some word else none
    | none => some text
  | _ => none

/-- A plain scalar may stand for nothing, unless a tag says that it does not. -/
def present? (v : Value) : Option (Option Value) :=
  match v.node? with
  | some (.scalar .plain none text) => some (if text.isEmpty || isNullWord text then none else some v)
  | some (.scalar .plain (some "tag:yaml.org,2002:null") text) => if isNullWord text then some none else none
  | _ => some (some v)

/-! ### Lists and records -/

/-- The values of a list. -/
def items? (v : Value) : Option (List Value) :=
  match v.node? with
  | some (.list items) => some (items.map v.sibling)
  | some (.scalar .plain _ "") => some []
  | _ => none

/-- The values of a record for the names of its fields. All names in it are texts. -/
def record? (names : List String) (v : Value) : Option (List (Option Value)) :=
  match v.node? with
  | some (.object fields) => do
    let fields ← fields.mapM fun (key, value) => (v.sibling key).text?.map (·, v.sibling value)
    names.mapM (Readable.only? fields)
  | some (.scalar .plain _ "") => some (names.map fun _ => none)
  | _ => none

instance : Readable Value where
  text? := text?
  natural? := natural?
  word? := word?
  present? := present?
  items? := items?
  record? := record?

end Value

end ChangeImpact.Yaml
