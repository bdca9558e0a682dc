import ChangeImpact.Readable

/-!
# Documents

The values that catalogs, settings and reports are made of.

* an integer and a number with a fraction or an exponent are different values;
* the fields of an object keep their order, and a name may occur more than once until it is looked for;
* what is written well but stands for no value is `illegible`: it may be passed over, but it cannot be read.
-/

namespace ChangeImpact

inductive Document where
  | null
  | bool (value : Bool)
  | int (value : Int)
  | real (value : Rat)
  | text (value : String)
  | list (items : List Document)
  | object (fields : List (String × Document))
  | illegible

namespace Document

/-- The first field of a name. -/
def field? (name : String) : Document → Option Document
  | object fields => fields.lookup name
  | _ => none

/-- An optional value, written as null if it is absent. -/
def ofOption {α : Type} (write : α → Document) : Option α → Document
  | none => null
  | some a => write a

def ofNat (n : Nat) : Document :=
  int n

/-! ### Reading -/

def isNull : Document → Bool
  | null => true
  | _ => false

def asInt? : Document → Option Int
  | int n => some n
  | _ => none

/-- A natural number up to a bound. -/
def asNat? (bound : Nat) (d : Document) : Option Nat :=
  d.asInt?.bind fun n => if 0 ≤ n && n ≤ bound then some n.toNat else none

def asText? : Document → Option String
  | text s => some s
  | _ => none

/-- A word of a vocabulary. It may be written as the name of an object's only field if nothing is said there. -/
def asWord? : Document → Option String
  | object [(word, null)] => some word
  | d => d.asText?

def asItems? : Document → Option (List Document)
  | list items => some items
  | _ => none

/-- A record is written as an object, whose other fields do not count, or as a list with the values in the order of
the names. -/
def record? (names : List String) : Document → Option (List (Option Document))
  | object fields => names.mapM (Readable.only? fields)
  | list items =>
    if items.length ≤ names.length then
      some (items.map some ++ List.replicate (names.length - items.length) none)
    else none
  | _ => none

instance : Readable Document where
  text? := asText?
  natural? d := d.asInt?.bind Int.toNat?
  word? := asWord?
  present? d := some (if d.isNull then none else some d)
  items? := asItems?
  record? := record?

end Document

end ChangeImpact
