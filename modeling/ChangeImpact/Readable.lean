/-!
# Readable values

Catalogs and settings may come in any written form that tells what a value of it is read as. The forms differ in what
they take for a number or for nothing, and in how they write a list or a record that has nothing in it.

A value that is not read is not looked at: what a form lets pass in the fields that do not count is up to the form.
-/

namespace ChangeImpact

class Readable (δ : Type) where
  text? : δ → Option String
  natural? : δ → Option Nat
  /-- A word of a vocabulary. -/
  word? : δ → Option String
  /-- The value itself, or nothing if that is what it stands for. -/
  present? : δ → Option (Option δ)
  items? : δ → Option (List δ)
  /-- The values of a record for the names of its fields, as far as they are given. -/
  record? : List String → δ → Option (List (Option δ))

namespace Readable

variable {δ α : Type}

/-- The only value of a name, or none; a name must not be that of two fields. -/
def only? (fields : List (String × δ)) (name : String) : Option (Option δ) :=
  match fields.filter (·.1 == name) with
  | [] => some none
  | [(_, d)] => some (some d)
  | _ => none

variable [Readable δ]

/-- A natural number up to a bound. -/
def upTo? (bound : Nat) (d : δ) : Option Nat :=
  (natural? d).filter (· ≤ bound)

/-- A value that may be left out; nothing at all stands for that too. -/
def optional? (read : δ → Option α) : Option δ → Option (Option α)
  | none => some none
  | some d =>
    match present? d with
    | none => none
    | some none => some none
    | some (some d) => (read d).map some

/-- A value that has to be readable if it is given, and has a default if it is not. -/
def given? (read : δ → Option α) (default : α) : Option δ → Option α
  | none => some default
  | some d => read d

end Readable

end ChangeImpact
