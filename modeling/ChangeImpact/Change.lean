import ChangeImpact.Text.Ascii
import ChangeImpact.Unrecognized

/-!
# Changes

The kinds of change that may be proposed for an object.
-/

namespace ChangeImpact

inductive Change where
  | create
  | modify
  | delete
  deriving DecidableEq, Repr

namespace Change

def all : List Change :=
  [create, modify, delete]

def name : Change → String
  | create => "create"
  | modify => "modify"
  | delete => "delete"

def ofWord (word : String) : Except Unrecognized Change :=
  match Text.asciiLower word with
  | "create" | "add" => .ok create
  | "modify" | "alter" | "change" => .ok modify
  | "delete" | "drop" | "remove" => .ok delete
  | other => .error (.change other)

end Change

end ChangeImpact
