import ChangeImpact.Sql.Tree
import ChangeImpact.Text.Ascii

/-!
# Scopes

What names stand for within a query. A scope lists bindings by name in lower case, those of inner queries in front of
those of outer ones, so that the first binding of a name is the innermost. The bindings that one clause introduces
form a frame.

* `Frame.ofSources`: the aliases and tables of a `FROM` clause;
* `Scope.qualifier`, `Scope.referenced`, `Scope.written`: what a name stands for where a column is qualified, where a
  table is read and where a table is written.
-/

namespace ChangeImpact.Extraction

open Sql

inductive Binding where
  /-- A table of the catalog under its qualified name. -/
  | table (name : String)
  /-- A derived table, a table function, rows or a temporary table. -/
  | derived
  | cte
  deriving DecidableEq, Repr

/-- Bindings of names in lower case; the first one of a name counts. -/
abbrev Scope := List (String × Binding)

namespace Scope

def find? (scope : Scope) (name : String) : Option Binding :=
  scope.lookup (Text.asciiLower name)

/-- Binds a name, whatever it was bound to. -/
def bind (scope : Scope) (name : String) (binding : Binding) : Scope :=
  (Text.asciiLower name, binding) :: scope

/-- Binds a name that is not bound yet. -/
def bindNew (scope : Scope) (name : String) (binding : Binding) : Scope :=
  if (scope.find? name).isSome then scope else scope.bind name binding

end Scope

/-! ### Frames -/

/-- The bindings of common table expressions. -/
def cteFrame (ctes : List Cte) : Scope :=
  ctes.map fun cte => (Text.asciiLower cte.name, .cte)

/-- What a table in a `FROM` clause stands for. -/
def tableBinding (outer : Scope) (name : Name) : Binding :=
  if name.isTemporary then .derived
  else if name.isBare && outer.find? name.base == some .cte then .cte
  else .table name.qualified

/-- Binds a table under its alias, and under its qualified and its last name unless they are bound. -/
def bindTable (outer frame : Scope) (name : Name) (calledAs : Option String) : Scope :=
  let binding := tableBinding outer name
  let frame := match calledAs with
    | some alternative => frame.bind alternative binding
    | none => frame
  let frame := if name.isBare then frame else frame.bindNew name.qualified binding
  frame.bindNew name.base binding

def bindDerived (frame : Scope) (calledAs : Option String) : Scope :=
  match calledAs with
  | some alternative => frame.bind alternative .derived
  | none => frame

mutual

/-- Adds the bindings of a source to a frame within an outer scope. -/
def bindSource (outer frame : Scope) : Source → Scope
  | .table name calledAs => bindTable outer frame name calledAs
  | .call _ _ calledAs => bindDerived frame calledAs
  | .derived _ calledAs => bindDerived frame calledAs
  | .rows _ calledAs => bindDerived frame calledAs
  | .joined inner => bindJoined outer frame inner

def bindJoined (outer frame : Scope) : Joined → Scope
  | ⟨first, joins⟩ => bindJoins outer (bindSource outer frame first) joins

def bindJoins (outer frame : Scope) : List Join → Scope
  | [] => frame
  | ⟨source, _⟩ :: joins => bindJoins outer (bindSource outer frame source) joins

end

/-- The bindings that a `FROM` clause introduces. -/
def sourcesFrame (outer : Scope) (sources : List Joined) : Scope :=
  sources.foldl (bindJoined outer) []

/-! ### Names in scope -/

/-- What the qualifier of a column stands for. -/
inductive Qualifier where
  | table (name : String)
  | derived
  /-- The last part of a qualifier without a binding. -/
  | unbound (part : String)
  deriving DecidableEq, Repr

namespace Scope

/-- Looks a qualifier up as a whole, then by its last part. -/
def qualifier (scope : Scope) (parts : List String) : Qualifier :=
  let last := parts.getLast?.getD ""
  match (scope.find? (Name.joinPresent parts)).or (scope.find? last) with
  | some (.table name) => .table name
  | some _ => .derived
  | none => .unbound last

def presentName (name : Name) : Option String :=
  if name.qualified.isEmpty then none else some name.qualified

/-- The table that a source reads, which is none for a temporary table and a common table expression. -/
def referenced (scope : Scope) (name : Name) : Option String :=
  if name.isTemporary then none
  else if name.isBare && scope.find? name.base == some .cte then none
  else presentName name

/-- The table that a statement writes, where a bare name may be an alias. -/
def written (scope : Scope) (name : Name) : Option String :=
  if name.isTemporary then none
  else
    match if name.isBare then scope.find? name.base else none with
    | some (.table table) => some table
    | some _ => none
    | none => presentName name

end Scope

end ChangeImpact.Extraction
