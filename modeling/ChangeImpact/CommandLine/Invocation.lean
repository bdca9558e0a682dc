import ChangeImpact.Change
import ChangeImpact.CommandLine.Arguments
import ChangeImpact.Entity

/-!
# Invocations

What a command line asks for: a command, and the workspace, store, settings and project it works on. The options of
the whole program may stand before or behind the name of the command; what stands behind it counts.
-/

namespace ChangeImpact.CommandLine

inductive Command where
  | importCatalog (file : String)
  | sync
  | extract (file : String) (kind : ObjectKind) (json : Bool)
  | dependencies (json : Bool)
  | impact (target : String) (kind : Option ObjectKind) (change : Change) (depth : Option Nat)
      (listPaths json : Bool)
  | catalogSchema
  deriving DecidableEq, Repr

structure Invocation where
  workspace : Option String
  store : Option String
  settings : Option String
  project : Int
  command : Command
  deriving DecidableEq, Repr

/-! ### Values -/

/-- A number in digits, perhaps behind a plus sign. -/
def natural? (text : String) : Option Nat :=
  match text.toList with
  | '+' :: cs => digits? cs
  | cs => digits? cs
where
  digits? (cs : List Char) : Option Nat :=
    if cs.isEmpty then none
    else cs.foldlM (fun n c => if c.isDigit then some (n * 10 + (c.toNat - '0'.toNat)) else none) 0

/-- A signed number of 64 bits. -/
def signed? (text : String) : Option Int :=
  match text.toList with
  | '-' :: '+' :: _ => none
  | '-' :: cs => ((natural? (.ofList cs)).filter (· ≤ 0x8000000000000000)).map fun n => -(n : Int)
  | _ => ((natural? text).filter (· < 0x8000000000000000)).map Int.ofNat

def count? (text : String) : Option Nat :=
  (natural? text).filter (· ≤ 0xffffffffffffffff)

def kind? (text : String) : Option ObjectKind :=
  (ObjectKind.ofWord text).toOption

def change? (text : String) : Option Change :=
  (Change.ofWord text).toOption

/-! ### Options -/

def path (name : String) (letter : Option Char) : OptionSpec :=
  ⟨name, letter, .value fun text => !text.isEmpty⟩

def switch (name : String) : OptionSpec :=
  ⟨name, none, .nothing⟩

/-- Options of the whole program. -/
def programOptions : List OptionSpec := [
  path "workspace" (some 'w'),
  path "db" none,
  path "config" none,
  ⟨"project", some 'p', .value fun text => (signed? text).isSome⟩,
  ⟨"verbose", some 'v', .repetition⟩]

def kindOption : OptionSpec :=
  ⟨"kind", some 'k', .value fun text => (kind? text).isSome⟩

/-- The options of a command of the given name, if there is one. -/
def commandOptions? : String → Option (List OptionSpec)
  | "import" | "sync" | "catalog-schema" => some []
  | "extract" => some [kindOption, switch "json"]
  | "deps" => some [switch "json"]
  | "impact" => some [
      kindOption,
      ⟨"change", some 'c', .value fun text => (change? text).isSome⟩,
      ⟨"depth", some 'd', .value fun text => (count? text).isSome⟩,
      switch "paths",
      switch "json"]
  | _ => none

/-- The positional arguments that a command may have; a file has a name. -/
def acceptsValues (name : String) : List String → Bool
  | [] => true
  | [value] =>
    match name with
    | "import" | "extract" => !value.isEmpty
    | "impact" => true
    | _ => false
  | _ => false

/-- The command of a name with its options and positional arguments. -/
def command? (name : String) (given : List Given) (values : List String) : Option Command :=
  let kind := (valueOf? given "kind").bind kind?
  let json := isGiven given "json"
  match name, values with
  | "import", [file] => some (.importCatalog file)
  | "sync", [] => some .sync
  | "extract", [file] => some (.extract file (kind.getD .procedure) json)
  | "deps", [] => some (.dependencies json)
  | "impact", [target] =>
    let change := ((valueOf? given "change").bind change?).getD .modify
    let depth := (valueOf? given "depth").bind count?
    some (.impact target kind change depth (isGiven given "paths") json)
  | "catalog-schema", [] => some .catalogSchema
  | _, _ => none

/-- Asking for help about the program or about one command. -/
def helpAbout (values : List String) : Refusal :=
  match values with
  | [] => .help
  | [name] => if name == "help" || (commandOptions? name).isSome then .help else .misuse
  | _ => .misuse

def Invocation.ofArguments (arguments : List String) : Except Refusal Invocation := do
  let (before, name, rest) ← readUntilPositional programOptions [] arguments.length arguments
  if name == "help" then throw (helpAbout rest)
  match commandOptions? name with
  | none => throw .misuse
  | some own =>
    let options := own ++ programOptions
    let (behind, values) ← readLevel options (some name) (acceptsValues name) [] [] rest.length rest
    match command? name behind values with
    | none => throw .misuse
    | some command =>
      let all := behind ++ before
      return {
        workspace := valueOf? all "workspace"
        store := valueOf? all "db"
        settings := valueOf? all "config"
        project := ((valueOf? all "project").bind signed?).getD 1
        command := command }

end ChangeImpact.CommandLine
