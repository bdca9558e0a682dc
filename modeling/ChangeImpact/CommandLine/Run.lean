import ChangeImpact.Catalog.File
import ChangeImpact.Catalog.Schema
import ChangeImpact.CommandLine.Invocation
import ChangeImpact.CommandLine.Listing
import ChangeImpact.Report.Analysis
import ChangeImpact.Report.Extraction
import ChangeImpact.Report.Resolution
import ChangeImpact.Settings.File
import ChangeImpact.Store.Impact

/-!
# Carrying out invocations

A command works on files and stores, which it reaches through a `Host`. Everything else is decided here, so that a
command does the same wherever its files are.
-/

namespace ChangeImpact.CommandLine

/-- Access to files and stores by their paths; an answer is what is asked for, or why there is none. -/
structure Host (m : Type → Type) where
  fileText : String → m (Except String String)
  isFile : String → m Bool
  openStore : String → m (Except String Store)
  saveStore : String → Store → m Unit

/-- The exit code, and the lines on the two outputs. -/
structure Outcome where
  code : Nat
  lines : List String
  errors : List String
  deriving DecidableEq, Repr

namespace Outcome

def success (lines : List String) : Outcome :=
  ⟨0, lines, []⟩

/-- A message with its causes. -/
def failure (lines : List String) : List String → Outcome
  | [] => ⟨1, lines, ["error: unknown"]⟩
  | message :: causes => ⟨1, lines, s!"error: {message}" :: causes.map fun cause => s!"  caused by: {cause}"⟩

def json (d : Document) : Outcome :=
  success ((Json.writeLines d).splitOn "\n")

/-- The outcome with lines printed before it. -/
def after (lines : List String) (o : Outcome) : Outcome :=
  { o with lines := lines ++ o.lines }

end Outcome

/-- An error with its causes. -/
def causes (e : Error) : List String :=
  match e with
  | .file reason => [e.message, reason]
  | _ => [e.message]

def usualStore (workspace : String) : String :=
  s!"{workspace}/.schema-impact/impact.db"

namespace Invocation

variable {m : Type → Type} [Monad m]

def root (i : Invocation) : String :=
  i.workspace.getD "."

def storePath (i : Invocation) : String :=
  i.store.getD (usualStore i.root)

/-- The settings in a file. -/
def settingsIn (host : Host m) (file : String) : m (Except Error Settings) := do
  match ← host.fileText file with
  | .error reason => return .error (.file reason)
  | .ok text => return Settings.ofText file text

/-- The settings of the file that is named, else of the usual file, else the default ones. -/
def discover (host : Host m) (i : Invocation) : m (Except Error Settings) := do
  match i.settings with
  | some file => settingsIn host file
  | none =>
    let file := Settings.usualFile i.root
    if ← host.isFile file then settingsIn host file else return .ok .default

/-- The settings with a depth in place of theirs; an error comes with its causes. -/
def settingsWith (host : Host m) (i : Invocation) (depth : Option Nat) : m (Except (List String) Settings) := do
  match ← i.discover host with
  | .error e => return .error ("failed to load configuration" :: causes e)
  | .ok s =>
    let s := { s with maxDepth := depth.getD s.maxDepth }
    return s.validated.mapError causes

/-- Opens the store and goes on with it and the settings. -/
def withStore (host : Host m) (i : Invocation) (depth : Option Nat) (go : Store → Settings → m Outcome) :
    m Outcome := do
  match ← i.settingsWith host depth with
  | .error chain => return .failure [] chain
  | .ok settings =>
    match ← host.openStore i.storePath with
    | .error reason => return .failure [] [s!"failed to open database {i.storePath}", reason]
    | .ok store => go store settings

def importCatalog (host : Host m) (i : Invocation) (file : String) : m Outcome :=
  i.withStore host none fun store _ => do
    let read := (← host.fileText file).mapError Error.file
    let imported := do
      let ds ← Catalog.ofText file (← read)
      return (ds, ← store.declareAll i.project ds)
    match imported with
    | .error e => return .failure [] (s!"failed to import {file}" :: causes e)
    | .ok (ds, store) =>
      host.saveStore i.storePath store
      return .success (importLines i.project ds.length (ds.countP (·.definition.isSome)))

def sync (host : Host m) (i : Invocation) : m Outcome := do
  let outcome ← i.withStore host none fun store _ => do
    let (store, report) := store.sync i.project
    host.saveStore i.storePath store
    return .success (syncLines report)
  return outcome.after [s!"Syncing project {i.project}..."]

def extract (host : Host m) (file : String) (kind : ObjectKind) (json : Bool) : m Outcome := do
  match ← host.fileText file with
  | .error reason => return .failure [] [s!"failed to read {file}", reason]
  | .ok sql =>
    match Extraction.ofText ⟨kind, 0⟩ sql with
    | .error e => return .failure [] [e.message]
    | .ok e =>
      if json then return .json e.document
      else return .success (extractionLines ((FileName.stem? file).getD "definition") e)

def dependencies (host : Host m) (i : Invocation) (json : Bool) : m Outcome :=
  i.withStore host none fun store _ => do
    let edges := store.dependencies i.project
    let nameOf (e : Entity) := ((store.object? i.project e).map Catalog.Object.qualified).getD e.tag
    if json then return .json (.list (edges.map Edge.document))
    else return .success (edgeLines nameOf edges)

def impact (host : Host m) (i : Invocation) (target : String) (kind : Option ObjectKind) (change : Change)
    (depth : Option Nat) (listPaths json : Bool) : m Outcome :=
  i.withStore host depth fun store settings => do
    match store.findEntity i.project kind target with
    | .error e => return .failure [] (s!"cannot analyse '{target}'" :: causes e)
    | .ok root =>
      match store.analyze settings ⟨settings.approvalThreshold⟩ i.project root change with
      | .error e => return .failure [] (causes e)
      | .ok a =>
        if json then return .json a.report
        else return .success (impactLines a ++ if listPaths then pathLines a.paths else [])

def run (host : Host m) (i : Invocation) : m Outcome :=
  match i.command with
  | .importCatalog file => i.importCatalog host file
  | .sync => i.sync host
  | .extract file kind json => extract host file kind json
  | .dependencies json => i.dependencies host json
  | .impact target kind change depth listPaths json => i.impact host target kind change depth listPaths json
  | .catalogSchema => return .json Catalog.Schema.document

end Invocation

/-- The version of the program. -/
def version : String :=
  "0.1.0"

def usage : List String := [
  "Usage: schema-impact [OPTIONS] <COMMAND>",
  "",
  "Commands: import, sync, extract, deps, impact, catalog-schema, help"]

def Refusal.outcome : Refusal → Outcome
  | help => .success usage
  | version command =>
    let name := (command.map fun c => s!"schema-impact-{c}").getD "schema-impact"
    .success [s!"{name} {CommandLine.version}"]
  | misuse => ⟨2, [], usage⟩

/-- Carries out a command line. -/
def execute {m : Type → Type} [Monad m] (host : Host m) (arguments : List String) : m Outcome :=
  match Invocation.ofArguments arguments with
  | .error refusal => return refusal.outcome
  | .ok i => i.run host

end ChangeImpact.CommandLine
