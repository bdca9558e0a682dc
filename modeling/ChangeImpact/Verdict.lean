import ChangeImpact.Analysis

/-!
# Verdicts

An analysis in words. Each reason gives a fact, what it means for the change, and the objects behind it; reasons come
in the order of their priority.
-/

namespace ChangeImpact

structure Reason where
  /-- A lower number is more important. -/
  priority : Nat
  statement : String
  implication : String
  /-- The labels of the objects behind the statement. -/
  evidence : List String
  deriving DecidableEq, Repr

structure Verdict where
  severity : Severity
  requiresApproval : Bool
  summary : String
  reasons : List Reason
  limitations : List String
  deriving DecidableEq, Repr

namespace Verdict

/-- The word for one, or the word for another number. -/
def agree (count : Nat) (singular plural : String) : String :=
  if count = 1 then singular else plural

def areFor (exposures : List Exposure) : String :=
  agree exposures.length "is" "are"

/-- Joins parts by commas, the last by "and". -/
def enumerate : List String → String
  | [] => "no entities"
  | [part] => part
  | [part, last] => s!"{part} and {last}"
  | part :: parts => s!"{part}, {enumerate parts}"

/-- How many objects of each kind there are. -/
def census (exposures : List Exposure) : String :=
  enumerate <| [ObjectKind.table, .view, .procedure, .function].filterMap fun kind =>
    let count := exposures.countP (·.entity.kind == kind)
    if count = 0 then none else some s!"{count} {kind.noun count}"

/-- Criticality from which on an affected object is pointed out. -/
def highCriticality : Nat := 4

/-- A reason that a list of exposures gives, if it is not empty. -/
def reason? (priority : Nat) (statement : List Exposure → String) (implication : String)
    (exposures : List Exposure) : Option Reason :=
  if exposures.isEmpty then none
  else some ⟨priority, statement exposures, implication, exposures.map (·.object.label)⟩

/-- The objects that use the root themselves. -/
def direct (a : Analysis) : List Exposure :=
  a.exposures.filter (·.distance = 1)

def schemaBound (a : Analysis) : Option Reason :=
  let root := a.root.label
  reason? 1 (fun es => s!"{census es} {areFor es} schema-bound to {root}")
    s!"{root} cannot be altered or dropped until these objects are changed first"
    ((direct a).filter (·.usages.contains .schemaBinding))

def writers (a : Analysis) : Option Reason :=
  reason? 2
    (fun es =>
      let write := agree es.length "writes" "write"
      s!"{census es} {write} to {a.root.label}")
    "column, constraint or key changes can break their INSERT, UPDATE and DELETE statements"
    ((direct a).filter Exposure.writes)

def callers (a : Analysis) : Option Reason :=
  reason? 3
    (fun es =>
      let call := agree es.length "calls" "call"
      s!"{census es} {call} {a.root.label}")
    "parameter or result-set changes break their calls"
    ((direct a).filter (·.usages.contains .exec))

def referrers (a : Analysis) : Option Reason :=
  if a.change = .delete then
    reason? 4 (fun es => s!"{a.root.label} is referenced by {census es}")
      "dropping it breaks every one of them at run time" (direct a)
  else none

def critical (a : Analysis) : Option Reason :=
  reason? 5 (fun es => s!"{census es} with criticality {highCriticality} or higher {areFor es} affected")
    "failures there have business impact; involve their owners in the review"
    (a.exposures.filter fun e => highCriticality ≤ e.criticality)

def readers (a : Analysis) : Option Reason :=
  reason? 6
    (fun es =>
      let read := agree es.length "reads" "read"
      s!"{census es} {read} from {a.root.label}")
    "renamed or removed columns break their queries"
    ((direct a).filter (·.usages.contains .select))

def indirect (a : Analysis) : Option Reason :=
  reason? 7
    (fun es =>
      let depend := agree es.length "depends" "depend"
      s!"{census es} {depend} on {a.root.label} indirectly, up to {a.depthReached} hops away")
    "regressions may surface far from the change; test end-to-end callers"
    (a.exposures.filter (1 < ·.distance))

def truncation (a : Analysis) : Option Reason :=
  if a.isTruncated then
    let causes := "; ".intercalate (a.limits.map Limit.message)
    some ⟨8, s!"the analysis was cut short: {causes}", "the real impact may be larger than reported", []⟩
  else none

/-- The reasons that apply; each has its own priority. -/
def reasonsFor (a : Analysis) : List Reason :=
  [schemaBound a, writers a, callers a, referrers a, critical a, readers a, indirect a, truncation a].filterMap id

def gerund : Change → String
  | .create => "Creating"
  | .modify => "Modifying"
  | .delete => "Deleting"

def sentence (a : Analysis) : String :=
  let subject := s!"{gerund a.change} {a.root.label}"
  if a.exposures.isEmpty then s!"{subject} has no known downstream impact."
  else
    let entities := agree a.exposures.length "entity" "entities"
    let paths := agree a.paths.length "path" "paths"
    let approval := if a.summary.requiresApproval then " and requires approval" else ""
    s!"{subject} affects {a.exposures.length} {entities} over {a.paths.length} dependency {paths}, " ++
      s!"with {a.summary.worstSeverity.name} worst-case impact{approval}."

/-- What the analysis cannot see. -/
def limitationsOf (a : Analysis) : List String :=
  ["Static analysis cannot see dynamic SQL (EXEC of a string, sp_executesql); " ++
    "dependencies created that way are missing.",
   "References to objects outside the synced schema (system objects, other " ++
    "databases, linked servers) are not resolved and not shown."] ++
  (if a.isTruncated then
    [s!"Traversal stopped at {a.settings.maxDepth} edges or {a.settings.maxPaths} paths; " ++
      "entities beyond that are not scored."]
  else []) ++
  (if a.exposures.isEmpty then
    ["No dependents were found, which also happens when the project has not been " ++
      "synced since its definitions last changed."]
  else [])

def ofAnalysis (a : Analysis) : Verdict :=
  ⟨a.summary.worstSeverity, a.summary.requiresApproval, sentence a, reasonsFor a, limitationsOf a⟩

end Verdict

end ChangeImpact
