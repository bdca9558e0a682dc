import ChangeImpact.Extraction
import ChangeImpact.Store.Sync
import ChangeImpact.Text.Uppercase
import ChangeImpact.Verdict

/-!
# Listings

What the commands print, line by line. Long lists are cut short, and say so.
-/

namespace ChangeImpact.CommandLine

/-- The number of items that a list shows. -/
def maxItems : Nat := 10

/-- The number of paths that a list of paths shows. -/
def maxPaths : Nat := 50

/-- Marked items, or a text that stands for none. -/
def itemLines (items : List String) (none : String) : List String :=
  if items.isEmpty then [s!"    {none}"]
  else
    (items.take maxItems).map (fun item => s!"    • {item}") ++
      if maxItems < items.length then [s!"    • ... and {items.length - maxItems} more"] else []

def counted (count : Nat) (singular plural : String) : String :=
  let noun := if count = 1 then singular else plural
  s!"{count} {noun}"

def severityMark (s : Severity) : String :=
  Text.asciiUpper s.name

def importLines (project : Int) (objects definitions : Nat) : List String := [
  s!"Imported {objects} objects into project {project} ({definitions} with definitions)",
  "Run \x60schema-impact sync\x60 to refresh dependency edges."]

/-! ### Synchronization -/

def failureLines (failures : List SyncFailure) : List String :=
  let crashes := failures.countP fun f => !f.fault.isInInput
  ["", s!"Failures ({failures.length}):"] ++
    (failures.take maxItems).map (fun f => s!"  • {f.source.describe}: {f.fault.message}") ++
    (if maxItems < failures.length then [s!"  ... and {failures.length - maxItems} more"] else []) ++
    if 0 < crashes then [s!"  {crashes} of these are extractor crashes; please report them."] else []

def syncLines (r : SyncReport) : List String :=
  ["", s!"Analysed {r.analyzed} definitions, found {r.references} references, stored {r.resolved} edges"] ++
    (if 0 < r.unresolved then
      [s!"Unresolved references: {r.unresolved} (system objects or objects outside the catalog)"]
    else []) ++
    (if 0 < r.diagnostics then [s!"Parser diagnostics: {r.diagnostics} (rerun with -vv for details)"] else []) ++
    (if r.joins.isEmpty then [] else [s!"Join conditions: {r.joins.length}"]) ++
    if r.failures.isEmpty then [] else failureLines r.failures

/-! ### Extraction -/

def referenceLine (r : Reference) : String :=
  s!"{r.targetName} {r.usage.keyword} ({r.targetKind.name})"

def extractionLines (owner : String) (e : Extraction) : List String :=
  [s!"Dependencies of {owner}:", "", s!"  References ({e.references.length}):"] ++
    itemLines (e.references.map referenceLine) "(none)" ++
    ["", s!"  Join conditions ({e.joins.length}):"] ++
    itemLines (e.joins.map JoinCondition.text) "(none)" ++
    (if 0 < e.dynamicSql then
      let sites := counted e.dynamicSql "site" "sites"
      ["", s!"  Dynamic SQL: {sites} not analysed"]
    else []) ++
    if e.diagnostics.isEmpty then []
    else ["", s!"  Diagnostics ({e.diagnostics.length}):"] ++ itemLines (e.diagnostics.map (·.text)) "(none)"

/-! ### Edges -/

def edgeLines (nameOf : Entity → String) (edges : List Edge) : List String :=
  if edges.isEmpty then ["No dependencies stored. Run \x60schema-impact sync\x60 first."]
  else
    s!"Dependencies ({edges.length}):" :: edges.map fun e =>
      s!"  {nameOf e.source} → {nameOf e.target} {e.usage.keyword}"

/-! ### Impact -/

def reasonLines (r : Reason) : List String :=
  [s!"    • {Text.capitalize r.statement}.", s!"      → {r.implication}"] ++
    if r.evidence.isEmpty then [] else itemLines r.evidence ""

def exposureLine (e : Exposure) : String :=
  let hops := counted e.distance "hop" "hops"
  s!"{severityMark e.worstSeverity} {e.object.describe} " ++
    s!"(criticality {e.criticality}, {hops} away, score {e.worstRisk})"

def impactLines (a : Analysis) : List String :=
  let v := Verdict.ofAnalysis a
  let approval := if v.requiresApproval then "approval required" else "no approval required"
  let entities := counted a.exposures.length "entity" "entities"
  let paths := counted a.paths.length "path" "paths"
  [s!"Impact of {a.change.name} {a.root.describe}:", "",
    s!"  Risk: {severityMark v.severity} (score {a.summary.worstRisk}, {approval})",
    s!"    {v.summary}"] ++
    (if v.reasons.isEmpty then [] else ["", "  Why:"] ++ v.reasons.flatMap reasonLines) ++
    ["", s!"  Affected ({entities}, {paths}):"] ++
    itemLines (a.exposures.map exposureLine) "(none)" ++
    ["", "  Limitations:"] ++
    v.limitations.map fun l => s!"    - {l}"

def pathLine (p : Path) : String :=
  let chain := String.join (p.steps.map fun s => s!" ={s.usage.keyword}=> {s.node.object.label}")
  s!"    {severityMark p.severity} {p.id} {p.root.object.label}{chain}"

def pathLines (paths : List Path) : List String :=
  ["", "  Paths:"] ++ (paths.take maxPaths).map pathLine ++
    if maxPaths < paths.length then
      [s!"    ... and {paths.length - maxPaths} more (use --json for all)"]
    else []

end ChangeImpact.CommandLine
