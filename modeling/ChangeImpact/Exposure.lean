import ChangeImpact.Path

/-!
# Exposure

What the paths together mean for each affected object, worst first, and for the change as a whole.

* `Exposure.ofPaths`: an object for all its visits, one for each path that meets it;
* `Summary.ofPaths`: the first path of the highest risk speaks for the change.
-/

namespace ChangeImpact

/-- A path meets an affected object at a number of steps from the root. -/
structure Visit where
  path : Path
  distance : Nat
  step : Step

def Visit.entity (v : Visit) : Entity :=
  v.step.entity

def Path.visits (p : Path) : List Visit :=
  p.steps.zipIdx.map fun (step, i) => ⟨p, i + 1, step⟩

/-- The first path of the highest risk, beginning with a given one. -/
def Path.worst (p : Path) (ps : List Path) : Path :=
  ps.foldl (fun worst p => if p.risk > worst.risk then p else worst) p

structure Exposure where
  object : NamedEntity
  criticality : Nat
  /-- The fewest steps from the root. -/
  distance : Nat
  /-- How the object uses those before it on its paths, in the order of severity. -/
  usages : List Usage
  worstSeverity : Severity
  worstRisk : Nat
  cumulativeRisk : Nat
  /-- The first path of the worst risk. -/
  dominantPath : String
  /-- All paths that meet the object. -/
  paths : List String
  deriving DecidableEq, Repr

namespace Exposure

def entity (e : Exposure) : Entity :=
  e.object.entity

/-- The object changes rows of one before it. -/
def writes (e : Exposure) : Bool :=
  e.usages.any Usage.isWrite

/-- The worse risk first, then the nearer object, then by entity. -/
def le (a b : Exposure) : Bool :=
  if a.worstRisk = b.worstRisk then
    if a.distance = b.distance then a.entity.le b.entity else a.distance ≤ b.distance
  else b.worstRisk ≤ a.worstRisk

/-- An object for its first visit and the others. -/
def ofVisits (first : Visit) (others : List Visit) : Exposure :=
  let visits := first :: others
  let worst := first.path.worst (others.map Visit.path)
  { object := first.step.node.object
    criticality := first.step.node.criticality
    distance := others.foldl (fun least v => min least v.distance) first.distance
    usages := Usage.all.filter fun usage => visits.any fun v => v.step.usage == usage
    worstSeverity := worst.severity
    worstRisk := worst.risk
    cumulativeRisk := visits.foldr (fun v total => v.path.risk + total) 0
    dominantPath := worst.id
    paths := distinctBy id [] (visits.map fun v => v.path.id) }

def ofPaths (paths : List Path) : List Exposure :=
  let visits := paths.flatMap Path.visits
  let objects := distinctBy id [] (visits.map Visit.entity)
  sortBy le <| objects.filterMap fun e =>
    match visits.filter (·.entity = e) with
    | [] => none
    | first :: others => some (ofVisits first others)

end Exposure

structure Summary where
  worstSeverity : Severity
  worstRisk : Nat
  /-- The object that accounts for the worst path; the root if there is none. -/
  trigger : NamedEntity
  triggerPath : Option String
  requiresApproval : Bool
  deriving DecidableEq, Repr

namespace Summary

/-- Nothing is affected. -/
def nothing (root : NamedEntity) : Summary :=
  ⟨.none, 0, root, none, false⟩

def ofPaths (root : NamedEntity) : List Path → Summary
  | [] => nothing root
  | p :: ps =>
    let worst := p.worst ps
    ⟨worst.severity, worst.risk, (worst.score.map Score.dominant).getD worst.leaf.object, some worst.id, false⟩

end Summary

end ChangeImpact
