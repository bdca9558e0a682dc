import ChangeImpact.Change
import ChangeImpact.Path

/-!
# Risk

The risk of a path is the product of the weight of its most severe usage, its highest criticality, a percentage for
the change and a percentage for its depth. `Risk.snapshot` writes all constants down, so that a report shows what it
was made with.
-/

namespace ChangeImpact.Risk

/-- Raised whenever a constant changes. -/
def version : Nat := 1

def weight : Usage → Nat
  | .select => 10
  | .exec => 20
  | .insert => 30
  | .update => 35
  | .delete => 40
  | .schemaBinding => 50

def changePercent : Change → Nat
  | .create => 50
  | .modify => 100
  | .delete => 150

/-- What each step after the first takes away. -/
def stepPercent : Nat := 10

def leastDepthPercent : Nat := 50

def depthPercent (depth : Nat) : Nat :=
  max leastDepthPercent (100 - stepPercent * (depth - 1))

/-- The least risk of each severity above none, from the highest. -/
def floors : List (Severity × Nat) :=
  [(.critical, 200), (.high, 120), (.medium, 50), (.low, 1)]

def severity (risk : Nat) : Severity :=
  ((floors.find? fun (_, least) => least ≤ risk).map Prod.fst).getD .none

/-- All constants on one line. -/
def snapshot : String :=
  let weights := ",".intercalate (Usage.all.map fun u => s!"{u.keyword}={weight u}")
  let changes := ",".intercalate (Change.all.map fun c => s!"{c.name}={changePercent c}%")
  let levels := ",".intercalate (floors.reverse.map fun (s, least) => s!"{s.name}>={least}")
  let range := s!"max({Criticality.lowest}..{Criticality.highest})"
  s!"v{version};weights[{weights}];criticality={range};change[{changes}];" ++
    s!"depth[-{stepPercent}%/hop,floor={leastDepthPercent}%];levels[{levels}]"

/-- The risk of a path for a change. -/
def ofPath (change : Change) (p : Path) : Nat :=
  weight p.worstUsage * p.worstCriticality * changePercent change * depthPercent p.depth / 10000

/-- The affected node of the highest criticality, of several the one nearest to the root. -/
def dominant (p : Path) : Node :=
  match p.steps with
  | [] => p.root
  | s :: ss => ss.foldl (fun best s => if s.node.criticality > best.criticality then s.node else best) s.node

def score (change : Change) (p : Path) : Score where
  risk := ofPath change p
  severity := severity (ofPath change p)
  dominant := (dominant p).object
  usage := p.worstUsage

/-- The path with its score for a change. -/
def evaluate (change : Change) (p : Path) : Path :=
  { p with score := some (score change p) }

end ChangeImpact.Risk
