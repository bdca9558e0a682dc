import ChangeImpact.Path

/-!
# Enumeration of paths

All paths from the changed object that cannot go on, or may not because of a cap, level by level: a path of fewer
steps comes before one of more, and paths of as many steps in the order of their hops.

A trail is a path in the making. It goes on to every affected object that it has not met, so a level holds the
trails of one length, and there are no more levels than objects.

* The cap on the depth ends a trail where it stands.
* The cap on paths bounds the paths that are kept as well as the trails that wait.
-/

namespace ChangeImpact

structure Caps where
  depth : Nat
  paths : Nat
  deriving DecidableEq, Repr

/-- Caps of zero allow one step and one path like caps of one. -/
def Caps.atLeastOne (c : Caps) : Caps :=
  ⟨max 1 c.depth, max 1 c.paths⟩

/-- A cap that cut an enumeration short. -/
inductive Limit where
  | depth (cap : Nat)
  | paths (cap : Nat)
  deriving DecidableEq, Repr

def Limit.message : Limit → String
  | .depth cap => s!"dependency chains longer than {cap} edges were cut off"
  | .paths cap => s!"path enumeration stopped after {cap} paths"

structure Trail where
  root : Entity
  hops : List Hop
  deriving DecidableEq, Repr

namespace Trail

def entities (t : Trail) : List Entity :=
  t.root :: t.hops.map Hop.entity

def tail (t : Trail) : Entity :=
  (t.hops.getLast?.map Hop.entity).getD t.root

def extend (t : Trail) (hop : Hop) : Trail :=
  ⟨t.root, t.hops ++ [hop]⟩

end Trail

namespace Graph

/-- The steps by which a trail may go on. -/
def continuations (g : Graph) (t : Trail) : List Hop :=
  (g.affected t.tail).filter fun hop => !t.entities.contains hop.entity

def path? (g : Graph) (t : Trail) : Option Path := do
  let nodes ← t.entities.mapM g.node?
  Path.ofNodes? nodes (t.hops.map Hop.usage)

end Graph

/-- What became of the trails of a level, or of all levels from one on. -/
structure Walk where
  /-- Trails that ended. -/
  kept : List Trail
  /-- Trails of the next level. -/
  waiting : List Trail
  limits : List Limit
  /-- The enumeration is over. -/
  stopped : Bool

namespace Walk

def finish : Walk :=
  ⟨[], [], [], false⟩

def stop (limit : Limit) : Walk :=
  ⟨[], [], [limit], true⟩

def keep (t : Trail) (limits : List Limit) (w : Walk) : Walk :=
  { w with kept := t :: w.kept, limits := limits ++ w.limits }

def queue (ts : List Trail) (limits : List Limit) (w : Walk) : Walk :=
  { w with waiting := ts ++ w.waiting, limits := limits ++ w.limits }

end Walk

namespace Graph

/-- Takes the trails of a level one by one. `kept` counts the paths kept before, and `waiting` the trails that wait:
those of the level and those of the next one found so far. -/
def walkLevel (g : Graph) (caps : Caps) (kept waiting : Nat) : List Trail → Walk
  | [] => .finish
  | t :: ts =>
    if caps.paths ≤ kept then .stop (.paths caps.paths)
    else
      let next := g.continuations t
      if next.isEmpty then
        .keep t [] (g.walkLevel caps (kept + 1) (waiting - 1) ts)
      else if caps.depth ≤ t.hops.length then
        .keep t [.depth caps.depth] (g.walkLevel caps (kept + 1) (waiting - 1) ts)
      else
        let room := caps.paths - (waiting - 1)
        let limits := if next.length ≤ room then [] else [Limit.paths caps.paths]
        if room = 0 then
          .keep t limits (g.walkLevel caps (kept + 1) (waiting - 1) ts)
        else
          let queued := (next.take room).map t.extend
          .queue queued limits (g.walkLevel caps kept (waiting - 1 + queued.length) ts)

/-- Takes a level and as many after it. -/
def walk (g : Graph) (caps : Caps) : Nat → Nat → List Trail → Walk
  | 0, _, _ => .finish
  | levels + 1, kept, level =>
    let first := g.walkLevel caps kept level.length level
    if first.stopped then first
    else
      let rest := g.walk caps levels (kept + first.kept.length) first.waiting
      ⟨first.kept ++ rest.kept, rest.waiting, first.limits ++ rest.limits, rest.stopped⟩

end Graph

structure Enumeration where
  paths : List Path
  /-- Each limit once, in the order in which they were met. -/
  limits : List Limit

namespace Enumeration

/-- A root on its own is a trail but no path. -/
def ofGraph (g : Graph) (caps : Caps) : Enumeration :=
  let w := g.walk caps.atLeastOne g.nodes.length 0 [⟨g.root.entity, []⟩]
  ⟨w.kept.filterMap g.path?, distinctBy id [] w.limits⟩

/-- The number of steps of the longest path. -/
def depthReached (e : Enumeration) : Nat :=
  e.paths.foldl (fun depth p => max depth p.depth) 0

def isTruncated (e : Enumeration) : Bool :=
  !e.limits.isEmpty

end Enumeration

end ChangeImpact
