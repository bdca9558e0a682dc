import ChangeImpact.Digest.Sha256
import ChangeImpact.Graph
import ChangeImpact.Severity

/-!
# Dependency paths

A path leads from the changed object over at least one step to objects that are affected, and meets none twice.

* `Path.identity` writes the objects and usages of a path down; `Path.idOf` is a digest of it;
* `Path.ofNodes?` puts a path together, if what it is given is one.
-/

namespace ChangeImpact

structure Step where
  usage : Usage
  node : Node
  deriving DecidableEq, Repr

def Step.entity (s : Step) : Entity :=
  s.node.entity

def Step.hop (s : Step) : Hop :=
  ⟨s.usage, s.entity⟩

/-- The risk of a path, with the object and the usage that account for most of it. -/
structure Score where
  risk : Nat
  severity : Severity
  dominant : NamedEntity
  usage : Usage
  deriving DecidableEq, Repr

structure Path where
  id : String
  root : Node
  steps : List Step
  /-- None until the path has been evaluated. -/
  score : Option Score
  steps_ne_nil : steps ≠ []
  entities_nodup : (root.entity :: steps.map Step.entity).Nodup

namespace Path

/-- The text that identifies a path: its objects with the usages between them. -/
def identity (root : Entity) (hops : List Hop) : String :=
  hops.foldl (fun text hop => s!"{text}>{hop.usage.keyword}>{hop.entity.key}") root.key

/-- Two digits for each byte. -/
def hex (bytes : List UInt8) : String :=
  let digit (n : Nat) : Char := if n < 10 then .ofNat ('0'.toNat + n) else .ofNat ('a'.toNat + (n - 10))
  .ofList <| bytes.flatMap fun b => [digit (b.toNat / 16), digit (b.toNat % 16)]

/-- The first eight bytes of the digest of a path's identity. -/
def idOf (root : Entity) (hops : List Hop) : String :=
  hex ((Digest.sha256 (identity root hops).toUTF8.toList).take 8)

/-- A path over the given objects, with a usage between each two of them. -/
def ofNodes? (nodes : List Node) (usages : List Usage) : Option Path :=
  match nodes with
  | [] => none
  | root :: others =>
    if others.length = usages.length then
      let steps := List.zipWith Step.mk usages others
      if h : steps ≠ [] ∧ (root.entity :: steps.map Step.entity).Nodup then
        some ⟨idOf root.entity (steps.map Step.hop), root, steps, none, h.1, h.2⟩
      else none
    else none

def nodes (p : Path) : List Node :=
  p.root :: p.steps.map Step.node

def usages (p : Path) : List Usage :=
  p.steps.map Step.usage

/-- The number of steps. -/
def depth (p : Path) : Nat :=
  p.steps.length

/-- The last object. -/
def leaf (p : Path) : Node :=
  (p.steps.getLast p.steps_ne_nil).node

/-- The most severe usage. -/
def worstUsage (p : Path) : Usage :=
  p.usages.foldl Usage.max .select

/-- The highest criticality of an affected object. -/
def worstCriticality (p : Path) : Nat :=
  p.steps.foldl (fun level s => max level s.node.criticality) 0

def risk (p : Path) : Nat :=
  (p.score.map Score.risk).getD 0

def severity (p : Path) : Severity :=
  (p.score.map Score.severity).getD .none

end Path

end ChangeImpact
