import ChangeImpact.Extraction
import ChangeImpact.Resolution
import ChangeImpact.Store

/-!
# Synchronization

Reads the definitions of a project again and replaces the edges of every object that has, or should have, one. A
definition that is missing or cannot be read is reported; its object is left without edges.
-/

namespace ChangeImpact

/-- Why a definition contributed nothing. -/
inductive SyncFault where
  | missingDefinition
  | nesting (e : Sql.NestingTooDeep)
  /-- The reading of the definition broke down. -/
  | crashed (reason : String)
  deriving DecidableEq, Repr

namespace SyncFault

def label : SyncFault → String
  | missingDefinition => "missing definition"
  | nesting _ => "nesting too deep"
  | crashed _ => "extractor panicked"

def message : SyncFault → String
  | missingDefinition => "catalog has no definition for this object"
  | nesting e => e.message
  | crashed reason => reason

/-- The fault lies in the definition, and not in the reading of it. -/
def isInInput : SyncFault → Bool
  | missingDefinition | nesting _ => true
  | crashed _ => false

end SyncFault

structure SyncFailure where
  source : NamedEntity
  fault : SyncFault
  deriving DecidableEq, Repr

def SyncFailure.text (f : SyncFailure) : String :=
  s!"{f.source.describe}: {f.fault.message} ({f.fault.label})"

structure SyncReport where
  /-- The number of definitions that were read, also of those without success. -/
  analyzed : Nat
  failures : List SyncFailure
  references : Nat
  resolved : Nat
  unresolved : Nat
  diagnostics : Nat
  joins : List JoinCondition

namespace Store

open Catalog (Object)

/-- What the definition of an object says about other objects. -/
def extraction (o : Object) : Except SyncFault Extraction :=
  match o.definition with
  | none => .error .missingDefinition
  | some sql => (Extraction.ofText o.entity sql).mapError .nesting

def failure? (o : Object) : Option SyncFailure :=
  match extraction o with
  | .ok _ => none
  | .error fault => some ⟨o.named, fault⟩

def resolver (s : Store) (project : Int) : Resolver :=
  .ofCatalog project (s.entriesOf project (ObjectKind.family .table))
    (s.entriesOf project (ObjectKind.family .procedure))

/-- Resolves references, and replaces the edges of the sources by what they resolve to. -/
def resolveAndReplace (s : Store) (project : Int) (sources : List Entity) (references : List Reference) :
    Store × Resolution :=
  let resolution := (s.resolver project).resolve references
  ((s.replace project sources resolution.edges).1, resolution)

def sync (s : Store) (project : Int) : Store × SyncReport :=
  let objects := s.definitionsOf project
  let extractions := objects.filterMap fun o => (extraction o).toOption
  let references := extractions.flatMap Extraction.references
  let (synced, resolution) := s.resolveAndReplace project (objects.map Object.entity) references
  (synced,
    { analyzed := objects.countP (·.definition.isSome)
      failures := objects.filterMap failure?
      references := references.length
      resolved := resolution.edges.length
      unresolved := resolution.unresolved.length
      diagnostics := (extractions.flatMap (·.diagnostics)).length
      joins := extractions.flatMap Extraction.joins })

end Store

end ChangeImpact
