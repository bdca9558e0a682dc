import ChangeImpact.Report.Analysis
import ChangeImpact.Report.Resolution
import ChangeImpact.Store.Downstream
import ChangeImpact.Store.Sync

/-!
# What the store holds as documents
-/

namespace ChangeImpact

open Document (ofOption ofNat)

def Catalog.Entry.document (e : Catalog.Entry) : Document :=
  .object [
    ("id", .int e.entity.id),
    ("type", .text e.entity.kind.name),
    ("schema", ofOption .text e.schema),
    ("name", .text e.name)]

def Catalog.Object.document (o : Catalog.Object) : Document :=
  .object [
    ("id", .int o.id),
    ("project_id", .int o.project),
    ("object_type", .text o.kind.name),
    ("schema_name", ofOption .text o.schema?),
    ("name", .text o.name),
    ("criticality_level", ofOption ofNat o.criticality),
    ("definition", ofOption .text o.definition)]

def Dependent.document (d : Dependent) : Document :=
  .object [
    ("source_type", .text d.source.entity.kind.name),
    ("source_id", .int d.source.entity.id),
    ("target_type", .text d.target.entity.kind.name),
    ("target_id", .int d.target.entity.id),
    ("dependency_type", d.usage.document),
    ("depth", ofNat d.depth),
    ("source_name", ofOption .text d.source.name),
    ("target_name", ofOption .text d.target.name),
    ("source_criticality", ofOption .int d.criticality)]

def SyncFailure.document (f : SyncFailure) : Document :=
  .object [
    ("source", f.source.document),
    ("kind", .text f.fault.label),
    ("message", .text f.fault.message),
    ("display", .text f.text),
    ("input_error", .bool f.fault.isInInput),
    ("internal_error", .bool (!f.fault.isInInput))]

def SyncReport.document (r : SyncReport) : Document :=
  .object [
    ("sources_analyzed", ofNat r.analyzed),
    ("failure_count", ofNat r.failures.length),
    ("failures", .list (r.failures.map SyncFailure.document)),
    ("raw", ofNat r.references),
    ("resolved", ofNat r.resolved),
    ("unresolved", ofNat r.unresolved),
    ("diagnostics", ofNat r.diagnostics),
    ("join_conditions", .list (r.joins.map JoinCondition.document))]

end ChangeImpact
