import ChangeImpact.Document
import ChangeImpact.Verdict

/-!
# Analyses as documents
-/

namespace ChangeImpact

open Document (ofOption ofNat)

def NamedEntity.document (e : NamedEntity) : Document :=
  .object [
    ("entity_type", .text e.entity.kind.name),
    ("entity_id", .int e.entity.id),
    ("display_name", ofOption .text e.name)]

def Usage.document (u : Usage) : Document :=
  .text u.name

def Node.document (n : Node) : Document :=
  .object [("entity", n.object.document), ("criticality_level", ofNat n.criticality)]

def Score.document (s : Score) : Document :=
  .object [
    ("risk_score", ofNat s.risk),
    ("impact_level", .text s.severity.name),
    ("dominant_entity", s.dominant.document),
    ("dominant_dependency_type", s.usage.document)]

def Path.document (p : Path) : Document :=
  .object [
    ("path_id", .text p.id),
    ("nodes", .list (p.nodes.map fun n => n.object.document)),
    ("criticality", .list (p.nodes.map fun n => ofNat n.criticality)),
    ("edges", .list (p.usages.map Usage.document)),
    ("max_dependency_type", p.worstUsage.document),
    ("max_criticality_level", ofNat p.worstCriticality),
    ("score", ofOption Score.document p.score)]

def Limit.document : Limit → Document
  | .depth cap => .object [("reason", .text "depth_limit"), ("max_depth", ofNat cap)]
  | .paths cap => .object [("reason", .text "path_limit"), ("max_paths", ofNat cap)]

def Exposure.document (e : Exposure) : Document :=
  .object [
    ("entity", e.object.document),
    ("criticality_level", ofNat e.criticality),
    ("distance", ofNat e.distance),
    ("dependency_types", .list (e.usages.map Usage.document)),
    ("worst_impact_level", .text e.worstSeverity.name),
    ("worst_risk_score", ofNat e.worstRisk),
    ("cumulative_risk_score", ofNat e.cumulativeRisk),
    ("dominant_path_id", .text e.dominantPath),
    ("path_ids", .list (e.paths.map .text))]

def Summary.document (s : Summary) : Document :=
  .object [
    ("worst_impact_level", .text s.worstSeverity.name),
    ("worst_risk_score", ofNat s.worstRisk),
    ("triggering_entity", s.trigger.document),
    ("triggering_path_id", ofOption .text s.triggerPath),
    ("requires_approval", .bool s.requiresApproval)]

def Analysis.document (a : Analysis) : Document :=
  .object [
    ("root", a.root.document),
    ("change_type", .text a.change.name),
    ("scoring_version", ofNat Risk.version),
    ("policy_snapshot", .text Risk.snapshot),
    ("approval_policy", .text a.policy.describe),
    ("max_depth", ofNat a.settings.maxDepth),
    ("max_paths", ofNat a.settings.maxPaths),
    ("path_count", ofNat a.paths.length),
    ("entity_count", ofNat a.exposures.length),
    ("max_depth_reached", ofNat a.depthReached),
    ("is_truncated", .bool a.isTruncated),
    ("truncation", .list (a.limits.map Limit.document)),
    ("summary", a.summary.document),
    ("entities", .list (a.exposures.map Exposure.document)),
    ("paths", .list (a.paths.map Path.document))]

def Reason.document (r : Reason) : Document :=
  .object [
    ("priority", ofNat r.priority),
    ("statement", .text r.statement),
    ("implication", .text r.implication),
    ("evidence", .list (r.evidence.map .text))]

def Verdict.document (v : Verdict) : Document :=
  .object [
    ("risk_tier", .text v.severity.name),
    ("requires_approval", .bool v.requiresApproval),
    ("summary", .text v.summary),
    ("reasons", .list (v.reasons.map Reason.document)),
    ("limitations", .list (v.limitations.map .text))]

/-- An analysis with its verdict. -/
def Analysis.report (a : Analysis) : Document :=
  .object [("result", a.document), ("verdict", (Verdict.ofAnalysis a).document)]

end ChangeImpact
