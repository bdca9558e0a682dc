import ChangeImpact.Report.Extraction
import ChangeImpact.Resolution

/-!
# Resolutions as documents
-/

namespace ChangeImpact

/-- An edge, given how its confidence is written. -/
def Edge.documentWith (confidence : Confidence → Document) (e : Edge) : Document :=
  .object [
    ("project_id", .int e.project),
    ("source_type", .text e.source.kind.name),
    ("source_id", .int e.source.id),
    ("target_type", .text e.target.kind.name),
    ("target_id", .int e.target.id),
    ("dependency_type", .text e.usage.name),
    ("confidence", confidence e.confidence)]

/-- An edge with its confidence as a number. -/
def Edge.document (e : Edge) : Document :=
  e.documentWith .real

/-- An edge with its confidence as a text of three decimals. -/
def Edge.rounded (e : Edge) : Document :=
  e.documentWith fun c => .text c.text

def Ambiguity.document (a : Ambiguity) : Document :=
  .object [
    ("name", .text a.name),
    ("schemas", .list (a.schemas.map .text)),
    ("chosen", .text a.chosen)]

def Resolution.document (r : Resolution) : Document :=
  .object [
    ("resolved", .list (r.edges.map Edge.rounded)),
    ("unresolved", .list (r.unresolved.map Reference.document)),
    ("ambiguous", .list (r.ambiguous.map Ambiguity.document))]

end ChangeImpact
