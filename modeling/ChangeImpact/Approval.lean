import ChangeImpact.Exposure

/-!
# Approval

Whether somebody has to approve of a change. A change that affects nothing never needs it.
-/

namespace ChangeImpact

/-- Approval is needed from a severity on. -/
structure ApprovalPolicy where
  threshold : Severity
  deriving DecidableEq, Repr

namespace ApprovalPolicy

def requires (policy : ApprovalPolicy) (worst : Severity) : Bool :=
  worst != .none && policy.threshold.le worst

def describe (policy : ApprovalPolicy) : String :=
  s!"approval required at {policy.threshold.name} impact or above"

/-- The summary with the policy's decision. -/
def apply (policy : ApprovalPolicy) (summary : Summary) : Summary :=
  { summary with requiresApproval := policy.requires summary.worstSeverity }

end ApprovalPolicy

end ChangeImpact
