import ChangeImpact.Main
import ChangeImpact.Proofs.Downstream
import ChangeImpact.Proofs.Verdict
import ChangeImpact.Proofs.Representation
import ChangeImpact.Proofs.Reachable
import ChangeImpact.Proofs.RowOrder
import ChangeImpact.Proofs.Sync
import ChangeImpact.Proofs.Part
import ChangeImpact.Proofs.Place
import ChangeImpact.Proofs.Frame
import ChangeImpact.Proofs.CteScope
import ChangeImpact.Proofs.Completeness
import ChangeImpact.Proofs.Queue
import ChangeImpact.Proofs.Termination
import ChangeImpact.Proofs.Monotone
import ChangeImpact.Proofs.Containment
import ChangeImpact.Proofs.Caseless
import ChangeImpact.Proofs.NoImpact
import ChangeImpact.Proofs.Identity
import ChangeImpact.Proofs.Attenuation
import ChangeImpact.Proofs.Names
import ChangeImpact.Proofs.Integrity
import ChangeImpact.Proofs.Requests
import ChangeImpact.Proofs.Lookup
import ChangeImpact.Proofs.Batches
import ChangeImpact.Proofs.Folding
import ChangeImpact.Proofs.Choice
import ChangeImpact.Proofs.Ambiguity
import ChangeImpact.Proofs.Qualified
import ChangeImpact.Proofs.Isolation
import ChangeImpact.Proofs.Bearer
import ChangeImpact.Proofs.CreatedTable
import ChangeImpact.Proofs.JoinSides
import ChangeImpact.Proofs.Depth
import ChangeImpact.Proofs.Yields
import ChangeImpact.Proofs.Nesting.Expr
import ChangeImpact.Proofs.Nesting.Query
import ChangeImpact.Proofs.Nesting.Statement
import ChangeImpact.Proofs.Nesting
import ChangeImpact.Proofs.Keys
import ChangeImpact.Proofs.Chains
import ChangeImpact.Proofs.Replacement
import ChangeImpact.Proofs.Aggregation
import ChangeImpact.Proofs.Summary
import ChangeImpact.Proofs.PathOrder
import ChangeImpact.Proofs.Renaming.Shape
import ChangeImpact.Proofs.Quoting
import ChangeImpact.Proofs.Run
import ChangeImpact.Proofs.Precedence
import ChangeImpact.Proofs.Pruning
import ChangeImpact.Proofs.Composition
import ChangeImpact.Proofs.Mention
import ChangeImpact.Proofs.Temporary
import ChangeImpact.Proofs.Nameless
import ChangeImpact.Proofs.Procedure
import ChangeImpact.Proofs.Procedure.Grammar
import ChangeImpact.Proofs.NoteOrder
import ChangeImpact.Proofs.Counter
import ChangeImpact.Proofs.Advance
import ChangeImpact.Proofs.Reading
import ChangeImpact.Proofs.DynamicCalls
import ChangeImpact.Proofs.Diagnostics
