import Monitoring.Main
import Monitoring.Proofs.Expression.Completeness
import Monitoring.Remote.RuleBinding
import Monitoring.Resource.Lifecycle
import Monitoring.Proofs.Expression.CanonicalTokens
import Monitoring.Proofs.Expression.Grouping
import Monitoring.Proofs.Expression.RoundTrip
import Monitoring.Proofs.Expression.Normalization
import Monitoring.Proofs.Json.Scalars
import Monitoring.Proofs.Json.RoundTrip
import Monitoring.Proofs.Json.Canonical
import Monitoring.Proofs.MatchSpecification.Mapping
import Monitoring.Proofs.MatchSpecification.Wire
import Monitoring.Proofs.Remote.Echo
import Monitoring.Proofs.MatchSpecification.Transport
import Monitoring.Proofs.MatchSpecification.Negations
import Monitoring.Proofs.MatchSpecification.Meaning
import Monitoring.Proofs.MatchSpecification.Agreement
import Monitoring.Proofs.MatchSpecification.Inversion
import Monitoring.Proofs.MatchSpecification.Validity
import Monitoring.Proofs.Resource.Run
import Monitoring.Proofs.Plan.Agreement
import Monitoring.Proofs.Remote.Admission
import Monitoring.Proofs.Resource.Settling
import Monitoring.Proofs.Resource.Renaming
import Monitoring.Proofs.Resource.Refreshing
import Monitoring.Proofs.Plan.Making
import Monitoring.Proofs.Plan.Structure
import Monitoring.Proofs.Plan.Reporting
import Monitoring.Proofs.Plan.Planned
import Monitoring.Proofs.Plan.Order
import Monitoring.Proofs.Expression.Parentheses
import Monitoring.Proofs.Expression.Spelling
import Monitoring.Proofs.Expression.Partition
import Monitoring.Proofs.Expression.ErrorPosition
import Monitoring.Proofs.Json.Narrowing
import Monitoring.Proofs.Remote.Restoring
import Monitoring.Proofs.Expression.Regrouping
import Monitoring.Proofs.MatchSpecification.Refusals
import Monitoring.Proofs.Resource.Collapsing
import Monitoring.Proofs.Resource.Overwriting
import Monitoring.Proofs.State.NameFormat
import Monitoring.Proofs.Text.CaseFolding
import Monitoring.Proofs.Resource.EventTypes
import Monitoring.Proofs.Remote.Acceptance
import Monitoring.Proofs.Document.BodyState
import Monitoring.Proofs.Expression.OperandTokens
import Monitoring.Proofs.Expression.Bookkeeping
