import ControlPlane.Access.KeyPermissions
import ControlPlane.Access.OperatorKey
import ControlPlane.Access.Unauthenticated
import ControlPlane.App.SteadyRequests
import ControlPlane.Approvals.FinalDecision
import ControlPlane.Approvals.DraftRace
import ControlPlane.Approvals.SendGate
import ControlPlane.Audit.CanonicalPayload
import ControlPlane.Audit.ConcurrentWriters
import ControlPlane.Audit.Contention
import ControlPlane.Audit.FirstBreak
import ControlPlane.Audit.TamperEvidence
import ControlPlane.Evidence.Assembly
import ControlPlane.Evidence.ColumnCoverage
import ControlPlane.Evidence.ConcurrentVersions
import ControlPlane.Evidence.ReportOutline
import ControlPlane.Jobs.Closing
import ControlPlane.Jobs.DeliveryView
import ControlPlane.Jobs.ExclusiveClaim
import ControlPlane.Jobs.FailedOrchestration
import ControlPlane.Jobs.SendSafety
import ControlPlane.Jobs.TrailGrammar
import ControlPlane.Policies.Provenance
import ControlPlane.Policies.Restart
import ControlPlane.Policies.Routing
import ControlPlane.Policies.SingleActive
import ControlPlane.Reviews.CallerIndependence
import ControlPlane.Reviews.DecisionTrail
import ControlPlane.Reviews.FailurePaths
import ControlPlane.Reviews.LatestScore
import ControlPlane.Reviews.ScoreOrder
import ControlPlane.Reviews.StatusViews
import ControlPlane.Reviews.VerificationLifecycle
import ControlPlane.Tenancy.ReadIsolation
import ControlPlane.Tenancy.Stamping
import ControlPlane.Workers.Sending
import ControlPlane.Workers.ThreadRecords
import ControlPlane.Jobs.FailureRecords
import ControlPlane.Lib.Interruption
