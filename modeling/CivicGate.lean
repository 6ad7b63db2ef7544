import CivicGate.Framework.Json.Value
import CivicGate.Framework.Json.Text
import CivicGate.Framework.Json.RoundTrip
import CivicGate.Framework.Exceptions
import CivicGate.Framework.Machine
import CivicGate.Framework.Sha256
import CivicGate.Framework.Digest
import CivicGate.Governance.Policy
import CivicGate.Governance.Execution
import CivicGate.Governance.ExecutionSafety
import CivicGate.Framework.Acceptor
import CivicGate.Governance.Responses
import CivicGate.Audit.History.Event
import CivicGate.Audit.History.Replay
import CivicGate.Audit.History.Safety
import CivicGate.Audit.History.Append
import CivicGate.Framework.Json.Size
import CivicGate.Audit.PostgresJournal
import CivicGate.Audit.History.Projection
import CivicGate.Audit.PostgresOwnership
import CivicGate.Audit.FencingSafety
import CivicGate.Rq6.ExactRoundTrip
import CivicGate.Rq6.Dossier
import CivicGate.Rq6.WorkflowProgress
import CivicGate.Rq6.WorkflowSafety
import CivicGate.Adapters.USAspending
import CivicGate.Gateway.Completion
import CivicGate.Audit.History.Limits
import CivicGate.Gateway.Conclusion
import CivicGate.Audit.OwnedEvents
import CivicGate.Gateway.FinishEvidence
import CivicGate.Gateway.Recording
import CivicGate.Framework.Table
import CivicGate.Framework.Transaction
import CivicGate.Framework.Requests
import CivicGate.Harness.AttemptBudget
import CivicGate.Harness.LiveAttemptBudget
import CivicGate.Harness.BudgetChanges
import CivicGate.Harness.BudgetInvariants
import CivicGate.Harness.ClosedObservation
import CivicGate.Harness.SendLease
import CivicGate.Audit.TransportGuard
import CivicGate.Audit.TransportGuardSafety
import CivicGate.Gateway.Judging
import CivicGate.Rq6.Cohort
import CivicGate.Rq6.CohortProgress
import CivicGate.Rq6.CohortSafety
import CivicGate.Rq6.EventLedger
import CivicGate.Write01.Contract
import CivicGate.Write01.Authority
import CivicGate.Write01.AuthoritySafety
import CivicGate.Console.AdvisorReport
import CivicGate.Console.Advisor
import CivicGate.Console.AdvisorSafety
import CivicGate.Console.Executor
import CivicGate.Console.ExecutorKinds
import CivicGate.Console.ExecutorSafety
import CivicGate.Mcp.HttpApp
import CivicGate.Mcp.SessionGate
import CivicGate.Rq6.EventCustody
import CivicGate.Rq6.Stability
import CivicGate.Framework.Json.Conversion
import CivicGate.Framework.Json.Printing
import CivicGate.Framework.Json.Literal
import CivicGate.Rq6.Evidence
import CivicGate.Rq6.ExactLaw
import CivicGate.Rq6.Crypto
import CivicGate.Rq6.AliasAssignment
import CivicGate.Framework.Json.FloatBounds
import CivicGate.Rq6.Card
import CivicGate.Rq6.CardLaw
import CivicGate.Rq6.Framing
import CivicGate.ChannelB.Money
import CivicGate.ChannelB.ResponseBytes
import CivicGate.Harness.WireStream
import CivicGate.Console.PayloadText
import CivicGate.Console.SafeText
import CivicGate.Console.MockAdvisor
import CivicGate.Console.MockReport
import CivicGate.Framework.DecimalContext
import CivicGate.Gateway.SummaryTotals
import CivicGate.Framework.Json.Equality
import CivicGate.Write01.Store
import CivicGate.Write01.StoreCalls
import CivicGate.Write01.StoreEvidence
import CivicGate.Write01.StoreInvariant
import CivicGate.Write01.StoreProgress
import CivicGate.Write01.StoreSafety
import CivicGate.Write01.StoreErrors
import CivicGate.Write01.Gateway
import CivicGate.Write01.GatewayViews
import CivicGate.Write01.GatewaySafety
import CivicGate.Write01.GatewayRuns
