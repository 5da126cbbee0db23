import CellFlow.Core.HexText
import CellFlow.Core.CommitEvidence
import CellFlow.Api.Preflight
import CellFlow.Api.Machine
import CellFlow.Properties.SettlementRevocation
import CellFlow.Api.Scenario
import CellFlow.Api.CommittedRow
import CellFlow.Api.AttemptRows
import CellFlow.Properties.Scheduling
import CellFlow.Properties.SettlementNotifications
import CellFlow.Properties.CommittedSpend
import CellFlow.Properties.Storable
import CellFlow.Properties.SpendEvidence
import CellFlow.Properties.CandidateWatch
import CellFlow.Properties.ReorgEvents
import CellFlow.Properties.RecoveryAdvice
import CellFlow.Properties.Terminality
import CellFlow.Properties.AssertionProvenance
import CellFlow.Properties.Paging
import CellFlow.Properties.Reattach
import CellFlow.Properties.WebhookPayloads
import CellFlow.Properties.EvidenceRetention
import CellFlow.Properties.WinnerPointer
import CellFlow.Properties.ProjectionMirror
import CellFlow.Properties.Attribution
import CellFlow.Properties.WireExclusion
import CellFlow.Properties.ConflictFrame
import CellFlow.Properties.AuditTail
import CellFlow.Properties.Lifecycle
import CellFlow.Properties.ExpectedCells
import CellFlow.Properties.InputPreflight
import CellFlow.Properties.ObservedCommit
import CellFlow.Properties.DeliveryLeases
import CellFlow.Properties.RepeatedEvidence
import CellFlow.Properties.Fingerprint
import CellFlow.Properties.IntentIdempotency
import CellFlow.Reconcile.RpcClient
import CellFlow.Lib.Collect
import CellFlow.Reconcile.RpcUrls
import CellFlow.Properties.EndpointLists
import CellFlow.Lib.Text
import CellFlow.Scripts.DbTestGuard
import CellFlow.Properties.TestDatabase
import CellFlow.Lib.HexBytes
import CellFlow.Webhooks.Signature
import CellFlow.Properties.WebhookSignatures
import CellFlow.Lib.Ip
import CellFlow.Webhooks.IpPolicy
import CellFlow.Properties.BlockedAddresses
import CellFlow.Lib.Regex
import CellFlow.Client.BroadcastErrors
import CellFlow.Properties.BroadcastOutcomes
import CellFlow.Db.WorkflowClaim
import CellFlow.Web.WorkflowStart
import CellFlow.Properties.WorkflowClaims
import CellFlow.Db.ApiKeys
import CellFlow.Properties.KeyRevocation
import CellFlow.Db.ProjectHealth
import CellFlow.Api.ProjectEvidence
import CellFlow.Properties.ContentFingerprint
import CellFlow.Lib.WorkerPool
import CellFlow.Workers.Batches
import CellFlow.Properties.BatchIsolation
import CellFlow.Reconcile.Circuit
import CellFlow.Properties.CircuitBreaker
import CellFlow.Db.RateLimit
import CellFlow.Properties.RateLimits
import CellFlow.Api.Auth
import CellFlow.Properties.Authentication
import CellFlow.Lib.LockedTransaction
import CellFlow.Db.Migrate
import CellFlow.Properties.Migrations
import CellFlow.Api.Bootstrap
import CellFlow.Properties.Bootstrap
import CellFlow.Db.WebhookEndpoints
import CellFlow.Properties.Outbox
import CellFlow.Workers.ReconcileDue
import CellFlow.Properties.ReconcileLeases
import CellFlow.Properties.WebhookRequests
import CellFlow.Lib.Retry
import CellFlow.Api.Requests
import CellFlow.Properties.ConcurrentRequests
import CellFlow.Properties.ProjectFigures
import CellFlow.Properties.ReplacementLinks
