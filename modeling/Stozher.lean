import Stozher.Acceptance
import Stozher.Admission
import Stozher.AggregateWindows
import Stozher.AncestorRevocation
import Stozher.AncestryWalk
import Stozher.Append
import Stozher.AppendWrites
import Stozher.ApproverLife
import Stozher.ApproverSet
import Stozher.AuditEndpoint
import Stozher.AuditPaging
import Stozher.AuthorizationCover
import Stozher.Budget
import Stozher.BudgetAgreement
import Stozher.BudgetNarrowing
import Stozher.BundleTrip
import Stozher.Calendar
import Stozher.CanonicalAgreement
import Stozher.CanonicalFixed
import Stozher.CanonicalInjection
import Stozher.CanonicalReading
import Stozher.CanonicalText
import Stozher.CapCrossing
import Stozher.Chain
import Stozher.ChainShape
import Stozher.ChainTriggers
import Stozher.ChainVerification
import Stozher.ChainedApprovals
import Stozher.Charges
import Stozher.CheckpointRanges
import Stozher.CheckpointVerification
import Stozher.ClassAgreement
import Stozher.Classification
import Stozher.Clock
import Stozher.ClockAdvance
import Stozher.CompleteMediation
import Stozher.Console.Export
import Stozher.Contention
import Stozher.CorrelationPrefix
import Stozher.CorrelationRef
import Stozher.Crypto
import Stozher.Decimal
import Stozher.DecimalAgreement
import Stozher.DecimalOrder
import Stozher.DecimalSum
import Stozher.DecimalValue
import Stozher.DecisionAgreement
import Stozher.DecisionUse
import Stozher.Deployment
import Stozher.Display
import Stozher.DurableHistory
import Stozher.DurableReplay
import Stozher.DurationAgreement
import Stozher.DurationSpelling
import Stozher.Envelope
import Stozher.Error
import Stozher.ExportFile
import Stozher.FoldedActions
import Stozher.FoldedReads
import Stozher.Gate
import Stozher.GateAgreement
import Stozher.GateEndpoint
import Stozher.GateQueue
import Stozher.Gateway
import Stozher.Gateway.Admission
import Stozher.Gateway.Approval
import Stozher.Gateway.Authorization
import Stozher.Gateway.Bundle
import Stozher.Gateway.Canonical
import Stozher.Gateway.Classifier
import Stozher.Gateway.Durations
import Stozher.Gateway.Enforcement
import Stozher.Gateway.Envelopes
import Stozher.Gateway.Folding
import Stozher.Gateway.Local
import Stozher.Gateway.MandateWalk
import Stozher.Gateway.Mediation
import Stozher.Gateway.Moves
import Stozher.Gateway.Parking
import Stozher.Gateway.PassInvariant
import Stozher.Gateway.Passes
import Stozher.Gateway.Policy
import Stozher.Gateway.PolicyProvider
import Stozher.Gateway.Push
import Stozher.Gateway.RevocationFeed
import Stozher.Gateway.Spending
import Stozher.Gateway.Structure
import Stozher.Gateway.Windows
import Stozher.GatewayBridge
import Stozher.GrantExpiry
import Stozher.History
import Stozher.Ingest.Approvers
import Stozher.Ingest.Documents
import Stozher.Ingest.Effect
import Stozher.Ingest.Kinds
import Stozher.Ingest.Plans
import Stozher.Ingest.Submit
import Stozher.InstantOrder
import Stozher.Instants
import Stozher.IntentClosing
import Stozher.Interleavings
import Stozher.Jcs
import Stozher.JcsParse
import Stozher.JcsText
import Stozher.Json
import Stozher.JsonText
import Stozher.KernelAppend
import Stozher.LateApproval
import Stozher.Library.Ascent
import Stozher.Library.Ascii
import Stozher.Library.Best
import Stozher.Library.Checked
import Stozher.Library.Climb
import Stozher.Library.Digits
import Stozher.Library.FixedWidth
import Stozher.Library.Like
import Stozher.Library.Lines
import Stozher.Library.Linked
import Stozher.Library.Marked
import Stozher.Library.Outputs
import Stozher.Library.Pages
import Stozher.Library.Paging
import Stozher.Library.Ranges
import Stozher.Library.Refusal
import Stozher.Library.Runs
import Stozher.Library.Split
import Stozher.Library.Splits
import Stozher.Library.Table
import Stozher.Library.Tally
import Stozher.Library.Text
import Stozher.Library.Transactions
import Stozher.Library.TwoRuns
import Stozher.Library.Utf16
import Stozher.Library.Windows
import Stozher.Library.Worklist
import Stozher.LocalChain
import Stozher.Mandate.Agreement
import Stozher.Mandate.Grant
import Stozher.Mandate.InheritedRevocation
import Stozher.Mandate.Revocation
import Stozher.Mandate.RevocationIndex
import Stozher.Mandate.Scope
import Stozher.Mandate.Soundness
import Stozher.Mandate.Walk
import Stozher.MandateLine
import Stozher.Manifest
import Stozher.Migrate
import Stozher.OfflineGates
import Stozher.ParkedOnce
import Stozher.PatternAgreement
import Stozher.Payload
import Stozher.PayloadCover
import Stozher.Policy
import Stozher.PolicyBundle
import Stozher.PolicyCeilings
import Stozher.PolicyVersions
import Stozher.PolicyVouching
import Stozher.PushProgress
import Stozher.Query
import Stozher.QueueBounds
import Stozher.ReadConsumption
import Stozher.Rejection
import Stozher.RejectionChain
import Stozher.RejectionLinks
import Stozher.Resubmission
import Stozher.Resumes
import Stozher.RevocationFeed
import Stozher.RevocationPermanence
import Stozher.RevocationReach
import Stozher.RootApproval
import Stozher.RootEnrolment
import Stozher.SafeInteger
import Stozher.ScopeAgreement
import Stozher.ScopeInclusion
import Stozher.SelfApproval
import Stozher.Signed
import Stozher.SingleUse
import Stozher.Spend
import Stozher.SpendFold
import Stozher.SpendRefusals
import Stozher.Store
import Stozher.StreamWriters
import Stozher.Streams
import Stozher.StructureAgreement
import Stozher.Sweep
import Stozher.SweepCover
import Stozher.Sync
import Stozher.System
import Stozher.TamperEvidence
import Stozher.TimestampSpelling
import Stozher.Timestamps
import Stozher.Trigger
import Stozher.TwinEnvelopes
import Stozher.TwinPlans
import Stozher.TwinStores
import Stozher.Verdicts
import Stozher.WalkAgreement
import Stozher.WedgeProgress
