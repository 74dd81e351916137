import VeriPay.Lib.Machine
import VeriPay.Lib.OneUse
import VeriPay.Lib.Effect
import VeriPay.DecisionEngine.HardControls
import VeriPay.DecisionEngine.Modes
import VeriPay.AuthOrchestration.OneUse
import VeriPay.AnalystApi.Severity
import VeriPay.AnalystApi.LabelForwarding
import VeriPay.AnalystApi.GraphForwarding
import VeriPay.AnalystApi.Causality
import VeriPay.AnalystApi.Atomicity
import VeriPay.AnalystApi.ResponseIdentity
import VeriPay.AnalystApi.ReportedRows
import VeriPay.GraphEngine.Locality
import VeriPay.GraphEngine.ObservationOrder
import VeriPay.AnalystApi.ExplainFlags
import VeriPay.DisputeEngine.Lifecycle
import VeriPay.Common.Envelope
import VeriPay.InvestigationAgent.Surrogates
import VeriPay.ModelMonitor.Rollback
import VeriPay.ModelMonitor.DriftAgreement
import VeriPay.DisputeEngine.Retries
import VeriPay.TokenVault.Budget
import VeriPay.AuthOrchestration.Consistency
import VeriPay.DecisionEngine.TierRouting
import VeriPay.DecisionEngine.ExplanationJobs
import VeriPay.RiskFusion.Laws
import VeriPay.GraphEngine.Representation
import VeriPay.GraphEngine.CommunityStats
import VeriPay.GraphEngine.NetworkScore
import VeriPay.AnalystApi.RetrainForwarding
import VeriPay.GraphEngine.Backfill
import VeriPay.AnalystApi.TrustStatus
import VeriPay.AnalystApi.SuddenDrift
import VeriPay.AnalystApi.TypicalHours
import VeriPay.AnalystApi.FeedbackStats
import VeriPay.ComplianceEngine.Blocking
import VeriPay.FinancialContext.Deviation
import VeriPay.ModelMonitor.GateCompares
import VeriPay.ModelMonitor.WindowCounts
import VeriPay.Drift.Resolution
import VeriPay.AnalystApi.Crosscheck
import VeriPay.AnalystApi.GraphAnswers
import VeriPay.ModelMonitor.Divergence
import VeriPay.ModelMonitor.RetrainingRows
import VeriPay.ModelMonitor.LabelMerge
import VeriPay.ModelMonitor.RegistryRuns
import VeriPay.DeviceIntegrity.SingleUse
import VeriPay.DisputeEngine.Evidence
import VeriPay.DisputeEngine.Reports
import VeriPay.FeedbackLoop.AppendOnly
import VeriPay.MerchantPolicy.Naming
import VeriPay.InvestigationAgent.Baseline
import VeriPay.Common.TokenText
import VeriPay.Common.EnvelopeRoundTrip
import VeriPay.Mobile.Lifetimes
import VeriPay.Portals.Access
import VeriPay.Ingress.Agreement
import VeriPay.Ingress.Runs
import VeriPay.Portals.Isolation
import VeriPay.Portals.Mirror
import VeriPay.Portals.Policies
import VeriPay.Portals.Reports
import VeriPay.Portals.AuditMirror
import VeriPay.MerchantPolicy.Rules
import VeriPay.AuditStore.Trail
import VeriPay.AnalystApi.ConsoleRuns
import VeriPay.AnalystApi.Degraded
import VeriPay.AnalystApi.CompareModes
import VeriPay.Training.Threshold
import VeriPay.DeviceIntegrity.Gpv
import VeriPay.AnalystApi.ImpossibleTravel
import VeriPay.AnalystApi.ProfilePage
import VeriPay.ExternalContext.Signals
