import RevenueRescue.Foundation.Machine
import RevenueRescue.Foundation.History
import RevenueRescue.Foundation.NetChange
import RevenueRescue.Foundation.Table
import RevenueRescue.Foundation.PyFloat
import RevenueRescue.Foundation.PyValue
import RevenueRescue.Policies.Engine
import RevenueRescue.Policies.Pipeline
import RevenueRescue.Policies.Limits
import RevenueRescue.Policies.Tightening
import RevenueRescue.Agents.Graph
import RevenueRescue.Agents.Gate
import RevenueRescue.Agents.Accounting
import RevenueRescue.Agents.Communication
import RevenueRescue.Agents.Confidence
import RevenueRescue.Agents.Delays
import RevenueRescue.Agents.Cleaning
import RevenueRescue.Agents.Preservation
import RevenueRescue.Agents.Pending
import RevenueRescue.Backend.RecoveryService
import RevenueRescue.Backend.Interval
import RevenueRescue.Backend.Atomicity
import RevenueRescue.Backend.System
import RevenueRescue.Agents.Outcome
import RevenueRescue.Agents.TraceIntegrity
import RevenueRescue.Backend.Settlement
import RevenueRescue.Agents.Budget
import RevenueRescue.Agents.Escalation
import RevenueRescue.Agents.Noninterference
import RevenueRescue.Backend.Absorbing
import RevenueRescue.Backend.CheckoutSoundness
import RevenueRescue.Backend.Collection
import RevenueRescue.Backend.CrashRecovery
import RevenueRescue.Backend.ExactlyOnce
import RevenueRescue.Backend.FinalStatus
import RevenueRescue.Backend.PolicyEnforcement
import RevenueRescue.Backend.PolicyVersions
import RevenueRescue.Backend.Replay
import RevenueRescue.Backend.Soundness
import RevenueRescue.Evaluation.Report
import RevenueRescue.Foundation.OrderStatistic
import RevenueRescue.Pipeline.Schema
import RevenueRescue.Pipeline.Features
import RevenueRescue.Pipeline.LeakageAudit
import RevenueRescue.Pipeline.PandasPreprocessor
import RevenueRescue.Pipeline.PointInTime
import RevenueRescue.Pipeline.Parity
import RevenueRescue.Foundation.Double
import RevenueRescue.Backend.AttemptKeys
import RevenueRescue.Backend.Receipts
import RevenueRescue.Providers.Idempotence
import RevenueRescue.Backend.Signatures
import RevenueRescue.Backend.Orders
import RevenueRescue.Agents.Totality
import RevenueRescue.Pipeline.AuditSoundness
import RevenueRescue.Pipeline.Validators
import RevenueRescue.Pipeline.SplitRule
import RevenueRescue.Pipeline.TypePartition
import RevenueRescue.Backend.Metrics
import RevenueRescue.Backend.Customers
import RevenueRescue.Evaluation.ThresholdOptimality
import RevenueRescue.Evaluation.ZeroWeights
import RevenueRescue.Evaluation.MetricResults
import RevenueRescue.Evaluation.Repetition
import RevenueRescue.Evaluation.TrainingCalibration
import RevenueRescue.Evaluation.FastPath
import RevenueRescue.Backend.SimulationService
import RevenueRescue.Backend.MLScoringService
import RevenueRescue.Agents.Snapshot
import RevenueRescue.Agents.LocalAgreement
import RevenueRescue.Agents.TightenedRuns
import RevenueRescue.Backend.Bookings
import RevenueRescue.Pipeline.TransformOutcome
import RevenueRescue.Evaluation.CalibrationSelection
import RevenueRescue.Evaluation.Jsonable
import RevenueRescue.Agents.HostedProvider
import RevenueRescue.Backend.Progress
import RevenueRescue.Backend.SimulationBooks
import RevenueRescue.Backend.Isolation
import RevenueRescue.Simulator.Generators
import RevenueRescue.Simulator.Population
import RevenueRescue.Backend.SimulationScale
