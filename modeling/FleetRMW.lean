import FleetRMW.Lib.Run
import FleetRMW.Lib.Except
import FleetRMW.Lib.Majority
import FleetRMW.Lib.Python
import FleetRMW.Lib.Traced
import FleetRMW.Lib.Window
import FleetRMW.Lib.Json
import FleetRMW.Lib.Codec
import FleetRMW.Lib.Wire
import FleetRMW.Lib.Decimal
import FleetRMW.Lib.Eviction
import FleetRMW.Lib.Search
import FleetRMW.Lib.Float64
import FleetRMW.Lib.Cursor
import FleetRMW.Raft.Node
import FleetRMW.Raft.Cluster
import FleetRMW.Raft.History
import FleetRMW.Raft.Election
import FleetRMW.Raft.Matching
import FleetRMW.Raft.Commit
import FleetRMW.Raft.Safety
import FleetRMW.Raft.Acknowledged
import FleetRMW.Raft.Service
import FleetRMW.Gateway.Metadata
import FleetRMW.Gateway.Frame
import FleetRMW.Repair.Scheduler
import FleetRMW.Gateway.Policy
import FleetRMW.Gateway.AdmissionState
import FleetRMW.Gateway.Store
import FleetRMW.Gateway.Fencing
import FleetRMW.Gateway.State
import FleetRMW.Gateway.Delivery
import FleetRMW.Gateway.Recovery
import FleetRMW.Gateway.Durable
import FleetRMW.Gateway.Agreement
import FleetRMW.Robot.ControlLease
import FleetRMW.Robot.Bounds
import FleetRMW.Robot.Expiry
import FleetRMW.Robot.Limits
import FleetRMW.Rmw.Frames
import FleetRMW.Rmw.Sequence
import FleetRMW.Rmw.Acknowledgement
import FleetRMW.Rmw.Replay
import FleetRMW.Rmw.Fragments
import FleetRMW.Rmw.Datagram
import FleetRMW.Rmw.Text
import FleetRMW.Rmw.DataFrame
import FleetRMW.Rmw.Compact
import FleetRMW.Rmw.Control
import FleetRMW.Rmw.Throws
import FleetRMW.Rmw.Pieces
import FleetRMW.Rmw.Payload
import FleetRMW.Rmw.FrameText
import FleetRMW.Rmw.FrameRead
import FleetRMW.Rmw.FrameRoundTrip
import FleetRMW.Rmw.Runs
import FleetRMW.Rmw.AckText
import FleetRMW.Rmw.AckRoundTrip
import FleetRMW.Rmw.Fanout
import FleetRMW.Rmw.Reassembly
import FleetRMW.Rmw.FragmentChunks
import FleetRMW.Rmw.KeyExchange
import FleetRMW.Rmw.Introspection
import FleetRMW.Rmw.IntrospectionRoundTrip
import FleetRMW.Rmw.Reflection
import FleetRMW.Lib.Wildcards
import FleetRMW.Rmw.FilterLike
import FleetRMW.Rmw.FilterTokens
import FleetRMW.Lib.Strtod
import FleetRMW.Rmw.Filter
import FleetRMW.Rmw.FilterValidity
import FleetRMW.Rmw.FilterCompare
import FleetRMW.Rmw.Ledger
import FleetRMW.Rmw.Retention
import FleetRMW.Lib.Delimited
import FleetRMW.Rmw.InstanceKey
import FleetRMW.Lib.Lines
import FleetRMW.Lib.Log
import FleetRMW.Rmw.RepairLimits
import FleetRMW.Rmw.Coherent
import FleetRMW.Rmw.Subscriptions
import FleetRMW.Rmw.Atomicity
import FleetRMW.Lib.Intervals
import FleetRMW.Rmw.GapReport
import FleetRMW.Rmw.NackAnswer
import FleetRMW.Rmw.LossAccount
import FleetRMW.Rmw.AckTracker
import FleetRMW.Rmw.Service
import FleetRMW.Rmw.ServiceOnce
import FleetRMW.Rmw.ServiceRoundTrip
import FleetRMW.Lib.Leases
import FleetRMW.Rmw.Router
import FleetRMW.Lib.RoundRobin
import FleetRMW.Rmw.FragmentSender
import FleetRMW.Rmw.RepairRequests
import FleetRMW.Rmw.RouterFeedback
import FleetRMW.Rmw.RouterFrames
import FleetRMW.Lib.Index
import FleetRMW.Rmw.Qos
import FleetRMW.Rmw.Graph
import FleetRMW.Rmw.GraphCounts
import FleetRMW.Lib.FloatOps
import FleetRMW.Lib.Totals
import FleetRMW.Admission.Model
import FleetRMW.Admission.Contract
import FleetRMW.Admission.RobotBudget
import FleetRMW.Admission.RobotBudgetKeeps
import FleetRMW.Admission.ServiceAttempts
import FleetRMW.Admission.Predictive
import FleetRMW.Admission.Lagrangian
import FleetRMW.Admission.SemanticAdmission
import FleetRMW.Admission.Contextual
import FleetRMW.Admission.PredictiveBudget
import FleetRMW.Admission.LagrangianBudget
import FleetRMW.Admission.SemanticBudget
import FleetRMW.Lib.Double
import FleetRMW.Admission.PredictiveFamily
import FleetRMW.Admission.ContextualKeeps
import FleetRMW.Admission.ControlIntents
import FleetRMW.Admission.StaleFlows
import FleetRMW.Admission.StaleSamples
import FleetRMW.Lib.Recency
import FleetRMW.Lib.Thinning
import FleetRMW.Gateway.Dedup
import FleetRMW.Gateway.Outcomes
import FleetRMW.Repair.Optimal
import FleetRMW.Robot.Limits
import FleetRMW.Lib.Greedy
import FleetRMW.Lib.Spending
import FleetRMW.Admission.Scheduler
import FleetRMW.Admission.SchedulerBudget
import FleetRMW.Planner.Optimizer
import FleetRMW.Planner.OptimizerBudget
import FleetRMW.Planner.Online
import FleetRMW.Planner.OnlineBudget
import FleetRMW.Planner.TelemetryTail
import FleetRMW.Lib.Unicode
import FleetRMW.Lib.ChunkedStream
import FleetRMW.Gateway.BackendProtocol
import FleetRMW.Lib.Epochs
import FleetRMW.Gateway.Quotas
import FleetRMW.Rmw.WildcardMatch
import FleetRMW.Rmw.TopicPolicy
import FleetRMW.Rmw.Ownership
import FleetRMW.Rmw.Deadline
import FleetRMW.Rmw.DurableReplay
import FleetRMW.Rmw.SharedMemory
import FleetRMW.Rmw.FrameQueue
import FleetRMW.Rmw.GapLoss
import FleetRMW.Lib.Roll
import FleetRMW.Lib.Sweep
import FleetRMW.Rmw.Liveliness
import FleetRMW.Rmw.LivelinessRoll
import FleetRMW.Rmw.LivelinessRuns
import FleetRMW.Lib.SmoothRoundRobin
import FleetRMW.Rmw.ServiceTurns
import FleetRMW.Rmw.ServiceFairness
import FleetRMW.Rmw.ServiceInTurn
import FleetRMW.Rmw.FragmentIndexes
import FleetRMW.Rmw.StreamKeys
import FleetRMW.Rmw.CivilTime
import FleetRMW.Gateway.WriterLease
import FleetRMW.Rmw.FilterGrammar
import FleetRMW.Admission.EnvelopeRuns
import FleetRMW.Lib.Utf8
import FleetRMW.Repair.PolicyText
import FleetRMW.Rmw.PlanFile
import FleetRMW.Rmw.RepairPlan
import FleetRMW.Rmw.RepairRuns
import FleetRMW.Rmw.PathPlan
