import DeepKernel.Agent.ContainerMapper
import DeepKernel.Agent.Dump
import DeepKernel.Agent.DumpFiles
import DeepKernel.Agent.DumpPeriod
import DeepKernel.Agent.LifeCycle
import DeepKernel.Agent.PolicyEnforcer
import DeepKernel.Agent.SecondRequest
import DeepKernel.Agent.Windowing
import DeepKernel.Agent.WindowJson
import DeepKernel.Features.Agreement
import DeepKernel.Features.ClassRatios
import DeepKernel.Features.Timing
import DeepKernel.Features.WireTypes
import DeepKernel.Ml.DemoDump
import DeepKernel.Ml.FailedTraining
import DeepKernel.Ml.Isolation
import DeepKernel.Ml.Restart
import DeepKernel.Ml.ValidateDump
import DeepKernel.Server.EventRepository
import DeepKernel.Server.FeatureShape
import DeepKernel.Server.HeuristicRisk
import DeepKernel.Server.HybridAdapter
import DeepKernel.Server.Interleaving
import DeepKernel.Server.LocalScore
import DeepKernel.Server.RemoteAdapter
import DeepKernel.Server.Rollback
import DeepKernel.Server.Integrity
import DeepKernel.Server.TriageDomain
import DeepKernel.System.Completions
import DeepKernel.System.AgentCommands
import DeepKernel.System.Delivery
import DeepKernel.System.DumpCommand
import DeepKernel.System.DumpTime
import DeepKernel.System.PolicyBody
import DeepKernel.System.ScoringIsolation
import DeepKernel.System.SplitRequests
import DeepKernel.System.TrainingDump
import DeepKernel.Agent.AppliedPolicies
import DeepKernel.Ml.Simulation
import DeepKernel.Ml.TrainFromDump
import DeepKernel.Server.Dashboard
import DeepKernel.Server.Recovery
import DeepKernel.System.StoredWindows
import DeepKernel.System.Containment
import DeepKernel.System.Deployments
import DeepKernel.System.TrainingVectors
import DeepKernel.Ml.DemoTraining
import DeepKernel.Lib.PathPattern
import DeepKernel.Ml.Routes
import DeepKernel.System.ModelVisibility
