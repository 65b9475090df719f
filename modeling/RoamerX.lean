import RoamerX.Lib.Run
import RoamerX.Lib.EvenOdd
import RoamerX.Lib.PathLength
import RoamerX.Protocol.Json
import RoamerX.Boundary.Admission
import RoamerX.Boundary.Agreement
import RoamerX.Lib.Rows
import RoamerX.Center.Integrity
import RoamerX.Center.MessageHandlers
import RoamerX.Center.Writes
import RoamerX.Center.System
import RoamerX.Center.EventLog
import RoamerX.Center.Ledger
import RoamerX.Center.TerminalRows
import RoamerX.Center.Housekeeping
import RoamerX.Center.LoopTotals
import RoamerX.CloudEdge.TrajectoryDelivery
import RoamerX.CloudEdge.TaskStartAcceptance
import RoamerX.CloudEdge.StateSync
import RoamerX.Edge.Ownership
import RoamerX.Lib.CheckThenAct
import RoamerX.PatrolLoop.Recovery
import RoamerX.PatrolLoop.Observation
import RoamerX.PatrolLoop.StopConfirmation
import RoamerX.PatrolLoop.RoundDirection
import RoamerX.PatrolLoop.Lifecycle
import RoamerX.Edge.ContextStore
import RoamerX.Validation.Leases
import RoamerX.Validation.Artifacts
import RoamerX.Validation.Retry
import RoamerX.VelocityBridge.LocalizationGate
import RoamerX.VelocityBridge.EmergencyLatch
import RoamerX.VelocityBridge.StoppedStream
import RoamerX.VelocityBridge.ChosenPosture
import RoamerX.DevTasks.OrderMeaning
import RoamerX.DevTasks.VoiceWake
import RoamerX.DevTasks.Agreement
import RoamerX.Edge.RightSubmap
import RoamerX.Edge.PauseAndCancel
import RoamerX.CloudEdge.Parsing
import RoamerX.Edge.CommandConclusion
import RoamerX.Lib.Blocks
import RoamerX.Edge.RecoveryArbiter
import RoamerX.SelfHealing.Statistics
import RoamerX.SelfHealing.Permissions
import RoamerX.SelfHealing.Brackets
import RoamerX.Boundary.SpeedLimit
import RoamerX.Center.TelemetryArchive
import RoamerX.PatrolLoop.Supervisor
import RoamerX.Center.ScheduledScans
import RoamerX.Boundary.WellFormed
import RoamerX.Center.LocalizationReports
import RoamerX.LoopClosure.YawSign
import RoamerX.Center.ObstacleIngestion
import RoamerX.Edge.Straightening
import RoamerX.Edge.OutboxDelivery
import RoamerX.Center.BicycleCooldown
import RoamerX.Edge.ClearWindow
import RoamerX.Edge.ExpectedCancels
import RoamerX.Edge.BoundedRecovery
import RoamerX.LoopClosure.LidarFrame
import RoamerX.LoopClosure.TopK
import RoamerX.LoopClosure.SeedPoses
import RoamerX.LoopClosure.SoundLoops
import RoamerX.Edge.ManualMapCleanup
import RoamerX.Edge.SubmapBuilder
import RoamerX.Edge.OptimizationSummary
import RoamerX.Edge.MapActivation
import RoamerX.Edge.OriginLock
import RoamerX.Edge.PowerMode
import RoamerX.Edge.ChargeControl
import RoamerX.Edge.ChargeStop
import RoamerX.Edge.SkillExecutor
import RoamerX.Edge.PersonFollow
import RoamerX.Edge.MapCleaner
import RoamerX.CloudEdge.LoopReview
import RoamerX.Localization.AnchorUkf
import RoamerX.Center.MapScene
import RoamerX.Localization.RtkSelfStability
import RoamerX.Localization.RtkAutoPrimary
import RoamerX.Localization.RollPitchYaw
import RoamerX.Mapping.StreamedMap
import RoamerX.Mapping.ImuPreintegration
