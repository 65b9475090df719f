import Mathlib.Data.Rat.Defs
import Mathlib.Data.Finset.Insert
import RoamerX.Lib.Rows

set_option autoImplicit false

/-! # The center's tables

The rows the center keeps for one robot: task executions, their events, remote commands, inbound
message ids and low-battery episodes. Types and field names follow `monitoring/models.py`; the
model is of one robot, so the `robot` foreign key of a row is left out.

Instants are microseconds. Identifiers that the source draws with `uuid4` are numbers drawn from
the counter `CenterDb.nextUuid`, which is how their freshness is modelled. -/

namespace RoamerX

/-- An identifier drawn with `uuid4`. -/
abbrev Uuid := ℕ

/-- `timedelta(seconds=n)`. -/
def seconds (n : ℕ) : ℕ := n * 1000000

/-- `x or default` on texts. -/
def orText (x default : String) : String := if x ≠ "" then x else default

/-! ## States and kinds -/

/-- `TaskExecution.STATE_CHOICES`. -/
inductive ExecutionState
  | created | dispatching | accepted | running | pausing | paused | resuming | cancelling
  | completed | failed | cancelled | timedOut | interrupted | rejected
  deriving DecidableEq

/-- `TaskExecution.ACTIVE_STATES`. -/
def ExecutionState.isActive : ExecutionState → Bool
  | .created | .dispatching | .accepted | .running | .pausing | .paused | .resuming
  | .cancelling | .interrupted => true
  | .completed | .failed | .cancelled | .timedOut | .rejected => false

/-- The states `completed`, `failed`, `cancelled`, `timed_out` and `rejected`. -/
def ExecutionState.isTerminal (s : ExecutionState) : Bool := !s.isActive

theorem ExecutionState.isTerminal_iff (s : ExecutionState) :
    s.isTerminal = true ↔ s.isActive = false := by
  simp [ExecutionState.isTerminal]

def ExecutionState.text : ExecutionState → String
  | .created => "created"
  | .dispatching => "dispatching"
  | .accepted => "accepted"
  | .running => "running"
  | .pausing => "pausing"
  | .paused => "paused"
  | .resuming => "resuming"
  | .cancelling => "cancelling"
  | .completed => "completed"
  | .failed => "failed"
  | .cancelled => "cancelled"
  | .timedOut => "timed_out"
  | .interrupted => "interrupted"
  | .rejected => "rejected"

/-- A state name as a message carries it: one of the known states or any other text. -/
inductive StateWord
  | known (s : ExecutionState)
  | unknown (text : String)
  deriving DecidableEq

/-- `RemoteCommand.TYPE_CHOICES`, as far as commands of a task execution or a patrol loop go. -/
inductive CommandType
  | taskStart | taskPause | taskResume | taskResumeForward | taskCancel | taskForceExit
  | taskRecover | navRosbagStop
  deriving DecidableEq

/-- `RemoteCommand.STATUS_CHOICES`. -/
inductive CommandStatus
  | created | published | accepted | rejected | executing | succeeded | failed | cancelled
  | timedOut | expired
  deriving DecidableEq

/-- The statuses a command is still pending in: `created`, `published`, `accepted`, `executing`. -/
def CommandStatus.isOpen : CommandStatus → Bool
  | .created | .published | .accepted | .executing => true
  | .rejected | .succeeded | .failed | .cancelled | .timedOut | .expired => false

/-- The milestones of a `task.progress` message that are recorded as events. -/
inductive Milestone
  | targetDispatched | waypointReached | arrivalConfirmed | waypointPassed
  deriving DecidableEq

/-- The `task.*` messages whose payload names the state the Edge task has entered. -/
inductive StateMessage
  | accepted | started | pausing | paused | resuming | resumed | cancelling | completed | failed
  | cancelled | interrupted
  deriving DecidableEq

/-- `TaskExecutionEvent.event_type`. -/
inductive TaskEventType
  | taskCreated
  | requested (c : CommandType)
  | commandAck | commandResult
  | startTimeoutPendingEdge | pauseTimeout | resumeTimeout | commandTimeout (c : CommandType)
  | pauseFailed | resumeFailed
  | syncCenterTimeoutReconciled | syncTerminalReconciled | syncStateReconciled
  | obstacleStage | navigationStage | arrivalDegradedAccepted
  | safeHold
  | milestone (m : Milestone)
  | stateMessage (m : StateMessage)
  deriving DecidableEq

/-- The three event types the constraint `uniq_task_state_ver_non_obstacle` leaves out. -/
def TaskEventType.isExempt : TaskEventType → Bool
  | .obstacleStage | .arrivalDegradedAccepted | .navigationStage => true
  | _ => false

/-! ## Routes and tasks -/

/-- A coordinate of a waypoint: a finite float, or a NaN or infinity. -/
inductive Coord
  | finite (q : ℚ)
  | nonfinite
  deriving DecidableEq

/-- `SCENE_SCOPES`, after `normalize_text`; `unset` is the empty text. -/
inductive SceneScope
  | unset | indoor | transition | outdoor | other
  deriving DecidableEq

/-- `a or b` on scene scopes. -/
def SceneScope.orElse : SceneScope → SceneScope → SceneScope
  | .unset, b => b
  | a, _ => a

/-- `COORDINATE_MODES`, after `normalize_text`; `unset` is the empty text. -/
inductive CoordinateMode
  | unset | rtkFixed | localOnly
  deriving DecidableEq

/-- `a or b` on coordinate modes. -/
def CoordinateMode.orElse : CoordinateMode → CoordinateMode → CoordinateMode
  | .unset, b => b
  | a, _ => a

/-- `WAYPOINT_LOCALIZATION_MODES`. -/
inductive LocalizationMode
  | ndt | rtk | ukf
  deriving DecidableEq

/-- `arrival_policy`, as `_normalize_arrival_policy` leaves it. -/
inductive ArrivalPolicy
  | passThrough | stopAndConfirm | precision | dock
  deriving DecidableEq

/-- A normalised waypoint of a route snapshot. -/
structure Waypoint where
  waypointId : String
  sequence : ℕ
  mapPointNumber : ℤ
  name : String
  x : Coord
  y : Coord
  yaw : Coord
  localizationMode : LocalizationMode := .ndt
  arrivalPolicy : ArrivalPolicy := .stopAndConfirm
  actions : List String := []
  deriving DecidableEq

/-- The `map` entry of a route snapshot. -/
structure SnapshotMap where
  mapId : String
  sceneScope : SceneScope
  coordinateMode : CoordinateMode
  deriving DecidableEq

/-- What `build_route_snapshot` makes of a route. -/
structure RouteSnapshot where
  routeId : String
  routeName : String
  map : SnapshotMap
  sceneScope : SceneScope
  waypoints : List Waypoint
  executionSource : String := ""
  deriving DecidableEq

/-- The map record a route is bound to. `constraints` is what `validate_map_constraints` makes of
    the map's own description: the code of the error it raises, or the coordinate mode. -/
structure MapData where
  sceneScope : SceneScope
  coordinateMode : CoordinateMode
  constraints : Except String CoordinateMode

/-- `PatrolRoute`. `snapshot` is what `build_route_snapshot` makes of it, or the code of the
    `TaskStateError` it raises on a malformed waypoint. -/
structure PatrolRoute where
  sceneScope : SceneScope
  recordRosbag : Bool
  mapData : MapData
  snapshot : Except String RouteSnapshot

structure PatrolTask where
  id : ℕ
  name : String
  enabled : Bool
  recordRosbag : Bool
  route : Option PatrolRoute

/-! ## Executions and their events -/

/-- `TaskExecution`. The dispatch key `"{loop_session_id}:{round_number}"` is kept as a pair. -/
structure TaskExecution where
  id : Uuid
  task : PatrolTask
  route : Option PatrolRoute
  routeSnapshot : RouteSnapshot
  loopSessionId : Option Uuid := none
  roundNumber : ℕ := 1
  loopDispatchKey : Option (Uuid × ℕ) := none
  state : ExecutionState := .created
  stateVersion : ℤ := 0
  currentWaypointIndex : Option ℕ := none
  currentWaypointId : String := ""
  completedWaypoints : ℕ := 0
  totalWaypoints : ℕ := 0
  distanceRemainingM : Option ℚ := none
  estimatedTimeRemainingS : Option ℕ := none
  startedAt : Option ℕ := none
  finishedAt : Option ℕ := none
  acceptedAt : Option ℕ := none
  pausedAt : Option ℕ := none
  failureCode : String := ""
  failureMessage : String := ""
  lastEdgeEventAt : Option ℕ := none

/-- What an obstacle-stage message is recorded under. -/
structure ObstacleKey where
  episodeId : String
  stage : String
  attempt : ℤ
  deriving DecidableEq

/-- `TaskExecutionEvent`. Of the payload only the key of an obstacle stage is read back. -/
structure TaskExecutionEvent where
  taskExecution : Uuid
  state : ExecutionState
  stateVersion : ℤ
  eventType : TaskEventType
  occurredAt : ℕ
  messageId : Option Uuid := none
  reasonCode : String := ""
  reasonMessage : String := ""
  obstacle : Option ObstacleKey := none
  deriving DecidableEq

/-! ## Commands -/

/-- The `docking` object of a start command. -/
structure Docking where
  enabled : Bool := false
  deriving DecidableEq

/-- The command object of `task.start`. -/
structure TaskStartPayload where
  taskId : ℕ
  taskName : String
  map : SnapshotMap
  routeSnapshot : RouteSnapshot
  onWaypointFailure : String := "abort"
  maxDurationSeconds : ℕ
  continueOnDisconnect : Bool := true
  recordRosbag : Bool
  continuousRosbag : Bool
  loopExecution : Bool
  loopSessionId : Option Uuid
  roundNumber : ℕ
  loopTotal : ℕ
  smartInitialize : Bool
  docking : Docking
  deriving DecidableEq

/-- The command object of `task.recover.v1`. -/
structure RecoveryPayload where
  recoveryEpisodeId : Uuid
  attempt : ℕ
  expectedTaskStateVersion : ℤ
  triggerReasonCode : String
  triggerReasonMessage : String
  observationSeconds : ℕ := 5
  deriving DecidableEq

/-- `RemoteCommand.payload`. -/
inductive CommandPayload
  | start (p : TaskStartPayload)
  | resume (fromWaypointIndex : ℕ)
  | resumeForward (reason : String) (resumeForward : Bool)
  | reason (text : String)
  | recovery (p : RecoveryPayload)
  | rosbagStop (loopSessionId : Uuid) (reason : String)
  deriving DecidableEq

/-- `recovery_status` of a recovery result, lower-cased. -/
inductive RecoveryStatus
  | inProgress | nonRetryable | other (text : String)
  deriving DecidableEq

/-- `RemoteCommand.result_payload`: the keys the center reads, each absent or present. -/
structure ResultPayload where
  finalTaskState : Option StateWord := none
  stateVersion : Option ℤ := none
  reasonCode : Option String := none
  reasonMessage : Option String := none
  robotStopped : Option Bool := none
  recoveryStatus : Option RecoveryStatus := none
  recoveryAction : Option String := none
  completedWaypoints : Option ℕ := none
  totalWaypoints : Option ℕ := none
  currentWaypointIndex : Option (Option ℕ) := none
  reconciledFromExecution : Option Bool := none
  deriving DecidableEq

/-- `dict.update`: keys of the newer payload win. -/
def ResultPayload.update (old new : ResultPayload) : ResultPayload where
  finalTaskState := new.finalTaskState.or old.finalTaskState
  stateVersion := new.stateVersion.or old.stateVersion
  reasonCode := new.reasonCode.or old.reasonCode
  reasonMessage := new.reasonMessage.or old.reasonMessage
  robotStopped := new.robotStopped.or old.robotStopped
  recoveryStatus := new.recoveryStatus.or old.recoveryStatus
  recoveryAction := new.recoveryAction.or old.recoveryAction
  completedWaypoints := new.completedWaypoints.or old.completedWaypoints
  totalWaypoints := new.totalWaypoints.or old.totalWaypoints
  currentWaypointIndex := new.currentWaypointIndex.or old.currentWaypointIndex
  reconciledFromExecution := new.reconciledFromExecution.or old.reconciledFromExecution

structure RemoteCommand where
  id : Uuid
  taskExecution : Option Uuid
  commandType : CommandType
  payload : CommandPayload
  status : CommandStatus := .created
  issuedAt : ℕ
  expiresAt : ℕ
  publishedAt : Option ℕ := none
  acknowledgedAt : Option ℕ := none
  startedAt : Option ℕ := none
  finishedAt : Option ℕ := none
  ackReasonCode : String := ""
  ackReasonMessage : String := ""
  resultPayload : ResultPayload := {}
  errorCode : String := ""
  errorMessage : String := ""

/-! ## The robot -/

structure RobotLowBatteryEpisode where
  episodeKey : String
  active : Bool := true
  batteryPercent : ℤ
  thresholdPercent : ℤ := 20
  rearmPercent : ℤ := 25
  source : String := "edge_alert"
  triggeredAt : ℕ
  clearedAt : Option ℕ := none
  deriving DecidableEq

/-! ## The latest status of the robot -/

/-- A value read from a status payload by the way Python's `float` takes it: absent, `null`, a
    boolean, a finite number, a NaN or infinity, a text with the finite number it reads as (if
    any), or a list or object. -/
inductive JsonScalar
  | missing | null
  | bool (b : Bool)
  | number (q : ℚ)
  | nonfinite
  | text (parsed : Option ℚ)
  | structured
  deriving DecidableEq

/-- `float(value)` when that is a finite number. -/
def JsonScalar.toFinite : JsonScalar → Option ℚ
  | .bool b => some (if b then 1 else 0)
  | .number q => some q
  | .text parsed => parsed
  | .missing | .null | .nonfinite | .structured => none

/-- The `navigation` object of a status payload. -/
structure NavigationObservation where
  observationSchema : String := ""
  actualVelocityObserved : JsonScalar := .missing
  actualPlanarSpeedMps : JsonScalar := .missing
  actualTurnSpeedRps : JsonScalar := .missing
  actualVelocitySampleAgeSeconds : JsonScalar := .missing
  requestedVelocityObserved : JsonScalar := .missing
  requestedPlanarSpeedMps : JsonScalar := .missing
  requestedTurnSpeedRps : JsonScalar := .missing
  deriving DecidableEq

/-- The `localization` object of a status payload. -/
structure LocalizationObservation where
  fresh : JsonScalar := .missing
  sampleAgeSeconds : JsonScalar := .missing
  deriving DecidableEq

inductive ControlMode
  | unknown | autonomous | manualAssist | manualTakeover | emergencyStop
  deriving DecidableEq

inductive LocalizationStatus
  | unknown | initializing | relocalizing | relocalized | normal | lost
  deriving DecidableEq

inductive ConnectionStatus
  | unknown | online | offline
  deriving DecidableEq

structure Robot where
  id : ℕ
  batteryLevel : ℤ := 100
  connectionStatus : ConnectionStatus := .unknown
  capabilities : List String := []
  localizationStatus : LocalizationStatus := .unknown
  navReady : Bool := false
  lastSeenAt : Option ℕ := none
  deriving DecidableEq

/-- `Robot.effective_connection_status` with its default of 180 seconds. -/
def Robot.effectiveConnectionStatus (robot : Robot) (now : ℕ) : ConnectionStatus :=
  if robot.connectionStatus ≠ .online then robot.connectionStatus
  else match robot.lastSeenAt with
    | none => .offline
    | some seen => if seen + seconds 180 < now then .offline else .online

structure RobotStatusLatest where
  stateVersion : ℤ := 0
  receivedAt : ℕ
  speedMps : Option ℚ := none
  localizationStatus : LocalizationStatus := .unknown
  powerAvailable : Bool := false
  batteryPercent : Option ℤ := none
  rosReady : Bool := false
  navReady : Bool := false
  emergencyStop : Bool := false
  controlMode : ControlMode := .unknown
  navigation : NavigationObservation := {}
  localization : LocalizationObservation := {}
  deriving DecidableEq

/-! ## The database -/

/-- The center's rows for one robot, with the clock and the supply of identifiers. -/
structure CenterDb where
  now : ℕ := 0
  nextUuid : Uuid := 0
  robot : Robot
  latest : Option RobotStatusLatest := none
  executions : List TaskExecution := []
  events : List TaskExecutionEvent := []
  commands : List RemoteCommand := []
  processedMessages : List Uuid := []
  lowBatteryEpisodes : List RobotLowBatteryEpisode := []

namespace CenterDb

/-- `TaskExecution.objects.get(pk=id)`. -/
def execution? (db : CenterDb) (id : Uuid) : Option TaskExecution :=
  Rows.get? TaskExecution.id db.executions id

/-- `RemoteCommand.objects.get(pk=id)`. -/
def command? (db : CenterDb) (id : Uuid) : Option RemoteCommand :=
  Rows.get? RemoteCommand.id db.commands id

/-- `execution.save()`. -/
def saveExecution (db : CenterDb) (e : TaskExecution) : CenterDb :=
  { db with executions := Rows.put TaskExecution.id db.executions e }

/-- Set fields of a command and `command.save()`. -/
def updateCommand (db : CenterDb) (id : Uuid) (g : RemoteCommand → RemoteCommand) : CenterDb :=
  { db with commands := Rows.modify RemoteCommand.id db.commands id g }

/-- The commands of one type, oldest first. -/
def commandsOfType (db : CenterDb) (type : CommandType) : List RemoteCommand :=
  db.commands.filter (fun c => c.commandType = type)

/-- `execution.commands.filter(command_type=type)`, oldest first. -/
def commandsOf (db : CenterDb) (id : Uuid) (type : CommandType) : List RemoteCommand :=
  (db.commandsOfType type).filter (fun c => c.taskExecution = some id)

/-- The active executions of the robot. -/
def activeExecutions (db : CenterDb) : List TaskExecution :=
  db.executions.filter (fun e => e.state.isActive)

end CenterDb

inductive ServiceError
  /-- `TaskStateError`. -/
  | taskState (code : String)
  /-- `IntegrityError`: a uniqueness constraint. -/
  | integrity (constraint : String)
  /-- `PermissionDenied`. -/
  | permissionDenied (message : String)
  /-- `PatrolLoopError`. -/
  | patrolLoop (message : String)
  /-- `ValueError("unsupported command type")`. -/
  | unsupportedCommand
  /-- A row that `get` does not find. -/
  | doesNotExist
  /-- A `get` that finds more than one row. -/
  | multipleObjects
  /-- `ProtocolError`. -/
  | protocol (code : String)
  deriving DecidableEq

end RoamerX
