import Mathlib.Algebra.Order.Group.Unbundled.Abs
import Mathlib.Algebra.Order.Ring.Rat
import RoamerX.Center.CommandService

set_option autoImplicit false

/-! # Patrol-loop sessions

The session row of a patrol loop, the telemetry predicates of `PatrolLoopService`
(`_observation_safety`, `_health` and their helpers), and the helpers that only touch the row.

`LoopDb` is the center's database together with one session, the sample cache of
`observe_battery`, which is no part of the database, and nothing else: the rows of
`PatrolLoopEvent` are written but never read. -/

namespace RoamerX

/-! ## Constants of the service -/

def observationSeconds : ℕ := 5

def maxRecoveryAttempts : ℕ := 10

def stopSpeedMps : ℚ := 3 / 100

def stopTurnRps : ℚ := 5 / 100

def edgeRosStaleSeconds : ℚ := 15

def statusFreshSeconds : ℕ := 15

/-! ## The session row -/

/-- `PatrolLoopSession.STATE_CHOICES`. -/
inductive LoopState
  | starting | running | resting | observing | recovering | paused | stopping
  | completed | failed | cancelled | lowBatteryStopped
  deriving DecidableEq

/-- `PatrolLoopSession.TERMINAL_STATES`. -/
def LoopState.isTerminal : LoopState → Bool
  | .completed | .failed | .cancelled | .lowBatteryStopped => true
  | .starting | .running | .resting | .observing | .recovering | .paused | .stopping => false

/-- `PatrolLoopSession.ACTIVE_STATES`. -/
def LoopState.isActive (s : LoopState) : Bool := !s.isTerminal

/-- The keys of `PatrolLoopSession.metadata` the service reads. -/
structure LoopMetadata where
  recordRosbag : Bool := false
  observationBlocker : Option (String × String) := none
  recoveryInProgressStartedAt : Option ℕ := none
  recoveryInProgressAction : Option String := none
  recoveryInProgressTimeoutSeconds : Option ℕ := none
  recoveryInProgressReasonMessage : Option String := none
  stopScopeRound : Bool := false
  continuationRequired : Bool := false
  recordingStopCommandId : Option Uuid := none
  recordingStopRequestedAt : Option ℕ := none
  deriving DecidableEq

structure PatrolLoopSession where
  id : Uuid
  task : PatrolTask
  routeSnapshot : RouteSnapshot
  state : LoopState := .starting
  stateVersion : ℤ := 0
  durationSeconds : ℕ
  restSeconds : ℕ := 0
  startedAt : ℕ
  endsAt : ℕ
  finishedAt : Option ℕ := none
  currentRound : ℕ := 0
  currentExecution : Option Uuid := none
  nextActionAt : ℕ
  observationStartedAt : Option ℕ := none
  recoveryEpisodeId : Option Uuid := none
  recoveryReasonCode : String := ""
  recoveryReasonMessage : String := ""
  recoveryAttempt : ℕ := 0
  recoveryMaxAttempts : ℕ := 10
  manualPaused : Bool := false
  lastError : String := ""
  metadata : LoopMetadata := {}

/-- The entry of `observe_battery` in the Django cache. -/
structure LowBatterySample where
  count : ℕ
  version : ℤ
  expiresAt : ℕ
  deriving DecidableEq

/-- The center's database with one patrol-loop session. -/
structure LoopDb where
  center : CenterDb
  session : PatrolLoopSession
  lowBatterySample : Option LowBatterySample := none

/-! ## Telemetry predicates -/

/-- The triple `(ok, code, message)` the predicates return. -/
structure Verdict where
  safe : Bool
  code : String := ""
  message : String := ""
  deriving DecidableEq

def absFinite (v : JsonScalar) : Option ℚ := v.toFinite.map (fun q => |q|)

def nonnegativeFinite (v : JsonScalar) : Option ℚ := v.toFinite.filter (fun q => 0 ≤ q)

def localizationCurrent (l : LocalizationObservation) : Bool :=
  let age := nonnegativeFinite l.sampleAgeSeconds
  if l.fresh = .bool false then false
  else if l.fresh = .bool true then age.all (fun a => a ≤ edgeRosStaleSeconds)
  else age.any (fun a => a ≤ edgeRosStaleSeconds)

def commandingMotion (n : NavigationObservation) : Bool :=
  if n.requestedVelocityObserved ≠ .bool true then false
  else
    match absFinite n.requestedPlanarSpeedMps, absFinite n.requestedTurnSpeedRps with
    | some planar, some turn => stopSpeedMps < planar ∨ stopTurnRps < turn
    | _, _ => false

def idleUncommandedStop (n : NavigationObservation) (l : LocalizationObservation) : Verdict :=
  if commandingMotion n then ⟨false, "ROBOT_NOT_STOPPED", "尚未确认机器人停止"⟩
  else if !localizationCurrent l then
    ⟨false, "EDGE_ROS_DATA_UNAVAILABLE", "Edge 尚未收到实际速度观测，不能确认机器人已停车"⟩
  else ⟨true, "", ""⟩

/-- The motion part of `_observation_safety`. -/
def motionSafety (latest : RobotStatusLatest) : Verdict :=
  let n := latest.navigation
  let l := latest.localization
  let modernVelocityContract :=
    n.observationSchema = "roamerx.navigation-observation.v1"
      ∨ n.actualVelocityObserved ≠ .missing
  if n.actualVelocityObserved = .bool false then idleUncommandedStop n l
  else
    match absFinite n.actualPlanarSpeedMps, absFinite n.actualTurnSpeedRps with
    | some planar, some turn =>
      match nonnegativeFinite n.actualVelocitySampleAgeSeconds with
      | none => idleUncommandedStop n l
      | some age =>
        if edgeRosStaleSeconds < age ∧ localizationCurrent l = false then
          ⟨false, "EDGE_ROS_DATA_STALE", "Edge ROS 运动与定位观测已过期，等待 Edge 恢复数据更新"⟩
        else if stopSpeedMps < planar ∨ stopTurnRps < turn then
          ⟨false, "ROBOT_NOT_STOPPED", "尚未确认机器人停止"⟩
        else ⟨true, "", ""⟩
    | _, _ =>
      if modernVelocityContract then idleUncommandedStop n l
      -- payloads of an old Edge carry no velocity observation
      else if latest.speedMps.all (fun v => stopSpeedMps < |v|) then
        ⟨false, "ROBOT_NOT_STOPPED", "尚未确认机器人停止"⟩
      else ⟨true, "", ""⟩

def observationSafety (db : CenterDb) : Verdict :=
  match db.latest with
  | none => ⟨false, "EDGE_OFFLINE", "Edge 离线或没有状态数据"⟩
  | some latest =>
    if db.robot.effectiveConnectionStatus db.now ≠ .online then
      ⟨false, "EDGE_OFFLINE", "Edge 离线或没有状态数据"⟩
    else if latest.receivedAt + seconds statusFreshSeconds < db.now then
      ⟨false, "TELEMETRY_STALE", "设备状态已过期"⟩
    else if latest.emergencyStop ∨ latest.controlMode = .emergencyStop then
      ⟨false, "EMERGENCY_STOP", "急停未解除"⟩
    else if latest.controlMode = .manualTakeover then
      ⟨false, "MANUAL_TAKEOVER", "机器人仍处于人工接管"⟩
    else if latest.powerAvailable ∧ latest.batteryPercent.any (fun p => p < lowBatteryPercent) then
      ⟨false, "LOW_BATTERY", "电量低于巡逻阈值"⟩
    else motionSafety latest

def health (db : CenterDb) : Verdict :=
  let verdict := observationSafety db
  if !verdict.safe then verdict
  else
    match db.latest with
    | none => verdict
    | some latest =>
      if latest.localizationStatus ≠ .normal then
        ⟨false, "LOCALIZATION_NOT_READY", "定位尚未恢复"⟩
      else if !latest.rosReady || !latest.navReady then
        ⟨false, "NAV_NOT_READY", "ROS 或 Nav2 尚未就绪"⟩
      else ⟨true, "", ""⟩

/-! ## Helpers on the row -/

def PatrolLoopSession.clearRecoveryEpisode (s : PatrolLoopSession) : PatrolLoopSession :=
  { s with
    recoveryAttempt := 0
    recoveryEpisodeId := none
    recoveryReasonCode := ""
    recoveryReasonMessage := ""
    observationStartedAt := none
    metadata :=
      { s.metadata with
        observationBlocker := none
        recoveryInProgressStartedAt := none
        recoveryInProgressAction := none
        recoveryInProgressTimeoutSeconds := none
        recoveryInProgressReasonMessage := none
        stopScopeRound := false } }

def recoveryInProgressTimeout (action : String) : ℕ :=
  if action = "nav2_reapproach" then 35
  else if action = "task_start_initializing" then 180
  else 70

end RoamerX
