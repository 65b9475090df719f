import RoamerX.VelocityBridge.RemoteVelocityMode
import RoamerX.Lib.Run

set_option autoImplicit false

/-! # The velocity bridge

`vel_cmd_udp_publisher.cpp`: the node between Nav2's and the browser's velocities and the robot, which
it drives through the native SDK or through the vendor's virtual remote. The node's callbacks run one
at a time under its mutex, so a callback is a function from the node's state to the next one. A
callback reads the clock when it starts, and its sleeps advance it. What the SDK and the vendor's
executor answer is part of the event.

Left out are the log lines and `PublishControlMode`, which publishes a readback and changes nothing. -/

namespace RoamerX.VelocityBridge

/-! ## Commands and calls -/

/-- The topics velocities arrive on, `/cmd_vel` and `/teleop_cmd_vel`. -/
inductive VelocityTopic where
  | planner
  | teleop
  deriving DecidableEq

/-- A `geometry_msgs::msg::Twist` with the fields the bridge reads, and the topic it came from: the
    topic is no field of the message, it says where a stored command is from. -/
structure Twist where
  linearX : Double := 0
  linearY : Double := 0
  angularZ : Double := 0
  topic : Option VelocityTopic := none
  deriving DecidableEq

namespace Twist

/-- `is_zero_command` of `HandlePlannerVelCallback`. -/
def isZeroCommand (cmd : Twist) : Bool :=
  cmd.linearX.fabs.lt (.finite (1 / 1000000)) && cmd.linearY.fabs.lt (.finite (1 / 1000000)) &&
  cmd.angularZ.fabs.lt (.finite (1 / 1000000))

/-- `IsZeroPlanarVelocity` of a command. -/
def isZero (cmd : Twist) : Bool := isZeroPlanarVelocity cmd.linearX cmd.linearY cmd.angularZ

end Twist

/-- `zsibot::CmdCode`, as far as the bridge uses it. -/
inductive CmdCode where
  | remoteControlRight
  | sdkControlRight
  | standUp
  | sitDown
  | moveMode
  | crawlForward
  | emergencyStop
  | twoLegStand
  | greet
  | slowSpeed
  | normalSpeed
  | fastSpeed
  deriving DecidableEq

/-- A joystick frame of `SetRemote`; the buttons are always released. -/
structure Joystick where
  axis0 : Double := 0
  axis1 : Double := 0
  axis2 : Double := 0
  axis3 : Double := 0
  deriving DecidableEq

/-- A call to the SDK, to the vendor's executor or to the motion state publisher. A motion carries the
    topic of the command it was made of. -/
inductive Call where
  | setRemote (joystick : Joystick) (source : Option VelocityTopic)
  | setCmd (command : CmdCode)
  | getControlMode (mode : ControlMode)
  | move (vx vy yawRate : Double) (source : Option VelocityTopic)
  | standUp
  | lieDown
  | passive
  | motionState (state : String)
  deriving DecidableEq

/-- What the SDK and the executor answer during a callback. `0` is the SDK's success. -/
structure Replies where
  controlMode : ControlMode := .other 0
  modelIsXg : Bool := false
  ctrlMode : ℕ := 0
  ctrlModeAfterMove : ℕ := 0
  passive : UInt32 := 0
  lieDown : UInt32 := 0
  standUp : UInt32 := 0
  move : UInt32 := 0

/-! ## Parameters and members -/

/-- The parameters, and what the constructor finds. `std::clamp` needs its bounds in order. -/
structure BridgeConfig where
  standupSettleMs : ℤ := 4000
  standupRetryMs : ℤ := 5000
  cmdTimeoutMs : ℤ := 500
  inactiveLingerMs : ℤ := 8000
  sdkMaxVx : ℚ := 3
  sdkMaxVy : ℚ := 9 / 4
  sdkMaxYawRate : ℚ := 21 / 4
  remoteFullScaleVx : ℚ := 3
  remoteFullScaleVy : ℚ := 9 / 4
  remoteFullScaleYawRate : ℚ := 21 / 4
  remoteFineMinStick : ℚ := 45 / 100
  turnLinearLimitYawRate : ℚ := 1
  turnMaxLinearSpeed : ℚ := 1 / 2
  manualOverrideMs : ℤ := 650
  remoteControlOnly : Bool := false
  localizationTimeoutMs : ℤ := 500
  sdkConnected : Bool := false
  /-- The SDK is only initialised when the bridge is not remote-only. -/
  sdk_of_remoteOnly : remoteControlOnly = true → sdkConnected = false := by decide
  sdkMaxVx_nonneg : 0 ≤ sdkMaxVx := by norm_num
  sdkMaxVy_nonneg : 0 ≤ sdkMaxVy := by norm_num
  sdkMaxYawRate_nonneg : 0 ≤ sdkMaxYawRate := by norm_num
  turnMaxLinearSpeed_nonneg : 0 ≤ turnMaxLinearSpeed := by norm_num

def BridgeConfig.plain : BridgeConfig := {}

/-- The members of `VelCmdUdpPublisher`. Times are nanoseconds of the steady clock. -/
structure VelCmdUdpPublisher where
  remoteExecutor : Bool := false
  navActive : Bool := false
  manualTeleopActive : Bool := false
  standingUp : Bool := false
  standupCommandAccepted : Bool := false
  crawlMode : Bool := false
  remoteMoveModeRequested : Bool := false
  emergencyStopLatched : Bool := false
  fineControl : Bool := false
  lastRemoteMoveModeRequest : ℤ := 0
  manualCrawlLock : Bool := false
  requestedPosture : RequestedPosture := .none
  crawlZeroSent : Bool := false
  standStartTime : ℤ := 0
  manualOverrideUntil : ℤ := 0
  lastCmd : Option Twist := none
  lastCmdTime : ℤ := 0
  queuedStandCmd : Option Twist := none
  queuedStandCmdTime : ℤ := 0
  locInfoSeen : Bool := false
  lastLocStatus : UInt8 := 0
  lastLocTime : ℤ := 0
  remoteMinStick : ℚ := 55 / 100

/-- The node, the clock, and the calls of the current callback, newest first. -/
structure Bridge where
  node : VelCmdUdpPublisher := {}
  clock : ℤ := 0
  calls : List Call := []

def milliseconds (count : ℤ) : ℤ := count * 1000000

/-- `duration_cast<milliseconds>`, which truncates. -/
def durationMs (duration : ℤ) : ℤ := duration.tdiv 1000000

namespace Bridge

variable (cfg : BridgeConfig) (r : Replies)

/-! ## The calls -/

def call (b : Bridge) (c : Call) : Bridge := { b with calls := c :: b.calls }

def update (b : Bridge) (f : VelCmdUdpPublisher → VelCmdUdpPublisher) : Bridge :=
  { b with node := f b.node }

def sleepFor (b : Bridge) (ms : ℤ) : Bridge := { b with clock := b.clock + milliseconds ms }

def remoteReady (b : Bridge) : Bool := b.node.remoteExecutor

def remoteSetCmd (b : Bridge) (command : CmdCode) : Bridge :=
  if b.remoteReady then b.call (.setCmd command) else b

/-- `RemoteSetRemote` of a frame made of a command of the given topic. -/
def remoteSetRemote (b : Bridge) (joystick : Joystick) (source : Option VelocityTopic) : Bridge :=
  if b.remoteReady then b.call (.setRemote joystick source) else b

/-- `RemoteSetRemote({}, {})`. -/
def remoteSetZero (b : Bridge) : Bridge := b.remoteSetRemote {} none

/-- The value of `RemoteControlMode`; `none` is −1. -/
def remoteControlMode (b : Bridge) : Option ControlMode :=
  if b.remoteReady then some r.controlMode else none

/-- The call that `RemoteControlMode` makes. -/
def readControlMode (b : Bridge) : Bridge :=
  if b.remoteReady then b.call (.getControlMode r.controlMode) else b

def publishMotionState (b : Bridge) (state : String) : Bridge := b.call (.motionState state)

/-- `RemoteSetCmd(CMD_REMOTE_CONTROL_RIGHT)`, a sleep of 100 ms, and the command. -/
def remoteSetCmdWithRight (b : Bridge) (command : CmdCode) : Bridge :=
  ((b.remoteSetCmd .remoteControlRight).sleepFor 100).remoteSetCmd command

def startStandUp (b : Bridge) : Bridge :=
  let b := b.update fun n => { n with requestedPosture := .standing }
  if !cfg.sdkConnected then
    let b := b.remoteSetZero.remoteSetCmdWithRight .standUp
    let b := b.update fun n =>
      { n with
        emergencyStopLatched := false
        standupCommandAccepted := true
        standingUp := true
        remoteMoveModeRequested := false
        standStartTime := b.clock }
    b.publishMotionState "standing_up"
  else
    let b := b.call .standUp
    let b := b.update fun n =>
      { n with
        standupCommandAccepted := r.standUp == 0
        standingUp := true
        standStartTime := b.clock }
    b.publishMotionState (if r.standUp = 0 then "standing_up" else "stand_up_retrying")

/-- The `passive()` of the SDK, or a zero frame without it. -/
def passiveOrZero (b : Bridge) : Bridge :=
  if cfg.sdkConnected then b.call .passive else b.remoteSetZero

/-- What `passiveOrZero` returned. -/
def passiveReturn : UInt32 := if cfg.sdkConnected then r.passive else 0

/-! ## Localisation -/

/-- `LocalizationAllowsNavLocked`. -/
def localizationAllowsNav (b : Bridge) : Bool :=
  if cfg.remoteControlOnly || b.node.manualTeleopActive then true
  else if b.clock < b.node.manualOverrideUntil then true
  else if !b.node.locInfoSeen then false
  else if cfg.localizationTimeoutMs < durationMs (b.clock - b.node.lastLocTime) then false
  else b.node.lastLocStatus == 3

/-- `HoldPlannerVelocityLocked`. -/
def holdPlannerVelocity (b : Bridge) : Bridge :=
  let b := b.update fun n =>
    { n with lastCmd := some {}, lastCmdTime := b.clock, queuedStandCmd := none }
  if b.node.crawlMode || !cfg.sdkConnected then
    b.remoteSetZero.update fun n => { n with crawlZeroSent := true }
  else b.call (.move 0 0 0 none)

def handleLocalizationCallback (b : Bridge) (status : UInt8) : Bridge :=
  b.update fun n => { n with locInfoSeen := true, lastLocStatus := status, lastLocTime := b.clock }

/-! ## `HandleModeSwitchCallback` -/

/-- The last command is younger than the linger time. -/
def lingers (b : Bridge) : Bool :=
  b.node.lastCmd.isSome && durationMs (b.clock - b.node.lastCmdTime) < cfg.inactiveLingerMs

def handleModeSwitchCallback (b : Bridge) (data : ℤ) : Bridge :=
  if b.node.manualTeleopActive then b
  else if b.node.manualCrawlLock then b
  else if data = 171 then
    if b.node.crawlMode then
      let b := (b.update fun n => { n with crawlMode := false }).startStandUp cfg r
      b.update fun n => { n with navActive := true }
    else b
  else if !b.node.navActive then b
  else if b.lingers cfg then b
  else
    let b := (b.passiveOrZero cfg).update fun n =>
      { n with crawlMode := false, navActive := false, standingUp := false, lastCmd := none }
    b.publishMotionState "passive"

/-! ## `HandlePlannerVelCallback` -/

/-- The first deliberate velocity of a remote-only bridge. -/
def activateRemoteOnly (b : Bridge) (cmd : Twist) : Bridge :=
  let b := b.update fun n =>
    { n with lastCmd := some cmd, lastCmdTime := b.clock, navActive := true }
  if b.node.requestedPosture = .low then b.publishMotionState "low_posture_moving"
  else
    let b := b.update fun n => { n with queuedStandCmd := some cmd, queuedStandCmdTime := n.lastCmdTime }
    let b := (b.remoteSetCmd .remoteControlRight).remoteSetCmd .standUp
    let b := b.update fun n => { n with standingUp := true, standStartTime := n.lastCmdTime }
    b.publishMotionState "standing_up"

/-- The end of the callback: the command is kept, and an idle bridge stands the robot up. -/
def keepPlannerVel (b : Bridge) (cmd : Twist) : Bridge :=
  let b := b.update fun n => { n with lastCmd := some cmd, lastCmdTime := b.clock }
  let b :=
    if cfg.remoteControlOnly && b.node.standingUp && !cmd.isZeroCommand then
      b.update fun n => { n with queuedStandCmd := some cmd, queuedStandCmdTime := n.lastCmdTime }
    else b
  if !cfg.remoteControlOnly && !b.node.navActive then
    (b.startStandUp cfg r).update fun n => { n with navActive := true }
  else b

/-- The callback after the test of the emergency-stop latch. -/
def handlePlannerVel (b : Bridge) (cmd : Twist) : Bridge :=
  if !cfg.remoteControlOnly && b.node.manualCrawlLock then b
  else if !cfg.remoteControlOnly && b.clock < b.node.manualOverrideUntil then b
  else if !b.localizationAllowsNav cfg then
    if b.node.navActive then b.holdPlannerVelocity cfg else b
  else if !b.node.navActive && cmd.isZeroCommand then b
  else if cfg.remoteControlOnly && !b.node.navActive then
    if !cmd.isZeroCommand then b.activateRemoteOnly cmd else b
  else b.keepPlannerVel cfg r cmd

def handlePlannerVelCallback (b : Bridge) (cmd : Twist) : Bridge :=
  if !cfg.sdkConnected && b.node.emergencyStopLatched then
    if !b.remoteReady then b
    else if r.controlMode = .emergencyStop then b.readControlMode r
    else
      let b := (b.readControlMode r).update fun n => { n with emergencyStopLatched := false }
      b.handlePlannerVel cfg r cmd
  else b.handlePlannerVel cfg r cmd

/-! ## `HandleTeleopVelCallback` -/

/-- A teleop velocity that reaches an idle bridge. -/
def activateTeleop (b : Bridge) (cmd : Twist) : Bridge :=
  if cmd.isZero then b.update fun n => { n with lastCmd := none }
  else if b.node.requestedPosture = .low then
    (b.update fun n => { n with standingUp := false, navActive := true }).publishMotionState
      "low_posture_moving"
  else
    let b := b.remoteSetZero.remoteSetCmdWithRight .standUp
    let b := b.update fun n => { n with standingUp := true, standStartTime := n.lastCmdTime }
    (b.publishMotionState "standing_up").update fun n => { n with navActive := true }

def handleTeleopVelCallback (b : Bridge) (cmd : Twist) : Bridge :=
  let b := b.update fun n =>
    { n with
      manualTeleopActive := true
      lastCmd := some cmd
      lastCmdTime := b.clock
      manualOverrideUntil := b.clock + milliseconds cfg.manualOverrideMs }
  if !b.node.navActive then b.activateTeleop cmd else b

/-! ## Actions -/

/-- `SetRemoteSpeedLevel`: the command, the motion state and the smallest stick of a speed level. -/
def speedLevel (action : String) : Option (CmdCode × ℚ) :=
  if action = "speed_micro" then some (.slowSpeed, 70 / 100)
  else if action = "speed_slow" then some (.slowSpeed, 1)
  else if action = "speed_normal" then some (.normalSpeed, 1)
  else if action = "speed_fast" then some (.fastSpeed, 55 / 100)
  else none

def setRemoteSpeedLevel (b : Bridge) (action : String) (level : CmdCode × ℚ) : Bridge :=
  let b := b.update fun n => { n with remoteMinStick := level.2 }
  (b.remoteSetCmd level.1).publishMotionState action

/-- `stand_up` on the virtual remote. -/
def remoteStandUp (b : Bridge) : Bridge :=
  let b := b.update fun n =>
    { n with
      manualTeleopActive := true, crawlMode := false, manualCrawlLock := false
      requestedPosture := .standing }
  let b := b.remoteSetZero.remoteSetCmdWithRight .standUp
  let b := b.update fun n =>
    { n with
      emergencyStopLatched := false, navActive := true, standingUp := true
      remoteMoveModeRequested := false, standStartTime := b.clock, queuedStandCmd := none
      lastCmd := some {}, lastCmdTime := b.clock }
  b.publishMotionState "standing_up"

/-- `two_leg_stand` and `shake_hand` on the virtual remote. -/
def remoteGesture (b : Bridge) (twoLegStand : Bool) : Bridge :=
  let b := b.update fun n =>
    { n with
      manualTeleopActive := true, crawlMode := false, manualCrawlLock := false
      requestedPosture := .none }
  let b := b.remoteSetZero.remoteSetCmdWithRight (if twoLegStand then .twoLegStand else .greet)
  let b := b.update fun n =>
    { n with
      emergencyStopLatched := false, navActive := false, standingUp := false, lastCmd := none
      queuedStandCmd := none }
  b.publishMotionState (if twoLegStand then "two_leg_standing" else "greeting")

/-- The members that entering the crawl gait sets. -/
def enterCrawl (b : Bridge) : Bridge :=
  let b := b.update fun n =>
    { n with
      crawlMode := true, manualCrawlLock := true, requestedPosture := .low
      remoteMoveModeRequested := false, crawlZeroSent := false, navActive := true
      standingUp := false, lastCmd := some {}, lastCmdTime := b.clock }
  b.publishMotionState "crawling"

/-- `crawl_forward` on the virtual remote, which the XG model does not support. -/
def remoteCrawlForward (b : Bridge) : Bridge :=
  let b := b.update fun n => { n with manualTeleopActive := true }
  if b.remoteReady && r.modelIsXg then
    let b := b.update fun n =>
      { n with crawlMode := false, manualCrawlLock := false, requestedPosture := .none, lastCmd := none }
    b.publishMotionState "crawl_unsupported_xg"
  else (b.remoteSetCmd .crawlForward).enterCrawl

/-- `passive`, `lie_down` and `release_remote` on the virtual remote end the session alike. -/
def endRemoteSession (b : Bridge) (posture : RequestedPosture) : Bridge :=
  b.update fun n =>
    { n with
      crawlMode := false, manualCrawlLock := false, requestedPosture := posture
      manualTeleopActive := false, navActive := false, standingUp := false, lastCmd := none
      queuedStandCmd := none }

def remotePassive (b : Bridge) : Bridge :=
  let b := (b.remoteSetZero.remoteSetCmd .emergencyStop).endRemoteSession .none
  (b.update fun n => { n with emergencyStopLatched := true }).publishMotionState "passive"

def remoteLieDown (b : Bridge) : Bridge :=
  let b := (b.remoteSetZero.remoteSetCmd .sitDown).endRemoteSession .low
  (b.update fun n => { n with remoteMoveModeRequested := false }).publishMotionState "lying_down"

def remoteRelease (b : Bridge) : Bridge :=
  let b := (b.remoteSetZero.remoteSetCmd .remoteControlRight).endRemoteSession .none
  b.publishMotionState "remote_control"

def handleRemoteTeleopAction (b : Bridge) (action : String) : Bridge :=
  match speedLevel action with
  | some level => b.setRemoteSpeedLevel action level
  | none =>
    if action = "stand_up" then b.remoteStandUp
    else if action = "two_leg_stand" then b.remoteGesture true
    else if action = "shake_hand" then b.remoteGesture false
    else if action = "crawl_forward" then b.remoteCrawlForward r
    else if action = "passive" then b.remotePassive
    else if action = "lie_down" then b.remoteLieDown
    else if action = "release_remote" then b.remoteRelease
    else b

/-- `stand_up` on `/teleop_action`. -/
def teleopStandUp (b : Bridge) : Bridge :=
  let b := b.update fun n =>
    { n with crawlMode := false, manualCrawlLock := false, requestedPosture := .standing }
  let b := b.startStandUp cfg r
  b.update fun n => { n with lastCmd := some {}, lastCmdTime := b.clock, navActive := true }

/-- `lie_down` on `/teleop_action`. -/
def teleopLieDown (b : Bridge) : Bridge :=
  let b := (b.call .lieDown).update fun n =>
    { n with
      crawlMode := false, manualCrawlLock := false, requestedPosture := .low, navActive := false
      standingUp := false, lastCmd := none }
  b.publishMotionState (if r.lieDown = 0 then "lying_down" else "lie_down_failed")

/-- `crawl_forward` on `/teleop_action`. -/
def teleopCrawlForward (b : Bridge) : Bridge :=
  (((b.remoteSetCmd .sdkControlRight).sleepFor 100).remoteSetCmd .crawlForward).enterCrawl

/-- `passive` and `release_remote` on `/teleop_action` stop alike. -/
def teleopStop (b : Bridge) : Bridge :=
  (b.passiveOrZero cfg).update fun n =>
    { n with
      crawlMode := false, manualCrawlLock := false, requestedPosture := .none, navActive := false
      standingUp := false, lastCmd := none }

def teleopPassive (b : Bridge) : Bridge :=
  (b.teleopStop cfg).publishMotionState
    (if passiveReturn cfg r = 0 then "passive" else "passive_failed")

def teleopRelease (b : Bridge) : Bridge :=
  let b := b.teleopStop cfg
  if passiveReturn cfg r ≠ 0 then b.publishMotionState "remote_control_failed"
  else ((b.sleepFor 100).remoteSetCmd .remoteControlRight).publishMotionState "remote_control"

def handleTeleopActionCallback (b : Bridge) (action : String) : Bridge :=
  match speedLevel action with
  | some level => b.setRemoteSpeedLevel action level
  | none =>
    if cfg.remoteControlOnly then b.handleRemoteTeleopAction r action
    else if action = "stand_up" then b.teleopStandUp cfg r
    else if action = "lie_down" then b.teleopLieDown r
    else if action = "crawl_forward" then b.teleopCrawlForward
    else if action = "passive" then b.teleopPassive cfg r
    else if action = "release_remote" then b.teleopRelease cfg r
    else b

/-! ## `PublishLatestRemoteVelocity` -/

/-- The stand-up is confirmed: the queued command is applied when it is at most 1500 ms old. -/
def confirmRemoteStandUp (b : Bridge) (now : ℤ) : Bridge :=
  let b := b.update fun n => { n with standingUp := false }
  let b :=
    match b.node.queuedStandCmd with
    | some queued =>
      if now - b.node.queuedStandCmdTime ≤ milliseconds 1500 then
        b.update fun n => { n with lastCmd := some queued, lastCmdTime := now }
      else b
    | none => b
  let b := b.update fun n => { n with queuedStandCmd := none, remoteMoveModeRequested := false }
  b.publishMotionState "standing"

/-- The branch of a robot that is standing up. -/
def awaitRemoteStandUp (b : Bridge) (now : ℤ) : Bridge :=
  let elapsed := durationMs (now - b.node.standStartTime)
  let ctrlMode := b.remoteControlMode r
  let b := b.readControlMode r
  if ctrlMode = some .standUp ∨ ctrlMode = some .moveMode then b.confirmRemoteStandUp now
  else if cfg.standupRetryMs ≤ elapsed then
    if ctrlMode = some .emergencyStop then
      let b := b.remoteSetZero.remoteSetCmdWithRight .standUp
      let b := b.update fun n => { n with emergencyStopLatched := false, standStartTime := now }
      b.publishMotionState "stand_up_retrying"
    else
      (b.remoteSetCmdWithRight .standUp).update fun n => { n with standStartTime := now }
  else b

/-- The controller reports `CM_EMERGENCY_STOP`. -/
def latchEmergencyStop (b : Bridge) : Bridge :=
  let b := b.remoteSetZero.update fun n =>
    { n with
      emergencyStopLatched := true, navActive := false, standingUp := false, lastCmd := none
      queuedStandCmd := none, remoteMoveModeRequested := false }
  b.publishMotionState "emergency_stop_latched"

def remoteZeroOnce (b : Bridge) : Bridge :=
  if !b.node.crawlZeroSent then b.remoteSetZero.update fun n => { n with crawlZeroSent := true } else b

/-- `MOVE_MODE` is asked for at most once a second. -/
def requestMoveMode (b : Bridge) (now : ℤ) : Bridge :=
  if !b.node.remoteMoveModeRequested ||
      1000000000 ≤ now - b.node.lastRemoteMoveModeRequest then
    (b.remoteSetCmdWithRight .moveMode).update fun n =>
      { n with remoteMoveModeRequested := true, lastRemoteMoveModeRequest := now }
  else b

def remoteStick (b : Bridge) (cmd : Twist) : Joystick :=
  let liftToMin := b.node.manualTeleopActive || b.node.fineControl
  let minStick := if b.node.fineControl then cfg.remoteFineMinStick else b.node.remoteMinStick
  let vxScale := if liftToMin then cfg.remoteFullScaleVx else kNavStickVxFullScale
  let vyScale := if liftToMin then cfg.remoteFullScaleVy else kNavStickVyFullScale
  let yawScale := if liftToMin then cfg.remoteFullScaleYawRate else kNavStickYawFullScale
  { axis0 := normalizeRemoteStick cmd.linearX vxScale minStick liftToMin
    axis1 := normalizeRemoteStick cmd.linearY vyScale minStick liftToMin
    axis2 := normalizeRemoteStick cmd.angularZ yawScale minStick liftToMin }

def sendRemoteStick (b : Bridge) (cmd : Twist) : Bridge :=
  (b.remoteSetRemote (b.remoteStick cfg cmd) cmd.topic).update fun n => { n with crawlZeroSent := false }

/-- The command is a live motion command at `now`. -/
def hasLiveMotion (b : Bridge) (cmd : Twist) (now : ℤ) : Bool :=
  hasLiveMotionCommand cmd.linearX cmd.linearY cmd.angularZ (durationMs (now - b.node.lastCmdTime))
    cfg.cmdTimeoutMs

/-- `PublishLatestRemoteVelocity`, with the stored command. -/
def publishLatestRemoteVelocity (b : Bridge) (now : ℤ) (cmd : Twist) : Bridge :=
  if b.node.standingUp then b.awaitRemoteStandUp cfg r now
  else
    let disposition := decideRemoteVelocityDisposition b.node.requestedPosture (b.remoteControlMode r)
    let b := b.readControlMode r
    if disposition = .emergencyStop then b.latchEmergencyStop
    else if !b.hasLiveMotion cfg cmd now then b.remoteZeroOnce
    else if disposition = .waitForLowPosture then b.remoteZeroOnce
    else if disposition = .requestMoveMode then b.requestMoveMode now
    else b.sendRemoteStick cfg cmd

/-! ## `PublishLatestVelocity` -/

/-- The velocity that the SDK is given for a command. -/
def sdkVelocity (cmd : Twist) : Double × Double × Double :=
  let vx := if cmd.linearX.fabs.lt (.finite (85 / 1000)) then 0 else cmd.linearX
  let vy := if cmd.linearY.fabs.lt (.finite (10 / 100)) then 0 else cmd.linearY
  let yawRate :=
    if Double.lt (.finite (1 / 10000)) cmd.angularZ.fabs ∧ cmd.angularZ.fabs.lt (.finite (25 / 1000))
    then .copysign (25 / 1000) cmd.angularZ else cmd.angularZ
  let vx := vx.clamp (.finite (-cfg.sdkMaxVx)) (.finite cfg.sdkMaxVx)
  let vy := vy.clamp (.finite (-cfg.sdkMaxVy)) (.finite cfg.sdkMaxVy)
  let yawRate := yawRate.clamp (.finite (-cfg.sdkMaxYawRate)) (.finite cfg.sdkMaxYawRate)
  if Double.le (.finite cfg.turnLinearLimitYawRate) yawRate.fabs then
    (vx.clamp (.finite (-cfg.turnMaxLinearSpeed)) (.finite cfg.turnMaxLinearSpeed),
      vy.clamp (.finite (-cfg.turnMaxLinearSpeed)) (.finite cfg.turnMaxLinearSpeed), yawRate)
  else (vx, vy, yawRate)

/-- The joystick frame of the crawl gait on the SDK path. -/
def crawlStick (cmd : Twist) : Joystick :=
  let v := sdkVelocity cfg cmd
  { axis0 := (v.1.div cfg.sdkMaxVx).clamp (.finite (-1)) (.finite 1)
    axis1 := (v.2.2.div cfg.sdkMaxYawRate).clamp (.finite (-1)) (.finite 1)
    axis2 := (v.2.1.div cfg.sdkMaxVy).clamp (.finite (-1)) (.finite 1) }

/-- `move()` of the SDK, and a stand-up when it is rejected by a robot that does not stand. -/
def sdkMove (b : Bridge) (cmd : Twist) : Bridge :=
  let v := sdkVelocity cfg cmd
  let b := b.call (.move v.1 v.2.1 v.2.2 cmd.topic)
  if r.move = 0x3007 ∧ r.ctrlModeAfterMove ≠ 1 ∧ r.ctrlModeAfterMove ≠ 18 then b.startStandUp cfg r
  else b

/-- The end of the callback on the SDK path. -/
def sendSdkVelocity (b : Bridge) (now : ℤ) (cmd : Twist) : Bridge :=
  if cfg.cmdTimeoutMs < durationMs (now - b.node.lastCmdTime) then
    if b.node.crawlMode && !b.node.crawlZeroSent then
      b.remoteSetZero.update fun n => { n with crawlZeroSent := true }
    else b
  else if b.node.crawlMode then
    (b.remoteSetRemote (crawlStick cfg cmd) cmd.topic).update fun n => { n with crawlZeroSent := false }
  else b.sdkMove cfg r cmd

/-- The stand-up counts as done on the SDK path. -/
def sdkStandUpDone (b : Bridge) (now : ℤ) : Bool :=
  let elapsed := durationMs (now - b.node.standStartTime)
  let sdkReportsStanding := r.ctrlMode == 1 || r.ctrlMode == 18
  let settled := b.node.standupCommandAccepted && decide (cfg.standupSettleMs ≤ elapsed)
  sdkReportsStanding && decide (cfg.standupSettleMs ≤ elapsed) || settled

/-- The stand-up is over on the SDK path. -/
def confirmSdkStandUp (b : Bridge) : Bridge :=
  (b.update fun n => { n with standingUp := false }).publishMotionState "standing"

def publishSdkVelocity (b : Bridge) (now : ℤ) (cmd : Twist) : Bridge :=
  if b.node.standingUp then
    if b.sdkStandUpDone cfg r now then b.confirmSdkStandUp.sendSdkVelocity cfg r now cmd
    else if durationMs (now - b.node.standStartTime) < cfg.standupRetryMs then b
    else
      (b.call .standUp).update fun n =>
        { n with standupCommandAccepted := r.standUp == 0, standStartTime := now }
  else b.sendSdkVelocity cfg r now cmd

/-- The callback takes the virtual remote's path. -/
def usesRemote (b : Bridge) : Bool :=
  cfg.remoteControlOnly || b.node.manualTeleopActive || !cfg.sdkConnected || b.node.manualCrawlLock ||
    b.clock < b.node.manualOverrideUntil

def publishLatestVelocity (b : Bridge) : Bridge :=
  if !b.localizationAllowsNav cfg then
    if b.node.navActive then b.holdPlannerVelocity cfg else b
  else if !b.node.navActive then b
  else
    match b.node.lastCmd with
    | none => b
    | some cmd =>
      if b.usesRemote cfg then b.publishLatestRemoteVelocity cfg r b.clock cmd
      else b.publishSdkVelocity cfg r b.clock cmd

end Bridge

/-! ## The system -/

/-- What starts a callback; `remoteExecutorReady` is the thread of `StartRemoteExecutorAsync`. -/
inductive BridgeInput where
  | modeSwitch (data : ℤ)
  | velocity (topic : VelocityTopic) (vx vy yawRate : Double)
  | teleopAction (action : String)
  | remoteTeleopAction (action : String)
  | localization (status : UInt8)
  | fineControl (data : Bool)
  | publishTimer
  | remoteExecutorReady
  deriving DecidableEq

/-- A callback: the time since the last one ended, the answers it gets, and what started it. -/
structure BridgeEvent where
  elapsed : ℕ := 0
  replies : Replies := {}
  input : BridgeInput

namespace Bridge

def twist (topic : VelocityTopic) (vx vy yawRate : Double) : Twist := ⟨vx, vy, yawRate, some topic⟩

/-- The callback of a message; a remote-only bridge does not subscribe to `/cmd_vel`,
    `/mode_switch_cmd` and the localisation, and reads `/teleop_cmd_vel` as its velocities. -/
def handle (cfg : BridgeConfig) (r : Replies) (b : Bridge) : BridgeInput → Bridge
  | .modeSwitch data => if cfg.remoteControlOnly then b else b.handleModeSwitchCallback cfg r data
  | .velocity .planner vx vy yawRate =>
    if cfg.remoteControlOnly then b
    else b.handlePlannerVelCallback cfg r (twist .planner vx vy yawRate)
  | .velocity .teleop vx vy yawRate =>
    if cfg.remoteControlOnly then b.handlePlannerVelCallback cfg r (twist .teleop vx vy yawRate)
    else b.handleTeleopVelCallback cfg (twist .teleop vx vy yawRate)
  | .teleopAction action => b.handleTeleopActionCallback cfg r action
  | .remoteTeleopAction action => b.handleRemoteTeleopAction r action
  | .localization status => if cfg.remoteControlOnly then b else b.handleLocalizationCallback status
  | .fineControl data => b.update fun n => { n with fineControl := data }
  | .publishTimer => b.publishLatestVelocity cfg r
  | .remoteExecutorReady => b.update fun n => { n with remoteExecutor := true }

/-- The bridge when the next callback starts. -/
def begin (b : Bridge) (e : BridgeEvent) : Bridge :=
  { b with clock := b.clock + e.elapsed, calls := [] }

def step (cfg : BridgeConfig) (b : Bridge) (e : BridgeEvent) : Bridge :=
  (b.begin e).handle cfg e.replies e.input

/-- The bridge after a run of callbacks. -/
def run (cfg : BridgeConfig) (es : List BridgeEvent) : Bridge := Run.exec (step cfg) {} es

end Bridge

end RoamerX.VelocityBridge
