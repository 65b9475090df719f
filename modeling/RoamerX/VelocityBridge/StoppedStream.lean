import RoamerX.VelocityBridge.Callbacks
import Mathlib

set_option autoImplicit false

/-! # A stopped command stream

The receiver keeps the last motion it was sent. The bridge has two outputs: the `move` of the SDK, which a
posture command of the SDK also ends, and the stick of the virtual remote. A run is recorded with
everything sent, and an output is *held* while the last value sent on it is not zero. -/

namespace RoamerX.VelocityBridge

/-! ## The two outputs -/

def Joystick.isZero (j : Joystick) : Bool := isZeroPlanarVelocity j.axis0 j.axis1 j.axis2

theorem Joystick.isZero_default : Joystick.isZero {} = true := by
  decide +kernel

/-- The last stick frame sent is not zero; the newest call comes first. -/
def stickHeld : List Call → Bool
  | [] => false
  | .setRemote joystick _ :: _ => !joystick.isZero
  | _ :: calls => stickHeld calls

/-- The last `move` sent is not zero, and no posture command of the SDK followed it. -/
def sdkHeld : List Call → Bool
  | [] => false
  | .move vx vy yawRate _ :: _ => !isZeroPlanarVelocity vx vy yawRate
  | .standUp :: _ => false
  | .lieDown :: _ => false
  | .passive :: _ => false
  | _ :: calls => sdkHeld calls

/-! ## A zero command gives a zero velocity -/

namespace Double

/-- The value is within the tolerance of `IsZeroPlanarVelocity`. -/
def IsTiny (x : Double) : Prop := ∃ q : ℚ, x = finite q ∧ |q| < 1 / 1000000

theorem isTiny_iff {x : Double} :
    x.IsTiny ↔ Double.lt (.finite (-1 / 1000000)) x = true ∧ x.lt (.finite (1 / 1000000)) = true := by
  cases x with
  | finite q =>
    have hlt : IsTiny (finite q) ↔ |q| < 1 / 1000000 :=
      ⟨fun ⟨q', h, hq⟩ => by rwa [finite.inj h], fun h => ⟨q, rfl, h⟩⟩
    rw [hlt, abs_lt]
    simp only [lt, decide_eq_true_eq, neg_div]
  | infinity negative =>
    constructor
    · rintro ⟨q, h, -⟩
      exact absurd h (by simp)
    · cases negative <;> simp [lt]
  | nan =>
    constructor
    · rintro ⟨q, h, -⟩
      exact absurd h (by simp)
    · simp [lt]

theorem isTiny_zero : IsTiny 0 := ⟨0, rfl, by norm_num⟩

theorem IsTiny.clamp {x : Double} (h : x.IsTiny) {m : ℚ} (hm : 0 ≤ m) :
    (x.clamp (.finite (-m)) (.finite m)).IsTiny := by
  obtain ⟨q, rfl, hq⟩ := h
  obtain ⟨hlo, hhi⟩ := abs_lt.1 hq
  simp only [Double.clamp, lt, decide_eq_true_eq]
  split_ifs with h1 h2
  · exact ⟨-m, rfl, abs_lt.2 ⟨by linarith, by linarith⟩⟩
  · exact ⟨m, rfl, abs_lt.2 ⟨by linarith, by linarith⟩⟩
  · exact ⟨q, rfl, hq⟩

end Double

theorem isZeroPlanarVelocity_iff {vx vy yawRate : Double} :
    isZeroPlanarVelocity vx vy yawRate = true ↔ vx.IsTiny ∧ vy.IsTiny ∧ yawRate.IsTiny := by
  simp only [Double.isTiny_iff, isZeroPlanarVelocity, Bool.and_eq_true, and_assoc]

theorem isZero_sdkVelocity (cfg : BridgeConfig) {cmd : Twist} (h : cmd.isZero = true) :
    isZeroPlanarVelocity (Bridge.sdkVelocity cfg cmd).1 (Bridge.sdkVelocity cfg cmd).2.1
      (Bridge.sdkVelocity cfg cmd).2.2 = true := by
  obtain ⟨hx, hy, hyaw⟩ := isZeroPlanarVelocity_iff.1 h
  obtain ⟨x, hx, hx'⟩ := hx
  obtain ⟨y, hy, hy'⟩ := hy
  obtain ⟨z, hz, hz'⟩ := hyaw
  have hvx : cmd.linearX.fabs.lt (.finite (85 / 1000)) = true := by
    simp only [hx, Double.fabs, Double.lt, decide_eq_true_eq]
    linarith
  have hvy : cmd.linearY.fabs.lt (.finite (10 / 100)) = true := by
    simp only [hy, Double.fabs, Double.lt, decide_eq_true_eq]
    linarith
  have hslow : ¬ (Double.lt (.finite (1 / 10000)) cmd.angularZ.fabs = true ∧
      cmd.angularZ.fabs.lt (.finite (25 / 1000)) = true) := by
    simp only [hz, Double.fabs, Double.lt, decide_eq_true_eq, not_and]
    intro hlt
    linarith
  have hyaw : cmd.angularZ.IsTiny := ⟨z, hz, hz'⟩
  rw [isZeroPlanarVelocity_iff]
  simp only [Bridge.sdkVelocity, hvx, hvy, if_true, if_neg hslow]
  have hlinear := Double.isTiny_zero.clamp cfg.sdkMaxVx_nonneg
  have hlateral := Double.isTiny_zero.clamp cfg.sdkMaxVy_nonneg
  have hturn := hyaw.clamp cfg.sdkMaxYawRate_nonneg
  split_ifs
  · exact ⟨hlinear.clamp cfg.turnMaxLinearSpeed_nonneg, hlateral.clamp cfg.turnMaxLinearSpeed_nonneg,
      hturn⟩
  · exact ⟨hlinear, hlateral, hturn⟩

namespace Bridge

variable {cfg : BridgeConfig} {r : Replies}

/-! ## What the calls do to the outputs -/

/-- The stick is held after the callback's calls; `sent` is what was sent before. -/
def holdsStick (b : Bridge) (sent : List Call) : Bool := stickHeld (b.calls ++ sent)

/-- The SDK's motion is held after the callback's calls. -/
def holdsSdk (b : Bridge) (sent : List Call) : Bool := sdkHeld (b.calls ++ sent)

section Outputs

variable (b : Bridge) (sent : List Call)

@[simp] theorem holdsStick_begin (e : BridgeEvent) : (b.begin e).holdsStick sent = stickHeld sent := rfl

@[simp] theorem holdsSdk_begin (e : BridgeEvent) : (b.begin e).holdsSdk sent = sdkHeld sent := rfl

@[simp] theorem holdsStick_update (f : VelCmdUdpPublisher → VelCmdUdpPublisher) :
    (b.update f).holdsStick sent = b.holdsStick sent := rfl

@[simp] theorem holdsSdk_update (f : VelCmdUdpPublisher → VelCmdUdpPublisher) :
    (b.update f).holdsSdk sent = b.holdsSdk sent := rfl

@[simp] theorem holdsStick_sleepFor (ms : ℤ) :
    (b.sleepFor ms).holdsStick sent = b.holdsStick sent := rfl

@[simp] theorem holdsSdk_sleepFor (ms : ℤ) : (b.sleepFor ms).holdsSdk sent = b.holdsSdk sent := rfl

@[simp] theorem holdsStick_publishMotionState (state : String) :
    (b.publishMotionState state).holdsStick sent = b.holdsStick sent := rfl

@[simp] theorem holdsSdk_publishMotionState (state : String) :
    (b.publishMotionState state).holdsSdk sent = b.holdsSdk sent := rfl

@[simp] theorem holdsStick_move (vx vy yawRate : Double) (source : Option VelocityTopic) :
    (b.call (.move vx vy yawRate source)).holdsStick sent = b.holdsStick sent := rfl

@[simp] theorem holdsSdk_move (vx vy yawRate : Double) (source : Option VelocityTopic) :
    (b.call (.move vx vy yawRate source)).holdsSdk sent = !isZeroPlanarVelocity vx vy yawRate := rfl

@[simp] theorem holdsStick_standUp : (b.call .standUp).holdsStick sent = b.holdsStick sent := rfl
@[simp] theorem holdsSdk_standUp : (b.call .standUp).holdsSdk sent = false := rfl
@[simp] theorem holdsStick_lieDown : (b.call .lieDown).holdsStick sent = b.holdsStick sent := rfl
@[simp] theorem holdsSdk_lieDown : (b.call .lieDown).holdsSdk sent = false := rfl

@[simp] theorem holdsStick_remoteSetCmd (c : CmdCode) :
    (b.remoteSetCmd c).holdsStick sent = b.holdsStick sent := by
  unfold remoteSetCmd
  split_ifs <;> rfl

@[simp] theorem holdsSdk_remoteSetCmd (c : CmdCode) :
    (b.remoteSetCmd c).holdsSdk sent = b.holdsSdk sent := by
  unfold remoteSetCmd
  split_ifs <;> rfl

@[simp] theorem holdsSdk_remoteSetRemote (j : Joystick) (source : Option VelocityTopic) :
    (b.remoteSetRemote j source).holdsSdk sent = b.holdsSdk sent := by
  unfold remoteSetRemote
  split_ifs <;> rfl

@[simp] theorem holdsSdk_remoteSetZero : b.remoteSetZero.holdsSdk sent = b.holdsSdk sent :=
  b.holdsSdk_remoteSetRemote sent {} none

@[simp] theorem holdsStick_readControlMode :
    (b.readControlMode r).holdsStick sent = b.holdsStick sent := by
  unfold readControlMode
  split_ifs <;> rfl

@[simp] theorem holdsSdk_readControlMode :
    (b.readControlMode r).holdsSdk sent = b.holdsSdk sent := by
  unfold readControlMode
  split_ifs <;> rfl

@[simp] theorem holdsStick_remoteSetCmdWithRight (c : CmdCode) :
    (b.remoteSetCmdWithRight c).holdsStick sent = b.holdsStick sent := by
  simp [remoteSetCmdWithRight]

@[simp] theorem holdsSdk_remoteSetCmdWithRight (c : CmdCode) :
    (b.remoteSetCmdWithRight c).holdsSdk sent = b.holdsSdk sent := by
  simp [remoteSetCmdWithRight]

@[simp] theorem holdsStick_remoteSetZero (hready : b.node.remoteExecutor = true) :
    b.remoteSetZero.holdsStick sent = false := by
  have hready' : b.remoteReady = true := hready
  simp only [remoteSetZero, remoteSetRemote, hready', if_true]
  simp [holdsStick, stickHeld, Joystick.isZero_default]

end Outputs

@[simp] theorem holdsStick_startStandUp {b : Bridge} (sent : List Call)
    (hready : b.node.remoteExecutor = true) :
    (b.startStandUp cfg r).holdsStick sent = (cfg.sdkConnected && b.holdsStick sent) := by
  simp only [startStandUp]
  split_ifs with hsdk <;> simp_all

@[simp] theorem holdsSdk_startStandUp (b : Bridge) (sent : List Call) :
    (b.startStandUp cfg r).holdsSdk sent = (!cfg.sdkConnected && b.holdsSdk sent) := by
  simp only [startStandUp]
  split_ifs with hsdk <;> simp_all

@[simp] theorem startStandUp_crawlZeroSent (b : Bridge) :
    (b.startStandUp cfg r).node.crawlZeroSent = b.node.crawlZeroSent := by
  simp only [startStandUp]
  split_ifs <;> simp

@[simp] theorem holdsStick_passiveOrZero {b : Bridge} (sent : List Call)
    (hready : b.node.remoteExecutor = true) :
    (b.passiveOrZero cfg).holdsStick sent = (cfg.sdkConnected && b.holdsStick sent) := by
  unfold passiveOrZero
  split_ifs with hsdk
  · simp only [hsdk, Bool.true_and]
    rfl
  · simp [hsdk, hready]

@[simp] theorem holdsSdk_passiveOrZero (b : Bridge) (sent : List Call) :
    (b.passiveOrZero cfg).holdsSdk sent = (!cfg.sdkConnected && b.holdsSdk sent) := by
  unfold passiveOrZero
  split_ifs with hsdk
  · simp only [hsdk, Bool.not_true, Bool.false_and]
    rfl
  · simp [hsdk]

/-! ## The flag `crawl_zero_sent_` -/

/-- While `crawl_zero_sent_` is set the stick is not held. -/
def FlagInv (b : Bridge) (sent : List Call) : Prop :=
  b.node.crawlZeroSent = true → b.holdsStick sent = false

section Flag

variable {b : Bridge} {sent : List Call}

theorem flagInv_startStandUp (hready : b.node.remoteExecutor = true) (h : b.FlagInv sent) :
    (b.startStandUp cfg r).FlagInv sent := by
  intro hflag
  rw [startStandUp_crawlZeroSent] at hflag
  simp [hready, h hflag]

theorem flagInv_holdPlannerVelocity (hready : b.node.remoteExecutor = true) (h : b.FlagInv sent) :
    (b.holdPlannerVelocity cfg).FlagInv sent := by
  simp only [holdPlannerVelocity]
  split_ifs
  · intro _
    simp [hready]
  · exact h

theorem flagInv_handleModeSwitchCallback (hready : b.node.remoteExecutor = true) (h : b.FlagInv sent)
    (data : ℤ) : (b.handleModeSwitchCallback cfg r data).FlagInv sent := by
  unfold handleModeSwitchCallback
  split_ifs
  · exact h
  · exact h
  · have hupdated : (b.update fun n => { n with crawlMode := false }).FlagInv sent := h
    exact flagInv_startStandUp hready hupdated
  · exact h
  · exact h
  · exact h
  · intro hflag
    have hstick : b.holdsStick sent = false := h (by simpa using hflag)
    simp [hready, hstick]

theorem flagInv_keepPlannerVel (hready : b.node.remoteExecutor = true) (h : b.FlagInv sent)
    (cmd : Twist) : (b.keepPlannerVel cfg r cmd).FlagInv sent := by
  simp only [keepPlannerVel]
  split_ifs
  · exact flagInv_startStandUp hready h
  · exact h
  · exact flagInv_startStandUp hready h
  · exact h

theorem flagInv_handlePlannerVel (hready : b.node.remoteExecutor = true) (h : b.FlagInv sent)
    (cmd : Twist) : (b.handlePlannerVel cfg r cmd).FlagInv sent := by
  unfold handlePlannerVel
  split_ifs
  · exact h
  · exact h
  · exact flagInv_holdPlannerVelocity hready h
  · exact h
  · exact h
  · simp only [activateRemoteOnly]
    split_ifs
    · exact h
    · intro hflag
      simpa using h (by simpa using hflag)
  · exact h
  · exact flagInv_keepPlannerVel hready h cmd

theorem flagInv_handlePlannerVelCallback (hready : b.node.remoteExecutor = true)
    (h : b.FlagInv sent) (cmd : Twist) : (b.handlePlannerVelCallback cfg r cmd).FlagInv sent := by
  have hread : (b.readControlMode r).FlagInv sent := by
    intro hflag
    simpa using h (by simpa using hflag)
  unfold handlePlannerVelCallback
  split_ifs
  · exact h
  · exact hread
  · have hupdated : ((b.readControlMode r).update fun n =>
        { n with emergencyStopLatched := false }).FlagInv sent := hread
    exact flagInv_handlePlannerVel (by simpa using hready) hupdated cmd
  · exact flagInv_handlePlannerVel hready h cmd

theorem flagInv_handleTeleopVelCallback (hready : b.node.remoteExecutor = true) (h : b.FlagInv sent)
    (cmd : Twist) : (b.handleTeleopVelCallback cfg cmd).FlagInv sent := by
  simp only [handleTeleopVelCallback, activateTeleop]
  split_ifs
  · exact h
  · exact h
  · intro _
    simp [hready]
  · exact h

end Flag

/-! ## Actions -/

/-- The actions that send a zero frame first on the virtual remote. -/
def zeroesRemote (action : String) : Bool :=
  action ∈ ["stand_up", "two_leg_stand", "shake_hand", "passive", "lie_down", "release_remote"]

/-- The actions of `/teleop_action` that stop the output in use. -/
def stopsInUse (action : String) : Bool := action ∈ ["stand_up", "passive", "release_remote"]

theorem zeroesRemote_of_speedLevel {action : String} {level : CmdCode × ℚ}
    (h : speedLevel action = some level) :
    zeroesRemote action = false ∧ stopsInUse action = false ∧ action ≠ "lie_down" := by
  unfold speedLevel at h
  split_ifs at h with h1 h2 h3 h4
  all_goals
    subst_vars
    exact ⟨by decide, by decide, by decide⟩

section Actions

variable {b : Bridge} (sent : List Call)

@[simp] theorem holdsStick_setRemoteSpeedLevel (action : String) (level : CmdCode × ℚ) :
    (b.setRemoteSpeedLevel action level).holdsStick sent = b.holdsStick sent := by
  simp [setRemoteSpeedLevel]

@[simp] theorem holdsSdk_setRemoteSpeedLevel (action : String) (level : CmdCode × ℚ) :
    (b.setRemoteSpeedLevel action level).holdsSdk sent = b.holdsSdk sent := by
  simp [setRemoteSpeedLevel]

theorem holdsStick_handleRemoteTeleopAction (hready : b.node.remoteExecutor = true) (action : String) :
    (b.handleRemoteTeleopAction r action).holdsStick sent =
      (!zeroesRemote action && b.holdsStick sent) := by
  unfold handleRemoteTeleopAction
  split
  · next level hlevel =>
    rw [holdsStick_setRemoteSpeedLevel, (zeroesRemote_of_speedLevel hlevel).1]
    rfl
  · simp only [remoteStandUp, remoteGesture, remoteCrawlForward, remotePassive, remoteLieDown,
      remoteRelease, enterCrawl, endRemoteSession]
    split_ifs <;> simp_all [zeroesRemote]

theorem holdsSdk_handleRemoteTeleopAction (action : String) :
    (b.handleRemoteTeleopAction r action).holdsSdk sent = b.holdsSdk sent := by
  unfold handleRemoteTeleopAction
  split
  · exact holdsSdk_setRemoteSpeedLevel sent action _
  · simp only [remoteStandUp, remoteGesture, remoteCrawlForward, remotePassive, remoteLieDown,
      remoteRelease, enterCrawl, endRemoteSession]
    split_ifs <;> simp

theorem crawlZeroSent_handleRemoteTeleopAction {action : String}
    (h : (b.handleRemoteTeleopAction r action).node.crawlZeroSent = true) :
    b.node.crawlZeroSent = true := by
  unfold handleRemoteTeleopAction at h
  split at h
  · simpa [setRemoteSpeedLevel] using h
  · simp only [remoteStandUp, remoteGesture, remoteCrawlForward, remotePassive, remoteLieDown,
      remoteRelease, enterCrawl, endRemoteSession] at h
    split_ifs at h <;> simp_all

theorem handleTeleopActionCallback_of_remoteOnly (hmode : cfg.remoteControlOnly = true)
    (action : String) : b.handleTeleopActionCallback cfg r action = b.handleRemoteTeleopAction r action := by
  unfold handleTeleopActionCallback handleRemoteTeleopAction
  cases speedLevel action with
  | some level => rfl
  | none => simp only [hmode, if_true]

theorem holdsStick_handleTeleopActionCallback (hmode : cfg.remoteControlOnly = false)
    (hready : b.node.remoteExecutor = true) (action : String) :
    (b.handleTeleopActionCallback cfg r action).holdsStick sent =
      (!(stopsInUse action && !cfg.sdkConnected) && b.holdsStick sent) := by
  unfold handleTeleopActionCallback
  split
  · next level hlevel =>
    rw [holdsStick_setRemoteSpeedLevel, (zeroesRemote_of_speedLevel hlevel).2.1]
    rfl
  · simp only [hmode, Bool.false_eq_true, if_false, teleopStandUp, teleopLieDown, teleopCrawlForward,
      teleopPassive, teleopRelease, teleopStop, enterCrawl]
    split_ifs <;> simp_all [stopsInUse]

theorem holdsSdk_handleTeleopActionCallback (hmode : cfg.remoteControlOnly = false) (action : String) :
    (b.handleTeleopActionCallback cfg r action).holdsSdk sent =
      (!(stopsInUse action && cfg.sdkConnected || action == "lie_down") && b.holdsSdk sent) := by
  unfold handleTeleopActionCallback
  split
  · next level hlevel =>
    obtain ⟨-, hstop, hlie⟩ := zeroesRemote_of_speedLevel hlevel
    simp [hstop, hlie]
  · simp only [hmode, Bool.false_eq_true, if_false, teleopStandUp, teleopLieDown, teleopCrawlForward,
      teleopPassive, teleopRelease, teleopStop, enterCrawl]
    split_ifs <;> simp_all [stopsInUse]

theorem crawlZeroSent_handleTeleopActionCallback {action : String}
    (h : (b.handleTeleopActionCallback cfg r action).node.crawlZeroSent = true) :
    b.node.crawlZeroSent = true := by
  unfold handleTeleopActionCallback at h
  split at h
  · simpa [setRemoteSpeedLevel] using h
  · simp only [teleopStandUp, teleopLieDown, teleopCrawlForward, teleopPassive, teleopRelease,
      teleopStop, enterCrawl] at h
    split_ifs at h
    · exact crawlZeroSent_handleRemoteTeleopAction h
    all_goals simp_all

end Actions

/-! ## The timer -/

section Timer

variable {b : Bridge} {sent : List Call}

@[simp] theorem holdsStick_confirmRemoteStandUp (now : ℤ) :
    (b.confirmRemoteStandUp now).holdsStick sent = b.holdsStick sent := by
  simp only [confirmRemoteStandUp]
  split
  · split_ifs <;> simp
  · simp

@[simp] theorem holdsSdk_confirmRemoteStandUp (now : ℤ) :
    (b.confirmRemoteStandUp now).holdsSdk sent = b.holdsSdk sent := by
  simp only [confirmRemoteStandUp]
  split
  · split_ifs <;> simp
  · simp

@[simp] theorem confirmRemoteStandUp_crawlZeroSent (now : ℤ) :
    (b.confirmRemoteStandUp now).node.crawlZeroSent = b.node.crawlZeroSent := by
  simp only [confirmRemoteStandUp]
  split
  · split_ifs <;> simp
  · simp

/-- A stand-up on the virtual remote is asked for again, from the emergency stop. -/
def retriesFromStop (cfg : BridgeConfig) (r : Replies) (b : Bridge) (now : ℤ) : Bool :=
  r.controlMode == .emergencyStop && cfg.standupRetryMs ≤ durationMs (now - b.node.standStartTime)

theorem holdsStick_awaitRemoteStandUp (hready : b.node.remoteExecutor = true) (now : ℤ) :
    (b.awaitRemoteStandUp cfg r now).holdsStick sent =
      (!retriesFromStop cfg r b now && b.holdsStick sent) := by
  have hready' : b.remoteReady = true := hready
  simp only [awaitRemoteStandUp, retriesFromStop, remoteControlMode, hready', if_true, Option.some.injEq]
  split_ifs with hconfirm hretry hstop
  · rcases hconfirm with h | h <;> simp [h]
  · simp [hready, hstop, hretry]
  · simp [hstop]
  · simp [hretry]

theorem holdsSdk_awaitRemoteStandUp (now : ℤ) :
    (b.awaitRemoteStandUp cfg r now).holdsSdk sent = b.holdsSdk sent := by
  simp only [awaitRemoteStandUp]
  split_ifs <;> simp

theorem holdsStick_publishLatestRemoteVelocity (hready : b.node.remoteExecutor = true)
    (hflag : b.FlagInv sent) {now : ℤ} {cmd : Twist} (hquiet : b.hasLiveMotion cfg cmd now = false) :
    (b.publishLatestRemoteVelocity cfg r now cmd).holdsStick sent =
      (!(!b.node.standingUp || retriesFromStop cfg r b now) && b.holdsStick sent) := by
  have hquiet' : (b.readControlMode r).hasLiveMotion cfg cmd now = false := by
    simpa [hasLiveMotion] using hquiet
  cases hstanding : b.node.standingUp with
  | true =>
    simp only [publishLatestRemoteVelocity, hstanding, if_true]
    rw [holdsStick_awaitRemoteStandUp hready]
    simp
  | false =>
    simp only [publishLatestRemoteVelocity, hstanding, hquiet', Bool.false_eq_true, if_false,
      Bool.not_false, if_true, Bool.true_or, Bool.not_true, Bool.false_and]
    split_ifs
    · simp [latchEmergencyStop, hready]
    · -- a zero frame, or one was sent before
      unfold remoteZeroOnce
      split_ifs with hsent
      · simp [hready]
      · simpa using hflag (by simpa using hsent)

theorem holdsSdk_publishLatestRemoteVelocity (now : ℤ) (cmd : Twist) :
    (b.publishLatestRemoteVelocity cfg r now cmd).holdsSdk sent = b.holdsSdk sent := by
  simp only [publishLatestRemoteVelocity, latchEmergencyStop, remoteZeroOnce, requestMoveMode,
    sendRemoteStick]
  split_ifs
  · exact holdsSdk_awaitRemoteStandUp now
  all_goals simp

theorem flagInv_publishLatestRemoteVelocity (hready : b.node.remoteExecutor = true)
    (hflag : b.FlagInv sent) (now : ℤ) (cmd : Twist) :
    (b.publishLatestRemoteVelocity cfg r now cmd).FlagInv sent := by
  have hread : (b.readControlMode r).FlagInv sent := by
    intro h
    simpa using hflag (by simpa using h)
  have hzero : (b.readControlMode r).remoteZeroOnce.FlagInv sent := by
    unfold remoteZeroOnce
    split_ifs
    · intro _
      simp [hready]
    · exact hread
  unfold publishLatestRemoteVelocity
  dsimp only
  split_ifs
  · intro h
    rw [holdsStick_awaitRemoteStandUp hready]
    have hsame : (b.awaitRemoteStandUp cfg r now).node.crawlZeroSent = b.node.crawlZeroSent := by
      simp only [awaitRemoteStandUp]
      split_ifs <;> simp
    rw [hflag (hsame ▸ h), Bool.and_false]
  · intro _
    simp [latchEmergencyStop, hready]
  · exact hzero
  · exact hzero
  · unfold requestMoveMode
    split_ifs
    · intro h
      have hstick : b.holdsStick sent = false := hflag (by simpa using h)
      simpa using hstick
    · exact hread
  · intro h
    exact absurd h (by simp [sendRemoteStick])

/-- The SDK's output is stopped by a zero velocity or by another attempt to stand up. -/
def sdkPathStops (cfg : BridgeConfig) (r : Replies) (b : Bridge) (now : ℤ) : Bool :=
  if b.node.standingUp && !b.sdkStandUpDone cfg r now then
    cfg.standupRetryMs ≤ durationMs (now - b.node.standStartTime)
  else durationMs (now - b.node.lastCmdTime) ≤ cfg.cmdTimeoutMs

theorem holdsStick_sendSdkVelocity (hsdk : cfg.sdkConnected = true)
    (hready : b.node.remoteExecutor = true) (hcrawl : b.node.crawlMode = false) (now : ℤ) (cmd : Twist) :
    (b.sendSdkVelocity cfg r now cmd).holdsStick sent = b.holdsStick sent := by
  simp only [sendSdkVelocity, sdkMove, hcrawl, Bool.false_and, Bool.false_eq_true, if_false]
  split_ifs <;> simp [hready, hsdk]

theorem holdsSdk_sendSdkVelocity (hsdk : cfg.sdkConnected = true) (hcrawl : b.node.crawlMode = false)
    {now : ℤ} {cmd : Twist} (hquiet : b.hasLiveMotion cfg cmd now = false) :
    (b.sendSdkVelocity cfg r now cmd).holdsSdk sent =
      (!decide (durationMs (now - b.node.lastCmdTime) ≤ cfg.cmdTimeoutMs) && b.holdsSdk sent) := by
  by_cases hage : durationMs (now - b.node.lastCmdTime) ≤ cfg.cmdTimeoutMs
  · -- the command is recent, so it is a zero
    have hzero : cmd.isZero = true := by
      simpa [hasLiveMotion, hasLiveMotionCommand, hage, Twist.isZero] using hquiet
    have hvelocity := isZero_sdkVelocity cfg hzero
    simp only [sendSdkVelocity, sdkMove, hcrawl, Bool.false_eq_true, if_false, if_neg (not_lt.2 hage)]
    split_ifs <;> simp [hvelocity, hage, hsdk]
  · simp [sendSdkVelocity, hcrawl, if_pos (not_le.1 hage), hage]

theorem holdsStick_publishSdkVelocity (hsdk : cfg.sdkConnected = true)
    (hready : b.node.remoteExecutor = true) (hcrawl : b.node.crawlMode = false) (now : ℤ) (cmd : Twist) :
    (b.publishSdkVelocity cfg r now cmd).holdsStick sent = b.holdsStick sent := by
  have hready' : b.confirmSdkStandUp.node.remoteExecutor = true := hready
  have hcrawl' : b.confirmSdkStandUp.node.crawlMode = false := hcrawl
  unfold publishSdkVelocity
  split_ifs
  · rw [holdsStick_sendSdkVelocity hsdk hready' hcrawl']
    rfl
  · rfl
  · simp
  · exact holdsStick_sendSdkVelocity hsdk hready hcrawl now cmd

theorem holdsSdk_publishSdkVelocity (hsdk : cfg.sdkConnected = true)
    (hcrawl : b.node.crawlMode = false) {now : ℤ} {cmd : Twist}
    (hquiet : b.hasLiveMotion cfg cmd now = false) :
    (b.publishSdkVelocity cfg r now cmd).holdsSdk sent =
      (!sdkPathStops cfg r b now && b.holdsSdk sent) := by
  have hconfirmed : b.confirmSdkStandUp.holdsSdk sent = b.holdsSdk sent := rfl
  have hquiet' : b.confirmSdkStandUp.hasLiveMotion cfg cmd now = false := hquiet
  have hcrawl' : b.confirmSdkStandUp.node.crawlMode = false := hcrawl
  cases hstanding : b.node.standingUp with
  | false =>
    simp only [publishSdkVelocity, sdkPathStops, hstanding, Bool.false_and, Bool.false_eq_true, if_false]
    exact holdsSdk_sendSdkVelocity hsdk hcrawl hquiet
  | true =>
    cases hdone : b.sdkStandUpDone cfg r now with
    | true =>
      simp only [publishSdkVelocity, sdkPathStops, hstanding, hdone, if_true, Bool.not_true,
        Bool.and_false, Bool.false_eq_true, if_false]
      rw [holdsSdk_sendSdkVelocity hsdk hcrawl' hquiet', hconfirmed]
      rfl
    | false =>
      simp only [publishSdkVelocity, sdkPathStops, hstanding, hdone, if_true, Bool.not_false,
        Bool.and_true, Bool.false_eq_true, if_false]
      split_ifs with hearly
      · simp [hearly]
      · simp [not_lt.1 hearly]

theorem flagInv_publishSdkVelocity (hsdk : cfg.sdkConnected = true)
    (hready : b.node.remoteExecutor = true) (hcrawl : b.node.crawlMode = false) (hflag : b.FlagInv sent)
    (now : ℤ) (cmd : Twist) : (b.publishSdkVelocity cfg r now cmd).FlagInv sent := by
  intro h
  rw [holdsStick_publishSdkVelocity hsdk hready hcrawl]
  apply hflag
  have hsend : ∀ b' : Bridge, b'.node.crawlMode = false →
      (b'.sendSdkVelocity cfg r now cmd).node.crawlZeroSent = b'.node.crawlZeroSent := by
    intro b' hb'
    simp only [sendSdkVelocity, sdkMove, hb', Bool.false_and, Bool.false_eq_true, if_false]
    split_ifs <;> simp
  have hcrawl' : b.confirmSdkStandUp.node.crawlMode = false := hcrawl
  unfold publishSdkVelocity at h
  split_ifs at h
  · rw [hsend _ hcrawl'] at h
    exact h
  · exact h
  · exact h
  · rwa [hsend b hcrawl] at h

/-- The callback of the timer stops the stick: it holds a planner velocity back, or it is on the virtual
    remote's path and not waiting for a stand-up. -/
def timerStopsStick (cfg : BridgeConfig) (r : Replies) (b : Bridge) : Bool :=
  if b.localizationAllowsNav cfg then
    b.node.navActive && b.node.lastCmd.isSome && b.usesRemote cfg &&
      (!b.node.standingUp || retriesFromStop cfg r b b.clock)
  else b.node.navActive && (b.node.crawlMode || !cfg.sdkConnected)

/-- The callback of the timer stops the SDK's motion. -/
def timerStopsSdk (cfg : BridgeConfig) (r : Replies) (b : Bridge) : Bool :=
  if b.localizationAllowsNav cfg then
    b.node.navActive && b.node.lastCmd.isSome && !b.usesRemote cfg && sdkPathStops cfg r b b.clock
  else b.node.navActive && !(b.node.crawlMode || !cfg.sdkConnected)

theorem of_not_usesRemote (hlock : b.CrawlLocked) (h : ¬ b.usesRemote cfg = true) :
    cfg.sdkConnected = true ∧ b.node.crawlMode = false := by
  simp only [usesRemote, Bool.or_eq_true, not_or, Bool.not_eq_true', Bool.not_eq_false] at h
  obtain ⟨⟨⟨-, hsdk⟩, hfree⟩, -⟩ := h
  refine ⟨hsdk, ?_⟩
  by_contra hcrawl
  exact hfree (hlock (by simpa using hcrawl))

theorem outputs_holdPlannerVelocity (hready : b.node.remoteExecutor = true) :
    (b.holdPlannerVelocity cfg).holdsStick sent =
        (!(b.node.crawlMode || !cfg.sdkConnected) && b.holdsStick sent) ∧
      (b.holdPlannerVelocity cfg).holdsSdk sent =
        ((b.node.crawlMode || !cfg.sdkConnected) && b.holdsSdk sent) := by
  have hzero : isZeroPlanarVelocity 0 0 0 = true :=
    isZeroPlanarVelocity_iff.2 ⟨Double.isTiny_zero, Double.isTiny_zero, Double.isTiny_zero⟩
  cases hremote : (b.node.crawlMode || !cfg.sdkConnected) with
  | true => simp [holdPlannerVelocity, hremote, hready]
  | false => simp [holdPlannerVelocity, hremote, hzero]

/-- **The timer.** Without a live command each output is held afterwards iff it was held and the
    callback does not stop it. -/
theorem outputs_publishLatestVelocity (hready : b.node.remoteExecutor = true) (hlock : b.CrawlLocked)
    (hflag : b.FlagInv sent)
    (hquiet : ∀ cmd, b.node.lastCmd = some cmd → b.hasLiveMotion cfg cmd b.clock = false) :
    (b.publishLatestVelocity cfg r).holdsStick sent =
        (!timerStopsStick cfg r b && b.holdsStick sent) ∧
      (b.publishLatestVelocity cfg r).holdsSdk sent =
        (!timerStopsSdk cfg r b && b.holdsSdk sent) := by
  cases hallows : b.localizationAllowsNav cfg with
  | false =>
    cases hnav : b.node.navActive with
    | false => simp [publishLatestVelocity, timerStopsStick, timerStopsSdk, hallows, hnav]
    | true =>
      simp only [publishLatestVelocity, timerStopsStick, timerStopsSdk, hallows, hnav, Bool.not_false,
        if_true, Bool.true_and, Bool.false_eq_true, if_false]
      rw [Bool.not_not]
      exact outputs_holdPlannerVelocity hready
  | true =>
    cases hnav : b.node.navActive with
    | false => simp [publishLatestVelocity, timerStopsStick, timerStopsSdk, hallows, hnav]
    | true =>
      cases hcmd : b.node.lastCmd with
      | none => simp [publishLatestVelocity, timerStopsStick, timerStopsSdk, hallows, hnav, hcmd]
      | some cmd =>
        have hlive := hquiet cmd hcmd
        simp only [publishLatestVelocity, timerStopsStick, timerStopsSdk, hallows, hnav, hcmd,
          Bool.not_true, Bool.false_eq_true, if_false, if_true, Option.isSome_some, Bool.true_and]
        split_ifs with huses
        · rw [holdsStick_publishLatestRemoteVelocity hready hflag hlive,
            holdsSdk_publishLatestRemoteVelocity]
          simp [huses]
        · obtain ⟨hsdk, hcrawl⟩ := of_not_usesRemote hlock huses
          rw [holdsStick_publishSdkVelocity hsdk hready hcrawl, holdsSdk_publishSdkVelocity hsdk hcrawl hlive]
          simp [huses]

theorem flagInv_publishLatestVelocity (hready : b.node.remoteExecutor = true) (hlock : b.CrawlLocked)
    (hflag : b.FlagInv sent) : (b.publishLatestVelocity cfg r).FlagInv sent := by
  unfold publishLatestVelocity
  cases b.node.lastCmd with
  | none =>
    dsimp only
    split_ifs
    · exact flagInv_holdPlannerVelocity hready hflag
    all_goals exact hflag
  | some cmd =>
    dsimp only
    split_ifs with hallows hnav hstill huses
    · exact flagInv_holdPlannerVelocity hready hflag
    · exact hflag
    · exact hflag
    · exact flagInv_publishLatestRemoteVelocity hready hflag b.clock cmd
    · obtain ⟨hsdk, hcrawl⟩ := of_not_usesRemote hlock huses
      exact flagInv_publishSdkVelocity hsdk hready hcrawl hflag b.clock cmd

end Timer

/-! ## One callback -/

theorem flagInv_step {b : Bridge} {sent : List Call} (hready : b.node.remoteExecutor = true)
    (hlock : b.CrawlLocked) (hflag : b.node.crawlZeroSent = true → stickHeld sent = false)
    (e : BridgeEvent) : (b.step cfg e).FlagInv sent := by
  have hbegin : (b.begin e).FlagInv sent := hflag
  have hready' : (b.begin e).node.remoteExecutor = true := hready
  have hlock' : (b.begin e).CrawlLocked := hlock
  obtain ⟨elapsed, r, input⟩ := e
  cases input with
  | modeSwitch data =>
    simp only [step, handle]
    split_ifs
    · exact hbegin
    · exact flagInv_handleModeSwitchCallback hready' hbegin data
  | velocity topic vx vy yawRate =>
    cases topic with
    | planner =>
      simp only [step, handle]
      split_ifs
      · exact hbegin
      · exact flagInv_handlePlannerVelCallback hready' hbegin _
    | teleop =>
      simp only [step, handle]
      split_ifs
      · exact flagInv_handlePlannerVelCallback hready' hbegin _
      · exact flagInv_handleTeleopVelCallback hready' hbegin _
  | teleopAction action =>
    intro h
    have hstick := hbegin (crawlZeroSent_handleTeleopActionCallback h)
    simp only [step, handle]
    cases hmode : cfg.remoteControlOnly with
    | false =>
      rw [holdsStick_handleTeleopActionCallback sent hmode hready']
      simp [hstick]
    | true =>
      rw [handleTeleopActionCallback_of_remoteOnly hmode, holdsStick_handleRemoteTeleopAction sent hready']
      simp [hstick]
  | remoteTeleopAction action =>
    intro h
    have hstick := hbegin (crawlZeroSent_handleRemoteTeleopAction h)
    simp only [step, handle]
    rw [holdsStick_handleRemoteTeleopAction sent hready']
    simp [hstick]
  | localization status =>
    simp only [step, handle]
    split_ifs
    · exact hbegin
    · exact hbegin
  | fineControl data => exact hbegin
  | publishTimer => exact flagInv_publishLatestVelocity hready' hlock' hbegin
  | remoteExecutorReady => exact hbegin

def stopsStick (cfg : BridgeConfig) (b : Bridge) (e : BridgeEvent) : Bool :=
  match e.input with
  | .publishTimer => timerStopsStick cfg e.replies (b.begin e)
  | .remoteTeleopAction action => zeroesRemote action
  | .teleopAction action =>
    if cfg.remoteControlOnly then zeroesRemote action else stopsInUse action && !cfg.sdkConnected
  | _ => false

/-- The callback stops the SDK's motion. -/
def stopsSdk (cfg : BridgeConfig) (b : Bridge) (e : BridgeEvent) : Bool :=
  match e.input with
  | .publishTimer => timerStopsSdk cfg e.replies (b.begin e)
  | .teleopAction action =>
    !cfg.remoteControlOnly && (stopsInUse action && cfg.sdkConnected || action == "lie_down")
  | _ => false

/-- The message is a posture, passive, release or crawl action. -/
def isStopAction (cfg : BridgeConfig) : BridgeInput → Bool
  | .remoteTeleopAction action => zeroesRemote action || action == "crawl_forward"
  | .teleopAction action =>
    if cfg.remoteControlOnly then zeroesRemote action || action == "crawl_forward"
    else stopsInUse action || action == "lie_down" || action == "crawl_forward"
  | _ => false

/-- The stored command is no live motion command at `now`. -/
def agedOut (cfg : BridgeConfig) (b : Bridge) (now : ℤ) : Bool :=
  match b.node.lastCmd with
  | some cmd => !b.hasLiveMotion cfg cmd now
  | none => true

/-- **One callback.** After a stop action, and after a tick without a live command, an output is held
    iff it was held and the callback does not stop it. -/
theorem outputs_step {b : Bridge} {sent : List Call} (hready : b.node.remoteExecutor = true)
    (hlock : b.CrawlLocked) (hflag : b.node.crawlZeroSent = true → stickHeld sent = false)
    {e : BridgeEvent}
    (hstop : e.input = .publishTimer ∧ agedOut cfg b (b.clock + e.elapsed) = true ∨
      isStopAction cfg e.input = true) :
    (b.step cfg e).holdsStick sent = (!stopsStick cfg b e && stickHeld sent) ∧
      (b.step cfg e).holdsSdk sent = (!stopsSdk cfg b e && sdkHeld sent) := by
  have hready' : (b.begin e).node.remoteExecutor = true := hready
  rcases hstop with ⟨hinput, haged⟩ | haction
  · have hquiet : ∀ cmd, (b.begin e).node.lastCmd = some cmd →
        (b.begin e).hasLiveMotion cfg cmd (b.begin e).clock = false := by
      intro cmd hcmd
      have hcmd' : b.node.lastCmd = some cmd := hcmd
      have hdead : b.hasLiveMotion cfg cmd (b.clock + e.elapsed) = false := by
        simpa [agedOut, hcmd'] using haged
      exact hdead
    have h := outputs_publishLatestVelocity (r := e.replies) hready' hlock hflag hquiet
    simp only [step, handle, hinput, stopsStick, stopsSdk]
    exact h
  · obtain ⟨elapsed, r, input⟩ := e
    cases input with
    | remoteTeleopAction action =>
      simp only [step, handle, stopsStick, stopsSdk]
      rw [holdsStick_handleRemoteTeleopAction sent hready', holdsSdk_handleRemoteTeleopAction]
      exact ⟨rfl, rfl⟩
    | teleopAction action =>
      simp only [step, handle, stopsStick, stopsSdk]
      cases hmode : cfg.remoteControlOnly with
      | true =>
        rw [handleTeleopActionCallback_of_remoteOnly hmode,
          holdsStick_handleRemoteTeleopAction sent hready', holdsSdk_handleRemoteTeleopAction]
        exact ⟨rfl, rfl⟩
      | false =>
        rw [holdsStick_handleTeleopActionCallback sent hmode hready',
          holdsSdk_handleTeleopActionCallback sent hmode]
        exact ⟨rfl, rfl⟩
    | modeSwitch data => exact absurd haction (by simp [isStopAction])
    | velocity topic vx vy yawRate => exact absurd haction (by simp [isStopAction])
    | localization status => exact absurd haction (by simp [isStopAction])
    | fineControl data => exact absurd haction (by simp [isStopAction])
    | publishTimer => exact absurd haction (by simp [isStopAction])
    | remoteExecutorReady => exact absurd haction (by simp [isStopAction])

end Bridge

/-! ## Recorded runs -/

/-- The bridge, its executor ready, and everything it has sent, newest first. -/
structure Recorded where
  bridge : Bridge := { node := { remoteExecutor := true } }
  sent : List Call := []

namespace Recorded

variable {cfg : BridgeConfig}

def step (cfg : BridgeConfig) (w : Recorded) (e : BridgeEvent) : Recorded where
  bridge := w.bridge.step cfg e
  sent := (w.bridge.step cfg e).calls ++ w.sent

def record (cfg : BridgeConfig) (es : List BridgeEvent) : Recorded := Run.exec (step cfg) {} es

/-- The executor is there, the crawl gait is locked and `crawl_zero_sent_` is truthful. -/
structure Inv (w : Recorded) : Prop where
  ready : w.bridge.node.remoteExecutor = true
  locked : w.bridge.CrawlLocked
  flag : w.bridge.node.crawlZeroSent = true → stickHeld w.sent = false

theorem inv_step {w : Recorded} (hi : w.Inv) (e : BridgeEvent) : (w.step cfg e).Inv := by
  have hbasics : w.bridge.KeepsBasics (w.bridge.step cfg e) := Bridge.keepsBasics_step _ e
  exact ⟨hbasics.ready hi.ready, hbasics.locked hi.locked,
    Bridge.flagInv_step hi.ready hi.locked hi.flag e⟩

theorem inv_record (es : List BridgeEvent) : (record cfg es).Inv :=
  Run.exec_invariant Inv (fun _ e hi => inv_step hi e)
    ⟨rfl, fun h => (by exact absurd h (by decide)), fun _ => rfl⟩ es

/-- No non-zero command that the bridge stored in the run is younger than the timeout at `now`. -/
def NoneLive (cfg : BridgeConfig) (es : List BridgeEvent) (now : ℤ) : Prop :=
  ∀ pre ∈ es.inits, (record cfg pre).bridge.agedOut cfg now = true

instance (es : List BridgeEvent) (now : ℤ) : Decidable (NoneLive cfg es now) :=
  inferInstanceAs (Decidable (∀ pre ∈ _, _))

/-- The robot has to stand still after the callback: a tick without a live command, or an action that
    stops it. -/
def MustStop (cfg : BridgeConfig) (es : List BridgeEvent) (e : BridgeEvent) : Prop :=
  e.input = .publishTimer ∧ NoneLive cfg es ((record cfg es).bridge.clock + e.elapsed) ∨
    Bridge.isStopAction cfg e.input = true

instance (es : List BridgeEvent) (e : BridgeEvent) : Decidable (MustStop cfg es e) :=
  inferInstanceAs (Decidable (_ ∧ _ ∨ _))

def Stopped (w : Recorded) : Prop := stickHeld w.sent = false ∧ sdkHeld w.sent = false

instance (w : Recorded) : Decidable w.Stopped := inferInstanceAs (Decidable (_ ∧ _))

/-- Every output that is held is one that the callback stops. -/
def StopsHeld (cfg : BridgeConfig) (w : Recorded) (e : BridgeEvent) : Prop :=
  (stickHeld w.sent = true → w.bridge.stopsStick cfg e = true) ∧
    (sdkHeld w.sent = true → w.bridge.stopsSdk cfg e = true)

instance (w : Recorded) (e : BridgeEvent) : Decidable (StopsHeld cfg w e) :=
  inferInstanceAs (Decidable ((_ → _) ∧ (_ → _)))

theorem stopped_iff_stopsHeld {es : List BridgeEvent} {e : BridgeEvent} (hstop : MustStop cfg es e) :
    (record cfg (es ++ [e])).Stopped ↔ StopsHeld cfg (record cfg es) e := by
  have hi : (record cfg es).Inv := inv_record es
  have hstep : record cfg (es ++ [e]) = (record cfg es).step cfg e := Run.exec_concat _ _ _ _
  have hnow : e.input = .publishTimer ∧ (record cfg es).bridge.agedOut cfg
      ((record cfg es).bridge.clock + e.elapsed) = true ∨ Bridge.isStopAction cfg e.input = true :=
    hstop.imp_left fun h => ⟨h.1, h.2 es ((List.mem_inits es es).2 (List.prefix_refl es))⟩
  obtain ⟨hstick, hsdk⟩ := Bridge.outputs_step hi.ready hi.locked hi.flag hnow
  rw [hstep]
  simp only [Stopped, StopsHeld, step]
  rw [show stickHeld _ = _ from hstick, show sdkHeld _ = _ from hsdk]
  cases stickHeld (record cfg es).sent <;> cases sdkHeld (record cfg es).sent <;> simp

/-- **A stopped command stream.** In every run, the robot stands still whenever it has to iff at each
    of these callbacks every output that still carries a motion is one that the callback stops. -/
theorem run_stopped_iff (cfg : BridgeConfig) (es : List BridgeEvent) :
    (∀ pre e post, es = pre ++ e :: post → MustStop cfg pre e →
        (record cfg (pre ++ [e])).Stopped) ↔
      ∀ pre e post, es = pre ++ e :: post → MustStop cfg pre e →
        StopsHeld cfg (record cfg pre) e := by
  constructor
  · intro h pre e post hes hstop
    exact (stopped_iff_stopsHeld hstop).1 (h pre e post hes hstop)
  · intro h pre e post hes hstop
    exact (stopped_iff_stopsHeld hstop).2 (h pre e post hes hstop)

def withSdk : BridgeConfig := { BridgeConfig.plain with sdkConnected := true, sdk_of_remoteOnly := by decide }

/-- Nav2 stands the robot up and drives it, and then sends nothing more. -/
def planner : List BridgeEvent :=
  [{ input := .localization 3 },
   { elapsed := 100000000, input := .velocity .planner (.finite (3 / 10)) 0 0 },
   { elapsed := 4100000000, input := .localization 3 },
   { elapsed := 10000000, input := .velocity .planner (.finite (3 / 10)) 0 0 },
   { elapsed := 10000000, input := .publishTimer, replies := { ctrlMode := 1 } },
   { elapsed := 550000000, input := .localization 3 }]

/-- The tick after the timeout leaves the last motion of the SDK in force. -/
theorem not_stopped_planner :
    MustStop withSdk planner { elapsed := 10000000, input := .publishTimer } ∧
      ¬ (record withSdk (planner ++ [{ elapsed := 10000000, input := .publishTimer }])).Stopped := by
  decide +kernel

end Recorded

end RoamerX.VelocityBridge
