import RoamerX.VelocityBridge.VelCmdUdpPublisher

set_option autoImplicit false

/-! # What the calls leave alone

A call to the SDK or to the executor changes neither the node's members nor the clock, and an update of
the members calls nothing. -/

namespace RoamerX.VelocityBridge

namespace Bridge

variable {cfg : BridgeConfig} {r : Replies}

section Call

variable (b : Bridge) (c : Call)

@[simp] theorem call_node : (b.call c).node = b.node := rfl
@[simp] theorem call_clock : (b.call c).clock = b.clock := rfl
@[simp] theorem call_calls : (b.call c).calls = c :: b.calls := rfl

end Call

section Update

variable (b : Bridge) (f : VelCmdUdpPublisher → VelCmdUdpPublisher)

@[simp] theorem update_node : (b.update f).node = f b.node := rfl
@[simp] theorem update_clock : (b.update f).clock = b.clock := rfl
@[simp] theorem update_calls : (b.update f).calls = b.calls := rfl

end Update

section Helpers

variable (b : Bridge)

@[simp] theorem sleepFor_node (ms : ℤ) : (b.sleepFor ms).node = b.node := rfl
@[simp] theorem sleepFor_calls (ms : ℤ) : (b.sleepFor ms).calls = b.calls := rfl

@[simp] theorem sleepFor_clock (ms : ℤ) :
    (b.sleepFor ms).clock = b.clock + milliseconds ms := rfl

@[simp] theorem remoteSetCmd_node (c : CmdCode) : (b.remoteSetCmd c).node = b.node := by
  unfold remoteSetCmd
  split_ifs <;> rfl

@[simp] theorem remoteSetCmd_clock (c : CmdCode) : (b.remoteSetCmd c).clock = b.clock := by
  unfold remoteSetCmd
  split_ifs <;> rfl

@[simp] theorem remoteSetRemote_node (j : Joystick) (source : Option VelocityTopic) :
    (b.remoteSetRemote j source).node = b.node := by
  unfold remoteSetRemote
  split_ifs <;> rfl

@[simp] theorem remoteSetRemote_clock (j : Joystick) (source : Option VelocityTopic) :
    (b.remoteSetRemote j source).clock = b.clock := by
  unfold remoteSetRemote
  split_ifs <;> rfl

@[simp] theorem remoteSetZero_node : b.remoteSetZero.node = b.node := by simp [remoteSetZero]
@[simp] theorem remoteSetZero_clock : b.remoteSetZero.clock = b.clock := by simp [remoteSetZero]

@[simp] theorem readControlMode_node : (b.readControlMode r).node = b.node := by
  unfold readControlMode
  split_ifs <;> rfl

@[simp] theorem readControlMode_clock : (b.readControlMode r).clock = b.clock := by
  unfold readControlMode
  split_ifs <;> rfl

@[simp] theorem publishMotionState_node (state : String) :
    (b.publishMotionState state).node = b.node := rfl

@[simp] theorem publishMotionState_clock (state : String) :
    (b.publishMotionState state).clock = b.clock := rfl

@[simp] theorem remoteSetCmdWithRight_node (c : CmdCode) :
    (b.remoteSetCmdWithRight c).node = b.node := by
  simp [remoteSetCmdWithRight]

@[simp] theorem remoteSetCmdWithRight_clock (c : CmdCode) :
    (b.remoteSetCmdWithRight c).clock = b.clock + milliseconds 100 := by
  simp [remoteSetCmdWithRight]

@[simp] theorem passiveOrZero_node : (b.passiveOrZero cfg).node = b.node := by
  unfold passiveOrZero
  split_ifs <;> simp

@[simp] theorem passiveOrZero_clock : (b.passiveOrZero cfg).clock = b.clock := by
  unfold passiveOrZero
  split_ifs <;> simp

end Helpers

/-! ## The calls made -/

section MemCalls

variable {c : Call} (b : Bridge)

@[simp] theorem mem_calls_remoteSetCmd (command : CmdCode) :
    c ∈ (b.remoteSetCmd command).calls ↔
      b.remoteReady = true ∧ c = .setCmd command ∨ c ∈ b.calls := by
  unfold remoteSetCmd
  split_ifs with h <;> simp [h]

@[simp] theorem mem_calls_remoteSetZero :
    c ∈ b.remoteSetZero.calls ↔ b.remoteReady = true ∧ c = .setRemote {} none ∨ c ∈ b.calls := by
  unfold remoteSetZero remoteSetRemote
  split_ifs with h <;> simp [h]

@[simp] theorem mem_calls_readControlMode :
    c ∈ (b.readControlMode r).calls ↔
      b.remoteReady = true ∧ c = .getControlMode r.controlMode ∨ c ∈ b.calls := by
  unfold readControlMode
  split_ifs with h <;> simp [h]

@[simp] theorem mem_calls_publishMotionState (state : String) :
    c ∈ (b.publishMotionState state).calls ↔ c = .motionState state ∨ c ∈ b.calls := by
  simp [publishMotionState]

theorem mem_calls_startStandUp (h : c ∈ b.calls) : c ∈ (b.startStandUp cfg r).calls := by
  simp only [startStandUp]
  split_ifs <;> simp [remoteSetCmdWithRight, h]

theorem mem_calls_handlePlannerVel (cmd : Twist) (h : c ∈ b.calls) :
    c ∈ (b.handlePlannerVel cfg r cmd).calls := by
  have hstand : ∀ b' : Bridge, c ∈ b'.calls → c ∈ (b'.startStandUp cfg r).calls :=
    fun b' h' => mem_calls_startStandUp b' h'
  unfold handlePlannerVel
  split_ifs
  · exact h
  · exact h
  · simp only [holdPlannerVelocity]
    split_ifs <;> simp [h]
  · exact h
  · exact h
  · simp only [activateRemoteOnly]
    split_ifs <;> simp [h]
  · exact h
  · simp only [keepPlannerVel]
    split_ifs
    · exact hstand _ h
    · exact h
    · exact hstand _ h
    · exact h

end MemCalls

/-! ## A property of every call made -/

/-- Every call of the current callback has the property. -/
def Makes (P : Call → Prop) (b : Bridge) : Prop := ∀ c ∈ b.calls, P c

section Makes

variable {P : Call → Prop} (b : Bridge)

@[simp] theorem makes_begin (e : BridgeEvent) : (b.begin e).Makes P := by
  simp [Makes, begin]

@[simp] theorem makes_call (c : Call) : (b.call c).Makes P ↔ P c ∧ b.Makes P := by
  simp [Makes]

@[simp] theorem makes_update (f : VelCmdUdpPublisher → VelCmdUdpPublisher) :
    (b.update f).Makes P ↔ b.Makes P := Iff.rfl

@[simp] theorem makes_sleepFor (ms : ℤ) : (b.sleepFor ms).Makes P ↔ b.Makes P := Iff.rfl

@[simp] theorem makes_publishMotionState (state : String) :
    (b.publishMotionState state).Makes P ↔ P (.motionState state) ∧ b.Makes P := by
  simp [publishMotionState]

theorem makes_remoteSetCmd {c : CmdCode} (h : P (.setCmd c)) (hb : b.Makes P) :
    (b.remoteSetCmd c).Makes P := by
  unfold remoteSetCmd
  split_ifs
  · exact (b.makes_call _).2 ⟨h, hb⟩
  · exact hb

theorem makes_remoteSetRemote {j : Joystick} {source : Option VelocityTopic}
    (h : P (.setRemote j source)) (hb : b.Makes P) : (b.remoteSetRemote j source).Makes P := by
  unfold remoteSetRemote
  split_ifs
  · exact (b.makes_call _).2 ⟨h, hb⟩
  · exact hb

theorem makes_remoteSetZero (h : P (.setRemote {} none)) (hb : b.Makes P) :
    b.remoteSetZero.Makes P :=
  b.makes_remoteSetRemote h hb

theorem makes_remoteSetCmdWithRight {c : CmdCode} (hright : P (.setCmd .remoteControlRight))
    (h : P (.setCmd c)) (hb : b.Makes P) : (b.remoteSetCmdWithRight c).Makes P := by
  unfold remoteSetCmdWithRight
  exact makes_remoteSetCmd _ h ((makes_sleepFor _ _).2 (b.makes_remoteSetCmd hright hb))

end Makes

/-! ## What every callback keeps -/

/-- The crawl gait is only entered together with its lock. -/
def CrawlLocked (b : Bridge) : Prop := b.node.crawlMode = true → b.node.manualCrawlLock = true

/-- The executor stays, the crawl gait stays locked, and setting the latch ends a stand-up. -/
structure KeepsBasics (b b' : Bridge) : Prop where
  ready : b.remoteReady = true → b'.remoteReady = true
  locked : b.CrawlLocked → b'.CrawlLocked
  latch : b'.node.emergencyStopLatched = true →
    b.node.emergencyStopLatched = true ∨ b'.node.standingUp = false

namespace KeepsBasics

theorem refl (b : Bridge) : KeepsBasics b b := ⟨id, id, Or.inl⟩

theorem trans {a b c : Bridge} (h : KeepsBasics a b) (h' : KeepsBasics b c)
    (hlatch : b.node.emergencyStopLatched = true → a.node.emergencyStopLatched = true) :
    KeepsBasics a c :=
  ⟨fun ha => h'.ready (h.ready ha), fun ha => h'.locked (h.locked ha),
    fun hc => (h'.latch hc).imp_left hlatch⟩

end KeepsBasics

section KeepsBasics

variable (b : Bridge)

@[simp] theorem startStandUp_remoteExecutor :
    (b.startStandUp cfg r).node.remoteExecutor = b.node.remoteExecutor := by
  simp only [startStandUp]
  split_ifs <;> simp

@[simp] theorem startStandUp_crawlMode :
    (b.startStandUp cfg r).node.crawlMode = b.node.crawlMode := by
  simp only [startStandUp]
  split_ifs <;> simp

@[simp] theorem startStandUp_manualCrawlLock :
    (b.startStandUp cfg r).node.manualCrawlLock = b.node.manualCrawlLock := by
  simp only [startStandUp]
  split_ifs <;> simp

@[simp] theorem startStandUp_emergencyStopLatched :
    (b.startStandUp cfg r).node.emergencyStopLatched =
      (cfg.sdkConnected && b.node.emergencyStopLatched) := by
  simp only [startStandUp]
  split_ifs with hsdk
  · simp only [Bool.not_eq_true'] at hsdk
    simp [hsdk]
  all_goals simp_all

theorem keepsBasics_holdPlannerVelocity : KeepsBasics b (b.holdPlannerVelocity cfg) := by
  simp only [holdPlannerVelocity]
  split_ifs <;> constructor <;> simp +contextual [remoteReady, CrawlLocked]

theorem keepsBasics_handleModeSwitchCallback (data : ℤ) :
    KeepsBasics b (b.handleModeSwitchCallback cfg r data) := by
  unfold handleModeSwitchCallback
  split_ifs
  · exact .refl b
  · exact .refl b
  · constructor <;> simp +contextual [remoteReady, CrawlLocked]
  · exact .refl b
  · exact .refl b
  · exact .refl b
  · constructor <;> simp +contextual [remoteReady, CrawlLocked]

theorem keepsBasics_keepPlannerVel (cmd : Twist) : KeepsBasics b (b.keepPlannerVel cfg r cmd) := by
  simp only [keepPlannerVel]
  split_ifs <;> constructor <;> simp +contextual [remoteReady, CrawlLocked]

theorem keepsBasics_handlePlannerVel (cmd : Twist) :
    KeepsBasics b (b.handlePlannerVel cfg r cmd) := by
  unfold handlePlannerVel
  split_ifs
  · exact .refl b
  · exact .refl b
  · exact keepsBasics_holdPlannerVelocity b
  · exact .refl b
  · exact .refl b
  · simp only [activateRemoteOnly]
    split_ifs <;> constructor <;> simp +contextual [remoteReady, CrawlLocked]
  · exact .refl b
  · exact keepsBasics_keepPlannerVel b cmd

theorem keepsBasics_handlePlannerVelCallback (cmd : Twist) :
    KeepsBasics b (b.handlePlannerVelCallback cfg r cmd) := by
  unfold handlePlannerVelCallback
  split_ifs
  · exact .refl b
  · constructor <;> simp +contextual [remoteReady, CrawlLocked]
  · exact .trans (by constructor <;> simp +contextual [remoteReady, CrawlLocked])
      (keepsBasics_handlePlannerVel _ cmd) (by simp)
  · exact keepsBasics_handlePlannerVel b cmd

theorem keepsBasics_handleTeleopVelCallback (cmd : Twist) :
    KeepsBasics b (b.handleTeleopVelCallback cfg cmd) := by
  simp only [handleTeleopVelCallback, activateTeleop]
  split_ifs <;> constructor <;> simp +contextual [remoteReady, CrawlLocked]

theorem keepsBasics_setRemoteSpeedLevel (action : String) (level : CmdCode × ℚ) :
    KeepsBasics b (b.setRemoteSpeedLevel action level) := by
  constructor <;> simp +contextual [setRemoteSpeedLevel, remoteReady, CrawlLocked]

theorem keepsBasics_handleRemoteTeleopAction (action : String) :
    KeepsBasics b (b.handleRemoteTeleopAction r action) := by
  unfold handleRemoteTeleopAction
  split
  · exact keepsBasics_setRemoteSpeedLevel b action _
  · simp only [remoteStandUp, remoteGesture, remoteCrawlForward, remotePassive, remoteLieDown,
      remoteRelease, enterCrawl, endRemoteSession]
    split_ifs <;> constructor <;> simp +contextual [remoteReady, CrawlLocked]

theorem keepsBasics_handleTeleopActionCallback (action : String) :
    KeepsBasics b (b.handleTeleopActionCallback cfg r action) := by
  unfold handleTeleopActionCallback
  split
  · exact keepsBasics_setRemoteSpeedLevel b action _
  · simp only [teleopStandUp, teleopLieDown, teleopCrawlForward, teleopPassive, teleopRelease, teleopStop,
      enterCrawl]
    split_ifs
    · exact keepsBasics_handleRemoteTeleopAction b action
    all_goals constructor <;> simp +contextual [remoteReady, CrawlLocked]

theorem keepsBasics_awaitRemoteStandUp (now : ℤ) :
    KeepsBasics b (b.awaitRemoteStandUp cfg r now) := by
  simp only [awaitRemoteStandUp, confirmRemoteStandUp]
  cases hq : b.node.queuedStandCmd with
  | none =>
    simp only [update_node, readControlMode_node, hq]
    split_ifs <;> constructor <;> simp +contextual [remoteReady, CrawlLocked]
  | some queued =>
    simp only [update_node, readControlMode_node, hq]
    split_ifs <;> constructor <;> simp +contextual [remoteReady, CrawlLocked]

theorem keepsBasics_publishLatestRemoteVelocity (now : ℤ) (cmd : Twist) :
    KeepsBasics b (b.publishLatestRemoteVelocity cfg r now cmd) := by
  simp only [publishLatestRemoteVelocity, latchEmergencyStop, remoteZeroOnce, requestMoveMode,
    sendRemoteStick]
  split_ifs
  · exact keepsBasics_awaitRemoteStandUp b now
  all_goals constructor <;> simp +contextual [remoteReady, CrawlLocked]

theorem keepsBasics_sendSdkVelocity (now : ℤ) (cmd : Twist) :
    KeepsBasics b (b.sendSdkVelocity cfg r now cmd) := by
  simp only [sendSdkVelocity, sdkMove]
  split_ifs <;> constructor <;> simp +contextual [remoteReady, CrawlLocked]

theorem keepsBasics_publishSdkVelocity (now : ℤ) (cmd : Twist) :
    KeepsBasics b (b.publishSdkVelocity cfg r now cmd) := by
  unfold publishSdkVelocity
  split_ifs
  · exact .trans (by constructor <;> simp +contextual [confirmSdkStandUp, remoteReady, CrawlLocked])
      (keepsBasics_sendSdkVelocity _ now cmd) id
  · exact .refl b
  · constructor <;> simp +contextual [remoteReady, CrawlLocked]
  · exact keepsBasics_sendSdkVelocity b now cmd

theorem keepsBasics_publishLatestVelocity : KeepsBasics b (b.publishLatestVelocity cfg r) := by
  unfold publishLatestVelocity
  cases b.node.lastCmd with
  | none =>
    dsimp only
    split_ifs
    · exact keepsBasics_holdPlannerVelocity b
    all_goals exact .refl b
  | some cmd =>
    dsimp only
    split_ifs
    · exact keepsBasics_holdPlannerVelocity b
    · exact .refl b
    · exact .refl b
    · exact keepsBasics_publishLatestRemoteVelocity b b.clock cmd
    · exact keepsBasics_publishSdkVelocity b b.clock cmd

theorem keepsBasics_step (e : BridgeEvent) : KeepsBasics b (b.step cfg e) := by
  have hbegin : KeepsBasics b (b.begin e) := ⟨id, id, Or.inl⟩
  refine hbegin.trans ?_ id
  obtain ⟨elapsed, r, input⟩ := e
  cases input with
  | modeSwitch data =>
    simp only [step, handle]
    split_ifs
    · exact .refl _
    · exact keepsBasics_handleModeSwitchCallback _ data
  | velocity topic vx vy yawRate =>
    cases topic with
    | planner =>
      simp only [step, handle]
      split_ifs
      · exact .refl _
      · exact keepsBasics_handlePlannerVelCallback _ _
    | teleop =>
      simp only [step, handle]
      split_ifs
      · exact keepsBasics_handlePlannerVelCallback _ _
      · exact keepsBasics_handleTeleopVelCallback _ _
  | teleopAction action => exact keepsBasics_handleTeleopActionCallback _ action
  | remoteTeleopAction action => exact keepsBasics_handleRemoteTeleopAction _ action
  | localization status =>
    simp only [step, handle]
    split_ifs
    · exact .refl _
    · constructor <;> simp +contextual [handleLocalizationCallback, remoteReady, CrawlLocked]
  | fineControl data => constructor <;> simp +contextual [step, handle, remoteReady, CrawlLocked]
  | publishTimer => exact keepsBasics_publishLatestVelocity _
  | remoteExecutorReady => constructor <;> simp +contextual [step, handle, remoteReady, CrawlLocked]

end KeepsBasics

end Bridge

end RoamerX.VelocityBridge
