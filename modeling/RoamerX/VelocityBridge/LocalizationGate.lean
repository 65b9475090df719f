import Mathlib
import RoamerX.VelocityBridge.Callbacks

set_option autoImplicit false

/-! # The localisation gate

`LocalizationAllowsNavLocked` holds planner velocities back unless the last localisation message is
recent and has status 3. The gate also opens while `manual_teleop_active_` is set, and this flag stays
set after the browser has left: until `passive`, `lie_down` or `release_remote` arrives on the topic of
remote actions. -/

namespace RoamerX.VelocityBridge

/-- The topic of the command a motion was made of. -/
def Call.source : Call → Option VelocityTopic
  | .setRemote _ source => source
  | .move _ _ _ source => source
  | _ => none

/-- The call sends a non-zero velocity or stick value. -/
def Call.isMotion : Call → Bool
  | .setRemote joystick _ => joystick ≠ {}
  | .move vx vy yawRate _ => (vx, vy, yawRate) ≠ (0, 0, 0)
  | _ => false

namespace Bridge

variable {cfg : BridgeConfig} {r : Replies}

/-! ## Callbacks that send nothing of a command -/

/-- No call of the callback was made of a command. -/
def Silent (b : Bridge) : Prop := b.Makes (fun c => c.source = none)

section Silent

variable (b : Bridge)

@[simp] theorem silent_begin (e : BridgeEvent) : (b.begin e).Silent := b.makes_begin e

@[simp] theorem silent_call (c : Call) : (b.call c).Silent ↔ c.source = none ∧ b.Silent :=
  b.makes_call c

@[simp] theorem silent_update (f : VelCmdUdpPublisher → VelCmdUdpPublisher) :
    (b.update f).Silent ↔ b.Silent := Iff.rfl

@[simp] theorem silent_sleepFor (ms : ℤ) : (b.sleepFor ms).Silent ↔ b.Silent := Iff.rfl

@[simp] theorem silent_publishMotionState (state : String) :
    (b.publishMotionState state).Silent ↔ b.Silent := by
  simp [publishMotionState, Call.source]

@[simp] theorem silent_remoteSetCmd (c : CmdCode) : (b.remoteSetCmd c).Silent ↔ b.Silent := by
  unfold remoteSetCmd
  split_ifs <;> simp [Call.source]

@[simp] theorem silent_remoteSetZero : b.remoteSetZero.Silent ↔ b.Silent := by
  unfold remoteSetZero remoteSetRemote
  split_ifs <;> simp [Call.source]

@[simp] theorem silent_readControlMode : (b.readControlMode r).Silent ↔ b.Silent := by
  unfold readControlMode
  split_ifs <;> simp [Call.source]

@[simp] theorem silent_remoteSetCmdWithRight (c : CmdCode) :
    (b.remoteSetCmdWithRight c).Silent ↔ b.Silent := by
  simp [remoteSetCmdWithRight]

@[simp] theorem silent_passiveOrZero : (b.passiveOrZero cfg).Silent ↔ b.Silent := by
  unfold passiveOrZero
  split_ifs <;> simp [Call.source]

@[simp] theorem silent_startStandUp : (b.startStandUp cfg r).Silent ↔ b.Silent := by
  unfold startStandUp
  split_ifs <;> simp [Call.source]

@[simp] theorem silent_holdPlannerVelocity : (b.holdPlannerVelocity cfg).Silent ↔ b.Silent := by
  simp only [holdPlannerVelocity]
  split_ifs <;> simp [Call.source]

@[simp] theorem silent_remoteZeroOnce : b.remoteZeroOnce.Silent ↔ b.Silent := by
  unfold remoteZeroOnce
  split_ifs <;> simp

@[simp] theorem silent_enterCrawl : b.enterCrawl.Silent ↔ b.Silent := by
  simp [enterCrawl]

@[simp] theorem silent_endRemoteSession (posture : RequestedPosture) :
    (b.endRemoteSession posture).Silent ↔ b.Silent := Iff.rfl

@[simp] theorem silent_teleopStop : (b.teleopStop cfg).Silent ↔ b.Silent := by
  simp [teleopStop]

end Silent

theorem silent_handleModeSwitchCallback {b : Bridge} (h : b.Silent) (data : ℤ) :
    (b.handleModeSwitchCallback cfg r data).Silent := by
  unfold handleModeSwitchCallback
  split_ifs <;> simp [h]

theorem silent_activateRemoteOnly {b : Bridge} (h : b.Silent) (cmd : Twist) :
    (b.activateRemoteOnly cmd).Silent := by
  simp only [activateRemoteOnly]
  split_ifs <;> simp [h]

theorem silent_keepPlannerVel {b : Bridge} (h : b.Silent) (cmd : Twist) :
    (b.keepPlannerVel cfg r cmd).Silent := by
  simp only [keepPlannerVel]
  split_ifs <;> simp [h]

theorem silent_handlePlannerVel {b : Bridge} (h : b.Silent) (cmd : Twist) :
    (b.handlePlannerVel cfg r cmd).Silent := by
  unfold handlePlannerVel
  split_ifs
  · exact h
  · exact h
  · exact (silent_holdPlannerVelocity b).2 h
  · exact h
  · exact h
  · exact silent_activateRemoteOnly h cmd
  · exact h
  · exact silent_keepPlannerVel h cmd

theorem silent_handlePlannerVelCallback {b : Bridge} (h : b.Silent) (cmd : Twist) :
    (b.handlePlannerVelCallback cfg r cmd).Silent := by
  unfold handlePlannerVelCallback
  split_ifs
  · exact h
  · simpa using h
  · exact silent_handlePlannerVel (by simpa using h) cmd
  · exact silent_handlePlannerVel h cmd

theorem silent_handleTeleopVelCallback {b : Bridge} (h : b.Silent) (cmd : Twist) :
    (b.handleTeleopVelCallback cfg cmd).Silent := by
  simp only [handleTeleopVelCallback, activateTeleop]
  split_ifs <;> simp [h]

theorem silent_handleRemoteTeleopAction {b : Bridge} (h : b.Silent) (action : String) :
    (b.handleRemoteTeleopAction r action).Silent := by
  unfold handleRemoteTeleopAction
  split
  · simpa [setRemoteSpeedLevel] using h
  · simp only [remoteStandUp, remoteGesture, remoteCrawlForward, remotePassive, remoteLieDown,
      remoteRelease]
    split_ifs <;> simp [h]

theorem silent_handleTeleopActionCallback {b : Bridge} (h : b.Silent) (action : String) :
    (b.handleTeleopActionCallback cfg r action).Silent := by
  unfold handleTeleopActionCallback
  split
  · simpa [setRemoteSpeedLevel] using h
  · simp only [teleopStandUp, teleopLieDown, teleopCrawlForward, teleopPassive, teleopRelease]
    split_ifs
    · exact silent_handleRemoteTeleopAction h action
    all_goals simp [h, Call.source]

theorem silent_confirmRemoteStandUp {b : Bridge} (h : b.Silent) (now : ℤ) :
    (b.confirmRemoteStandUp now).Silent := by
  simp only [confirmRemoteStandUp]
  split
  · split_ifs <;> simp [h]
  · simp [h]

theorem silent_awaitRemoteStandUp {b : Bridge} (h : b.Silent) (now : ℤ) :
    (b.awaitRemoteStandUp cfg r now).Silent := by
  simp only [awaitRemoteStandUp]
  split_ifs
  · exact silent_confirmRemoteStandUp (by simpa using h) now
  all_goals simp [h]

/-! ## The members the gate depends on -/

/-- The stored command came from the planner. -/
def PlannerStored (b : Bridge) : Prop :=
  ∃ cmd, b.node.lastCmd = some cmd ∧ cmd.topic = some .planner

/-- A planner command is only stored after the manual override has run out, and a bridge that also
    listens to the planner queues no command for a stand-up. -/
structure GateInv (b : Bridge) : Prop where
  overridden : b.PlannerStored → b.node.manualOverrideUntil ≤ b.clock
  unqueued : b.node.queuedStandCmd = none

/-- A callback that leaves these members, or drops the stored command, keeps them. -/
structure KeepsGate (b b' : Bridge) : Prop where
  clock : b.clock ≤ b'.clock
  override : b'.node.manualOverrideUntil = b.node.manualOverrideUntil
  stored : b'.node.lastCmd = b.node.lastCmd ∨ b'.node.lastCmd = none ∨ b'.node.lastCmd = some {}
  queued : b'.node.queuedStandCmd = b.node.queuedStandCmd ∨ b'.node.queuedStandCmd = none
  seen : b'.node.locInfoSeen = b.node.locInfoSeen
  status : b'.node.lastLocStatus = b.node.lastLocStatus
  time : b'.node.lastLocTime = b.node.lastLocTime

namespace KeepsGate

theorem refl (b : Bridge) : KeepsGate b b := by
  constructor <;> simp

theorem trans {a b c : Bridge} (h : KeepsGate a b) (h' : KeepsGate b c) : KeepsGate a c where
  clock := h.clock.trans h'.clock
  override := h'.override.trans h.override
  stored := by
    rcases h'.stored with hc | hc | hc
    · rw [hc]
      exact h.stored
    · exact Or.inr (Or.inl hc)
    · exact Or.inr (Or.inr hc)
  queued := by
    rcases h'.queued with hc | hc
    · rw [hc]
      exact h.queued
    · exact Or.inr hc
  seen := h'.seen.trans h.seen
  status := h'.status.trans h.status
  time := h'.time.trans h.time

theorem gateInv {b b' : Bridge} (h : KeepsGate b b') (hi : b.GateInv) : b'.GateInv where
  overridden := by
    rintro ⟨cmd, hcmd, htopic⟩
    rw [h.override]
    refine le_trans (hi.overridden ⟨cmd, ?_, htopic⟩) h.clock
    rcases h.stored with hs | hs | hs
    · rwa [← hs]
    · rw [hs] at hcmd
      exact absurd hcmd (by simp)
    · -- the zero command of the bridge itself has no topic
      rw [hs] at hcmd
      obtain rfl := Option.some.inj hcmd
      exact absurd htopic (by simp)
  unqueued := by
    rcases h.queued with hq | hq
    · rw [hq]
      exact hi.unqueued
    · exact hq

end KeepsGate

section KeepsGate

variable (b : Bridge)

variable (cfg r) in
theorem keepsGate_startStandUp : KeepsGate b (b.startStandUp cfg r) := by
  simp only [startStandUp]
  split_ifs <;> constructor <;> simp [milliseconds]

theorem keepsGate_holdPlannerVelocity : KeepsGate b (b.holdPlannerVelocity cfg) := by
  simp only [holdPlannerVelocity]
  split_ifs <;> constructor <;> simp

theorem keepsGate_remoteZeroOnce : KeepsGate b b.remoteZeroOnce := by
  unfold remoteZeroOnce
  split_ifs <;> constructor <;> simp

theorem keepsGate_setRemoteSpeedLevel (action : String) (level : CmdCode × ℚ) :
    KeepsGate b (b.setRemoteSpeedLevel action level) := by
  constructor <;> simp [setRemoteSpeedLevel]

theorem keepsGate_handleModeSwitchCallback (data : ℤ) :
    KeepsGate b (b.handleModeSwitchCallback cfg r data) := by
  unfold handleModeSwitchCallback
  split_ifs
  · exact .refl b
  · exact .refl b
  · refine .trans ?_ ((keepsGate_startStandUp cfg r (b.update fun n => { n with crawlMode := false })).trans ?_)
    · constructor <;> simp
    · constructor <;> simp
  · exact .refl b
  · exact .refl b
  · exact .refl b
  · constructor <;> simp

theorem keepsGate_handleRemoteTeleopAction (action : String) :
    KeepsGate b (b.handleRemoteTeleopAction r action) := by
  unfold handleRemoteTeleopAction
  split
  · exact keepsGate_setRemoteSpeedLevel b action _
  · simp only [remoteStandUp, remoteGesture, remoteCrawlForward, remotePassive, remoteLieDown,
      remoteRelease, enterCrawl, endRemoteSession]
    split_ifs <;> constructor <;> simp [milliseconds]

theorem keepsGate_teleopStandUp : KeepsGate b (b.teleopStandUp cfg r) := by
  unfold teleopStandUp
  refine .trans ?_ ((keepsGate_startStandUp cfg r (b.update fun n =>
    { n with crawlMode := false, manualCrawlLock := false, requestedPosture := .standing })).trans ?_)
  · constructor <;> simp
  · constructor <;> simp

theorem keepsGate_handleTeleopActionCallback (action : String) :
    KeepsGate b (b.handleTeleopActionCallback cfg r action) := by
  unfold handleTeleopActionCallback
  split
  · exact keepsGate_setRemoteSpeedLevel b action _
  · simp only [teleopLieDown, teleopCrawlForward, teleopPassive, teleopRelease, teleopStop, enterCrawl]
    split_ifs
    · exact keepsGate_handleRemoteTeleopAction b action
    · exact keepsGate_teleopStandUp b
    all_goals constructor <;> simp [milliseconds]

theorem keepsGate_awaitRemoteStandUp (hq : b.node.queuedStandCmd = none) (now : ℤ) :
    KeepsGate b (b.awaitRemoteStandUp cfg r now) := by
  simp only [awaitRemoteStandUp, confirmRemoteStandUp, update_node, readControlMode_node, hq]
  split_ifs <;> constructor <;> simp [milliseconds]

theorem keepsGate_publishLatestRemoteVelocity (hq : b.node.queuedStandCmd = none) (now : ℤ)
    (cmd : Twist) : KeepsGate b (b.publishLatestRemoteVelocity cfg r now cmd) := by
  simp only [publishLatestRemoteVelocity, latchEmergencyStop, requestMoveMode, sendRemoteStick]
  split_ifs
  · exact keepsGate_awaitRemoteStandUp b hq now
  · constructor <;> simp
  · exact .trans (by constructor <;> simp) (keepsGate_remoteZeroOnce (b.readControlMode r))
  · exact .trans (by constructor <;> simp) (keepsGate_remoteZeroOnce (b.readControlMode r))
  all_goals constructor <;> simp [milliseconds]

theorem keepsGate_sendSdkVelocity (now : ℤ) (cmd : Twist) :
    KeepsGate b (b.sendSdkVelocity cfg r now cmd) := by
  simp only [sendSdkVelocity, sdkMove]
  split_ifs
  · constructor <;> simp
  · exact .refl b
  · constructor <;> simp
  · exact .trans (by constructor <;> simp) (keepsGate_startStandUp cfg r _)
  · constructor <;> simp

theorem keepsGate_publishSdkVelocity (now : ℤ) (cmd : Twist) :
    KeepsGate b (b.publishSdkVelocity cfg r now cmd) := by
  unfold publishSdkVelocity
  split_ifs
  · exact .trans (by constructor <;> simp [confirmSdkStandUp]) (keepsGate_sendSdkVelocity _ now cmd)
  · exact .refl b
  · constructor <;> simp
  · exact keepsGate_sendSdkVelocity b now cmd

theorem keepsGate_publishLatestVelocity (hq : b.node.queuedStandCmd = none) :
    KeepsGate b (b.publishLatestVelocity cfg r) := by
  unfold publishLatestVelocity
  cases b.node.lastCmd with
  | none =>
    dsimp only
    split_ifs
    · exact keepsGate_holdPlannerVelocity b
    all_goals exact .refl b
  | some cmd =>
    dsimp only
    split_ifs
    · exact keepsGate_holdPlannerVelocity b
    · exact .refl b
    · exact .refl b
    · exact keepsGate_publishLatestRemoteVelocity b hq b.clock cmd
    · exact keepsGate_publishSdkVelocity b b.clock cmd

theorem keepsGate_handle (hmode : cfg.remoteControlOnly = false)
    (hq : b.node.queuedStandCmd = none) (input : BridgeInput)
    (hvelocity : ∀ topic vx vy yawRate, input ≠ .velocity topic vx vy yawRate)
    (hlocalization : ∀ status, input ≠ .localization status) :
    KeepsGate b (b.handle cfg r input) := by
  cases input with
  | modeSwitch data =>
    simp only [handle, hmode, Bool.false_eq_true, if_false]
    exact keepsGate_handleModeSwitchCallback b data
  | velocity topic vx vy yawRate => exact absurd rfl (hvelocity topic vx vy yawRate)
  | teleopAction action => exact keepsGate_handleTeleopActionCallback b action
  | remoteTeleopAction action => exact keepsGate_handleRemoteTeleopAction b action
  | localization status => exact absurd rfl (hlocalization status)
  | fineControl data => constructor <;> simp [handle]
  | publishTimer => exact keepsGate_publishLatestVelocity b hq
  | remoteExecutorReady => constructor <;> simp [handle]

end KeepsGate

theorem handlePlannerVel_stores (hmode : cfg.remoteControlOnly = false) (b : Bridge) (cmd : Twist) :
    KeepsGate b (b.handlePlannerVel cfg r cmd) ∨
      b.node.manualOverrideUntil ≤ b.clock ∧
        KeepsGate (b.update fun n => { n with lastCmd := some cmd, lastCmdTime := b.clock })
          (b.handlePlannerVel cfg r cmd) := by
  simp only [handlePlannerVel, hmode, Bool.not_false, Bool.true_and, Bool.false_and, decide_eq_true_eq,
    Bool.false_eq_true, if_false]
  split_ifs with hlock hover
  · exact Or.inl (.refl b)
  · exact Or.inl (.refl b)
  · exact Or.inl (keepsGate_holdPlannerVelocity b)
  · exact Or.inl (.refl b)
  · exact Or.inl (.refl b)
  · refine Or.inr ⟨not_lt.1 hover, ?_⟩
    simp only [keepPlannerVel, hmode, Bool.false_and, Bool.not_false, Bool.true_and,
      Bool.false_eq_true, if_false]
    split_ifs
    · exact (keepsGate_startStandUp cfg r _).trans (by constructor <;> simp)
    · exact .refl _

/-! ## What the timer sends of a command -/

/-- The virtual remote's path sends a command: the robot stands, the command is live, and the reported
    mode lets it through. -/
def RemoteSends (cfg : BridgeConfig) (r : Replies) (b : Bridge) (now : ℤ) (cmd : Twist) : Prop :=
  b.node.standingUp = false ∧ b.remoteReady = true ∧ b.hasLiveMotion cfg cmd now = true ∧
    (decideRemoteVelocityDisposition b.node.requestedPosture (b.remoteControlMode r) =
        .sendLowPostureVelocity ∨
      decideRemoteVelocityDisposition b.node.requestedPosture (b.remoteControlMode r) =
        .sendMoveVelocity)

instance (b : Bridge) (now : ℤ) (cmd : Twist) : Decidable (RemoteSends cfg r b now cmd) :=
  inferInstanceAs (Decidable (_ ∧ _ ∧ _ ∧ (_ ∨ _)))

@[simp] theorem remoteStick_readControlMode (b : Bridge) (cmd : Twist) :
    (b.readControlMode r).remoteStick cfg cmd = b.remoteStick cfg cmd := by
  simp [remoteStick]

theorem setRemote_mem_of_remoteSends {b : Bridge} {now : ℤ} {cmd : Twist}
    (h : RemoteSends cfg r b now cmd) :
    .setRemote (b.remoteStick cfg cmd) cmd.topic ∈
      (b.publishLatestRemoteVelocity cfg r now cmd).calls := by
  obtain ⟨hstand, hready, hlive, hmode⟩ := h
  have hlive' : (b.readControlMode r).hasLiveMotion cfg cmd now = true := by
    simpa [hasLiveMotion] using hlive
  have hready' : (b.readControlMode r).remoteReady = true := by
    simpa [remoteReady] using hready
  have hsent : b.publishLatestRemoteVelocity cfg r now cmd =
      (b.readControlMode r).sendRemoteStick cfg cmd := by
    unfold publishLatestRemoteVelocity
    rcases hmode with hmode | hmode <;> simp [hstand, hlive', hmode]
  rw [hsent]
  simp [sendRemoteStick, remoteSetRemote, hready']

theorem remoteSends_of_source {b : Bridge} (hb : b.Silent) {now : ℤ} {cmd : Twist} {c : Call}
    (hc : c ∈ (b.publishLatestRemoteVelocity cfg r now cmd).calls) (hsource : c.source ≠ none) :
    RemoteSends cfg r b now cmd ∧ c = .setRemote (b.remoteStick cfg cmd) cmd.topic := by
  have hread : (b.readControlMode r).Silent := (silent_readControlMode b).2 hb
  have hsilent : ∀ b' : Bridge, b'.Silent →
      b.publishLatestRemoteVelocity cfg r now cmd = b' → False := by
    intro b' hb' heq
    rw [heq] at hc
    exact hsource (hb' c hc)
  unfold publishLatestRemoteVelocity at hsilent hc
  dsimp only at hsilent hc
  split_ifs at hsilent hc with hstand hstop hlive hwait hmove
  · exact (hsilent _ (silent_awaitRemoteStandUp hb now) rfl).elim
  · exact (hsilent _ (by simpa [latchEmergencyStop] using hread) rfl).elim
  · exact (hsilent _ ((silent_remoteZeroOnce _).2 hread) rfl).elim
  · exact (hsilent _ ((silent_remoteZeroOnce _).2 hread) rfl).elim
  · refine (hsilent _ ?_ rfl).elim
    unfold requestMoveMode
    split_ifs <;> simpa using hread
  · -- only here is the frame of the command sent
    have hcases : (b.readControlMode r).remoteReady = true ∧
        c = .setRemote (b.remoteStick cfg cmd) cmd.topic := by
      by_cases hready : (b.readControlMode r).remoteReady = true
      · simp only [sendRemoteStick, remoteSetRemote, hready, if_true, update_calls, call_calls,
          List.mem_cons, remoteStick_readControlMode] at hc
        rcases hc with hc | hc
        · exact ⟨hready, hc⟩
        · exact absurd (hread c hc) hsource
      · simp only [sendRemoteStick, remoteSetRemote, hready, update_calls] at hc
        exact absurd (hread c hc) hsource
    refine ⟨⟨by simpa using hstand, by simpa [remoteReady] using hcases.1, ?_, ?_⟩, hcases.2⟩
    · simpa [hasLiveMotion] using hlive
    · cases hd : decideRemoteVelocityDisposition b.node.requestedPosture (b.remoteControlMode r) with
      | emergencyStop => exact absurd hd hstop
      | waitForLowPosture => exact absurd hd hwait
      | requestMoveMode => exact absurd hd hmove
      | sendLowPostureVelocity => exact Or.inl rfl
      | sendMoveVelocity => exact Or.inr rfl

theorem makes_startStandUp {P : Call → Prop} (hP : ∀ c : Call, c.source = none → P c) {b : Bridge}
    (hb : b.Makes P) : (b.startStandUp cfg r).Makes P := by
  simp only [startStandUp]
  split_ifs
  · refine (makes_publishMotionState _ _).2 ⟨hP _ rfl, (makes_update _ _).2 ?_⟩
    exact makes_remoteSetCmdWithRight _ (hP _ rfl) (hP _ rfl)
      (makes_remoteSetZero _ (hP _ rfl) ((makes_update _ _).2 hb))
  all_goals simpa [hP (.motionState _) rfl, hP .standUp rfl] using hb

theorem source_of_publishSdkVelocity {b : Bridge} (hb : b.Silent) {now : ℤ} {cmd : Twist} {c : Call}
    (hc : c ∈ (b.publishSdkVelocity cfg r now cmd).calls) (hsource : c.source ≠ none) :
    c.source = cmd.topic := by
  have hsend : ∀ b' : Bridge, b'.Silent → c ∈ (b'.sendSdkVelocity cfg r now cmd).calls →
      c.source = cmd.topic := by
    intro b' hb' hc
    have hzero : b'.remoteSetZero.Silent := (silent_remoteSetZero b').2 hb'
    simp only [sendSdkVelocity, sdkMove] at hc
    split_ifs at hc
    · exact absurd (hzero c hc) hsource
    · exact absurd (hb' c hc) hsource
    · simp only [remoteSetRemote, update_calls] at hc
      split_ifs at hc
      · rcases List.mem_cons.1 hc with rfl | hc
        · rfl
        · exact absurd (hb' c hc) hsource
      · exact absurd (hb' c hc) hsource
    · have hmakes : ((b'.call (.move (sdkVelocity cfg cmd).1 (sdkVelocity cfg cmd).2.1
          (sdkVelocity cfg cmd).2.2 cmd.topic)).startStandUp cfg r).Makes
          (fun c => c.source = none ∨ c.source = cmd.topic) := by
        refine makes_startStandUp (fun c h => Or.inl h) ((makes_call _ _).2 ⟨Or.inr rfl, ?_⟩)
        exact fun c h => Or.inl (hb' c h)
      exact (hmakes c hc).resolve_left hsource
    · rcases List.mem_cons.1 hc with rfl | hc
      · rfl
      · exact absurd (hb' c hc) hsource
  unfold publishSdkVelocity at hc
  split_ifs at hc
  · exact hsend _ (by simpa [confirmSdkStandUp] using hb) hc
  · exact absurd (hb c hc) hsource
  · refine absurd ((?_ : Silent _) c hc) hsource
    simp [hb, Call.source]
  · exact hsend b hb hc

end Bridge

/-! ## Runs, with the last localisation message -/

/-- The bridge, and the status and arrival time of the last message on the localisation topic. -/
structure Watched where
  bridge : Bridge := {}
  lastLocalization : Option (UInt8 × ℤ) := none

namespace Watched

def step (cfg : BridgeConfig) (w : Watched) (e : BridgeEvent) : Watched where
  bridge := w.bridge.step cfg e
  lastLocalization :=
    match e.input with
    | .localization status => some (status, w.bridge.clock + e.elapsed)
    | _ => w.lastLocalization

variable {cfg : BridgeConfig}

/-- When the callback starts, the last localisation message has status 3 and is recent enough. -/
def localized (cfg : BridgeConfig) (w : Watched) (e : BridgeEvent) : Bool :=
  match w.lastLocalization with
  | some (status, time) =>
    status == 3 && durationMs (w.bridge.clock + e.elapsed - time) ≤ cfg.localizationTimeoutMs
  | none => false

/-- What the callback sends of a planner command is sent while the robot is localised. -/
def Gated (cfg : BridgeConfig) (w : Watched) (e : BridgeEvent) : Prop :=
  ∀ c ∈ (w.bridge.step cfg e).calls,
    c.source = some .planner → c.isMotion = true → w.localized cfg e = true

instance (w : Watched) (e : BridgeEvent) : Decidable (w.Gated cfg e) :=
  inferInstanceAs (Decidable (∀ c ∈ _, _))

/-- The timer finds `manual_teleop_active_` set and a planner command stored that the virtual remote
    lets through, while the robot is not localised. -/
def Bypassed (cfg : BridgeConfig) (w : Watched) (e : BridgeEvent) : Prop :=
  e.input = .publishTimer ∧ w.localized cfg e = false ∧
    w.bridge.node.manualTeleopActive = true ∧ w.bridge.node.navActive = true ∧
    ∃ cmd ∈ w.bridge.node.lastCmd, cmd.topic = some .planner ∧
      Bridge.RemoteSends cfg e.replies (w.bridge.begin e) (w.bridge.clock + e.elapsed) cmd ∧
      w.bridge.remoteStick cfg cmd ≠ {}

/-- The node's copy of the last localisation message is right, and the gate's members are in order. -/
structure Inv (w : Watched) : Prop where
  gate : w.bridge.GateInv
  message : w.lastLocalization =
    if w.bridge.node.locInfoSeen then
      some (w.bridge.node.lastLocStatus, w.bridge.node.lastLocTime)
    else none

theorem inv_initial : Inv {} where
  gate := ⟨fun h => (by obtain ⟨cmd, hcmd, _⟩ := h; exact absurd hcmd (by simp)), rfl⟩
  message := rfl

theorem inv_of_keepsGate {w w' : Watched} (hi : w.Inv)
    (h : w.bridge.KeepsGate w'.bridge) (hlast : w'.lastLocalization = w.lastLocalization) :
    w'.Inv where
  gate := h.gateInv hi.gate
  message := by rw [hlast, hi.message, h.seen, h.status, h.time]

theorem keepsGate_begin (b : Bridge) (e : BridgeEvent) : b.KeepsGate (b.begin e) := by
  constructor <;> simp [Bridge.begin]

theorem inv_of_stored {w w' : Watched} (hi : w.Inv) {b : Bridge} (h : b.KeepsGate w'.bridge)
    (hgate : w'.bridge.GateInv) (hb : b.node.locInfoSeen = w.bridge.node.locInfoSeen ∧
      b.node.lastLocStatus = w.bridge.node.lastLocStatus ∧
      b.node.lastLocTime = w.bridge.node.lastLocTime)
    (hlast : w'.lastLocalization = w.lastLocalization) : w'.Inv where
  gate := hgate
  message := by
    obtain ⟨hseen, hstatus, htime⟩ := hb
    rw [hlast, hi.message, h.seen, h.status, h.time, hseen, hstatus, htime]

theorem inv_step_planner (hmode : cfg.remoteControlOnly = false) {w w' : Watched} (hi : w.Inv)
    {b : Bridge} (hb : w.bridge.KeepsGate b) {r : Replies} {cmd : Twist}
    (hw' : w'.bridge = b.handlePlannerVelCallback cfg r cmd)
    (hlast : w'.lastLocalization = w.lastLocalization) : w'.Inv := by
  have hdone : ∀ b' : Bridge, w.bridge.KeepsGate b' → w'.bridge = b'.handlePlannerVel cfg r cmd →
      w'.Inv := by
    intro b' hb' hw'
    have hgate : b'.GateInv := hb'.gateInv hi.gate
    rcases Bridge.handlePlannerVel_stores (r := r) hmode b' cmd with h | ⟨hover, h⟩
    · rw [← hw'] at h
      exact inv_of_keepsGate hi (hb'.trans h) hlast
    · rw [← hw'] at h
      refine inv_of_stored hi h (h.gateInv ⟨fun _ => hover, hgate.unqueued⟩) ?_ hlast
      exact ⟨hb'.seen, hb'.status, hb'.time⟩
  unfold Bridge.handlePlannerVelCallback at hw'
  split_ifs at hw'
  · exact inv_of_keepsGate hi (hw' ▸ hb) hlast
  · refine inv_of_keepsGate hi (hw' ▸ hb.trans ?_) hlast
    constructor <;> simp
  · refine hdone _ (hb.trans ?_) hw'
    constructor <;> simp
  · exact hdone b hb hw'

theorem inv_step_teleop {w w' : Watched} (hi : w.Inv) {b : Bridge} (hb : w.bridge.KeepsGate b)
    {cmd : Twist} (htopic : cmd.topic = some .teleop)
    (hw' : w'.bridge = b.handleTeleopVelCallback cfg cmd)
    (hlast : w'.lastLocalization = w.lastLocalization) : w'.Inv := by
  have hkeeps : (b.update fun n =>
      { n with
        manualTeleopActive := true
        lastCmd := some cmd
        lastCmdTime := b.clock
        manualOverrideUntil := b.clock + milliseconds cfg.manualOverrideMs }).KeepsGate w'.bridge := by
    rw [hw']
    simp only [Bridge.handleTeleopVelCallback, Bridge.activateTeleop]
    split_ifs <;> constructor <;> simp [milliseconds]
  refine inv_of_stored hi hkeeps (hkeeps.gateInv ⟨?_, (hb.gateInv hi.gate).unqueued⟩)
    ⟨hb.seen, hb.status, hb.time⟩ hlast
  rintro ⟨cmd', hcmd', htopic'⟩
  -- the stored command is the browser's
  obtain rfl := Option.some.inj hcmd'
  rw [htopic] at htopic'
  exact absurd htopic' (by simp)

theorem inv_step (hmode : cfg.remoteControlOnly = false) {w : Watched} (hi : w.Inv) (e : BridgeEvent) :
    (w.step cfg e).Inv := by
  have hbegin := keepsGate_begin w.bridge e
  have hgate := hbegin.gateInv hi.gate
  by_cases hvelocity : ∃ topic vx vy yawRate, e.input = .velocity topic vx vy yawRate
  · obtain ⟨topic, vx, vy, yawRate, hinput⟩ := hvelocity
    have hlast : (w.step cfg e).lastLocalization = w.lastLocalization := by
      simp [step, hinput]
    cases topic with
    | planner =>
      have hb : (w.step cfg e).bridge = (w.bridge.begin e).handlePlannerVelCallback cfg e.replies
          (Bridge.twist .planner vx vy yawRate) := by
        simp [step, Bridge.step, Bridge.handle, hinput, hmode]
      exact inv_step_planner hmode hi hbegin hb hlast
    | teleop =>
      have hb : (w.step cfg e).bridge = (w.bridge.begin e).handleTeleopVelCallback cfg
          (Bridge.twist .teleop vx vy yawRate) := by
        simp [step, Bridge.step, Bridge.handle, hinput, hmode]
      exact inv_step_teleop hi hbegin rfl hb hlast
  · by_cases hlocalization : ∃ status, e.input = .localization status
    · obtain ⟨status, hinput⟩ := hlocalization
      have hb : (w.step cfg e).bridge = (w.bridge.begin e).handleLocalizationCallback status := by
        simp [step, Bridge.step, Bridge.handle, hinput, hmode]
      refine ⟨?_, ?_⟩
      · rw [hb]
        exact ⟨hgate.overridden, hgate.unqueued⟩
      · rw [hb]
        simp [step, hinput, Bridge.handleLocalizationCallback, Bridge.begin]
    · refine inv_of_keepsGate hi (hbegin.trans (Bridge.keepsGate_handle _ hmode hgate.unqueued e.input
        (fun topic vx vy yawRate h => hvelocity ⟨topic, vx, vy, yawRate, h⟩)
        (fun status h => hlocalization ⟨status, h⟩))) ?_
      simp only [step]
      split
      · next status hinput => exact absurd ⟨status, hinput⟩ hlocalization
      · rfl

/-! ## One callback -/

theorem silent_step {w : Watched} {e : BridgeEvent} (h : e.input ≠ .publishTimer) :
    (w.bridge.step cfg e).Silent := by
  have hbegin := w.bridge.silent_begin e
  obtain ⟨elapsed, r, input⟩ := e
  cases input with
  | modeSwitch data =>
    simp only [Bridge.step, Bridge.handle]
    split_ifs
    · exact hbegin
    · exact Bridge.silent_handleModeSwitchCallback hbegin data
  | velocity topic vx vy yawRate =>
    cases topic with
    | planner =>
      simp only [Bridge.step, Bridge.handle]
      split_ifs
      · exact hbegin
      · exact Bridge.silent_handlePlannerVelCallback hbegin _
    | teleop =>
      simp only [Bridge.step, Bridge.handle]
      split_ifs
      · exact Bridge.silent_handlePlannerVelCallback hbegin _
      · exact Bridge.silent_handleTeleopVelCallback hbegin _
  | teleopAction action => exact Bridge.silent_handleTeleopActionCallback hbegin action
  | remoteTeleopAction action => exact Bridge.silent_handleRemoteTeleopAction hbegin action
  | localization status =>
    simp only [Bridge.step, Bridge.handle, Bridge.handleLocalizationCallback]
    split_ifs <;> simp
  | fineControl data => simp [Bridge.step, Bridge.handle]
  | publishTimer => exact absurd rfl h
  | remoteExecutorReady => simp [Bridge.step, Bridge.handle]

theorem localized_of_allows (hmode : cfg.remoteControlOnly = false) {w : Watched} (hi : w.Inv)
    {e : BridgeEvent} (hmanual : w.bridge.node.manualTeleopActive = false)
    (hstored : w.bridge.PlannerStored)
    (hallows : (w.bridge.begin e).localizationAllowsNav cfg = true) : w.localized cfg e = true := by
  have hover : ¬ w.bridge.clock + e.elapsed < w.bridge.node.manualOverrideUntil := by
    have h := hi.gate.overridden hstored
    omega
  have hopen : w.bridge.node.locInfoSeen = true ∧
      (if cfg.localizationTimeoutMs <
          durationMs (w.bridge.clock + e.elapsed - w.bridge.node.lastLocTime) then false
        else w.bridge.node.lastLocStatus == 3) = true := by
    simp [Bridge.localizationAllowsNav, Bridge.begin, hmode, hmanual, hover] at hallows
    exact hallows
  obtain ⟨hseen, hrecent⟩ := hopen
  split_ifs at hrecent with hage
  rw [localized, hi.message, if_pos hseen]
  simp only [Bool.and_eq_true, decide_eq_true_eq]
  exact ⟨hrecent, not_lt.1 hage⟩

theorem publishLatestVelocity_stored {b : Bridge} {r : Replies} {cmd : Twist}
    (hcmd : b.node.lastCmd = some cmd) (hallows : b.localizationAllowsNav cfg = true)
    (hnav : b.node.navActive = true) :
    b.publishLatestVelocity cfg r =
      if b.usesRemote cfg then b.publishLatestRemoteVelocity cfg r b.clock cmd
      else b.publishSdkVelocity cfg r b.clock cmd := by
  simp [Bridge.publishLatestVelocity, hcmd, hallows, hnav]

theorem stored_of_source {b : Bridge} (hb : b.Silent) {r : Replies} {c : Call}
    (hc : c ∈ (b.publishLatestVelocity cfg r).calls) (hsource : c.source ≠ none) :
    b.localizationAllowsNav cfg = true ∧ b.node.navActive = true ∧
      ∃ cmd, b.node.lastCmd = some cmd ∧ c.source = cmd.topic ∧
        (b.usesRemote cfg = true → Bridge.RemoteSends cfg r b b.clock cmd ∧
          c = .setRemote (b.remoteStick cfg cmd) cmd.topic) := by
  have hsilent : ∀ b' : Bridge, b'.Silent → b.publishLatestVelocity cfg r = b' → False := by
    intro b' hb' heq
    rw [heq] at hc
    exact hsource (hb' c hc)
  by_cases hallows : b.localizationAllowsNav cfg = true
  · by_cases hnav : b.node.navActive = true
    · cases hcmd : b.node.lastCmd with
      | none =>
        refine (hsilent b hb ?_).elim
        simp [Bridge.publishLatestVelocity, hallows, hnav, hcmd]
      | some cmd =>
        rw [publishLatestVelocity_stored hcmd hallows hnav] at hc
        refine ⟨hallows, hnav, cmd, rfl, ?_⟩
        split_ifs at hc with huses
        · obtain ⟨hsends, rfl⟩ := Bridge.remoteSends_of_source hb hc hsource
          exact ⟨rfl, fun _ => ⟨hsends, rfl⟩⟩
        · exact ⟨Bridge.source_of_publishSdkVelocity hb hc hsource, fun h => absurd h huses⟩
    · refine (hsilent b hb ?_).elim
      simp [Bridge.publishLatestVelocity, hallows, hnav]
  · refine (hsilent (if b.node.navActive then b.holdPlannerVelocity cfg else b) ?_ ?_).elim
    · split_ifs
      · exact (Bridge.silent_holdPlannerVelocity b).2 hb
      · exact hb
    · simp [Bridge.publishLatestVelocity, hallows]

/-- **One callback.** A planner command passes the gate unlocalised iff the timer meets the flag. -/
theorem gated_iff_not_bypassed (hmode : cfg.remoteControlOnly = false) {w : Watched} (hi : w.Inv)
    (e : BridgeEvent) : w.Gated cfg e ↔ ¬ w.Bypassed cfg e := by
  constructor
  · rintro hgated ⟨hinput, hnot, hmanual, hnav, cmd, hcmd, htopic, hsends, hstick⟩
    have hallows : (w.bridge.begin e).localizationAllowsNav cfg = true := by
      simp [Bridge.localizationAllowsNav, Bridge.begin, hmanual]
    have huses : (w.bridge.begin e).usesRemote cfg = true := by
      simp [Bridge.usesRemote, Bridge.begin, hmanual]
    have hstep : w.bridge.step cfg e =
        (w.bridge.begin e).publishLatestRemoteVelocity cfg e.replies (w.bridge.begin e).clock cmd := by
      have hcmd' : (w.bridge.begin e).node.lastCmd = some cmd := hcmd
      rw [Bridge.step, hinput, Bridge.handle, publishLatestVelocity_stored hcmd' hallows hnav,
        if_pos huses]
    have hmem := Bridge.setRemote_mem_of_remoteSends hsends
    have hlocal := hgated (.setRemote ((w.bridge.begin e).remoteStick cfg cmd) cmd.topic)
      (by rw [hstep]; exact hmem) htopic (by
        rw [Call.isMotion, decide_eq_true_eq]
        exact hstick)
    rw [hnot] at hlocal
    exact absurd hlocal (by simp)
  · intro hbypassed c hc hsource hmotion
    by_contra hlocal
    have hinput : e.input = .publishTimer := by
      by_contra hne
      rw [silent_step hne c hc] at hsource
      exact absurd hsource (by simp)
    rw [Bridge.step, hinput] at hc
    obtain ⟨hallows, hnav, cmd, hcmd, htopic, hremote⟩ :=
      stored_of_source (w.bridge.silent_begin e) hc (by rw [hsource]; simp)
    have hplanner : cmd.topic = some .planner := htopic.symm.trans hsource
    have hmanual : w.bridge.node.manualTeleopActive = true := by
      by_contra hmanual
      exact hlocal (localized_of_allows hmode hi (by simpa using hmanual) ⟨cmd, hcmd, hplanner⟩ hallows)
    obtain ⟨hsends, rfl⟩ := hremote (by simp [Bridge.usesRemote, Bridge.begin, hmanual])
    refine hbypassed ⟨hinput, by simpa using hlocal, hmanual, hnav, cmd, hcmd, hplanner, hsends, ?_⟩
    have hstick : (w.bridge.begin e).remoteStick cfg cmd ≠ {} := by simpa [Call.isMotion] using hmotion
    exact hstick

/-! ## Every run -/

/-- **The localisation gate.** In a run of a bridge that is not remote-only, everything sent of a
    planner command is sent while the robot is localised iff the timer never meets the flag that an
    earlier browser session left behind. -/
theorem run_gated (hmode : cfg.remoteControlOnly = false) (es : List BridgeEvent) :
    Run.Always (step cfg) (Gated cfg) {} es ↔
      Run.Always (step cfg) (fun w e => ¬ w.Bypassed cfg e) {} es :=
  Run.always_iff_of_invariant Inv (fun _ e hi => inv_step hmode hi e)
    (fun _ e hi => gated_iff_not_bypassed hmode hi e) inv_initial es

def plainConfig : BridgeConfig := .plain

/-- The browser stands the robot up and leaves; no localisation message ever arrives. Nav2 then drives
    the robot forward. -/
def abandonedStandUp : List BridgeEvent :=
  [{ input := .remoteExecutorReady },
   { elapsed := 1000000000, input := .remoteTeleopAction "stand_up" },
   { elapsed := 3000000000, input := .publishTimer, replies := { controlMode := .standUp } },
   { elapsed := 60000000000, input := .velocity .planner (.finite (3 / 10)) 0 0 },
   { elapsed := 20000000, input := .publishTimer, replies := { controlMode := .moveMode } }]

/-- The last callback of this run sends the planner's velocity to a robot that is not localised. -/
theorem not_gated_abandonedStandUp :
    ¬ Run.Always (step plainConfig) (Gated plainConfig) {} abandonedStandUp := by
  decide +kernel

/-- With the browser's release before the planner starts, nothing passes the gate. -/
def releasedStandUp : List BridgeEvent :=
  [{ input := .remoteExecutorReady },
   { elapsed := 1000000000, input := .remoteTeleopAction "stand_up" },
   { elapsed := 3000000000, input := .remoteTeleopAction "release_remote" },
   { elapsed := 60000000000, input := .velocity .planner (.finite (3 / 10)) 0 0 },
   { elapsed := 20000000, input := .publishTimer, replies := { controlMode := .moveMode } }]

theorem run_gated_releasedStandUp :
    Run.Always (step plainConfig) (Gated plainConfig) {} releasedStandUp ↔
      Run.Always (step plainConfig) (fun w e => ¬ w.Bypassed plainConfig e) {} releasedStandUp :=
  run_gated rfl releasedStandUp

end Watched

end RoamerX.VelocityBridge
