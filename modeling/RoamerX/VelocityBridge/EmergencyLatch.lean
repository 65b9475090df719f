import RoamerX.VelocityBridge.Callbacks

set_option autoImplicit false

/-! # The emergency-stop latch

On the virtual remote, `passive` and a reported `CM_EMERGENCY_STOP` set `emergency_stop_latched_`.
`HandlePlannerVelCallback` drops velocities while the latch is set and the dog still reports the stop;
`HandleTeleopVelCallback` does not look at the latch. -/

namespace RoamerX.VelocityBridge

/-- The call moves the robot or recovers it from the stop: a non-zero stick, `CMD_STAND_UP` or
    `CMD_MOVE_MODE`. -/
def Call.isRecovery : Call → Bool
  | .setRemote joystick _ => joystick ≠ {}
  | .setCmd command => command = .standUp ∨ command = .moveMode
  | _ => false

/-- The call reads a mode that is not the emergency stop. -/
def Call.showsLeft : Call → Bool
  | .getControlMode mode => mode ≠ .emergencyStop
  | _ => false

/-- The actions that stand the robot up end the stop themselves. -/
def standsUp (action : String) : Bool :=
  action = "stand_up" ∨ action = "two_leg_stand" ∨ action = "shake_hand"

def BridgeInput.standsUp : BridgeInput → Bool
  | .teleopAction action => VelocityBridge.standsUp action
  | .remoteTeleopAction action => VelocityBridge.standsUp action
  | _ => false

namespace Bridge

variable {cfg : BridgeConfig} {r : Replies}

/-! ## Callbacks that recover nothing -/

def Calm (b : Bridge) : Prop := b.Makes (fun c => c.isRecovery = false)

section Calm

variable (b : Bridge)

@[simp] theorem calm_begin (e : BridgeEvent) : (b.begin e).Calm := b.makes_begin e

@[simp] theorem calm_call (c : Call) : (b.call c).Calm ↔ c.isRecovery = false ∧ b.Calm :=
  b.makes_call c

@[simp] theorem calm_update (f : VelCmdUdpPublisher → VelCmdUdpPublisher) :
    (b.update f).Calm ↔ b.Calm := Iff.rfl

@[simp] theorem calm_sleepFor (ms : ℤ) : (b.sleepFor ms).Calm ↔ b.Calm := Iff.rfl

@[simp] theorem calm_publishMotionState (state : String) :
    (b.publishMotionState state).Calm ↔ b.Calm := by
  simp [publishMotionState, Call.isRecovery]

theorem calm_remoteSetCmd {c : CmdCode} (hc : (Call.setCmd c).isRecovery = false) (hb : b.Calm) :
    (b.remoteSetCmd c).Calm :=
  b.makes_remoteSetCmd hc hb

@[simp] theorem calm_remoteSetZero : b.remoteSetZero.Calm ↔ b.Calm := by
  unfold remoteSetZero remoteSetRemote
  split_ifs <;> simp [Call.isRecovery]

@[simp] theorem calm_readControlMode : (b.readControlMode r).Calm ↔ b.Calm := by
  unfold readControlMode
  split_ifs <;> simp [Call.isRecovery]

@[simp] theorem calm_passiveOrZero : (b.passiveOrZero cfg).Calm ↔ b.Calm := by
  unfold passiveOrZero
  split_ifs <;> simp [Call.isRecovery]

end Calm

/-- The latch is set and no stand-up is in progress. -/
structure Latched (b : Bridge) : Prop where
  latched : b.node.emergencyStopLatched = true
  notStanding : b.node.standingUp = false

/-- A callback during the latch: it recovers nothing, and the latch stays. -/
structure HeldOff (b : Bridge) : Prop where
  calm : b.Calm
  latched : b.Latched

theorem heldOff_handleModeSwitchCallback {b : Bridge} (h : b.HeldOff) (hlock : b.CrawlLocked)
    (data : ℤ) : (b.handleModeSwitchCallback cfg r data).HeldOff := by
  unfold handleModeSwitchCallback
  split_ifs with hmanual hcrawl hactive hmode
  · exact h
  · exact h
  · -- the crawl gait is locked, so the heartbeat cannot end it
    exact absurd (hlock hmode) hcrawl
  · exact h
  · exact h
  · exact h
  · exact ⟨by simpa using h.calm, by simpa using h.latched.latched, by simp⟩

theorem heldOff_handlePlannerVelCallback (hsdk : cfg.sdkConnected = false) {b : Bridge}
    (h : b.HeldOff) (cmd : Twist)
    (hstop : ∀ m, .getControlMode m ∈ (b.handlePlannerVelCallback cfg r cmd).calls →
      m = .emergencyStop) : (b.handlePlannerVelCallback cfg r cmd).HeldOff := by
  have hlatch : (!cfg.sdkConnected && b.node.emergencyStopLatched) = true := by
    simp [hsdk, h.latched.latched]
  unfold handlePlannerVelCallback at hstop ⊢
  rw [if_pos hlatch] at hstop ⊢
  split_ifs at hstop ⊢ with hready hmode
  · exact h
  · exact ⟨by simpa using h.calm, by simpa using h.latched.latched, by simpa using h.latched.notStanding⟩
  · refine absurd (hstop r.controlMode (mem_calls_handlePlannerVel _ cmd ?_)) hmode
    exact (mem_calls_readControlMode b).2 (Or.inl ⟨by simpa using hready, rfl⟩)

/-- A teleop velocity wakes the robot up. -/
def Wakes (b : Bridge) (cmd : Twist) : Prop :=
  cmd.isZero = false ∧ b.node.navActive = false ∧ b.node.requestedPosture ≠ .low

instance (b : Bridge) (cmd : Twist) : Decidable (b.Wakes cmd) :=
  inferInstanceAs (Decidable (_ ∧ _ ∧ _))

theorem heldOff_handleTeleopVelCallback {b : Bridge} (h : b.HeldOff) {cmd : Twist}
    (hwakes : ¬ b.Wakes cmd) : (b.handleTeleopVelCallback cfg cmd).HeldOff := by
  have hcalm := h.calm
  have hlatch := h.latched.latched
  have hstanding := h.latched.notStanding
  simp only [handleTeleopVelCallback, activateTeleop]
  split_ifs with hnav hzero hlow
  · exact ⟨hcalm, hlatch, hstanding⟩
  · exact ⟨by simpa using hcalm, hlatch, rfl⟩
  · exact absurd ⟨by simpa using hzero, by simpa using hnav, hlow⟩ hwakes
  · exact ⟨hcalm, hlatch, hstanding⟩

theorem standUp_mem_of_wakes {b : Bridge} {cmd : Twist} (hready : b.remoteReady = true)
    (hwakes : b.Wakes cmd) :
    .setCmd .standUp ∈ (b.handleTeleopVelCallback cfg cmd).calls := by
  obtain ⟨hzero, hnav, hposture⟩ := hwakes
  have hready' : b.node.remoteExecutor = true := hready
  simp [handleTeleopVelCallback, activateTeleop, hzero, hnav, hposture, remoteSetCmdWithRight,
    remoteReady, hready']

theorem heldOff_setRemoteSpeedLevel {b : Bridge} (h : b.HeldOff) {action : String}
    {level : CmdCode × ℚ} (hlevel : speedLevel action = some level) :
    (b.setRemoteSpeedLevel action level).HeldOff := by
  have hcommand : (Call.setCmd level.1).isRecovery = false := by
    unfold speedLevel at hlevel
    split_ifs at hlevel <;> obtain rfl := Option.some.inj hlevel <;> rfl
  refine ⟨(calm_publishMotionState _ _).2 (calm_remoteSetCmd _ hcommand h.calm), ?_, ?_⟩
  · simpa [setRemoteSpeedLevel] using h.latched.latched
  · simpa [setRemoteSpeedLevel] using h.latched.notStanding


theorem heldOff_handleRemoteTeleopAction {b : Bridge} (h : b.HeldOff) {action : String}
    (haction : standsUp action = false) : (b.handleRemoteTeleopAction r action).HeldOff := by
  have hlatch := h.latched.latched
  have hstanding := h.latched.notStanding
  have hset : ∀ c, (Call.setCmd c).isRecovery = false → (b.remoteSetZero.remoteSetCmd c).Calm :=
    fun c hc => calm_remoteSetCmd _ hc ((calm_remoteSetZero b).2 h.calm)
  simp only [standsUp, Bool.decide_or, Bool.or_eq_false_iff, decide_eq_false_iff_not] at haction
  obtain ⟨hup, htwo, hshake⟩ := haction
  unfold handleRemoteTeleopAction
  split
  · next level hlevel => exact heldOff_setRemoteSpeedLevel h hlevel
  · simp only [if_neg hup, if_neg htwo, if_neg hshake]
    split_ifs
    · simp only [remoteCrawlForward, enterCrawl]
      split_ifs
      · exact ⟨by simpa using h.calm, hlatch, hstanding⟩
      · have hcrawl := calm_remoteSetCmd (b.update fun n => { n with manualTeleopActive := true })
          (rfl : (Call.setCmd .crawlForward).isRecovery = false) h.calm
        exact ⟨by simpa using hcrawl, by simpa using hlatch, by simp⟩
    · exact ⟨by simpa [remotePassive, endRemoteSession] using hset .emergencyStop rfl,
        by simp [remotePassive], by simp [remotePassive, endRemoteSession]⟩
    · exact ⟨by simpa [remoteLieDown, endRemoteSession] using hset .sitDown rfl,
        by simpa [remoteLieDown, endRemoteSession] using hlatch,
        by simp [remoteLieDown, endRemoteSession]⟩
    · exact ⟨by simpa [remoteRelease, endRemoteSession] using hset .remoteControlRight rfl,
        by simpa [remoteRelease, endRemoteSession] using hlatch,
        by simp [remoteRelease, endRemoteSession]⟩
    · exact h

theorem heldOff_teleopStop {b : Bridge} (h : b.HeldOff) : (b.teleopStop cfg).HeldOff :=
  ⟨by simpa [teleopStop] using h.calm, by simpa [teleopStop] using h.latched.latched,
    by simp [teleopStop]⟩

theorem heldOff_handleTeleopActionCallback {b : Bridge} (h : b.HeldOff) {action : String}
    (haction : standsUp action = false) : (b.handleTeleopActionCallback cfg r action).HeldOff := by
  have hlatch := h.latched.latched
  have hstop : (b.teleopStop cfg).HeldOff := heldOff_teleopStop h
  have hup : action ≠ "stand_up" := by
    rintro rfl
    exact absurd haction (by decide)
  unfold handleTeleopActionCallback
  split
  · next level hlevel => exact heldOff_setRemoteSpeedLevel h hlevel
  · simp only [if_neg hup]
    split_ifs
    · exact heldOff_handleRemoteTeleopAction h haction
    · exact ⟨by simpa [teleopLieDown, Call.isRecovery] using h.calm,
        by simpa [teleopLieDown] using hlatch, by simp [teleopLieDown]⟩
    · have hright := calm_remoteSetCmd b (rfl : (Call.setCmd .sdkControlRight).isRecovery = false) h.calm
      have hcrawl := calm_remoteSetCmd ((b.remoteSetCmd .sdkControlRight).sleepFor 100)
        (rfl : (Call.setCmd .crawlForward).isRecovery = false) hright
      exact ⟨by simpa [teleopCrawlForward, enterCrawl] using hcrawl,
        by simpa [teleopCrawlForward, enterCrawl] using hlatch,
        by simp [teleopCrawlForward, enterCrawl]⟩
    · exact ⟨(calm_publishMotionState _ _).2 hstop.calm, hstop.latched.latched,
        hstop.latched.notStanding⟩
    · simp only [teleopRelease]
      split_ifs
      · exact ⟨(calm_publishMotionState _ _).2 hstop.calm, hstop.latched.latched,
          hstop.latched.notStanding⟩
      · have hright := calm_remoteSetCmd ((b.teleopStop cfg).sleepFor 100)
          (rfl : (Call.setCmd .remoteControlRight).isRecovery = false) hstop.calm
        exact ⟨(calm_publishMotionState _ _).2 hright, by simpa using hstop.latched.latched,
          by simpa using hstop.latched.notStanding⟩
    · exact h

/-! ## The timer -/

theorem calm_of_notReady {b : Bridge} (hready : b.remoteReady = false) (h : b.Calm) :
    (∀ c, (b.remoteSetCmdWithRight c).Calm) ∧ ∀ j source, (b.remoteSetRemote j source).Calm := by
  have hready' : b.node.remoteExecutor = false := hready
  constructor
  · intro c
    simpa [remoteSetCmdWithRight, remoteSetCmd, remoteReady, hready'] using h
  · intro j source
    simpa [remoteSetRemote, hready] using h

theorem heldOff_publishLatestRemoteVelocity {b : Bridge} (h : b.HeldOff) {now : ℤ} {cmd : Twist}
    (hstop : ∀ m, .getControlMode m ∈ (b.publishLatestRemoteVelocity cfg r now cmd).calls →
      m = .emergencyStop) : (b.publishLatestRemoteVelocity cfg r now cmd).HeldOff := by
  have hlatch := h.latched.latched
  have hstanding := h.latched.notStanding
  have hzero : ∀ b' : Bridge, b'.HeldOff → b'.remoteZeroOnce.HeldOff := by
    intro b' h'
    unfold remoteZeroOnce
    split_ifs
    · exact ⟨by simpa using h'.calm, by simpa using h'.latched.latched,
        by simpa using h'.latched.notStanding⟩
    · exact h'
  have hread : (b.readControlMode r).HeldOff :=
    ⟨by simpa using h.calm, by simpa using hlatch, by simpa using hstanding⟩
  by_cases hready : b.remoteReady = true
  · -- the mode is read, so it is the emergency stop
    have hmode : r.controlMode = .emergencyStop := by
      apply hstop
      have hmem : .getControlMode r.controlMode ∈ (b.readControlMode r).calls :=
        (mem_calls_readControlMode b).2 (Or.inl ⟨hready, rfl⟩)
      simp only [publishLatestRemoteVelocity, hstanding, Bool.false_eq_true, if_false,
        latchEmergencyStop, remoteZeroOnce, requestMoveMode, sendRemoteStick, remoteSetRemote]
      split_ifs <;> simp [remoteSetCmdWithRight, hready]
    have hstop' : decideRemoteVelocityDisposition b.node.requestedPosture (b.remoteControlMode r) =
        .emergencyStop := by
      simp [remoteControlMode, hready, hmode]
    simp only [publishLatestRemoteVelocity, hstanding, Bool.false_eq_true, if_false, hstop', if_true]
    exact ⟨by simpa [latchEmergencyStop] using h.calm, by simp [latchEmergencyStop],
      by simp [latchEmergencyStop]⟩
  · have hready' : (b.readControlMode r).remoteReady = false := by
      simpa [remoteReady] using hready
    obtain ⟨hcmd, hstick⟩ := calm_of_notReady hready' hread.calm
    simp only [publishLatestRemoteVelocity, hstanding, Bool.false_eq_true, if_false]
    split_ifs with hdisp
    · exact absurd hdisp (by simp [remoteControlMode, hready])
    · exact hzero _ hread
    · exact hzero _ hread
    · unfold requestMoveMode
      split_ifs
      · exact ⟨(calm_update _ _).2 (hcmd .moveMode), by simpa using hlatch, by simpa using hstanding⟩
      · exact hread
    · exact ⟨(calm_update _ _).2 (hstick _ _), by simpa [sendRemoteStick] using hlatch,
        by simpa [sendRemoteStick] using hstanding⟩

theorem heldOff_publishLatestVelocity (hsdk : cfg.sdkConnected = false) {b : Bridge} (h : b.HeldOff)
    (hstop : ∀ m, .getControlMode m ∈ (b.publishLatestVelocity cfg r).calls → m = .emergencyStop) :
    (b.publishLatestVelocity cfg r).HeldOff := by
  have hhold : (b.holdPlannerVelocity cfg).HeldOff := by
    have hremote : (b.node.crawlMode || !cfg.sdkConnected) = true := by simp [hsdk]
    exact ⟨by simpa [holdPlannerVelocity, hremote] using h.calm,
      by simpa [holdPlannerVelocity, hremote] using h.latched.latched,
      by simpa [holdPlannerVelocity, hremote] using h.latched.notStanding⟩
  have huses : b.usesRemote cfg = true := by simp [usesRemote, hsdk]
  unfold publishLatestVelocity at hstop ⊢
  cases hcmd : b.node.lastCmd with
  | none =>
    simp only [hcmd] at hstop ⊢
    split_ifs
    · exact hhold
    all_goals exact h
  | some cmd =>
    simp only [hcmd, huses, if_true] at hstop ⊢
    split_ifs at hstop ⊢
    · exact hhold
    · exact h
    · exact h
    · exact heldOff_publishLatestRemoteVelocity h hstop

/-! ## One callback during the latch -/

/-- The callback is no end of the latch: no action stands the robot up, and no reading of the
    controller's mode shows that the dog has left the emergency stop. -/
def WithinLatch (cfg : BridgeConfig) (b : Bridge) (e : BridgeEvent) : Prop :=
  e.input.standsUp = false ∧ ∀ c ∈ (b.step cfg e).calls, c.showsLeft = false

instance (b : Bridge) (e : BridgeEvent) : Decidable (WithinLatch cfg b e) :=
  inferInstanceAs (Decidable (_ ∧ ∀ c ∈ _, _))

/-- A non-zero velocity arrives at `HandleTeleopVelCallback` while the bridge is idle and no low
    posture was asked for. -/
def TeleopWakes (cfg : BridgeConfig) (b : Bridge) (e : BridgeEvent) : Prop :=
  cfg.remoteControlOnly = false ∧
    ∃ vx vy yawRate, e.input = .velocity .teleop vx vy yawRate ∧
      b.Wakes (twist .teleop vx vy yawRate)

/-- The callback sends no non-zero stick and issues neither `CMD_STAND_UP` nor `CMD_MOVE_MODE`. -/
def HoldsOff (cfg : BridgeConfig) (b : Bridge) (e : BridgeEvent) : Prop := (b.step cfg e).Calm

instance (b : Bridge) (e : BridgeEvent) : Decidable (HoldsOff cfg b e) :=
  inferInstanceAs (Decidable (∀ c ∈ _, _))

theorem heldOff_step (hsdk : cfg.sdkConnected = false) {b : Bridge} (h : b.Latched)
    (hlock : b.CrawlLocked) {e : BridgeEvent} (hwithin : WithinLatch cfg b e)
    (hwakes : ¬ TeleopWakes cfg b e) : (b.step cfg e).HeldOff := by
  have hbegin : (b.begin e).HeldOff := ⟨b.calm_begin e, h.latched, h.notStanding⟩
  obtain ⟨haction, hleft⟩ := hwithin
  have hstop : ∀ m, .getControlMode m ∈ (b.step cfg e).calls → m = .emergencyStop := by
    intro m hm
    simpa [Call.showsLeft] using hleft _ hm
  obtain ⟨elapsed, r, input⟩ := e
  cases input with
  | modeSwitch data =>
    simp only [step, handle]
    split_ifs
    · exact hbegin
    · exact heldOff_handleModeSwitchCallback hbegin hlock data
  | velocity topic vx vy yawRate =>
    cases topic with
    | planner =>
      simp only [step, handle] at hstop ⊢
      split_ifs at hstop ⊢
      · exact hbegin
      · exact heldOff_handlePlannerVelCallback hsdk hbegin _ hstop
    | teleop =>
      simp only [step, handle] at hstop ⊢
      split_ifs at hstop ⊢ with hmode
      · exact heldOff_handlePlannerVelCallback hsdk hbegin _ hstop
      · refine heldOff_handleTeleopVelCallback hbegin (fun hw => hwakes ?_)
        exact ⟨by simpa using hmode, vx, vy, yawRate, rfl, hw⟩
  | teleopAction action =>
    exact heldOff_handleTeleopActionCallback hbegin haction
  | remoteTeleopAction action =>
    exact heldOff_handleRemoteTeleopAction hbegin haction
  | localization status =>
    simp only [step, handle]
    split_ifs
    · exact hbegin
    · exact ⟨hbegin.calm, h.latched, h.notStanding⟩
  | fineControl data => exact ⟨hbegin.calm, h.latched, h.notStanding⟩
  | publishTimer => exact heldOff_publishLatestVelocity hsdk hbegin hstop
  | remoteExecutorReady => exact ⟨hbegin.calm, h.latched, h.notStanding⟩

theorem not_holdsOff_of_wakes {b : Bridge} (hready : b.remoteReady = true) {e : BridgeEvent}
    (hwakes : TeleopWakes cfg b e) : ¬ HoldsOff cfg b e := by
  obtain ⟨hmode, vx, vy, yawRate, hinput, hw⟩ := hwakes
  intro hcalm
  have hmem : .setCmd .standUp ∈ (b.step cfg e).calls := by
    simp only [step, handle, hinput, hmode, Bool.false_eq_true, if_false]
    exact standUp_mem_of_wakes hready hw
  exact absurd (hcalm _ hmem) (by decide)

/-! ## Every run -/

theorem crawlLocked_run (es : List BridgeEvent) : (run cfg es).CrawlLocked :=
  Run.exec_invariant CrawlLocked (fun b e h => (keepsBasics_step b e).locked h)
    (fun h => by exact absurd h (by decide)) es

/-- **The latch.** A callback sets the latch, and a run follows in which no action stands the robot up
    and the dog is not seen to leave the emergency stop. The bridge sends no non-zero stick and no
    recovery command in this run unless a teleop velocity wakes it up; with the executor there, such a
    velocity always does. -/
theorem run_holdsOff (hsdk : cfg.sdkConnected = false) (es : List BridgeEvent) (e : BridgeEvent)
    (hbefore : (run cfg es).node.emergencyStopLatched = false)
    (hafter : ((run cfg es).step cfg e).node.emergencyStopLatched = true) (ls : List BridgeEvent)
    (hwithin : Run.Always (step cfg) (WithinLatch cfg) ((run cfg es).step cfg e) ls) :
    (Run.Always (step cfg) (fun b e => ¬ TeleopWakes cfg b e) ((run cfg es).step cfg e) ls →
      Run.Always (step cfg) (HoldsOff cfg) ((run cfg es).step cfg e) ls) ∧
    ((run cfg es).remoteReady = true →
      Run.Always (step cfg) (HoldsOff cfg) ((run cfg es).step cfg e) ls →
      Run.Always (step cfg) (fun b e => ¬ TeleopWakes cfg b e) ((run cfg es).step cfg e) ls) := by
  have hbasics : (run cfg es).KeepsBasics ((run cfg es).step cfg e) := keepsBasics_step _ e
  have hstart : ((run cfg es).step cfg e).Latched := by
    refine ⟨hafter, (hbasics.latch hafter).resolve_left ?_⟩
    simp [hbefore]
  have hlocked : ((run cfg es).step cfg e).CrawlLocked := hbasics.locked (crawlLocked_run es)
  constructor
  · intro hwakes
    have hboth := (Run.always_and _ _ _ _ _).2 ⟨hwithin, hwakes⟩
    refine Run.always_of_guarded (fun b => b.Latched ∧ b.CrawlLocked) ?_ ?_ ⟨hstart, hlocked⟩ hboth
    · rintro b e ⟨hl, hlock⟩ ⟨hin, hnot⟩
      exact ⟨(heldOff_step hsdk hl hlock hin hnot).latched, (keepsBasics_step b e).locked hlock⟩
    · rintro b e ⟨hl, hlock⟩ ⟨hin, hnot⟩
      exact (heldOff_step hsdk hl hlock hin hnot).calm
  · intro hready hquiet
    refine Run.always_of_guarded (fun b => b.remoteReady = true) ?_ ?_ (hbasics.ready hready) hquiet
    · exact fun b e hb _ => (keepsBasics_step b e).ready hb
    · exact fun b e hb hcalm hw => not_holdsOff_of_wakes hb hw hcalm

def withoutSdk : BridgeConfig := .plain

/-- The browser has stood the robot up. -/
def standing : List BridgeEvent :=
  [{ input := .remoteExecutorReady }, { elapsed := 1000000000, input := .remoteTeleopAction "stand_up" }]

/-- The operator puts the robot to passive. -/
def operatorPassive : BridgeEvent := { elapsed := 5000000000, input := .remoteTeleopAction "passive" }

def lateFrame : List BridgeEvent :=
  [{ elapsed := 100000000, input := .velocity .teleop (.finite (1 / 2)) 0 0 }]

/-- The late frame makes the bridge ask for a stand-up during the latch. -/
theorem not_holdsOff_lateFrame :
    (run withoutSdk standing).node.emergencyStopLatched = false ∧
      ((run withoutSdk standing).step withoutSdk operatorPassive).node.emergencyStopLatched = true ∧
      Run.Always (step withoutSdk) (WithinLatch withoutSdk)
        ((run withoutSdk standing).step withoutSdk operatorPassive) lateFrame ∧
      ¬ Run.Always (step withoutSdk) (HoldsOff withoutSdk)
        ((run withoutSdk standing).step withoutSdk operatorPassive) lateFrame := by
  decide +kernel

/-- What Nav2 and the browser's release send after the stop. -/
def afterPassive : List BridgeEvent :=
  [{ elapsed := 100000000, input := .velocity .teleop 0 0 0 },
   { elapsed := 100000000, input := .velocity .planner (.finite (1 / 2)) 0 0,
     replies := { controlMode := .emergencyStop } },
   { elapsed := 100000000, input := .modeSwitch 171 }]

theorem run_holdsOff_afterPassive :
    (Run.Always (step withoutSdk) (fun b e => ¬ TeleopWakes withoutSdk b e)
        ((run withoutSdk standing).step withoutSdk operatorPassive) afterPassive →
      Run.Always (step withoutSdk) (HoldsOff withoutSdk)
        ((run withoutSdk standing).step withoutSdk operatorPassive) afterPassive) ∧
    ((run withoutSdk standing).remoteReady = true →
      Run.Always (step withoutSdk) (HoldsOff withoutSdk)
        ((run withoutSdk standing).step withoutSdk operatorPassive) afterPassive →
      Run.Always (step withoutSdk) (fun b e => ¬ TeleopWakes withoutSdk b e)
        ((run withoutSdk standing).step withoutSdk operatorPassive) afterPassive) :=
  run_holdsOff rfl standing operatorPassive (by decide) (by decide) afterPassive
    (by decide +kernel)

end Bridge

end RoamerX.VelocityBridge
