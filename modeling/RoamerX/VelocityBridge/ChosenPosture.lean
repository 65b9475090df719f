import RoamerX.VelocityBridge.LocalizationGate
import RoamerX.VelocityBridge.EmergencyLatch

set_option autoImplicit false

/-! # A chosen posture

`lie_down` and `crawl_forward` choose the low posture, `requested_posture_`. Velocities and heartbeats do not raise a
body that lies, until the wish is lost: a `crawl_forward` that the virtual remote refuses takes it back, and a planner
velocity stands an idle robot up. The crawl gait has a lock of its own, which stands by itself. -/

namespace RoamerX.VelocityBridge

/-- The call raises the body: a stand-up, or `CMD_MOVE_MODE`. -/
def Call.raises : Call → Bool
  | .standUp => true
  | .setCmd command => command = .standUp ∨ command = .moveMode
  | _ => false

/-- The action chooses the low posture. -/
def choosesLow (action : String) : Bool := action = "lie_down" ∨ action = "crawl_forward"

/-- The action ends a posture that was chosen before. -/
def endsPosture (action : String) : Bool := standsUp action ∨ action = "passive" ∨ action = "release_remote"

def BridgeInput.choosesLow : BridgeInput → Bool
  | .teleopAction action => VelocityBridge.choosesLow action
  | .remoteTeleopAction action => VelocityBridge.choosesLow action
  | _ => false

def BridgeInput.endsPosture : BridgeInput → Bool
  | .teleopAction action => VelocityBridge.endsPosture action
  | .remoteTeleopAction action => VelocityBridge.endsPosture action
  | _ => false

namespace Bridge

variable {cfg : BridgeConfig} {r : Replies}

/-! ## What is promised -/

/-- No call of the callback raises the body. -/
def Lying (b : Bridge) : Prop := b.Makes (fun c => c.raises = false)

instance (b : Bridge) : Decidable b.Lying := inferInstanceAs (Decidable (∀ c ∈ _, _))

/-- The action was carried out, as the bridge reports it. -/
def Chooses (cfg : BridgeConfig) (b : Bridge) (e : BridgeEvent) : Prop :=
  e.input.choosesLow = true ∧
    (.motionState "lying_down" ∈ (b.step cfg e).calls ∨ .motionState "crawling" ∈ (b.step cfg e).calls)

instance (b : Bridge) (e : BridgeEvent) : Decidable (Chooses cfg b e) := inferInstanceAs (Decidable (_ ∧ _))

/-- Neither a teleop velocity, when it arrives or when the timer applies it, nor a heartbeat raises the body. -/
structure KeepsPosture (cfg : BridgeConfig) (b : Bridge) (e : BridgeEvent) : Prop where
  velocity : ∀ vx vy yawRate, e.input = .velocity .teleop vx vy yawRate → (b.step cfg e).Lying
  applied : e.input = .publishTimer → ∀ cmd, b.node.lastCmd = some cmd → cmd.topic = some .teleop →
    (b.step cfg e).Lying
  heartbeat : ∀ data, e.input = .modeSwitch data → (b.step cfg e).Lying

/-- Under the lock no planner velocity reaches the robot, and a heartbeat changes and calls nothing. -/
structure KeepsCrawl (cfg : BridgeConfig) (b : Bridge) (e : BridgeEvent) : Prop where
  planner : b.node.manualCrawlLock = true → ∀ c ∈ (b.step cfg e).calls, c.source ≠ some .planner
  heartbeat : b.node.manualCrawlLock = true → ∀ data, e.input = .modeSwitch data → b.step cfg e = b.begin e

/-! ## Where the wish is lost -/

/-- The virtual remote refuses `crawl_forward` on the XG. -/
def crawlRefused (cfg : BridgeConfig) (b : Bridge) (e : BridgeEvent) : Bool :=
  b.remoteReady && e.replies.modelIsXg &&
    match e.input with
    | .remoteTeleopAction action => action = "crawl_forward"
    | .teleopAction action => cfg.remoteControlOnly && action = "crawl_forward"
    | _ => false

/-- A planner velocity passes the emergency-stop latch. -/
def passesLatch (cfg : BridgeConfig) (r : Replies) (b : Bridge) : Bool :=
  cfg.sdkConnected || !b.node.emergencyStopLatched || b.remoteReady && r.controlMode ≠ .emergencyStop

/-- A planner velocity reaches an idle bridge, which stands the robot up. -/
def plannerWakes (cfg : BridgeConfig) (b : Bridge) (e : BridgeEvent) : Bool :=
  match e.input with
  | .velocity .planner vx vy yawRate =>
    !cfg.remoteControlOnly && (b.begin e).passesLatch cfg e.replies && !b.node.manualCrawlLock &&
      decide (b.node.manualOverrideUntil ≤ (b.begin e).clock) && (b.begin e).localizationAllowsNav cfg &&
      !b.node.navActive && !(twist .planner vx vy yawRate).isZeroCommand
  | _ => false

/-- No action ends the posture, and the wish is not lost. -/
structure StaysChosen (cfg : BridgeConfig) (b : Bridge) (e : BridgeEvent) : Prop where
  within : e.input.endsPosture = false
  accepted : crawlRefused cfg b e = false
  asleep : plannerWakes cfg b e = false

instance (b : Bridge) (e : BridgeEvent) : Decidable (StaysChosen cfg b e) :=
  decidable_of_iff (_ ∧ _ ∧ _) ⟨fun ⟨h, h', h''⟩ => ⟨h, h', h''⟩, fun h => ⟨h.within, h.accepted, h.asleep⟩⟩

/-! ## Callbacks that raise nothing -/

section Lying

variable (b : Bridge)

@[simp] theorem lying_begin (e : BridgeEvent) : (b.begin e).Lying := b.makes_begin e

@[simp] theorem lying_call (c : Call) : (b.call c).Lying ↔ c.raises = false ∧ b.Lying := b.makes_call c

@[simp] theorem lying_update (f : VelCmdUdpPublisher → VelCmdUdpPublisher) : (b.update f).Lying ↔ b.Lying := Iff.rfl

@[simp] theorem lying_sleepFor (ms : ℤ) : (b.sleepFor ms).Lying ↔ b.Lying := Iff.rfl

@[simp] theorem lying_publishMotionState (state : String) : (b.publishMotionState state).Lying ↔ b.Lying := by
  simp [publishMotionState, Call.raises]

theorem lying_remoteSetCmd {c : CmdCode} (hc : (Call.setCmd c).raises = false) (hb : b.Lying) :
    (b.remoteSetCmd c).Lying :=
  b.makes_remoteSetCmd hc hb

@[simp] theorem lying_remoteSetRemote (joystick : Joystick) (source : Option VelocityTopic) :
    (b.remoteSetRemote joystick source).Lying ↔ b.Lying := by
  unfold remoteSetRemote
  split_ifs <;> simp [Call.raises]

@[simp] theorem lying_remoteSetZero : b.remoteSetZero.Lying ↔ b.Lying := by simp [remoteSetZero]

@[simp] theorem lying_readControlMode : (b.readControlMode r).Lying ↔ b.Lying := by
  unfold readControlMode
  split_ifs <;> simp [Call.raises]

@[simp] theorem lying_enterCrawl : b.enterCrawl.Lying ↔ b.Lying := by simp [enterCrawl]

@[simp] theorem lying_remoteZeroOnce : b.remoteZeroOnce.Lying ↔ b.Lying := by
  unfold remoteZeroOnce
  split_ifs <;> simp

@[simp] theorem lying_holdPlannerVelocity : (b.holdPlannerVelocity cfg).Lying ↔ b.Lying := by
  simp only [holdPlannerVelocity]
  split_ifs <;> simp [Call.raises]

end Lying

/-- The low posture is wished for, nothing stands up, and an active bridge is driven by remote. -/
structure Prone (cfg : BridgeConfig) (b : Bridge) : Prop where
  low : b.node.requestedPosture = .low
  still : b.node.standingUp = false
  driven : b.node.navActive = true →
    cfg.remoteControlOnly = true ∨ b.node.manualTeleopActive = true ∨ b.node.manualCrawlLock = true

/-- A callback in the low posture: it raises nothing, and the posture stays. -/
structure StaysProne (cfg : BridgeConfig) (b : Bridge) : Prop where
  lying : b.Lying
  prone : b.Prone cfg

theorem staysProne_holdPlannerVelocity {b : Bridge} (h : b.StaysProne cfg) :
    (b.holdPlannerVelocity cfg).StaysProne cfg := by
  refine ⟨(lying_holdPlannerVelocity b).mpr h.lying, ?_⟩
  simp only [holdPlannerVelocity]
  split_ifs
  · exact ⟨by simpa using h.prone.low, by simpa using h.prone.still, by simpa using h.prone.driven⟩
  · exact ⟨h.prone.low, h.prone.still, h.prone.driven⟩

theorem handleModeSwitchCallback_of_prone (hmode : cfg.remoteControlOnly = false) {b : Bridge} (h : b.Prone cfg)
    (hlock : b.CrawlLocked) (data : ℤ) : b.handleModeSwitchCallback cfg r data = b := by
  unfold handleModeSwitchCallback
  split_ifs with hmanual hcrawl hactive hgait hnav
  · rfl
  · rfl
  · -- the crawl gait is locked, so the heartbeat cannot end it
    exact absurd (hlock hgait) hcrawl
  · rfl
  · rfl
  · rfl
  · rcases h.driven (by simpa using hnav) with honly | honly | honly
    · exact absurd (hmode.symm.trans honly) Bool.false_ne_true
    · exact absurd honly hmanual
    · exact absurd honly hcrawl

/-! ## Velocities -/

theorem staysProne_handlePlannerVel {b : Bridge} (h : b.StaysProne cfg) {cmd : Twist}
    (hasleep : (!cfg.remoteControlOnly && !b.node.manualCrawlLock &&
      decide (b.node.manualOverrideUntil ≤ b.clock) && b.localizationAllowsNav cfg && !b.node.navActive &&
      !cmd.isZeroCommand) = false) : (b.handlePlannerVel cfg r cmd).StaysProne cfg := by
  obtain ⟨hlying, hlow, hstill, hdriven⟩ := h
  unfold handlePlannerVel
  split_ifs with hlock hover hallows hnav hzero honly hmoves
  · exact ⟨hlying, hlow, hstill, hdriven⟩
  · exact ⟨hlying, hlow, hstill, hdriven⟩
  · exact staysProne_holdPlannerVelocity ⟨hlying, hlow, hstill, hdriven⟩
  · exact ⟨hlying, hlow, hstill, hdriven⟩
  · exact ⟨hlying, hlow, hstill, hdriven⟩
  · -- a bridge that is only driven by remote keeps the low posture
    have hmode : cfg.remoteControlOnly = true := by simp_all
    simp only [activateRemoteOnly, update_node, hlow, if_true]
    exact ⟨by simpa using hlying, by simpa using hlow, by simpa using hstill, fun _ => Or.inl hmode⟩
  · exact ⟨hlying, hlow, hstill, hdriven⟩
  · have hawake : (!cfg.remoteControlOnly && !b.node.navActive) = false := by
      simp_all
    simp only [keepPlannerVel, update_node, hstill, Bool.and_false, Bool.false_and, Bool.false_eq_true, if_false,
      hawake]
    exact ⟨hlying, hlow, hstill, hdriven⟩

theorem staysProne_handlePlannerVelCallback {b : Bridge} (h : b.StaysProne cfg) {cmd : Twist}
    (hasleep : (!cfg.remoteControlOnly && b.passesLatch cfg r && !b.node.manualCrawlLock &&
      decide (b.node.manualOverrideUntil ≤ b.clock) && b.localizationAllowsNav cfg && !b.node.navActive &&
      !cmd.isZeroCommand) = false) : (b.handlePlannerVelCallback cfg r cmd).StaysProne cfg := by
  unfold handlePlannerVelCallback
  split_ifs with hlatch hready hmode
  · exact h
  · exact ⟨by simpa using h.lying, by simpa using h.prone.low, by simpa using h.prone.still,
      by simpa using h.prone.driven⟩
  · have hpasses : b.passesLatch cfg r = true := by
      simp only [Bool.not_eq_true', Bool.not_eq_false] at hready
      simp [passesLatch, hready, hmode]
    rw [hpasses, Bool.and_true] at hasleep
    refine staysProne_handlePlannerVel ⟨by simpa using h.lying, by simpa using h.prone.low,
      by simpa using h.prone.still, by simpa using h.prone.driven⟩ ?_
    simpa [localizationAllowsNav] using hasleep
  · have hpasses : b.passesLatch cfg r = true := by
      unfold passesLatch
      revert hlatch
      cases cfg.sdkConnected <;> cases b.node.emergencyStopLatched <;> simp
    rw [hpasses, Bool.and_true] at hasleep
    exact staysProne_handlePlannerVel h hasleep

theorem staysProne_handleTeleopVelCallback {b : Bridge} (h : b.StaysProne cfg) (cmd : Twist) :
    (b.handleTeleopVelCallback cfg cmd).StaysProne cfg := by
  obtain ⟨hlying, hlow, hstill, hdriven⟩ := h
  simp only [handleTeleopVelCallback, activateTeleop, update_node, hlow, if_true]
  split_ifs
  · exact ⟨hlying, hlow, hstill, fun _ => Or.inr (Or.inl rfl)⟩
  · exact ⟨by simpa using hlying, by simpa using hlow, rfl, fun _ => Or.inr (Or.inl rfl)⟩
  · exact ⟨hlying, hlow, hstill, fun _ => Or.inr (Or.inl rfl)⟩

/-! ## Actions -/

theorem staysProne_setRemoteSpeedLevel {b : Bridge} (h : b.StaysProne cfg) {action : String}
    {level : CmdCode × ℚ} (hlevel : speedLevel action = some level) :
    (b.setRemoteSpeedLevel action level).StaysProne cfg := by
  have hcommand : (Call.setCmd level.1).raises = false := by
    unfold speedLevel at hlevel
    split_ifs at hlevel <;> obtain rfl := Option.some.inj hlevel <;> rfl
  refine ⟨(lying_publishMotionState _ _).mpr (lying_remoteSetCmd _ hcommand h.lying), ?_⟩
  exact ⟨by simpa [setRemoteSpeedLevel] using h.prone.low, by simpa [setRemoteSpeedLevel] using h.prone.still,
    by simpa [setRemoteSpeedLevel] using h.prone.driven⟩

theorem prone_enterCrawl (b : Bridge) : b.enterCrawl.Prone cfg :=
  ⟨rfl, rfl, fun _ => Or.inr (Or.inr rfl)⟩

theorem remoteCrawlForward_of_accepted {b : Bridge} (h : ¬ (b.remoteReady && r.modelIsXg) = true) :
    b.remoteCrawlForward r =
      ((b.update fun n => { n with manualTeleopActive := true }).remoteSetCmd .crawlForward).enterCrawl :=
  if_neg h

theorem prone_remoteLieDown (b : Bridge) : b.remoteLieDown.Prone cfg := by
  constructor <;> simp [remoteLieDown, endRemoteSession]

theorem prone_teleopLieDown (b : Bridge) : (b.teleopLieDown r).Prone cfg := by
  constructor <;> simp [teleopLieDown]

theorem staysProne_handleRemoteTeleopAction {b : Bridge} (h : b.StaysProne cfg) {action : String}
    (hwithin : endsPosture action = false)
    (haccepted : (b.remoteReady && r.modelIsXg && decide (action = "crawl_forward")) = false) :
    (b.handleRemoteTeleopAction r action).StaysProne cfg := by
  simp only [endsPosture, standsUp, Bool.decide_or, Bool.or_eq_false_iff, decide_eq_false_iff_not,
    Bool.decide_eq_true] at hwithin
  obtain ⟨⟨hup, htwo, hshake⟩, hpassive, hrelease⟩ := hwithin
  unfold handleRemoteTeleopAction
  split
  · next level hlevel => exact staysProne_setRemoteSpeedLevel h hlevel
  · simp only [if_neg hup, if_neg htwo, if_neg hshake, if_neg hpassive, if_neg hrelease]
    split_ifs with hcrawl
    · have hready : ¬ (b.remoteReady && r.modelIsXg) = true := by
        rw [hcrawl, decide_eq_true rfl, Bool.and_true] at haccepted
        rw [haccepted]
        exact Bool.false_ne_true
      have hforward := lying_remoteSetCmd (b.update fun n => { n with manualTeleopActive := true })
        (rfl : (Call.setCmd .crawlForward).raises = false) h.lying
      rw [remoteCrawlForward_of_accepted hready]
      exact ⟨(lying_enterCrawl _).mpr hforward, prone_enterCrawl _⟩
    · have hdown := lying_remoteSetCmd b.remoteSetZero (rfl : (Call.setCmd .sitDown).raises = false)
        ((lying_remoteSetZero b).mpr h.lying)
      exact ⟨by simpa [remoteLieDown, endRemoteSession] using hdown, prone_remoteLieDown b⟩
    · exact h

theorem staysProne_handleTeleopActionCallback {b : Bridge} (h : b.StaysProne cfg) {action : String}
    (hwithin : endsPosture action = false)
    (haccepted : (b.remoteReady && r.modelIsXg && (cfg.remoteControlOnly && decide (action = "crawl_forward"))) =
      false) : (b.handleTeleopActionCallback cfg r action).StaysProne cfg := by
  have hends := hwithin
  simp only [endsPosture, standsUp, Bool.decide_or, Bool.or_eq_false_iff, decide_eq_false_iff_not,
    Bool.decide_eq_true] at hends
  obtain ⟨⟨hup, -, -⟩, hpassive, hrelease⟩ := hends
  unfold handleTeleopActionCallback
  split
  · next level hlevel => exact staysProne_setRemoteSpeedLevel h hlevel
  · simp only [if_neg hup, if_neg hpassive, if_neg hrelease]
    split_ifs with honly hdown hcrawl
    · rw [honly, Bool.true_and] at haccepted
      exact staysProne_handleRemoteTeleopAction h hwithin haccepted
    · exact ⟨by simpa [teleopLieDown, Call.raises] using h.lying, prone_teleopLieDown b⟩
    · have hright := lying_remoteSetCmd b (rfl : (Call.setCmd .sdkControlRight).raises = false) h.lying
      have hforward := lying_remoteSetCmd ((b.remoteSetCmd .sdkControlRight).sleepFor 100)
        (rfl : (Call.setCmd .crawlForward).raises = false) hright
      exact ⟨(lying_enterCrawl _).mpr hforward, prone_enterCrawl _⟩
    · exact h

/-! ## The timer -/

theorem disposition_low (mode : Option ControlMode) :
    decideRemoteVelocityDisposition .low mode ≠ .requestMoveMode := by
  unfold decideRemoteVelocityDisposition
  split_ifs <;> simp_all

theorem staysProne_publishLatestRemoteVelocity {b : Bridge} (h : b.StaysProne cfg) (now : ℤ) (cmd : Twist) :
    (b.publishLatestRemoteVelocity cfg r now cmd).StaysProne cfg := by
  obtain ⟨hlying, hlow, hstill, hdriven⟩ := h
  have hread : (b.readControlMode r).StaysProne cfg :=
    ⟨by simpa using hlying, by simpa using hlow, by simpa using hstill, by simpa using hdriven⟩
  have hzero : (b.readControlMode r).remoteZeroOnce.StaysProne cfg := by
    refine ⟨(lying_remoteZeroOnce _).mpr hread.lying, ?_⟩
    unfold remoteZeroOnce
    split_ifs
    · exact ⟨by simpa using hlow, by simpa using hstill, by simpa using hdriven⟩
    · exact hread.prone
  have hmove := disposition_low (b.remoteControlMode r)
  simp only [publishLatestRemoteVelocity, hstill, hlow, Bool.false_eq_true, if_false, if_neg hmove]
  split_ifs
  · exact ⟨by simpa [latchEmergencyStop] using hlying,
      ⟨by simpa [latchEmergencyStop] using hlow, by simp [latchEmergencyStop], by simp [latchEmergencyStop]⟩⟩
  · exact hzero
  · exact hzero
  · exact ⟨by simpa [sendRemoteStick] using hlying,
      ⟨by simpa [sendRemoteStick] using hlow, by simpa [sendRemoteStick] using hstill,
        by simpa [sendRemoteStick] using hdriven⟩⟩

theorem staysProne_publishLatestVelocity {b : Bridge} (h : b.StaysProne cfg) :
    (b.publishLatestVelocity cfg r).StaysProne cfg := by
  unfold publishLatestVelocity
  cases hcmd : b.node.lastCmd with
  | none =>
    dsimp only
    split_ifs
    · exact staysProne_holdPlannerVelocity h
    all_goals exact h
  | some cmd =>
    dsimp only
    split_ifs with hallows hactive hidle hremote
    · exact staysProne_holdPlannerVelocity h
    · exact h
    · exact h
    · exact staysProne_publishLatestRemoteVelocity h b.clock cmd
    · refine absurd ?_ hremote
      rcases h.prone.driven (by simpa using hidle) with honly | honly | honly
      · simp [usesRemote, honly]
      · simp [usesRemote, honly]
      · simp [usesRemote, honly]

/-! ## One callback -/

/-- **One callback.** Where the posture stays chosen, nothing raises the body, and it stays low. -/
theorem staysProne_step {b : Bridge} (h : b.Prone cfg) (hlock : b.CrawlLocked) {e : BridgeEvent}
    (hstays : StaysChosen cfg b e) : (b.step cfg e).StaysProne cfg := by
  have hbegin : (b.begin e).StaysProne cfg := ⟨b.lying_begin e, h.low, h.still, h.driven⟩
  obtain ⟨hwithin, haccepted, hasleep⟩ := hstays
  obtain ⟨elapsed, r, input⟩ := e
  cases input with
  | modeSwitch data =>
    simp only [step, handle]
    split_ifs with hmode
    · exact hbegin
    · rw [handleModeSwitchCallback_of_prone (by simpa using hmode) hbegin.prone hlock]
      exact hbegin
  | velocity topic vx vy yawRate =>
    cases topic with
    | planner =>
      simp only [step, handle]
      split_ifs
      · exact hbegin
      · exact staysProne_handlePlannerVelCallback hbegin hasleep
    | teleop =>
      simp only [step, handle]
      split_ifs with hmode
      · exact staysProne_handlePlannerVelCallback hbegin (by simp [hmode])
      · exact staysProne_handleTeleopVelCallback hbegin _
  | teleopAction action => exact staysProne_handleTeleopActionCallback hbegin hwithin haccepted
  | remoteTeleopAction action => exact staysProne_handleRemoteTeleopAction hbegin hwithin haccepted
  | localization status =>
    simp only [step, handle]
    split_ifs
    · exact hbegin
    · exact ⟨hbegin.lying, h.low, h.still, h.driven⟩
  | fineControl data => exact ⟨hbegin.lying, h.low, h.still, h.driven⟩
  | publishTimer => exact staysProne_publishLatestVelocity hbegin
  | remoteExecutorReady => exact ⟨hbegin.lying, h.low, h.still, h.driven⟩

/-! ## The choice -/

theorem speedLevel_of_choosesLow {action : String} (h : choosesLow action = true) : speedLevel action = none := by
  rcases of_decide_eq_true h with rfl | rfl
  · decide
  · decide

theorem prone_handleRemoteTeleopAction {b : Bridge} {action : String} (h : choosesLow action = true)
    (hreport : .motionState "lying_down" ∈ (b.handleRemoteTeleopAction r action).calls ∨
      .motionState "crawling" ∈ (b.handleRemoteTeleopAction r action).calls) (hbegin : b.calls = []) :
    (b.handleRemoteTeleopAction r action).Prone cfg := by
  unfold handleRemoteTeleopAction at hreport ⊢
  rw [speedLevel_of_choosesLow h] at hreport ⊢
  rcases of_decide_eq_true h with rfl | rfl
  · exact prone_remoteLieDown b
  · change (b.remoteCrawlForward r).Prone cfg
    by_cases hrefused : (b.remoteReady && r.modelIsXg) = true
    · -- a refused crawl reports something else
      have hcalls : (b.remoteCrawlForward r).calls = [.motionState "crawl_unsupported_xg"] := by
        change (if (b.remoteReady && r.modelIsXg) = true then _ else _ : Bridge).calls = _
        rw [if_pos hrefused]
        exact congrArg _ hbegin
      change .motionState "lying_down" ∈ (b.remoteCrawlForward r).calls ∨
        .motionState "crawling" ∈ (b.remoteCrawlForward r).calls at hreport
      rw [hcalls] at hreport
      exact absurd hreport (by decide)
    · rw [remoteCrawlForward_of_accepted hrefused]
      exact prone_enterCrawl _

theorem prone_handleTeleopActionCallback {b : Bridge} {action : String} (h : choosesLow action = true)
    (hreport : .motionState "lying_down" ∈ (b.handleTeleopActionCallback cfg r action).calls ∨
      .motionState "crawling" ∈ (b.handleTeleopActionCallback cfg r action).calls) (hbegin : b.calls = []) :
    (b.handleTeleopActionCallback cfg r action).Prone cfg := by
  unfold handleTeleopActionCallback at hreport ⊢
  rw [speedLevel_of_choosesLow h] at hreport ⊢
  dsimp only at hreport ⊢
  split_ifs at hreport ⊢ with honly hup hdown hcrawl
  · exact prone_handleRemoteTeleopAction h hreport hbegin
  · subst hup
    exact absurd h (by decide)
  · exact prone_teleopLieDown b
  · exact prone_enterCrawl _
  all_goals
    rcases of_decide_eq_true h with hlow | hlow
    · exact absurd hlow hdown
    · exact absurd hlow hcrawl

theorem Chooses.prone {b : Bridge} {e : BridgeEvent} (h : Chooses cfg b e) : (b.step cfg e).Prone cfg := by
  obtain ⟨hlow, hreport⟩ := h
  obtain ⟨elapsed, r, input⟩ := e
  cases input with
  | teleopAction action => exact prone_handleTeleopActionCallback hlow hreport rfl
  | remoteTeleopAction action => exact prone_handleRemoteTeleopAction hlow hreport rfl
  | modeSwitch data => exact absurd hlow Bool.false_ne_true
  | velocity topic vx vy yawRate => exact absurd hlow Bool.false_ne_true
  | localization status => exact absurd hlow Bool.false_ne_true
  | fineControl data => exact absurd hlow Bool.false_ne_true
  | publishTimer => exact absurd hlow Bool.false_ne_true
  | remoteExecutorReady => exact absurd hlow Bool.false_ne_true

/-! ## The lock of the crawl gait -/

/-- Under the lock the posture is low, nothing stands up, and no planner velocity is stored. -/
structure Crouched (b : Bridge) : Prop where
  low : b.node.manualCrawlLock = true → b.node.requestedPosture = .low
  still : b.node.manualCrawlLock = true → b.node.standingUp = false
  unstored : b.node.manualCrawlLock = true → ∀ cmd, b.node.lastCmd = some cmd → cmd.topic ≠ some .planner

theorem crouched_of_unlocked {b : Bridge} (h : b.node.manualCrawlLock = false) : b.Crouched := by
  constructor
  all_goals
    intro hlock
    exact absurd (h.symm.trans hlock) Bool.false_ne_true

theorem crouched_enterCrawl (b : Bridge) : b.enterCrawl.Crouched := by
  refine ⟨fun _ => rfl, fun _ => rfl, fun _ cmd hcmd => ?_⟩
  obtain rfl := Option.some.inj (show some ({} : Twist) = some cmd from hcmd)
  decide

/-- Under the lock, a callback that leaves the posture and the lock, and stores no planner velocity, keeps them. -/
theorem Crouched.congr {b b' : Bridge} (h : b.Crouched) (hlock : b'.node.manualCrawlLock = b.node.manualCrawlLock)
    (hposture : b'.node.requestedPosture = b.node.requestedPosture)
    (hstanding : b'.node.standingUp = true → b.node.standingUp = true)
    (hstored : ∀ cmd, b'.node.lastCmd = some cmd → cmd.topic = some .planner → b.node.lastCmd = some cmd) :
    b'.Crouched := by
  constructor
  · intro hlocked
    rw [hposture]
    exact h.low (hlock.symm.trans hlocked)
  · intro hlocked
    rw [Bool.eq_false_iff]
    intro hup
    exact absurd ((h.still (hlock.symm.trans hlocked)).symm.trans (hstanding hup)) Bool.false_ne_true
  · intro hlocked cmd hcmd hplanner
    exact h.unstored (hlock.symm.trans hlocked) cmd (hstored cmd hcmd hplanner) hplanner

theorem crouched_holdPlannerVelocity {b : Bridge} (h : b.Crouched) : (b.holdPlannerVelocity cfg).Crouched := by
  simp only [holdPlannerVelocity]
  split_ifs
  all_goals
    refine h.congr (by simp) (by simp) (by simp) ?_
    intro cmd hcmd hplanner
    simp only [update_node, remoteSetZero_node, call_node, Option.some.injEq] at hcmd
    exact absurd hplanner (by rw [← hcmd]; decide)

theorem crouched_handleModeSwitchCallback {b : Bridge} (h : b.Crouched) (data : ℤ) :
    (b.handleModeSwitchCallback cfg r data).Crouched := by
  unfold handleModeSwitchCallback
  split_ifs with hmanual hlock
  · exact h
  · exact h
  · exact crouched_of_unlocked (by simpa using hlock)
  · exact h
  · exact h
  · exact h
  · exact crouched_of_unlocked (by simpa using hlock)

theorem Crouched.store {b b' : Bridge} (h : b.Crouched) (hlock : b'.node.manualCrawlLock = b.node.manualCrawlLock)
    (hposture : b'.node.requestedPosture = b.node.requestedPosture)
    (hstanding : b'.node.standingUp = true → b.node.standingUp = true) {cmd : Twist}
    (hcmd : cmd.topic ≠ some .planner) (hstored : b'.node.lastCmd = some cmd) : b'.Crouched := by
  refine h.congr hlock hposture hstanding fun stored hstore hplanner => ?_
  obtain rfl := Option.some.inj (hstored.symm.trans hstore)
  exact absurd hplanner hcmd

theorem keepPlannerVel_manualCrawlLock (b : Bridge) (cmd : Twist) :
    (b.keepPlannerVel cfg r cmd).node.manualCrawlLock = b.node.manualCrawlLock := by
  simp only [keepPlannerVel]
  split_ifs <;> simp

theorem crouched_activateRemoteOnly {b : Bridge} (h : b.Crouched) {cmd : Twist} (hcmd : cmd.topic ≠ some .planner) :
    (b.activateRemoteOnly cmd).Crouched := by
  simp only [activateRemoteOnly]
  split_ifs with hlow
  · exact h.store rfl rfl id hcmd rfl
  · refine crouched_of_unlocked ?_
    simp only [publishMotionState_node, update_node, remoteSetCmd_node]
    rw [Bool.eq_false_iff]
    exact fun hlock => hlow (h.low hlock)

theorem crouched_handlePlannerVel {b : Bridge} (h : b.Crouched) {cmd : Twist}
    (hcmd : cfg.remoteControlOnly = true → cmd.topic ≠ some .planner) : (b.handlePlannerVel cfg r cmd).Crouched := by
  unfold handlePlannerVel
  split_ifs with hlock hover hallows hnav hzero honly hmoves
  · exact h
  · exact h
  · exact crouched_holdPlannerVelocity h
  · exact h
  · exact h
  · exact crouched_activateRemoteOnly h (hcmd (by simp_all))
  · exact h
  · by_cases hmode : cfg.remoteControlOnly = true
    · simp only [keepPlannerVel, hmode, Bool.not_true, Bool.false_and, Bool.true_and, Bool.false_eq_true, if_false,
        update_node]
      split_ifs
      · exact h.store rfl rfl id (hcmd hmode) rfl
      · exact h.store rfl rfl id (hcmd hmode) rfl
    · refine crouched_of_unlocked ?_
      rw [keepPlannerVel_manualCrawlLock]
      simpa [hmode] using hlock

theorem crouched_handlePlannerVelCallback {b : Bridge} (h : b.Crouched) {cmd : Twist}
    (hcmd : cfg.remoteControlOnly = true → cmd.topic ≠ some .planner) :
    (b.handlePlannerVelCallback cfg r cmd).Crouched := by
  unfold handlePlannerVelCallback
  split_ifs
  · exact h
  · exact h.congr (by simp) (by simp) (by simp) (by simp +contextual)
  · exact crouched_handlePlannerVel (h.congr (by simp) (by simp) (by simp) (by simp +contextual)) hcmd
  · exact crouched_handlePlannerVel h hcmd

theorem crouched_handleTeleopVelCallback {b : Bridge} (h : b.Crouched) {cmd : Twist}
    (hcmd : cmd.topic ≠ some .planner) : (b.handleTeleopVelCallback cfg cmd).Crouched := by
  simp only [handleTeleopVelCallback, activateTeleop]
  split_ifs with hnav hzero hlow
  · exact h.congr rfl rfl id (by simp)
  · exact h.store rfl rfl (by simp) hcmd rfl
  · refine crouched_of_unlocked ?_
    simp only [publishMotionState_node, update_node, remoteSetCmdWithRight_node, remoteSetZero_node]
    rw [Bool.eq_false_iff]
    exact fun hlock => hlow (h.low hlock)
  · exact h.store rfl rfl id hcmd rfl

theorem crouched_setRemoteSpeedLevel {b : Bridge} (h : b.Crouched) (action : String) (level : CmdCode × ℚ) :
    (b.setRemoteSpeedLevel action level).Crouched :=
  h.congr (by simp [setRemoteSpeedLevel]) (by simp [setRemoteSpeedLevel]) (by simp [setRemoteSpeedLevel])
    (by simp +contextual [setRemoteSpeedLevel])

theorem crouched_handleRemoteTeleopAction {b : Bridge} (h : b.Crouched) (action : String) :
    (b.handleRemoteTeleopAction r action).Crouched := by
  unfold handleRemoteTeleopAction
  split
  · exact crouched_setRemoteSpeedLevel h action _
  · simp only [remoteStandUp, remoteGesture, remoteCrawlForward, remotePassive, remoteLieDown, remoteRelease,
      endRemoteSession]
    split_ifs
    all_goals
      first
        | exact h
        | exact crouched_enterCrawl _
        | exact crouched_of_unlocked (by simp)

theorem crouched_handleTeleopActionCallback {b : Bridge} (h : b.Crouched) (action : String) :
    (b.handleTeleopActionCallback cfg r action).Crouched := by
  unfold handleTeleopActionCallback
  split
  · exact crouched_setRemoteSpeedLevel h action _
  · simp only [teleopStandUp, teleopLieDown, teleopCrawlForward, teleopPassive, teleopRelease, teleopStop]
    split_ifs
    · exact crouched_handleRemoteTeleopAction h action
    all_goals
      first
        | exact h
        | exact crouched_enterCrawl _
        | exact crouched_of_unlocked (by simp)

theorem awaitRemoteStandUp_manualCrawlLock (b : Bridge) (now : ℤ) :
    (b.awaitRemoteStandUp cfg r now).node.manualCrawlLock = b.node.manualCrawlLock := by
  simp only [awaitRemoteStandUp, confirmRemoteStandUp, update_node, readControlMode_node]
  cases b.node.queuedStandCmd with
  | none => split_ifs <;> simp
  | some queued => split_ifs <;> simp

theorem crouched_publishLatestRemoteVelocity {b : Bridge} (h : b.Crouched) (now : ℤ) (cmd : Twist) :
    (b.publishLatestRemoteVelocity cfg r now cmd).Crouched := by
  simp only [publishLatestRemoteVelocity, remoteZeroOnce, requestMoveMode]
  split_ifs with hstanding
  · -- nothing stands up under the lock
    refine crouched_of_unlocked ?_
    rw [awaitRemoteStandUp_manualCrawlLock, Bool.eq_false_iff]
    exact fun hlock => absurd (hstanding.symm.trans (h.still hlock)) (by decide)
  · exact h.congr (by simp [latchEmergencyStop]) (by simp [latchEmergencyStop]) (by simp [latchEmergencyStop])
      (by simp [latchEmergencyStop])
  all_goals
    exact h.congr (by simp [sendRemoteStick]) (by simp [sendRemoteStick]) (by simp [sendRemoteStick])
      (by simp +contextual [sendRemoteStick])

theorem sendSdkVelocity_manualCrawlLock (b : Bridge) (now : ℤ) (cmd : Twist) :
    (b.sendSdkVelocity cfg r now cmd).node.manualCrawlLock = b.node.manualCrawlLock := by
  simp only [sendSdkVelocity, sdkMove]
  split_ifs <;> simp

theorem publishSdkVelocity_manualCrawlLock (b : Bridge) (now : ℤ) (cmd : Twist) :
    (b.publishSdkVelocity cfg r now cmd).node.manualCrawlLock = b.node.manualCrawlLock := by
  simp only [publishSdkVelocity]
  split_ifs
  · rw [sendSdkVelocity_manualCrawlLock]
    simp [confirmSdkStandUp]
  · rfl
  · simp
  · exact sendSdkVelocity_manualCrawlLock b now cmd

theorem crouched_publishLatestVelocity {b : Bridge} (h : b.Crouched) :
    (b.publishLatestVelocity cfg r).Crouched := by
  unfold publishLatestVelocity
  cases b.node.lastCmd with
  | none =>
    dsimp only
    split_ifs
    · exact crouched_holdPlannerVelocity h
    all_goals exact h
  | some cmd =>
    dsimp only
    split_ifs with hallows hactive hidle hremote
    · exact crouched_holdPlannerVelocity h
    · exact h
    · exact h
    · exact crouched_publishLatestRemoteVelocity h b.clock cmd
    · refine crouched_of_unlocked ?_
      rw [publishSdkVelocity_manualCrawlLock, Bool.eq_false_iff]
      exact fun hlock => hremote (by simp [usesRemote, hlock])

theorem crouched_step {b : Bridge} (h : b.Crouched) (e : BridgeEvent) : (b.step cfg e).Crouched := by
  have hbegin : (b.begin e).Crouched := h.congr rfl rfl id fun _ hcmd _ => hcmd
  obtain ⟨elapsed, r, input⟩ := e
  cases input with
  | modeSwitch data =>
    simp only [step, handle]
    split_ifs
    · exact hbegin
    · exact crouched_handleModeSwitchCallback hbegin data
  | velocity topic vx vy yawRate =>
    cases topic with
    | planner =>
      simp only [step, handle]
      split_ifs with hmode
      · exact hbegin
      · exact crouched_handlePlannerVelCallback hbegin fun honly => absurd honly hmode
    | teleop =>
      simp only [step, handle]
      split_ifs
      · exact crouched_handlePlannerVelCallback hbegin fun _ => by simp [twist]
      · exact crouched_handleTeleopVelCallback hbegin (by simp [twist])
  | teleopAction action => exact crouched_handleTeleopActionCallback hbegin action
  | remoteTeleopAction action => exact crouched_handleRemoteTeleopAction hbegin action
  | localization status =>
    simp only [step, handle]
    split_ifs
    · exact hbegin
    · exact hbegin.congr rfl rfl id fun _ hcmd _ => hcmd
  | fineControl data => exact hbegin.congr rfl rfl id fun _ hcmd _ => hcmd
  | publishTimer => exact crouched_publishLatestVelocity hbegin
  | remoteExecutorReady => exact hbegin.congr rfl rfl id fun _ hcmd _ => hcmd

theorem source_of_step {b : Bridge} {e : BridgeEvent} {c : Call} (hc : c ∈ (b.step cfg e).calls)
    (hsource : c.source ≠ none) : ∃ cmd, b.node.lastCmd = some cmd ∧ c.source = cmd.topic := by
  by_cases htimer : e.input = .publishTimer
  · have hcalls : (b.step cfg e).calls = ((b.begin e).publishLatestVelocity cfg e.replies).calls := by
      unfold step
      rw [htimer]
      rfl
    rw [hcalls] at hc
    obtain ⟨-, -, cmd, hcmd, htopic, -⟩ := Watched.stored_of_source (b.silent_begin e) hc hsource
    exact ⟨cmd, hcmd, htopic⟩
  · exact absurd (Watched.silent_step (w := { bridge := b }) htimer c hc) hsource

theorem keepsCrawl_of_crouched {b : Bridge} (h : b.Crouched) (e : BridgeEvent) : KeepsCrawl cfg b e := by
  constructor
  · intro hlock c hc hplanner
    obtain ⟨cmd, hcmd, htopic⟩ := source_of_step hc (by rw [hplanner]; exact Option.some_ne_none _)
    exact h.unstored hlock cmd hcmd (htopic.symm.trans hplanner)
  · intro hlock data hinput
    have hlocked : (b.begin e).node.manualCrawlLock = true := hlock
    unfold step
    rw [hinput]
    simp only [handle, handleModeSwitchCallback, hlocked, if_true]
    split_ifs
    · rfl
    · rfl
    · rfl

/-! ## Every run -/

theorem crouched_initial : ({} : Bridge).Crouched := crouched_of_unlocked rfl

/-- **A chosen posture is kept.** In every run the lock of the crawl gait holds planner velocities and heartbeats off;
and after a low posture was chosen, no teleop velocity and no heartbeat raises the body as long as no action ends the
posture and the wish is not lost. -/
theorem run_keepsPosture (cfg : BridgeConfig) (es : List BridgeEvent) :
    Run.Always (step cfg) (KeepsCrawl cfg) {} es ∧
      ∀ before chosen after, es = before ++ chosen :: after → Chooses cfg (run cfg before) chosen →
        Run.Always (step cfg) (StaysChosen cfg) ((run cfg before).step cfg chosen) after →
          Run.Always (step cfg) (KeepsPosture cfg) ((run cfg before).step cfg chosen) after := by
  constructor
  · exact Run.always_of_invariant Crouched (fun b e h => crouched_step h e)
      (fun b e h => keepsCrawl_of_crouched h e) crouched_initial es
  · rintro before chosen after - hchosen hstays
    have hlocked : ((run cfg before).step cfg chosen).CrawlLocked :=
      (keepsBasics_step _ chosen).locked (crawlLocked_run before)
    refine Run.always_of_guarded (fun b => b.Prone cfg ∧ b.CrawlLocked) ?_ ?_ ⟨hchosen.prone, hlocked⟩ hstays
    · rintro b e ⟨hprone, hlock⟩ hstay
      exact ⟨(staysProne_step hprone hlock hstay).prone, (keepsBasics_step b e).locked hlock⟩
    · rintro b e ⟨hprone, hlock⟩ hstay
      have hlying := (staysProne_step hprone hlock hstay).lying
      exact ⟨fun _ _ _ _ => hlying, fun _ _ _ _ => hlying, fun _ _ => hlying⟩

def ready : List BridgeEvent := [{ input := .remoteExecutorReady }]

def lieDown : BridgeEvent := { elapsed := 1000000000, input := .remoteTeleopAction "lie_down" }

/-- The operator moves the robot in its low posture, while Nav2 sends its heartbeat. -/
def movedLow : List BridgeEvent :=
  [{ elapsed := 1000000000, input := .velocity .teleop (.finite (1 / 2)) 0 0 },
    { elapsed := 20000000, input := .publishTimer, replies := { controlMode := .sitDown } },
    { elapsed := 20000000, input := .modeSwitch 171 },
    { elapsed := 100000000, input := .velocity .teleop 0 0 0 },
    { elapsed := 20000000, input := .publishTimer, replies := { controlMode := .sitDown } }]

theorem run_keepsPosture_movedLow :
    Run.Always (step withoutSdk) (KeepsCrawl withoutSdk) {} (ready ++ lieDown :: movedLow) ∧
      Run.Always (step withoutSdk) (KeepsPosture withoutSdk) ((run withoutSdk ready).step withoutSdk lieDown) movedLow :=
  have h := run_keepsPosture withoutSdk (ready ++ lieDown :: movedLow)
  ⟨h.1, h.2 ready lieDown movedLow rfl (by decide +kernel) (by decide +kernel)⟩

/-- The XG lies, refuses to crawl, and the operator pushes the stick. -/
def refusedCrawl : List BridgeEvent :=
  [{ elapsed := 1000000000, input := .remoteTeleopAction "crawl_forward", replies := { modelIsXg := true } },
    { elapsed := 1000000000, input := .velocity .teleop (.finite (1 / 2)) 0 0 }]

/-- The refused crawl takes the wish back, and the velocity stands the robot up. -/
theorem not_keepsPosture_refusedCrawl :
    Chooses withoutSdk (run withoutSdk ready) lieDown ∧
      Run.Always (step withoutSdk) (fun _ e => e.input.endsPosture = false)
        ((run withoutSdk ready).step withoutSdk lieDown) refusedCrawl ∧
      ¬ Run.Always (step withoutSdk) (KeepsPosture withoutSdk)
        ((run withoutSdk ready).step withoutSdk lieDown) refusedCrawl := by
  refine ⟨by decide, by decide, fun h => ?_⟩
  have hlying := h.2.1.velocity _ _ _ rfl
  exact absurd hlying (by decide +kernel)

/-- Nav2 stands the robot up again, and the operator's velocity asks for `MOVE_MODE`. -/
def wokenByPlanner : List BridgeEvent :=
  [{ elapsed := 100000000, input := .localization 3 },
    { elapsed := 100000000, input := .velocity .planner (.finite (1 / 2)) 0 0 },
    { elapsed := 5000000000, input := .velocity .teleop (.finite (1 / 2)) 0 0 },
    { elapsed := 20000000, input := .publishTimer, replies := { controlMode := .standUp } },
    { elapsed := 20000000, input := .publishTimer, replies := { controlMode := .standUp } }]

/-- A velocity of the planner takes the wish back as well. -/
example :
    Run.Always (step withoutSdk) (fun _ e => e.input.endsPosture = false)
        ((run withoutSdk ready).step withoutSdk lieDown) wokenByPlanner ∧
      .setCmd .moveMode ∈ (Run.exec (step withoutSdk) {} (ready ++ lieDown :: wokenByPlanner)).calls := by
  decide +kernel

end Bridge

end RoamerX.VelocityBridge
