import Mathlib.Data.Int.Notation
import Mathlib.Data.List.Basic
import RoamerX.Lib.Effects
import RoamerX.Lib.Run

set_option autoImplicit false

/-! # The power mode

`PowerModeController` of `power_mode_controller.py`: the robot enters the cooling standby of a charge, is restored to
normal, and is brought in step with its stored mode when the Edge starts. Each operation runs commands, every one of
which may end with any exit code or raise. -/

namespace RoamerX

open Effects Effect

namespace PowerMode

/-! ## State and commands -/

inductive Mode
  | normal | coolingStandby
  deriving DecidableEq

inductive TransitionState
  | ready | entering | restoring | error
  deriving DecidableEq

inductive ChargeStage
  | idle | waitingForDock | startingCharge | waitingCurrent | charging | thermalProtection | stoppingCharge | error
  deriving DecidableEq

/-- The state file, the cooling marker, and how many commands have run. -/
structure State where
  mode : Mode
  transitionState : TransitionState
  autoChargeEnabled : Bool
  chargeStage : ChargeStage
  chargeStageDetail : String
  rebootRequired : Bool
  lastError : String
  lastWarning : String
  coolingMarker : Bool
  commands : ℕ
  deriving DecidableEq

/-- What a command comes to: an exit code with what it printed, or an exception with its text. -/
inductive Outcome
  | exit (returncode : ℤ) (output : String)
  | raised (message : String)
  deriving DecidableEq

/-- The commands, by what they are for. -/
inductive Command
  | publishPassive
  | sleep
  | disableMonitoring
  | enableMonitoring
  | fullStop
  | stopSensors (pattern : ℕ)
  | stopRemoteCoolingServices
  | enableLocalUnits
  | startRemoteNormalServices (skipArc : Bool)
  | startNavigation
  deriving DecidableEq

/-- `ProtocolError`, or another exception. -/
inductive Raised
  | protocol (code message : String)
  | other (message : String)
  deriving DecidableEq

/-- `str(exc)` -/
def Raised.text : Raised → String
  | .protocol _ message | .other message => message

/-- The text of each command, and what the commands come to in their order. -/
structure World where
  text : Command → String
  outcome : ℕ → Command → Outcome

abbrev Operation := Effect Raised State

variable (w : World)

def runner (command : Command) : Operation (ℤ × String) := do
  let outcome ← update fun s : State => (w.outcome s.commands command, { s with commands := s.commands + 1 })
  match outcome with
  | .exit returncode output => pure (returncode, output)
  | .raised message => raise (.other message)

/-- A text of more than 1200 characters loses its middle. -/
def truncated (output : String) : String :=
  let text := output.toList
  if 1200 < text.length then
    String.ofList (text.take 600 ++ "\n... output truncated ...\n".toList ++ text.drop (text.length - 600))
  else output

def runRequired (command : Command) : Operation Unit := do
  let (returncode, output) ← runner w command
  if returncode ≠ 0 then raise (.other (w.text command ++ ": " ++ truncated output)) else pure ()

/-- `_run_optional`, for the exit codes 0 and 1. -/
def runOptional (command : Command) : Operation Unit := do
  let (returncode, output) ← runner w command
  if returncode ≠ 0 ∧ returncode ≠ 1 then
    raise (.other (w.text command ++ ": " ++ String.ofList (output.toList.drop (output.toList.length - 1200))))
  else pure ()

def requestMotorPassive : Operation Bool :=
  (do
    let (returncode, _) ← runner w .publishPassive
    if returncode = 0 then do
      let _ ← runner w .sleep
      pure true
    else pure false).handle fun _ => pure false

def stopSensorProcesses : Operation Unit := do
  runOptional w (.stopSensors 0)
  runOptional w (.stopSensors 1)

def setCoolingMarker (enabled : Bool) : Operation Unit := modify fun s => { s with coolingMarker := enabled }

def legacyChargeSessionActive (s : State) : Bool :=
  s.chargeStage ∈ [ChargeStage.waitingForDock, .startingCharge, .waitingCurrent, .charging, .thermalProtection]

/-! ## Operations -/

def enterCooling : Operation Unit := do
  modify fun s =>
    { s with mode := .coolingStandby, transitionState := .entering, lastError := "", lastWarning := "" }
  (do
    setCoolingMarker true
    let passiveConfirmed ← requestMotorPassive w
    runRequired w .disableMonitoring
    runRequired w .fullStop
    stopSensorProcesses w
    runRequired w .stopRemoteCoolingServices
    modify fun s =>
      { s with
        mode := .coolingStandby
        transitionState := .ready
        rebootRequired := false
        lastError := ""
        lastWarning := if passiveConfirmed then "" else "未确认关节自由态，请检查本体控制模式" }).handle fun exc => do
    modify fun s => { s with mode := .coolingStandby, transitionState := .error, lastError := exc.text }
    raise (.protocol "COOLING_MODE_FAILED" exc.text)

def startNormalServices (skipArc : Bool) : Operation Unit := do
  (do
    runRequired w .enableLocalUnits
    runRequired w (.startRemoteNormalServices skipArc)).handle fun exc => do
    modify fun s => { s with mode := .normal, transitionState := .error, lastError := exc.text }
    raise (.protocol "NORMAL_MODE_RESTORE_FAILED" exc.text)
  modify fun s =>
    { s with
      mode := .normal
      transitionState := .ready
      rebootRequired := false
      autoChargeEnabled := false
      lastError := ""
      lastWarning := "" }
  -- the navigation need not start
  (runRequired w .startNavigation).handle fun exc =>
    modify fun s => { s with lastWarning := "导航栈启动请求失败：" ++ exc.text }

def restoreNormal : Operation Unit := do
  modify fun s => { s with mode := .normal, transitionState := .restoring, lastError := "", lastWarning := "" }
  setCoolingMarker false
  runRequired w .enableMonitoring
  startNormalServices w false

/-- `reconcile_startup` where the stored mode is the cooling standby. -/
def reconcileCooling : Operation Unit := do
  setCoolingMarker true
  runOptional w .disableMonitoring
  stopSensorProcesses w
  runRequired w .stopRemoteCoolingServices
  modify fun s =>
    { s with transitionState := .ready, rebootRequired := false, lastError := "", lastWarning := "" }

def reconcileStartup : Operation Unit := do
  let mode ← get State.mode
  match mode with
  | .coolingStandby => reconcileCooling w
  | .normal => do
    setCoolingMarker false
    let skipArc ← get legacyChargeSessionActive
    (startNormalServices w skipArc).handle fun exc =>
      match exc with
      | .protocol _ _ => pure ()
      | .other _ => raise exc

inductive Call
  | enterCooling | restoreNormal | reconcileStartup
  deriving DecidableEq

def Call.run : Call → Operation Unit
  | .enterCooling => PowerMode.enterCooling w
  | .restoreNormal => PowerMode.restoreNormal w
  | .reconcileStartup => PowerMode.reconcileStartup w

/-! ## Settling -/

/-- The call returned ready, or raised a `ProtocolError` that is recorded. -/
def Settled : Except Raised Unit × State → Prop
  | (.ok _, s) => s.transitionState = .ready
  | (.error raised, s) =>
    ∃ code message, raised = .protocol code message ∧ s.transitionState = .error ∧ s.lastError = message

def Marked (s : State) : Prop := s.coolingMarker = true ↔ s.mode = .coolingStandby

/-- A command that ends with one of the exit codes. -/
def Outcome.endsWith (codes : List ℤ) : Outcome → Prop
  | .exit returncode _ => returncode ∈ codes
  | .raised _ => False

/-- The commands of a start in the cooling standby succeed. -/
structure CoolingCommandsSucceed (s : State) : Prop where
  monitoring : (w.outcome s.commands .disableMonitoring).endsWith [0, 1]
  lidar : (w.outcome (s.commands + 1) (.stopSensors 0)).endsWith [0, 1]
  rtk : (w.outcome (s.commands + 2) (.stopSensors 1)).endsWith [0, 1]
  remote : (w.outcome (s.commands + 3) .stopRemoteCoolingServices).endsWith [0]

def Settles (call : Call) (s : State) : Prop :=
  Marked (call.run w s).2 ∧
    match call with
    | .enterCooling => Settled (call.run w s)
    | .restoreNormal => (w.outcome s.commands .enableMonitoring).endsWith [0] → Settled (call.run w s)
    | .reconcileStartup =>
      match s.mode with
      | .normal => (call.run w s).1 = .ok () ∧
          ((call.run w s).2.transitionState = .ready ∨ (call.run w s).2.transitionState = .error ∧
            (startNormalServices w (legacyChargeSessionActive s) { s with coolingMarker := false }).1 =
              .error (.protocol "NORMAL_MODE_RESTORE_FAILED" (call.run w s).2.lastError))
      | .coolingStandby => CoolingCommandsSucceed w s →
          (call.run w s).1 = .ok () ∧ (call.run w s).2.transitionState = .ready

section Triples

variable {w} {I : State → Prop} {command : Command}

/-- A property that does not count the commands. -/
def Uncounted (I : State → Prop) : Prop := ∀ s n, I s → I { s with commands := n }

theorem triple_runner (hI : Uncounted I) : Triple I (runner w command) (fun _ => I) (fun _ => I) := by
  refine triple_bind (M := fun _ => I) (triple_update fun s hs => hI s _ hs) fun outcome => ?_
  cases outcome with
  | exit returncode output => exact triple_pure fun _ hs => hs
  | raised message => exact triple_raise fun _ hs => hs

theorem triple_runRequired (hI : Uncounted I) : Triple I (runRequired w command) (fun _ => I) (fun _ => I) := by
  refine triple_bind (triple_runner hI) fun ended => ?_
  dsimp only
  split
  · exact triple_raise fun _ hs => hs
  · exact triple_pure fun _ hs => hs

theorem triple_runOptional (hI : Uncounted I) : Triple I (runOptional w command) (fun _ => I) (fun _ => I) := by
  refine triple_bind (triple_runner hI) fun ended => ?_
  dsimp only
  split
  · exact triple_raise fun _ hs => hs
  · exact triple_pure fun _ hs => hs

theorem triple_requestMotorPassive (hI : Uncounted I) :
    Triple I (requestMotorPassive w) (fun _ => I) (fun _ => I) := by
  refine triple_handle (E := fun _ => I) (triple_bind (triple_runner hI) fun ended => ?_) fun _ =>
    triple_pure fun _ hs => hs
  dsimp only
  split
  · exact triple_bind (triple_runner hI) fun _ => triple_pure fun _ hs => hs
  · exact triple_pure fun _ hs => hs

theorem triple_stopSensorProcesses (hI : Uncounted I) :
    Triple I (stopSensorProcesses w) (fun _ => I) (fun _ => I) :=
  triple_bind (triple_runOptional hI) fun _ => triple_runOptional hI

/-- The mode and the marker of a state. -/
def At (mode : Mode) (coolingMarker : Bool) (s : State) : Prop := s.mode = mode ∧ s.coolingMarker = coolingMarker

theorem uncounted_at (mode : Mode) (coolingMarker : Bool) : Uncounted (At mode coolingMarker) := fun _ _ hs => hs

theorem triple_startNormalServices (skipArc : Bool) : Triple (At .normal false) (startNormalServices w skipArc)
    (fun _ s => At .normal false s ∧ s.transitionState = .ready)
    (fun raised s => At .normal false s ∧ s.transitionState = .error ∧
      raised = .protocol "NORMAL_MODE_RESTORE_FAILED" s.lastError) := by
  have hAt := uncounted_at .normal false
  refine triple_bind (M := fun _ => At .normal false) (triple_handle (E := fun _ => At .normal false)
    (triple_bind (triple_runRequired hAt) fun _ => triple_runRequired hAt) fun exc => ?_) fun _ => ?_
  · exact triple_bind (M := fun _ s => At .normal false s ∧ s.transitionState = .error ∧ s.lastError = exc.text)
      (triple_modify fun s hs => ⟨⟨rfl, hs.2⟩, rfl, rfl⟩) fun _ => triple_raise fun s hs => ⟨hs.1, hs.2.1, by rw [hs.2.2]⟩
  · have hready : Uncounted fun s => At .normal false s ∧ s.transitionState = .ready := fun _ _ hs => hs
    refine triple_bind (M := fun _ s => At .normal false s ∧ s.transitionState = .ready)
      (triple_modify fun s hs => ⟨⟨rfl, hs.2⟩, rfl⟩) fun _ => ?_
    exact triple_handle (triple_runRequired hready) fun exc => triple_modify fun s hs => hs

theorem triple_enterCooling : Triple (fun _ => True) (enterCooling w)
    (fun _ s => At .coolingStandby true s ∧ s.transitionState = .ready)
    (fun raised s => At .coolingStandby true s ∧ s.transitionState = .error ∧
      raised = .protocol "COOLING_MODE_FAILED" s.lastError) := by
  have hAt := uncounted_at .coolingStandby true
  refine triple_bind (M := fun _ s => s.mode = .coolingStandby) (triple_modify fun s _ => rfl) fun _ => ?_
  refine triple_handle (E := fun _ => At .coolingStandby true)
    (triple_bind (M := fun _ => At .coolingStandby true) (triple_modify fun s hs => ⟨hs, rfl⟩) fun _ => ?_) fun exc => ?_
  · refine triple_bind (triple_requestMotorPassive hAt) fun passiveConfirmed => ?_
    refine triple_bind (triple_runRequired hAt) fun _ => triple_bind (triple_runRequired hAt) fun _ => ?_
    refine triple_bind (triple_stopSensorProcesses hAt) fun _ => triple_bind (triple_runRequired hAt) fun _ => ?_
    exact triple_modify fun s hs => ⟨⟨rfl, hs.2⟩, rfl⟩
  · exact triple_bind (M := fun _ s => At .coolingStandby true s ∧ s.transitionState = .error ∧ s.lastError = exc.text)
      (triple_modify fun s hs => ⟨⟨rfl, hs.2⟩, rfl, rfl⟩) fun _ => triple_raise fun s hs => ⟨hs.1, hs.2.1, by rw [hs.2.2]⟩

theorem triple_restoreNormal :
    Triple (fun _ => True) (restoreNormal w) (fun _ => At .normal false) (fun _ => At .normal false) := by
  refine triple_bind (M := fun _ s => s.mode = .normal) (triple_modify fun s _ => rfl) fun _ => ?_
  refine triple_bind (M := fun _ => At .normal false) (triple_modify fun s hs => ⟨hs, rfl⟩) fun _ => ?_
  exact triple_bind (triple_runRequired (uncounted_at .normal false)) fun _ =>
    (triple_startNormalServices false).mono (fun _ hs => hs) (fun _ _ hs => hs.1) fun _ _ hs => hs.1

theorem triple_reconcileCooling :
    Triple (fun s => s.mode = .coolingStandby) (reconcileCooling w)
      (fun _ => At .coolingStandby true) (fun _ => At .coolingStandby true) := by
  have hAt := uncounted_at .coolingStandby true
  refine triple_bind (M := fun _ => At .coolingStandby true) (triple_modify fun s hs => ⟨hs, rfl⟩) fun _ => ?_
  refine triple_bind (triple_runOptional hAt) fun _ => triple_bind (triple_stopSensorProcesses hAt) fun _ => ?_
  exact triple_bind (triple_runRequired hAt) fun _ => triple_modify fun s hs => hs

theorem marked_of_at_normal {s : State} (h : At .normal false s) : Marked s := by
  rw [Marked, h.1, h.2]
  decide

theorem marked_of_at_cooling {s : State} (h : At .coolingStandby true s) : Marked s := by
  rw [Marked, h.1, h.2]
  decide

end Triples

/-! ## Commands that succeed -/

section Succeeding

variable {w} {s : State} {command : Command}

theorem runner_of_exit {returncode : ℤ} {output : String} (h : w.outcome s.commands command = .exit returncode output) :
    runner w command s = (.ok (returncode, output), { s with commands := s.commands + 1 }) := by
  unfold runner
  rw [bind_of_ok (a := .exit returncode output) (by rw [← h]; rfl)]
  rfl

theorem runRequired_of_endsWith (command : Command) (h : (w.outcome s.commands command).endsWith [0]) :
    runRequired w command s = (.ok (), { s with commands := s.commands + 1 }) := by
  rcases hended : w.outcome s.commands command with ⟨returncode, output⟩ | message
  · rw [hended] at h
    obtain rfl := List.mem_singleton.mp h
    unfold runRequired
    rw [bind_of_ok (runner_of_exit hended)]
    rfl
  · rw [hended] at h
    exact h.elim

theorem runOptional_of_endsWith (h : (w.outcome s.commands command).endsWith [0, 1]) :
    runOptional w command s = (.ok (), { s with commands := s.commands + 1 }) := by
  rcases hended : w.outcome s.commands command with ⟨returncode, output⟩ | message
  · rw [hended] at h
    have hcode : ¬ (returncode ≠ 0 ∧ returncode ≠ 1) := by
      simp only [Outcome.endsWith, List.mem_cons, List.not_mem_nil, or_false] at h
      tauto
    unfold runOptional
    rw [bind_of_ok (runner_of_exit hended)]
    dsimp only
    rw [if_neg hcode]
    rfl
  · rw [hended] at h
    exact h.elim

theorem reconcileCooling_of_succeed (h : CoolingCommandsSucceed w s) :
    (reconcileCooling w s).1 = .ok () ∧ (reconcileCooling w s).2.transitionState = .ready := by
  have hsensors : stopSensorProcesses w { s with coolingMarker := true, commands := s.commands + 1 } =
      (.ok (), { s with coolingMarker := true, commands := s.commands + 3 }) := by
    unfold stopSensorProcesses
    rw [bind_of_ok (runOptional_of_endsWith (s := { s with coolingMarker := true, commands := s.commands + 1 }) h.lidar)]
    exact runOptional_of_endsWith (s := { s with coolingMarker := true, commands := s.commands + 2 }) h.rtk
  unfold reconcileCooling setCoolingMarker
  rw [modify_bind, bind_of_ok (runOptional_of_endsWith (s := { s with coolingMarker := true }) h.monitoring),
    bind_of_ok hsensors,
    bind_of_ok (runRequired_of_endsWith _ (s := { s with coolingMarker := true, commands := s.commands + 3 }) h.remote)]
  exact ⟨rfl, rfl⟩

end Succeeding

/-! ## Runs -/

theorem settles_enterCooling (s : State) : Settles w .enterCooling s := by
  change Marked (enterCooling w s).2 ∧ Settled (enterCooling w s)
  rcases hrun : enterCooling w s with ⟨raised | _, s'⟩
  · obtain ⟨hat, herror, hraised⟩ := triple_enterCooling.raised trivial hrun
    exact ⟨marked_of_at_cooling hat, _, _, hraised, herror, rfl⟩
  · obtain ⟨hat, hready⟩ := triple_enterCooling.returned trivial hrun
    exact ⟨marked_of_at_cooling hat, hready⟩

theorem settled_startNormalServices {s : State} (skipArc : Bool) (hs : At .normal false s) :
    Settled (startNormalServices w skipArc s) := by
  rcases hrun : startNormalServices w skipArc s with ⟨raised | _, s'⟩
  · obtain ⟨-, herror, hraised⟩ := (triple_startNormalServices skipArc).raised hs hrun
    exact ⟨_, _, hraised, herror, rfl⟩
  · exact ((triple_startNormalServices skipArc).returned hs hrun).2

theorem settles_restoreNormal (s : State) : Settles w .restoreNormal s := by
  have hmarked : Marked (restoreNormal w s).2 := by
    rcases hrun : restoreNormal w s with ⟨raised | _, s'⟩
    · exact marked_of_at_normal (triple_restoreNormal.raised trivial hrun)
    · exact marked_of_at_normal (triple_restoreNormal.returned trivial hrun)
  refine ⟨hmarked, fun henable => ?_⟩
  -- the first command succeeds, and what follows it settles
  have hfirst := runRequired_of_endsWith (w := w) .enableMonitoring
    (s := { s with mode := .normal, transitionState := .restoring, lastError := "", lastWarning := "",
                   coolingMarker := false }) henable
  change Settled (restoreNormal w s)
  unfold restoreNormal setCoolingMarker
  rw [modify_bind, modify_bind, bind_of_ok hfirst]
  exact settled_startNormalServices w false ⟨rfl, rfl⟩

theorem reconcileStartup_cooling {s : State} (h : s.mode = .coolingStandby) :
    reconcileStartup w s = reconcileCooling w s := by
  unfold reconcileStartup
  rw [get_bind, h]

theorem reconcileStartup_normal {s : State} (h : s.mode = .normal) : (reconcileStartup w s).1 = .ok () ∧
    (reconcileStartup w s).2 = (startNormalServices w (legacyChargeSessionActive s) { s with coolingMarker := false }).2 := by
  have hhandle : reconcileStartup w s = ((startNormalServices w (legacyChargeSessionActive s)).handle fun exc =>
      match exc with
      | .protocol _ _ => pure ()
      | .other _ => raise exc) { s with coolingMarker := false } := by
    obtain ⟨mode, _, _, _, _, _, _, _, _, _⟩ := s
    obtain rfl : mode = .normal := h
    rfl
  have hat : At .normal false { s with coolingMarker := false } := ⟨h, rfl⟩
  rw [hhandle]
  unfold Effect.handle
  rcases hrun : startNormalServices w (legacyChargeSessionActive s) { s with coolingMarker := false } with
    ⟨raised | _, s'⟩
  · obtain ⟨-, -, rfl⟩ := (triple_startNormalServices (legacyChargeSessionActive s)).raised hat hrun
    exact ⟨rfl, rfl⟩
  · exact ⟨rfl, rfl⟩

theorem settles_reconcileStartup (s : State) : Settles w .reconcileStartup s := by
  obtain ⟨mode, transitionState, autoChargeEnabled, chargeStage, detail, rebootRequired, lastError, lastWarning, marker,
    commands⟩ := s
  unfold Settles
  simp only [Call.run]
  cases mode with
  | coolingStandby =>
    rw [reconcileStartup_cooling w rfl]
    refine ⟨?_, reconcileCooling_of_succeed⟩
    rcases hrun : reconcileCooling w _ with ⟨raised | _, s'⟩
    · exact marked_of_at_cooling (triple_reconcileCooling.raised rfl hrun)
    · exact marked_of_at_cooling (triple_reconcileCooling.returned rfl hrun)
  | normal =>
    obtain ⟨hok, hstate⟩ := reconcileStartup_normal w (s := ⟨.normal, transitionState, autoChargeEnabled, chargeStage,
      detail, rebootRequired, lastError, lastWarning, marker, commands⟩) rfl
    rw [hok, hstate]
    rcases hrun : startNormalServices w _ _ with ⟨raised | _, s'⟩
    · obtain ⟨hat, herror, hraised⟩ := (triple_startNormalServices _).raised ⟨rfl, rfl⟩ hrun
      exact ⟨marked_of_at_normal hat, rfl, Or.inr ⟨herror, congrArg Except.error hraised⟩⟩
    · obtain ⟨hat, hready⟩ := (triple_startNormalServices _).returned ⟨rfl, rfl⟩ hrun
      exact ⟨marked_of_at_normal hat, rfl, Or.inl hready⟩

def step (s : State) (call : Call) : State := (call.run w s).2

/-- **Every call of a run settles.** -/
theorem settles_always (s : State) (calls : List Call) :
    Run.Always (step w) (fun s call => Settles w call s) s calls := by
  refine Run.always_of_invariant (fun _ => True) (fun _ _ _ => trivial) (fun s call _ => ?_) trivial calls
  cases call with
  | enterCooling => exact settles_enterCooling w s
  | restoreNormal => exact settles_restoreNormal w s
  | reconcileStartup => exact settles_reconcileStartup w s

def allFail : World where
  text _ := "command"
  outcome _ _ := .exit 1 "failed"

/-- A start whose services fail returns with the failure recorded, and is not ready. -/
theorem not_settled_reconcileStartup : ¬ Settled (reconcileStartup allFail
    { mode := .normal, transitionState := .ready, autoChargeEnabled := false, chargeStage := .idle,
      chargeStageDetail := "", rebootRequired := false, lastError := "", lastWarning := "", coolingMarker := false,
      commands := 0 }) := by
  intro h
  have hready : TransitionState.error = .ready := h
  exact nomatch hready

end PowerMode

end RoamerX
