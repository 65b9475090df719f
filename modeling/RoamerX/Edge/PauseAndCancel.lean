import RoamerX.Edge.TaskExecutor
import RoamerX.Protocol.Json

set_option autoImplicit false

/-! # Pausing and cancelling a task

`pause_task` and `cancel_task` with what they stop before they talk to the navigation: the ownership
of a localization pause, the watch that ends it, the retry of a dispatch and the obstacle monitor. An
operation that raises may have stopped them, or moved the task, before. -/

namespace RoamerX

/-- What a call of an adapter returns, or the class of what it raises. -/
abbrev AdapterCall (α : Type) := Except String α

/-- The answers of the navigation adapter while a task is being stopped; `none` where it has no such
    method. -/
structure StopCalls where
  /-- `cancel_navigation`. -/
  cancelNavigation : Option (AdapterCall Bool) := some (.ok true)
  /-- `cancel_navigation` again, after a `TypeError`. -/
  cancelWithoutTimeout : AdapterCall Bool := .ok true
  stopMotion : Option (AdapterCall Unit) := some (.ok ())
  isRobotStopped : AdapterCall Bool := .ok true
  /-- `is_robot_stopped` for the recovery lease, where what it raises counts as no. -/
  leaseStopped : Bool := true
  /-- The recovery lease is reclaimed. -/
  leaseReleased : Bool := true

/-- `TaskExecutor`, as far as the two operations go. -/
structure TaskControls where
  context : Option TaskContext := none
  pausedForLocalization : Bool := false
  pausedLocalizationReason : Option String := none
  /-- The thread of `_arm_absolute_localization_resume_watch` runs. -/
  absolutePauseWatch : Bool := false
  /-- `_nav_dispatch_retry_timer`. -/
  navDispatchRetryTimer : Bool := false
  pendingDispatchIndex : Option ℕ := none
  obstacleMonitor : Bool := false
  cruiseWatch : Bool := false
  obstacleEpisodeId : Option String := none
  recoveryAttempts : ℕ := 0
  arrivalAdjustmentIndex : Option ℕ := none
  arrivalAdjustmentNav2Active : Bool := false
  speechWaitingIndex : Option ℕ := none
  dwellWaitingIndex : Option ℕ := none
  activeCorrection : Option (String × String) := none
  navGoalGeneration : ℕ := 0
  /-- The recovery lease belongs to `BT_NAVIGATOR`. -/
  btRecoveryLease : Bool := false
  events : List EdgeMessage := []
  startResults : List (Uuid × CommandResultPayload) := []

structure ControlResult where
  finalTaskState : ExecutionState
  stateVersion : ℤ
  /-- `paused_at_waypoint_index` and `resume_from_waypoint_index`. -/
  resumeFromWaypointIndex : Option ℕ := none
  remainingWaypoints : Option ℕ := none
  robotStopped : Bool := true
  alreadyTerminal : Option Bool := none
  cancelPerformed : Option Bool := none
  deriving DecidableEq

namespace TaskControls

variable (s : TaskControls) (nav : StopCalls)

/-! ## What is stopped first -/

/-- `_paused_for_localization` and its reason are reset, and the watch is cancelled. -/
def releaseLocalizationPause : TaskControls :=
  { s with
    pausedForLocalization := false
    pausedLocalizationReason := none
    absolutePauseWatch := false }

def clearNavDispatchRetry : TaskControls :=
  { s with navDispatchRetryTimer := false, pendingDispatchIndex := none }

def suspendObstacleMonitor : TaskControls := { s with obstacleMonitor := false, cruiseWatch := false }

def stopObstacleMonitor : TaskControls :=
  { s.suspendObstacleMonitor with obstacleEpisodeId := none, recoveryAttempts := 0 }

/-- `_cancel_arrival_adjustment`, with `reset_state=False`. What the adapter raises is caught. -/
def cancelArrivalAdjustment : TaskControls :=
  { s with arrivalAdjustmentIndex := none, arrivalAdjustmentNav2Active := false }

def waitingWaypointIndex : Option ℕ := s.speechWaitingIndex.or s.dwellWaitingIndex

def assertExecution (execution : Uuid) : Except Raised TaskContext :=
  match s.context with
  | none =>
    .error (.protocol
      ⟨"TASK_CONTEXT_MISMATCH", "task execution does not match local context"⟩)
  | some c =>
    if c.taskExecutionId = execution then .ok c
    else
      .error (.protocol
        ⟨"TASK_CONTEXT_MISMATCH", "task execution does not match local context"⟩)

/-- Set the state, count the version up, persist and emit. -/
def moveTo (c : TaskContext) (state : ExecutionState) (kind : StateMessage) : TaskControls :=
  { s with
    context := some (c.moved state)
    events := s.events ++ [(c.moved state).stateEvent kind] }

/-! ## The navigation -/

/-- `stop_motion`, where the adapter has it. -/
def stopMotionIfCallable : Except Raised Unit :=
  match nav.stopMotion with
  | some (.error exception) => .error (.other exception)
  | _ => .ok ()

def releaseBtRecoveryLeaseAfterStop : TaskControls × Except Raised Unit :=
  match stopMotionIfCallable nav with
  | .error e => (s, .error e)
  | .ok _ =>
    if nav.leaseStopped ∧ nav.leaseReleased then ({ s with btRecoveryLease := false }, .ok ())
    else (s, .ok ())

/-- `cancel_navigation`, with the call that follows a `TypeError`. -/
def cancelCall : Except Raised Bool :=
  match nav.cancelNavigation with
  | none => .ok true
  | some (.ok cancelled) => .ok cancelled
  | some (.error exception) =>
    if exception = "TypeError" then
      match nav.cancelWithoutTimeout with
      | .ok cancelled => .ok cancelled
      | .error again => .error (.other again)
    else .ok false

def cancelActiveNavigation : TaskControls × Except Raised Bool :=
  let invalidated := { s with navGoalGeneration := s.navGoalGeneration + 1 }
  match cancelCall nav with
  | .error e => (invalidated, .error e)
  | .ok false => (invalidated, .ok false)
  | .ok true =>
    if nav.cancelNavigation.isSome ∧ s.btRecoveryLease then
      let released := invalidated.releaseBtRecoveryLeaseAfterStop nav
      match released.2 with
      | .error e => (released.1, .error e)
      | .ok _ => (released.1, .ok true)
    else (invalidated, .ok true)

/-- `is_robot_stopped` must say so. -/
def assertRobotStopped : Except Raised Unit :=
  match nav.isRobotStopped with
  | .error exception => .error (.other exception)
  | .ok true => .ok ()
  | .ok false =>
    .error (.protocol ⟨"ROBOT_NOT_STOPPED", "robot speed did not reach stop threshold"⟩)

/-- The cancellation of the navigation of a task that was not waiting, or held. -/
def cancelNavigationOf (needed : Bool) : TaskControls × Except Raised Unit :=
  if needed ∧ s.waitingWaypointIndex = none then
    let cancelled := s.cancelActiveNavigation nav
    match cancelled.2 with
    | .error e => (cancelled.1, .error e)
    | .ok true => (cancelled.1, .ok ())
    | .ok false =>
      (cancelled.1,
        .error (.protocol ⟨"NAVIGATION_CANCEL_FAILED", "Nav2 action cancel failed"⟩))
  else (s, .ok ())

/-! ## The operations -/

/-- `pause_task` from `pausing` on. -/
def finishPause (c : TaskContext) (needed : Bool) : TaskControls × Except Raised ControlResult :=
  let cancelled := s.cancelNavigationOf nav needed
  match cancelled.2 with
  | .error e => (cancelled.1, .error e)
  | .ok _ =>
    match stopMotionIfCallable nav, assertRobotStopped nav with
    | .error e, _ => (cancelled.1, .error e)
    | .ok _, .error e => (cancelled.1, .error e)
    | .ok _, .ok _ =>
      (cancelled.1.moveTo c .paused .paused,
        .ok
          { finalTaskState := .paused
            stateVersion := c.stateVersion + 1
            resumeFromWaypointIndex := some c.currentWaypointIndex
            remainingWaypoints := some (c.route.waypoints.length - c.currentWaypointIndex) })

def pauseTask (execution : Uuid) : TaskControls × Except Raised ControlResult :=
  let released := s.releaseLocalizationPause
  match released.assertExecution execution with
  | .error e => (released, .error e)
  | .ok c =>
    let held := released.clearNavDispatchRetry.suspendObstacleMonitor.cancelArrivalAdjustment
    if c.state = .paused then
      (held, .ok { finalTaskState := .paused, stateVersion := c.stateVersion })
    else if c.state ∉ TaskExecutor.pausable then
      (held, .error (.protocol ⟨"INVALID_TASK_STATE", "cannot pause from " ++ c.state.text⟩))
    else
      (held.moveTo c .pausing .pausing).finishPause nav (c.moved .pausing)
        (decide (c.state ≠ .accepted))

/-- The cancelled task: the wait ends, and the start command gets its result. -/
def afterCancel (c : TaskContext) : TaskControls :=
  { s.moveTo c .cancelled .cancelled with
    dwellWaitingIndex := none
    startResults := s.startResults ++
      [(c.startCommandId,
        { status := .cancelled
          result := (c.moved .cancelled).stateResult (some true)
          errorCode := "TASK_CANCELLED"
          errorMessage := "task cancelled" })] }

/-- `cancel_task` from `cancelling` on. -/
def finishCancel (c : TaskContext) (needed : Bool) : TaskControls × Except Raised ControlResult :=
  let cancelled := s.cancelNavigationOf nav needed
  match cancelled.2 with
  | .error e => (cancelled.1, .error e)
  | .ok _ =>
    match assertRobotStopped nav with
    | .error e => (cancelled.1, .error e)
    | .ok _ =>
      (cancelled.1.afterCancel c,
        .ok
          { finalTaskState := .cancelled
            stateVersion := c.stateVersion + 1
            alreadyTerminal := some false
            cancelPerformed := some true })

/-- `cancel_task`. `_cancel_localization_recovery` catches what its callback raises. -/
def cancelTask (execution : Uuid) : TaskControls × Except Raised ControlResult :=
  match s.assertExecution execution with
  | .error e => (s, .error e)
  | .ok c =>
    let held := s.clearNavDispatchRetry.stopObstacleMonitor
    if c.state.isTerminal then
      match nav.stopMotion with
      | some (.ok _) =>
        (held, .ok
          { finalTaskState := c.state
            stateVersion := c.stateVersion
            alreadyTerminal := some true
            cancelPerformed := some false })
      | some (.error exception) => (held, .error (.other exception))
      | none => (held, .error (.other "AttributeError"))
    else if c.state ∉ TaskExecutor.cancellable then
      (held, .error (.protocol ⟨"INVALID_TASK_STATE", "cannot cancel from " ++ c.state.text⟩))
    else
      let uncorrected := { held with activeCorrection := none }
      (uncorrected.moveTo c .cancelling .cancelling).finishCancel nav (c.moved .cancelling)
        (decide (c.state ≠ .paused))

inductive Operation
  | pause | cancel
  deriving DecidableEq

def operate (execution : Uuid) : Operation → TaskControls × Except Raised ControlResult
  | .pause => s.pauseTask nav execution
  | .cancel => s.cancelTask nav execution

/-! ## Failing as a whole -/

/-- An operation that raised has left the task and its watches as they were. -/
structure Untouched (before after : TaskControls) : Prop where
  state : after.context.map (·.state) = before.context.map (·.state)
  stateVersion : after.context.map (·.stateVersion) = before.context.map (·.stateVersion)
  pausedForLocalization : after.pausedForLocalization = before.pausedForLocalization
  pausedLocalizationReason : after.pausedLocalizationReason = before.pausedLocalizationReason
  absolutePauseWatch : after.absolutePauseWatch = before.absolutePauseWatch
  navDispatchRetryTimer : after.navDispatchRetryTimer = before.navDispatchRetryTimer
  obstacleMonitor : after.obstacleMonitor = before.obstacleMonitor
  cruiseWatch : after.cruiseWatch = before.cruiseWatch

/-- When the operation raises, nothing has changed. -/
def FailsAtomically (execution : Uuid) (operation : Operation) : Prop :=
  ∀ e, (s.operate nav execution operation).2 = .error e →
    Untouched s (s.operate nav execution operation).1

/-- No localization pause is owned, and no watch waits for its end. -/
def NoLocalizationPause : Prop :=
  s.pausedForLocalization = false ∧ s.pausedLocalizationReason = none ∧ s.absolutePauseWatch = false

/-- No retry is armed, and the obstacle monitor and the cruise watch do not run. -/
def Unwatched : Prop :=
  s.navDispatchRetryTimer = false ∧ s.obstacleMonitor = false ∧ s.cruiseWatch = false

/-- The navigation lets go of the goal, or need not. -/
def LetsGo (needed : Bool) : Prop :=
  (needed = true ∧ s.waitingWaypointIndex = none) →
    cancelCall nav = .ok true
      ∧ (nav.cancelNavigation.isSome = true → s.btRecoveryLease = true →
        stopMotionIfCallable nav = .ok ())

/-- The condition on the state before the operation and on the answers of the navigation. -/
def KeepsOnFailure (execution : Uuid) : Operation → Prop
  | .pause =>
    match s.context with
    | none => s.NoLocalizationPause
    | some c =>
      if c.taskExecutionId ≠ execution then s.NoLocalizationPause
      else if c.state = .paused then True
      else if c.state ∉ TaskExecutor.pausable then s.NoLocalizationPause ∧ s.Unwatched
      else
        s.LetsGo nav (decide (c.state ≠ .accepted)) ∧ stopMotionIfCallable nav = .ok ()
          ∧ nav.isRobotStopped = .ok true
  | .cancel =>
    match s.context with
    | none => True
    | some c =>
      if c.taskExecutionId ≠ execution then True
      else if c.state.isTerminal then nav.stopMotion = some (.ok ()) ∨ s.Unwatched
      else if c.state ∉ TaskExecutor.cancellable then s.Unwatched
      else s.LetsGo nav (decide (c.state ≠ .paused)) ∧ nav.isRobotStopped = .ok true

/-! ## Each part of an operation -/

variable {s nav} {c : TaskContext} {execution : Uuid}

theorem assertExecution_none (h : s.context = none) (execution : Uuid) :
    ∃ e, s.assertExecution execution = .error e := by
  unfold assertExecution
  rw [h]
  exact ⟨_, rfl⟩

theorem assertExecution_other (h : s.context = some c) (hne : c.taskExecutionId ≠ execution) :
    ∃ e, s.assertExecution execution = .error e := by
  unfold assertExecution
  rw [h]
  dsimp only
  rw [if_neg hne]
  exact ⟨_, rfl⟩

theorem assertExecution_own (h : s.context = some c) (heq : c.taskExecutionId = execution) :
    s.assertExecution execution = .ok c := by
  unfold assertExecution
  rw [h]
  dsimp only
  rw [if_pos heq]

theorem releaseBtRecoveryLease_spec (s : TaskControls) (nav : StopCalls) :
    (s.releaseBtRecoveryLeaseAfterStop nav).1.context = s.context
      ∧ (s.releaseBtRecoveryLeaseAfterStop nav).2 = stopMotionIfCallable nav := by
  unfold releaseBtRecoveryLeaseAfterStop
  cases stopMotionIfCallable nav with
  | error e => exact ⟨rfl, rfl⟩
  | ok _ =>
    dsimp only
    split_ifs
    · exact ⟨rfl, rfl⟩
    · exact ⟨rfl, rfl⟩

/-- The cancellation of the navigation leaves the task as it is. It is confirmed when the adapter
    confirms it, and a recovery lease can be reclaimed. -/
theorem cancelActiveNavigation_spec (s : TaskControls) (nav : StopCalls) :
    (s.cancelActiveNavigation nav).1.context = s.context
      ∧ ((s.cancelActiveNavigation nav).2 = .ok true ↔
        cancelCall nav = .ok true
          ∧ (nav.cancelNavigation.isSome = true → s.btRecoveryLease = true →
            stopMotionIfCallable nav = .ok ())) := by
  unfold cancelActiveNavigation
  cases hcancel : cancelCall nav with
  | error e => exact ⟨rfl, by simp⟩
  | ok cancelled =>
    cases cancelled with
    | false => exact ⟨rfl, by simp⟩
    | true =>
      obtain ⟨hcontext, hstop⟩ := releaseBtRecoveryLease_spec
        { s with navGoalGeneration := s.navGoalGeneration + 1 } nav
      dsimp only
      split_ifs with hlease
      · rw [hstop]
        cases stopMotionIfCallable nav with
        | error e => exact ⟨hcontext, by simp [hlease.1, hlease.2]⟩
        | ok _ => exact ⟨hcontext, by simp⟩
      · refine ⟨rfl, ?_⟩
        simp only [true_and, true_iff]
        intro hcallable howned
        exact absurd ⟨hcallable, howned⟩ hlease

theorem cancelNavigationOf_spec (s : TaskControls) (nav : StopCalls) (needed : Bool) :
    (s.cancelNavigationOf nav needed).1.context = s.context
      ∧ ((s.cancelNavigationOf nav needed).2 = .ok () ↔ s.LetsGo nav needed) := by
  obtain ⟨hcontext, hconfirmed⟩ := cancelActiveNavigation_spec s nav
  unfold cancelNavigationOf LetsGo
  by_cases hneeded : needed = true ∧ s.waitingWaypointIndex = none
  · rw [if_pos hneeded]
    rw [← hconfirmed]
    dsimp only
    cases (s.cancelActiveNavigation nav).2 with
    | error e => exact ⟨hcontext, by simp [hneeded]⟩
    | ok cancelled =>
      cases cancelled with
      | false => exact ⟨hcontext, by simp [hneeded]⟩
      | true => exact ⟨hcontext, by simp⟩
  · rw [if_neg hneeded]
    refine ⟨rfl, ?_⟩
    simp only [true_iff]
    intro h
    exact absurd h hneeded

theorem assertRobotStopped_iff (nav : StopCalls) :
    assertRobotStopped nav = .ok () ↔ nav.isRobotStopped = .ok true := by
  unfold assertRobotStopped
  cases nav.isRobotStopped with
  | error e => simp
  | ok stopped => cases stopped <;> simp

theorem finishPause_spec (s : TaskControls) (nav : StopCalls) (c : TaskContext) (needed : Bool) :
    ((s.finishPause nav c needed).1.context = some (c.moved .paused)
        ∧ ∃ result, (s.finishPause nav c needed).2 = .ok result) ∧
        s.LetsGo nav needed ∧ stopMotionIfCallable nav = .ok () ∧ nav.isRobotStopped = .ok true
      ∨ (s.finishPause nav c needed).1.context = s.context ∧
        (∃ e, (s.finishPause nav c needed).2 = .error e) ∧
        ¬ (s.LetsGo nav needed ∧ stopMotionIfCallable nav = .ok () ∧ nav.isRobotStopped = .ok true) := by
  obtain ⟨hcontext, hcancelled⟩ := cancelNavigationOf_spec s nav needed
  rw [← hcancelled, ← assertRobotStopped_iff]
  unfold finishPause
  dsimp only
  cases (s.cancelNavigationOf nav needed).2 with
  | error e => exact .inr ⟨hcontext, ⟨e, rfl⟩, by simp⟩
  | ok _ =>
    cases stopMotionIfCallable nav with
    | error e => exact .inr ⟨hcontext, ⟨e, rfl⟩, by simp⟩
    | ok _ =>
      cases assertRobotStopped nav with
      | error e => exact .inr ⟨hcontext, ⟨e, rfl⟩, by simp⟩
      | ok _ => exact .inl ⟨⟨rfl, _, rfl⟩, rfl, rfl, rfl⟩

theorem finishCancel_spec (s : TaskControls) (nav : StopCalls) (c : TaskContext) (needed : Bool) :
    ((s.finishCancel nav c needed).1.context = some (c.moved .cancelled)
        ∧ ∃ result, (s.finishCancel nav c needed).2 = .ok result) ∧
        s.LetsGo nav needed ∧ nav.isRobotStopped = .ok true
      ∨ (s.finishCancel nav c needed).1.context = s.context ∧
        (∃ e, (s.finishCancel nav c needed).2 = .error e) ∧
        ¬ (s.LetsGo nav needed ∧ nav.isRobotStopped = .ok true) := by
  obtain ⟨hcontext, hcancelled⟩ := cancelNavigationOf_spec s nav needed
  rw [← hcancelled, ← assertRobotStopped_iff]
  unfold finishCancel
  dsimp only
  cases (s.cancelNavigationOf nav needed).2 with
  | error e => exact .inr ⟨hcontext, ⟨e, rfl⟩, by simp⟩
  | ok _ =>
    cases assertRobotStopped nav with
    | error e => exact .inr ⟨hcontext, ⟨e, rfl⟩, by simp⟩
    | ok _ => exact .inl ⟨⟨rfl, _, rfl⟩, rfl, rfl⟩

theorem not_untouched_of_moved {s' : TaskControls} (h : s.context = some c) {state : ExecutionState}
    (hmoved : s'.context = some (c.moved state)) : ¬ Untouched s s' := by
  intro huntouched
  have hversion := huntouched.stateVersion
  rw [h, hmoved] at hversion
  have hcounted : c.stateVersion + 1 = c.stateVersion := Option.some.inj hversion
  omega

/-! ## Both operations -/

theorem untouched_released_iff (s : TaskControls) :
    Untouched s s.releaseLocalizationPause ↔ s.NoLocalizationPause := by
  constructor
  · intro h
    exact ⟨h.pausedForLocalization.symm, h.pausedLocalizationReason.symm, h.absolutePauseWatch.symm⟩
  · rintro ⟨hpaused, hreason, hwatch⟩
    exact ⟨rfl, rfl, hpaused.symm, hreason.symm, hwatch.symm, rfl, rfl, rfl⟩

theorem pause_atomic_iff (s : TaskControls) (nav : StopCalls) (execution : Uuid) :
    s.FailsAtomically nav execution .pause ↔ s.KeepsOnFailure nav execution .pause := by
  have hreleased := untouched_released_iff s
  have hrefused : ∀ e, s.releaseLocalizationPause.assertExecution execution = .error e →
      (s.FailsAtomically nav execution .pause ↔ s.NoLocalizationPause) := by
    intro e he
    simp only [FailsAtomically, operate, pauseTask, he]
    constructor
    · intro h
      exact hreleased.1 (h e rfl)
    · intro h _ _
      exact hreleased.2 h
  cases hcontext : s.context with
  | none =>
    obtain ⟨e, he⟩ := assertExecution_none (s := s.releaseLocalizationPause) hcontext execution
    simp only [KeepsOnFailure, hcontext]
    exact hrefused e he
  | some c =>
    simp only [KeepsOnFailure, hcontext]
    by_cases hother : c.taskExecutionId ≠ execution
    · obtain ⟨e, he⟩ := assertExecution_other (s := s.releaseLocalizationPause) hcontext hother
      rw [if_pos hother]
      exact hrefused e he
    · have hown := assertExecution_own (s := s.releaseLocalizationPause) hcontext (not_not.1 hother)
      rw [if_neg hother]
      simp only [FailsAtomically, operate, pauseTask, hown]
      split_ifs with hpaused hpausable
      · simp
      · -- from `pausing` on a failure leaves the task there
        have hpausing := finishPause_spec
          ((s.releaseLocalizationPause.clearNavDispatchRetry.suspendObstacleMonitor
            ).cancelArrivalAdjustment.moveTo c .pausing .pausing) nav (c.moved .pausing)
          (decide (c.state ≠ .accepted))
        rcases hpausing with ⟨⟨-, result, hok⟩, hcondition⟩ | ⟨hleft, ⟨e, herror⟩, hnot⟩
        · refine ⟨fun _ => hcondition, ?_⟩
          intro _ e herror
          exact absurd (hok.symm.trans herror) (by simp)
        · constructor
          · intro h
            exact absurd (h e herror) (not_untouched_of_moved hcontext hleft)
          · intro h
            exact absurd h hnot
      · -- the task is refused after its monitors were stopped
        constructor
        · intro h
          have huntouched := h _ rfl
          exact ⟨⟨huntouched.pausedForLocalization.symm, huntouched.pausedLocalizationReason.symm,
              huntouched.absolutePauseWatch.symm⟩,
            huntouched.navDispatchRetryTimer.symm, huntouched.obstacleMonitor.symm,
            huntouched.cruiseWatch.symm⟩
        · rintro ⟨⟨hfor, hreason, hwatch⟩, hretry, hmonitor, hcruise⟩ _ _
          exact ⟨rfl, rfl, hfor.symm, hreason.symm, hwatch.symm, hretry.symm, hmonitor.symm,
            hcruise.symm⟩

theorem cancel_atomic_iff (s : TaskControls) (nav : StopCalls) (execution : Uuid) :
    s.FailsAtomically nav execution .cancel ↔ s.KeepsOnFailure nav execution .cancel := by
  have hkept : Untouched s s := ⟨rfl, rfl, rfl, rfl, rfl, rfl, rfl, rfl⟩
  have hstopped : Untouched s s.clearNavDispatchRetry.stopObstacleMonitor ↔ s.Unwatched := by
    constructor
    · intro h
      exact ⟨h.navDispatchRetryTimer.symm, h.obstacleMonitor.symm, h.cruiseWatch.symm⟩
    · rintro ⟨hretry, hmonitor, hcruise⟩
      exact ⟨rfl, rfl, rfl, rfl, rfl, hretry.symm, hmonitor.symm, hcruise.symm⟩
  have hrefused : ∀ e, s.assertExecution execution = .error e →
      s.FailsAtomically nav execution .cancel := by
    intro e he
    simp only [FailsAtomically, operate, cancelTask, he]
    exact fun _ _ => hkept
  cases hcontext : s.context with
  | none =>
    obtain ⟨e, he⟩ := assertExecution_none hcontext execution
    simp only [KeepsOnFailure, hcontext, iff_true]
    exact hrefused e he
  | some c =>
    simp only [KeepsOnFailure, hcontext]
    by_cases hother : c.taskExecutionId ≠ execution
    · obtain ⟨e, he⟩ := assertExecution_other hcontext hother
      rw [if_pos hother, iff_true]
      exact hrefused e he
    · have hown := assertExecution_own hcontext (not_not.1 hother)
      rw [if_neg hother]
      simp only [FailsAtomically, operate, cancelTask, hown]
      split_ifs with hended hcancellable
      · -- only `stop_motion` may raise for a task that has ended
        cases nav.stopMotion with
        | none => simp [hstopped]
        | some answer =>
          cases answer with
          | error exception => simp [hstopped]
          | ok _ => simp
      · have hcancelling := finishCancel_spec
          ({ s.clearNavDispatchRetry.stopObstacleMonitor with
            activeCorrection := none }.moveTo c .cancelling .cancelling) nav (c.moved .cancelling)
          (decide (c.state ≠ .paused))
        rcases hcancelling with ⟨⟨-, result, hok⟩, hcondition⟩ | ⟨hleft, ⟨e, herror⟩, hnot⟩
        · refine ⟨fun _ => hcondition, ?_⟩
          intro _ e herror
          exact absurd (hok.symm.trans herror) (by simp)
        · constructor
          · intro h
            exact absurd (h e herror) (not_untouched_of_moved hcontext hleft)
          · intro h
            exact absurd h hnot
      · simp [hstopped]

/-- **Pause and cancel fail atomically** exactly under the condition. -/
theorem failsAtomically_iff (s : TaskControls) (nav : StopCalls) (execution : Uuid)
    (operation : Operation) :
    s.FailsAtomically nav execution operation ↔ s.KeepsOnFailure nav execution operation := by
  cases operation with
  | pause => exact pause_atomic_iff s nav execution
  | cancel => exact cancel_atomic_iff s nav execution

/-! ## The operations on the context alone -/

/-- What the operation finds out, as the abstract one takes it. -/
def stopOutcome (s : TaskControls) (nav : StopCalls) (operation : Operation) : StopOutcome where
  waitingAtWaypoint := s.waitingWaypointIndex.isSome
  navigationCancelled := decide (cancelCall nav = .ok true
    ∧ (nav.cancelNavigation.isSome = true → s.btRecoveryLease = true →
      stopMotionIfCallable nav = .ok ()))
  robotStopped := decide (nav.isRobotStopped = .ok true
    ∧ (operation = .pause → stopMotionIfCallable nav = .ok ()))

theorem letsGo_iff (s : TaskControls) (nav : StopCalls) (needed : Bool) (operation : Operation) :
    s.LetsGo nav needed ↔
      ¬ (needed = true ∧ (s.stopOutcome nav operation).waitingAtWaypoint = false
        ∧ (s.stopOutcome nav operation).navigationCancelled = false) := by
  simp only [LetsGo, stopOutcome, Option.isSome_eq_false_iff, Option.isNone_iff_eq_none,
    decide_eq_false_iff_not]
  tauto

theorem pauseTask_context (s : TaskControls) (nav : StopCalls) (execution : Uuid) :
    (s.pauseTask nav execution).1.context =
      (TaskExecutor.pauseTask s.context (some execution) (s.stopOutcome nav .pause)).context := by
  cases hcontext : s.context with
  | none =>
    obtain ⟨e, he⟩ := assertExecution_none (s := s.releaseLocalizationPause) hcontext execution
    simp only [pauseTask, he, TaskExecutor.pauseTask, TaskExecutor.onExecution]
    exact hcontext
  | some c =>
    simp only [TaskExecutor.pauseTask, TaskExecutor.onExecution, Option.some.injEq]
    by_cases hother : c.taskExecutionId ≠ execution
    · obtain ⟨e, he⟩ := assertExecution_other (s := s.releaseLocalizationPause) hcontext hother
      rw [if_neg hother]
      simp only [pauseTask, he]
      exact hcontext
    · rw [not_not] at hother
      have hown := assertExecution_own (s := s.releaseLocalizationPause) hcontext hother
      rw [if_pos hother]
      simp only [pauseTask, hown]
      have hpausing := finishPause_spec
        ((s.releaseLocalizationPause.clearNavDispatchRetry.suspendObstacleMonitor
          ).cancelArrivalAdjustment.moveTo c .pausing .pausing) nav (c.moved .pausing)
        (decide (c.state ≠ .accepted))
      have hletsGo := letsGo_iff s nav (decide (c.state ≠ .accepted)) .pause
      rw [decide_eq_true_iff] at hletsGo
      split_ifs with hpaused hpausable hkept hstopped
      · exact hcontext
      · -- the navigation keeps the goal
        rcases hpausing with ⟨-, hcondition⟩ | ⟨hleft, -⟩
        · exact absurd hkept (hletsGo.1 hcondition.1)
        · exact hleft
      · rcases hpausing with ⟨-, -, hstop, hrobot⟩ | ⟨hleft, -⟩
        · exact absurd hstopped (by simp [stopOutcome, hstop, hrobot])
        · exact hleft
      · rcases hpausing with ⟨⟨hdone, -⟩, -⟩ | ⟨-, -, hnot⟩
        · exact hdone
        · simp only [stopOutcome, decide_eq_false_iff_not, not_not] at hstopped
          exact absurd ⟨hletsGo.2 hkept, hstopped.2 trivial, hstopped.1⟩ hnot
      · exact hcontext

theorem cancelTask_context (s : TaskControls) (nav : StopCalls) (execution : Uuid) :
    (s.cancelTask nav execution).1.context =
      (TaskExecutor.cancelTask s.context (some execution) (s.stopOutcome nav .cancel)).context := by
  cases hcontext : s.context with
  | none =>
    obtain ⟨e, he⟩ := assertExecution_none hcontext execution
    simp only [cancelTask, he, TaskExecutor.cancelTask, TaskExecutor.onExecution]
    exact hcontext
  | some c =>
    simp only [TaskExecutor.cancelTask, TaskExecutor.onExecution, Option.some.injEq]
    by_cases hother : c.taskExecutionId ≠ execution
    · obtain ⟨e, he⟩ := assertExecution_other hcontext hother
      rw [if_neg hother]
      simp only [cancelTask, he]
      exact hcontext
    · rw [not_not] at hother
      have hown := assertExecution_own hcontext hother
      rw [if_pos hother]
      simp only [cancelTask, hown]
      have hcancelling := finishCancel_spec
        ({ s.clearNavDispatchRetry.stopObstacleMonitor with
          activeCorrection := none }.moveTo c .cancelling .cancelling) nav (c.moved .cancelling)
        (decide (c.state ≠ .paused))
      have hletsGo := letsGo_iff s nav (decide (c.state ≠ .paused)) .cancel
      rw [decide_eq_true_iff] at hletsGo
      split_ifs with hended hcancellable hkept hstopped
      · cases nav.stopMotion with
        | none => exact hcontext
        | some answer => cases answer <;> exact hcontext
      · rcases hcancelling with ⟨-, hcondition⟩ | ⟨hleft, -⟩
        · exact absurd hkept (hletsGo.1 hcondition.1)
        · exact hleft
      · rcases hcancelling with ⟨-, -, hrobot⟩ | ⟨hleft, -⟩
        · exact absurd hstopped (by simp [stopOutcome, hrobot])
        · exact hleft
      · rcases hcancelling with ⟨⟨hdone, -⟩, -⟩ | ⟨-, -, hnot⟩
        · exact hdone
        · simp only [stopOutcome, decide_eq_false_iff_not, not_not] at hstopped
          exact absurd ⟨hletsGo.2 hkept, hstopped.1⟩ hnot
      · exact hcontext

/-! ## A failed pause -/

/-- A task on its way to the second of two waypoints. -/
def drivingTask : TaskControls where
  context := some
    { taskExecutionId := 7
      state := .running
      stateVersion := 5
      route :=
        { waypoints :=
            [⟨"gate", 0, 1, "gate", .finite 0, .finite 0, .finite 0, .ndt, .stopAndConfirm, []⟩,
              ⟨"yard", 1, 2, "yard", .finite 9, .finite 0, .finite 0, .ndt, .stopAndConfirm, []⟩]
          initialWaypointIndex := 0 }
      currentWaypointIndex := 1
      startCommandId := 9
      loopExecution := false
      loopSessionId := none
      docking := {}
      roundNumber := 1
      loopTotal := 1
      loopBaseWaypoints := [] }
  obstacleMonitor := true

/-- Nav2 refuses to cancel the goal, and the task stays in `pausing`. -/
theorem not_failsAtomically_refusedCancel :
    ¬ ∀ (s : TaskControls) (nav : StopCalls) (execution : Uuid) (operation : Operation),
      s.FailsAtomically nav execution operation := by
  intro h
  have huntouched := h drivingTask { cancelNavigation := some (.ok false) } 7 .pause _ rfl
  exact absurd huntouched.state (by decide)

end TaskControls

end RoamerX
