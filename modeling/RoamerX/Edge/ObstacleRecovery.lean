import RoamerX.Edge.ObstacleMonitor
import RoamerX.Lib.Run

set_option autoImplicit false

/-! # Recovering from an obstacle

What the threads of `task_executor.py` do about an obstacle besides evaluating: the bounded recovery, the safe
observation, going on, and what becomes of the results of Nav2. What happens under one hold of the lock, or between
two calls into the navigation, is one step, and the threads take turns in any order. A dispatch that a step asks for
is a step of its own, as it may come later or not at all. -/

namespace RoamerX

namespace ObstacleMonitor

open RecoveryArbitration

/-! ## Leases -/

def emitSafeHold (s : Executor) : Executor :=
  match s.context with
  | none => s
  | some context =>
    if context.state.terminal || decide (context.state = .paused) then s
    else { s with context := some { context with state := .paused } }

/-- When `acquire_recovery` looks at the clock. -/
structure AcquireClock where
  before : ℚ
  readings : Readings
  after : ℚ
  deriving DecidableEq

def acquireRecovery (s : Executor) (clock : AcquireClock) (owner reason : String) (distance : ℚ) :
    Option RecoveryLease × Executor :=
  if decide (owner = "BT_NAVIGATOR") && s.episodeId.isSome then (none, s)
  else if s.recoveryArbiter.budget.exhausted clock.before then (none, emitSafeHold s)
  else
    let (lease, arbiter) := s.recoveryArbiter.acquire clock.readings owner reason distance
    let s := { s with recoveryArbiter := arbiter }
    if lease.isNone && arbiter.budget.exhausted clock.after then (none, emitSafeHold s) else (lease, s)

/-- `release_recovery`; no lease is `None`. -/
def releaseRecovery (s : Executor) (lease : Option RecoveryLease) : Executor :=
  { s with recoveryArbiter := (s.recoveryArbiter.release lease).2 }

theorem emitSafeHold_eq (s : Executor) :
    ∃ context, context.map Context.key = s.waypointKey ∧ emitSafeHold s = { s with context := context } := by
  unfold emitSafeHold Executor.waypointKey
  split
  · exact ⟨s.context, rfl, rfl⟩
  next context hcontext =>
  split
  · exact ⟨s.context, rfl, rfl⟩
  · exact ⟨some { context with state := .paused }, by rw [hcontext]; rfl, rfl⟩

theorem acquire_answer (arbiter : RecoveryArbiter) (t : Readings) (owner reason : String) (distance : ℚ) :
    arbiter.acquire t owner reason distance = (none, arbiter) ∨
      arbiter.lease = none ∧ ∃ budget, arbiter.acquire t owner reason distance =
        (some ⟨owner, arbiter.generation + 1, reason, t.leased⟩,
          ⟨arbiter.generation + 1, some ⟨owner, arbiter.generation + 1, reason, t.leased⟩, budget⟩) := by
  unfold RecoveryArbiter.acquire
  split
  · exact Or.inl rfl
  next hfree =>
  split
  · exact Or.inl rfl
  · exact Or.inr ⟨Option.not_isSome_iff_eq_none.mp hfree, _, rfl⟩

theorem acquireRecovery_cases (s : Executor) (clock : AcquireClock) (owner reason : String) (distance : ℚ) :
    (∃ context, context.map Context.key = s.waypointKey ∧
      acquireRecovery s clock owner reason distance = (none, { s with context := context })) ∨
      ∃ lease budget, s.recoveryArbiter.lease = none ∧ lease.owner = owner ∧
        lease.generation = s.recoveryArbiter.generation + 1 ∧
        acquireRecovery s clock owner reason distance = (some lease, { s with
          recoveryArbiter := ⟨s.recoveryArbiter.generation + 1, some lease, budget⟩ }) := by
  unfold acquireRecovery
  split
  · exact Or.inl ⟨s.context, rfl, rfl⟩
  split
  · obtain ⟨context, hkey, hcontext⟩ := emitSafeHold_eq s
    exact Or.inl ⟨context, hkey, by rw [hcontext]⟩
  rcases acquire_answer s.recoveryArbiter clock.readings owner reason distance with hrefused | ⟨hfree, budget, hgiven⟩
  · rw [hrefused]
    dsimp only
    split
    · obtain ⟨context, hkey, hcontext⟩ := emitSafeHold_eq s
      exact Or.inl ⟨context, hkey, by rw [hcontext]⟩
    · exact Or.inl ⟨s.context, rfl, rfl⟩
  · rw [hgiven]
    exact Or.inr ⟨_, budget, hfree, rfl, rfl, rfl⟩

/-! ## The bounded recovery -/

/-- `_perform_bounded_obstacle_recovery` under its first hold of the lock. -/
def beginRecovery (settings : Settings) (s : Executor) (thread attempt ticket : ℕ) (observation : Observation)
    (reverseClear leftClear rightClear : Bool) : Executor :=
  match s.context with
  | none => s.setThread thread .idle
  | some context =>
    if !s.running || s.recoveryActive then s.setThread thread .idle
    else
      { s with recoveryActive := true }.setThread thread <| .recovering
        { attempt := attempt
          ticket := ticket
          executionId := context.key.taskExecutionId
          side := selectRecoveryDirection settings observation reverseClear leftClear rightClear
          phase := .selected
          cancelRequested := false
          navigationGoalCancelled := false
          stopConfirmed := false
          lease := none }

def invalidateNavResults (s : Executor) : Executor := { s with navGoalGeneration := s.navGoalGeneration + 1 }

/-- `cancel_navigation` is called. -/
def requestCancel (s : Executor) : Executor := { s with cancelRequests := s.cancelRequests ++ s.goal.toList }

/-- How a call into the navigation ends. -/
inductive Answer
  | yes | no | raised
  deriving DecidableEq

/-- The next call of a recovery, up to the `finally` block. -/
def continueRecovery (settings : Settings) (s : Executor) (thread : ℕ) (recovery : Recovery) (answer : Answer)
    (clock : AcquireClock) : Executor :=
  let next (s : Executor) (recovery : Recovery) : Executor := s.setThread thread (.recovering recovery)
  match recovery.phase with
  | .selected =>
    if recovery.side.isNone then next s { recovery with phase := .ended }
    else
      let s := invalidateNavResults s
      let s := { s with expectedRecoveryCancels := s.expectedRecoveryCancels + 1 }
      next (requestCancel s) { recovery with
        phase := .cancelling
        cancelRequested := true }
  | .cancelling =>
    match answer with
    | .yes => next s { recovery with
        phase := .stopping
        navigationGoalCancelled := true }
    | .no =>
      next { s with expectedRecoveryCancels := s.expectedRecoveryCancels - 1 } { recovery with phase := .ended }
    | .raised => next s { recovery with phase := .ended }
  | .stopping =>
    -- `is_robot_stopped`
    match answer with
    | .yes => next s { recovery with
        phase := .acquiring
        stopConfirmed := true }
    | _ => next s { recovery with phase := .ended }
  | .acquiring =>
    match acquireRecovery s clock "EDGE_OBSTACLE" ("physical_obstacle_attempt_" ++ toString recovery.attempt)
        (settings.reverseDistance + settings.lateralDistance) with
    | (none, s) => next s { recovery with phase := .ended }
    | (some lease, s) =>
      match answer with
      | .raised => next s { recovery with
          phase := .ended
          lease := some lease }
      | _ => next { s with motions := s.motions ++ [recovery.ticket] } { recovery with
          phase := .moving
          lease := some lease }
  | .moving => next s { recovery with phase := .ended }
  | .ended => s

/-- What the `finally` block does while the task still runs. -/
def reportRecovery (hypot : ℚ → ℚ → ℚ) (s : Executor) (attempt : ℕ) (now : ℚ) (pose : Option (ℚ × ℚ)) : Executor :=
  let s := s.emitStage now .recoveryAttempt attempt ""
  match pose with
  | some pose =>
    { s with
      progressAnchor := some pose
      progressAnchorAt := some now
      targetDistanceAnchor := distanceToCurrentWaypoint hypot s pose }
  | none => { s with progressAnchorAt := some now }

/-- The `finally` block of `_perform_bounded_obstacle_recovery`. -/
def finishRecovery (hypot : ℚ → ℚ → ℚ) (s : Executor) (thread : ℕ) (recovery : Recovery) (now : ℚ)
    (pose : Option (ℚ × ℚ)) : Executor :=
  let s := if recovery.lease.isSome then releaseRecovery s recovery.lease else s
  let s := { s with recoveryActive := false }
  let stillActive : Bool := s.running && s.context.any fun context =>
    decide (context.key.taskExecutionId = recovery.executionId)
  (if stillActive then reportRecovery hypot s recovery.attempt now pose else s).setThread thread .idle

/-! ## Safe observation, and going on -/

/-- `_enter_obstacle_safe_observing` under its first hold of the lock. -/
def enterSafeObserving (s : Executor) (thread : ℕ) (now : ℚ) : Executor :=
  if s.context.isNone || s.episodeId.isNone || s.leaveRouteAnnounced then s.setThread thread .idle
  else
    let attempts := s.recoveryAttempts
    let s := { s with
      leaveRouteAnnounced := true
      clearStartedAt := none }
    let s := (s.emitStage now .dissuasion attempts "").emitStage now .safeObserving attempts ""
    { s with expectedRecoveryCancels := s.expectedRecoveryCancels + 1 }.setThread thread .announced

/-- The rest of `_enter_obstacle_safe_observing`, once its cancel has an answer. -/
def leaveSafeObserving (s : Executor) (thread : ℕ) (cancelled : Bool) : Executor :=
  let s := if cancelled then s else { s with expectedRecoveryCancels := s.expectedRecoveryCancels - 1 }
  s.setThread thread .idle

def resumeAfterObstacle (s : Executor) (thread : ℕ) (now : ℚ) (automatic : Bool) : Executor :=
  let s := s.setThread thread .idle
  if !s.running || s.episodeId.isNone then s
  else
    let reason := if automatic then "automatic_clear" else "manual_continue"
    (s.emitStage now .resumed s.recoveryAttempts reason).resetEpisode false

/-- `resume_forward` under its lock, with the error code where it raises. -/
def resumeForward (settings : Settings) (s : Executor) (thread : ℕ) (now : ℚ) (executionId : ℕ) (stopped : Bool)
    (observation : Observation) : Except String Executor × Executor :=
  let refuse (code : String) (s : Executor) : Except String Executor × Executor := (.error code, s)
  match s.context with
  | none => refuse "TASK_CONTEXT_MISMATCH" s
  | some context =>
    if context.key.taskExecutionId ≠ executionId then refuse "TASK_CONTEXT_MISMATCH" s
    else if !s.running then refuse "INVALID_TASK_STATE" s
    else if s.stage ≠ some .safeObserving || s.episodeId.isNone then refuse "OBSTACLE_NOT_OBSERVING" s
    else if !stopped then refuse "STOP_NOT_CONFIRMED" s
    else if !localizationAllows observation then refuse "LOCALIZATION_NOT_NORMAL" s
    else
      let s := s.record now (obstacleIsClear settings observation)
      if !obstacleIsClear settings observation then refuse "OBSTACLE_NOT_CLEAR" { s with clearStartedAt := none }
      else
        let clearFor := (s.clearStartedAt.map fun since => now - since).getD 0
        if clearFor < settings.obstacleClearSeconds then
          refuse "OBSTACLE_CLEAR_NOT_STABLE" { s with clearStartedAt := s.clearStartedAt <|> some now }
        else
          let s := s.emitStage now .clearConfirmed s.recoveryAttempts "manual_continue_check"
          let s := s.setThread thread (.toResume false)
          (.ok s, s)

section Apart

variable {settings : Settings} {hypot : ℚ → ℚ → ℚ} (s : Executor) (thread : ℕ) (now : ℚ)

theorem apart_resumeAfterObstacle (automatic : Bool) : Apart thread s (resumeAfterObstacle s thread now automatic) := by
  unfold resumeAfterObstacle
  dsimp only
  split
  · exact apart_setThread s thread .idle
  · exact ((apart_setThread s thread .idle).trans (apart_emitStage _ _ _ _ _ _)).trans (apart_resetEpisode _ _ _)

theorem apart_resumeForward (executionId : ℕ) (stopped : Bool) (observation : Observation) :
    Apart thread s (resumeForward settings s thread now executionId stopped observation).2 := by
  have hrecord : Apart thread s (s.record now (obstacleIsClear settings observation)) :=
    ⟨rfl, rfl, rfl, rfl, rfl, rfl, rfl, rfl, id, fun _ _ => rfl⟩
  unfold resumeForward
  dsimp only
  split
  · exact Apart.refl thread s
  split
  · exact Apart.refl thread s
  split
  · exact Apart.refl thread s
  split
  · exact Apart.refl thread s
  split
  · exact Apart.refl thread s
  split
  · exact Apart.refl thread s
  split
  · exact ⟨rfl, rfl, rfl, rfl, rfl, rfl, rfl, rfl, id, fun _ _ => rfl⟩
  split
  · exact ⟨rfl, rfl, rfl, rfl, rfl, rfl, rfl, rfl, id, fun _ _ => rfl⟩
  · exact (hrecord.trans (apart_emitStage _ _ _ _ _ _)).trans (apart_setThread _ _ _)

theorem apart_reportRecovery (attempt : ℕ) (pose : Option (ℚ × ℚ)) :
    Apart thread s (reportRecovery hypot s attempt now pose) := by
  have hemitted := apart_emitStage s thread now .recoveryAttempt attempt ""
  unfold reportRecovery
  dsimp only
  split
  · exact hemitted.trans ⟨rfl, rfl, rfl, rfl, rfl, rfl, rfl, rfl, id, fun _ _ => rfl⟩
  · exact hemitted.trans ⟨rfl, rfl, rfl, rfl, rfl, rfl, rfl, rfl, id, fun _ _ => rfl⟩

end Apart

/-! ## Results of Nav2 -/

inductive NavStatus
  | succeeded | cancelled | failed
  deriving DecidableEq

/-- What `on_navigation_result` does about a result. -/
inductive Reaction
  | ignored
  /-- `_send_from` the current waypoint. -/
  | redispatched
  /-- `_resume_post_arrival` -/
  | postArrivalResumed
  /-- The branches for a success or a failure, whose effects follow as steps of their own, and for a cancel while the
  task is about to run. -/
  | other
  deriving DecidableEq

/-- What is under way at the current waypoint: its processing, and a thread that adjusts or turns the robot. -/
structure PostArrival where
  active : Bool
  threadAlive : Bool
  deriving DecidableEq

def onNavigationResult (s : Executor) (status : NavStatus) (generation : Option ℕ) (postArrival : PostArrival) :
    Reaction × Executor :=
  let lowered := { s with expectedRecoveryCancels := s.expectedRecoveryCancels - 1 }
  if generation.any fun generation => decide (generation ≠ s.navGoalGeneration) then
    (.ignored, if status = .cancelled then lowered else s)
  else
    match s.context with
    | none => (.ignored, s)
    | some context =>
      if context.state.terminal || decide (context.state ∈ [.pausing, .cancelling, .paused]) then (.ignored, s)
      else
        match status with
        | .succeeded | .failed => (.other, s)
        | .cancelled =>
          if 0 < s.expectedRecoveryCancels then (.ignored, lowered)
          else if s.recoveryActive then (.ignored, s)
          else if context.state = .running then
            if postArrival.active then
              if postArrival.threadAlive then (.ignored, s) else (.postArrivalResumed, s)
            else (.redispatched, s)
          else (.other, s.resetEpisode true)

theorem onNavigationResult_cases (s : Executor) (status : NavStatus) (generation : Option ℕ) (postArrival : PostArrival) :
    (onNavigationResult s status generation postArrival).2 = s ∨
      (onNavigationResult s status generation postArrival).2 =
        { s with expectedRecoveryCancels := s.expectedRecoveryCancels - 1 } ∨
      (onNavigationResult s status generation postArrival).2 = s.resetEpisode true := by
  unfold onNavigationResult
  dsimp only
  split
  · split
    · exact Or.inr (Or.inl rfl)
    · exact Or.inl rfl
  split
  · exact Or.inl rfl
  split
  · exact Or.inl rfl
  split
  · exact Or.inl rfl
  · exact Or.inl rfl
  split
  · exact Or.inr (Or.inl rfl)
  split
  · exact Or.inl rfl
  split
  · split
    · split
      · exact Or.inl rfl
      · exact Or.inl rfl
    · exact Or.inl rfl
  · exact Or.inr (Or.inr rfl)

/-- A dispatch of the current waypoint. -/
def dispatch (settings : Settings) (s : Executor) (accepted : Bool) : Executor :=
  match s.context with
  | none => s
  | some context =>
    -- `_bind_nav_result`
    let s := invalidateNavResults s
    if !accepted then s
    else
      let s := { s with
        goal := some s.navGoalGeneration
        context := some { context with state := .running } }
      if settings.enabled then s.syncBudget else s

/-! ## Steps -/

inductive Event
  /-- The monitor, or the timer that tries again. -/
  | evaluate (thread : ℕ) (now : ℚ) (observation : Observation) (pose : Option (ℚ × ℚ)) (episode : ℕ)
  | resumeForward (thread : ℕ) (now : ℚ) (executionId : ℕ) (stopped : Bool) (observation : Observation)
  /-- A thread goes on with what it is about to do. -/
  | resumeAfter (thread : ℕ) (now : ℚ)
  | enterSafeObserving (thread : ℕ) (now : ℚ)
  | requestObservingCancel (thread : ℕ)
  | observingCancelled (thread : ℕ) (cancelled : Bool)
  | beginRecovery (thread : ℕ) (observation : Observation) (reverseClear leftClear rightClear : Bool)
  | continueRecovery (thread : ℕ) (answer : Answer) (clock : AcquireClock)
  | finishRecovery (thread : ℕ) (now : ℚ) (pose : Option (ℚ × ℚ))
  | navigationResult (status : NavStatus) (generation : Option ℕ) (postArrival : PostArrival)
  | dispatch (accepted : Bool)
  /-- The task is paused, resumed and so on. -/
  | taskState (state : TaskState)
  /-- The route goes on. -/
  | moveOn (key : WaypointKey) (target : Option (ℚ × ℚ))
  /-- `_stop_obstacle_monitor` -/
  | stopMonitor
  /-- `_cancel_active_navigation` -/
  | cancelNavigation
  | invalidateNavResults
  /-- Another recovery takes a lease, or gives one back. -/
  | otherAcquire (clock : AcquireClock) (owner reason : String) (distance : ℚ)
  | otherRelease (lease : RecoveryLease)

/-- The thread that a step is a step of. -/
def Event.thread : Event → Option ℕ
  | .evaluate thread .. | .resumeForward thread .. | .resumeAfter thread .. | .enterSafeObserving thread ..
  | .requestObservingCancel thread | .observingCancelled thread .. | .beginRecovery thread ..
  | .continueRecovery thread .. | .finishRecovery thread .. => some thread
  | _ => none

section Steps

variable (settings : Settings) (hypot : ℚ → ℚ → ℚ)

def step (s : Executor) : Event → Executor
  | .evaluate thread now observation pose episode =>
    match s.threads thread with
    | .idle => evaluate settings hypot s thread now observation pose episode
    | _ => s
  | .resumeForward thread now executionId stopped observation =>
    match s.threads thread with
    | .idle => (resumeForward settings s thread now executionId stopped observation).2
    | _ => s
  | .resumeAfter thread now =>
    match s.threads thread with
    | .toResume automatic => resumeAfterObstacle s thread now automatic
    | _ => s
  | .enterSafeObserving thread now =>
    match s.threads thread with
    | .toObserve => enterSafeObserving s thread now
    | _ => s
  | .requestObservingCancel thread =>
    match s.threads thread with
    | .announced => (requestCancel s).setThread thread .observing
    | _ => s
  | .observingCancelled thread cancelled =>
    match s.threads thread with
    | .observing => leaveSafeObserving s thread cancelled
    | _ => s
  | .beginRecovery thread observation reverseClear leftClear rightClear =>
    match s.threads thread with
    | .toRecover attempt ticket =>
      beginRecovery settings s thread attempt ticket observation reverseClear leftClear rightClear
    | _ => s
  | .continueRecovery thread answer clock =>
    match s.threads thread with
    | .recovering recovery => continueRecovery settings s thread recovery answer clock
    | _ => s
  | .finishRecovery thread now pose =>
    match s.threads thread with
    | .recovering recovery =>
      if recovery.phase = .ended then finishRecovery hypot s thread recovery now pose else s
    | _ => s
  | .navigationResult status generation postArrival => (onNavigationResult s status generation postArrival).2
  | .dispatch accepted => dispatch settings s accepted
  | .taskState state => { s with context := s.context.map fun context => { context with state := state } }
  | .moveOn key target => { s with context := s.context.map fun context =>
      { context with
        key := key
        target := target } }
  | .stopMonitor => s.resetEpisode true
  | .cancelNavigation => requestCancel (invalidateNavResults s)
  | .invalidateNavResults => invalidateNavResults s
  | .otherAcquire clock owner reason distance =>
    match acquireRecovery s clock owner reason distance with
    | (none, s) => s
    | (some lease, s) => { s with otherLeases := s.otherLeases ++ [lease] }
  | .otherRelease lease =>
    if lease ∈ s.otherLeases then releaseRecovery s (some lease) else s

end Steps

/-! ## The other threads -/

section Threads

variable {settings : Settings} {hypot : ℚ → ℚ → ℚ} (s : Executor) {thread other : ℕ}

theorem threads_setThread_of_ne (hother : other ≠ thread) (activity : Activity) :
    (s.setThread thread activity).threads other = s.threads other := Function.update_of_ne hother _ _

theorem threads_acquireRecovery (clock : AcquireClock) (owner reason : String) (distance : ℚ) :
    (acquireRecovery s clock owner reason distance).2.threads = s.threads := by
  rcases acquireRecovery_cases s clock owner reason distance with ⟨context, -, heq⟩ | ⟨lease, budget, -, -, -, heq⟩
  · rw [heq]
  · rw [heq]

theorem threads_beginRecovery (hother : other ≠ thread) (attempt ticket : ℕ) (observation : Observation)
    (reverseClear leftClear rightClear : Bool) :
    (beginRecovery settings s thread attempt ticket observation reverseClear leftClear rightClear).threads other =
      s.threads other := by
  unfold beginRecovery
  split
  · exact threads_setThread_of_ne s hother _
  split
  · exact threads_setThread_of_ne s hother _
  · exact threads_setThread_of_ne _ hother _

theorem threads_continueRecovery (hother : other ≠ thread) (recovery : Recovery) (answer : Answer) (clock : AcquireClock) :
    (continueRecovery settings s thread recovery answer clock).threads other = s.threads other := by
  have hacquired := threads_acquireRecovery s clock "EDGE_OBSTACLE"
    ("physical_obstacle_attempt_" ++ toString recovery.attempt) (settings.reverseDistance + settings.lateralDistance)
  unfold continueRecovery
  dsimp only
  split
  · split
    · exact threads_setThread_of_ne s hother _
    · exact threads_setThread_of_ne _ hother _
  · split
    · exact threads_setThread_of_ne s hother _
    · exact threads_setThread_of_ne _ hother _
    · exact threads_setThread_of_ne s hother _
  · split
    · exact threads_setThread_of_ne s hother _
    · exact threads_setThread_of_ne s hother _
  · split
    · next s' heq =>
      rw [heq] at hacquired
      exact (threads_setThread_of_ne _ hother _).trans (congrFun hacquired other)
    · next lease s' heq =>
      rw [heq] at hacquired
      split
      · exact (threads_setThread_of_ne _ hother _).trans (congrFun hacquired other)
      · exact (threads_setThread_of_ne _ hother _).trans (congrFun hacquired other)
  · exact threads_setThread_of_ne s hother _
  · rfl

theorem threads_finishRecovery (hother : other ≠ thread) (recovery : Recovery) (now : ℚ) (pose : Option (ℚ × ℚ)) :
    (finishRecovery hypot s thread recovery now pose).threads other = s.threads other := by
  unfold finishRecovery
  extract_lets released inactive stillActive
  have hinactive : inactive.threads = s.threads := by
    unfold inactive released
    split <;> rfl
  rw [threads_setThread_of_ne _ hother]
  split
  · rw [(apart_reportRecovery inactive thread now recovery.attempt pose).threads other hother, hinactive]
  · rw [hinactive]

theorem threads_enterSafeObserving (hother : other ≠ thread) (now : ℚ) :
    (enterSafeObserving s thread now).threads other = s.threads other := by
  unfold enterSafeObserving
  split
  · exact threads_setThread_of_ne s hother _
  · dsimp only
    rw [threads_setThread_of_ne _ hother]
    simp only [Executor.threads_emitStage]

theorem threads_leaveSafeObserving (hother : other ≠ thread) (cancelled : Bool) :
    (leaveSafeObserving s thread cancelled).threads other = s.threads other := by
  unfold leaveSafeObserving
  dsimp only
  rw [threads_setThread_of_ne _ hother]
  split <;> rfl

theorem threads_dispatch (accepted : Bool) : (dispatch settings s accepted).threads = s.threads := by
  unfold dispatch
  split
  · rfl
  dsimp only
  split
  · rfl
  split
  · rw [Executor.threads_syncBudget]
    rfl
  · rfl

theorem threads_step (event : Event) (hothers : event.thread ≠ some other) :
    (step settings hypot s event).threads other = s.threads other := by
  cases event with
  | evaluate thread now observation pose episode =>
    have hother : other ≠ thread := fun heq => hothers (congrArg some heq.symm)
    simp only [step]
    split
    · exact (apart_evaluate s thread now observation pose episode).threads other hother
    · rfl
  | resumeForward thread now executionId stopped observation =>
    have hother : other ≠ thread := fun heq => hothers (congrArg some heq.symm)
    simp only [step]
    split
    · exact (apart_resumeForward s thread now executionId stopped observation).threads other hother
    · rfl
  | resumeAfter thread now =>
    have hother : other ≠ thread := fun heq => hothers (congrArg some heq.symm)
    simp only [step]
    split
    · exact (apart_resumeAfterObstacle s thread now _).threads other hother
    · rfl
  | enterSafeObserving thread now =>
    have hother : other ≠ thread := fun heq => hothers (congrArg some heq.symm)
    simp only [step]
    split
    · exact threads_enterSafeObserving s hother now
    · rfl
  | requestObservingCancel thread =>
    have hother : other ≠ thread := fun heq => hothers (congrArg some heq.symm)
    simp only [step]
    split
    · exact threads_setThread_of_ne _ hother _
    · rfl
  | observingCancelled thread cancelled =>
    have hother : other ≠ thread := fun heq => hothers (congrArg some heq.symm)
    simp only [step]
    split
    · exact threads_leaveSafeObserving s hother cancelled
    · rfl
  | beginRecovery thread observation reverseClear leftClear rightClear =>
    have hother : other ≠ thread := fun heq => hothers (congrArg some heq.symm)
    simp only [step]
    split
    · exact threads_beginRecovery s hother _ _ observation reverseClear leftClear rightClear
    · rfl
  | continueRecovery thread answer clock =>
    have hother : other ≠ thread := fun heq => hothers (congrArg some heq.symm)
    simp only [step]
    split
    · exact threads_continueRecovery s hother _ answer clock
    · rfl
  | finishRecovery thread now pose =>
    have hother : other ≠ thread := fun heq => hothers (congrArg some heq.symm)
    simp only [step]
    split
    · split
      · exact threads_finishRecovery s hother _ now pose
      · rfl
    · rfl
  | navigationResult status generation postArrival =>
    simp only [step]
    rcases onNavigationResult_cases s status generation postArrival with heq | heq | heq
    · rw [heq]
    · rw [heq]
    · rw [heq]
      rfl
  | dispatch accepted => exact congrFun (threads_dispatch s accepted) other
  | otherAcquire clock owner reason distance =>
    have hacquired := threads_acquireRecovery s clock owner reason distance
    simp only [step]
    split
    · next s' heq =>
      rw [heq] at hacquired
      exact congrFun hacquired other
    · next lease s' heq =>
      rw [heq] at hacquired
      exact congrFun hacquired other
  | otherRelease lease =>
    simp only [step]
    split <;> rfl
  | taskState state | moveOn key target | stopMonitor | cancelNavigation | invalidateNavResults => rfl

theorem threads_exec (events : List Event) (hothers : ∀ event ∈ events, event.thread ≠ some other) :
    (Run.exec (step settings hypot) s events).threads other = s.threads other := by
  induction events generalizing s with
  | nil => rfl
  | cons event events ih =>
    rw [Run.exec_cons, ih (step settings hypot s event) fun later hlater => hothers later (List.mem_cons_of_mem _ hlater)]
    exact threads_step s event (hothers event List.mem_cons_self)

end Threads

def initial (context : Context) : Executor := { context := some context }

/-! ## Some inputs -/

/-- A scan with an obstacle in the zone, and free behind and on the left. -/
def blockedScan : Observation where
  localizationNormal := some true
  localizationStatus := ""
  collisionMonitor := ⟨some 0, "STOP", "polygon", true⟩
  frontObstacleDistance := none
  requestedPlanarSpeed := 0
  actualPlanarSpeed := 0
  requestedTurnSpeed := 0
  actualTurnSpeed := 0
  stale := false
  rearClearance := some 2
  leftClearance := some 2
  rightClearance := none

def onItsWay : Context where
  key := ⟨1, 1, 0⟩
  state := .accepted
  target := some (4, 0)

def quietClock : AcquireClock := ⟨6, ⟨6, 6, 6⟩, 6⟩

/-- An obstacle stays for five seconds, and a recovery requests the cancel of the goal. -/
def recoveryBegun : List Event :=
  [.dispatch true, .evaluate 0 0 blockedScan (some (0, 0)) 7, .evaluate 0 6 blockedScan (some (0, 0)) 8,
    .beginRecovery 0 blockedScan true true true, .continueRecovery 0 .yes quietClock]

/-- The recovery moves the robot and ends, and the waypoint is dispatched again. -/
def recoveryEnded : List Event :=
  [.continueRecovery 0 .yes quietClock, .continueRecovery 0 .yes quietClock, .continueRecovery 0 .yes quietClock,
    .continueRecovery 0 .yes quietClock, .finishRecovery 0 9 none, .dispatch true]

end ObstacleMonitor

end RoamerX
