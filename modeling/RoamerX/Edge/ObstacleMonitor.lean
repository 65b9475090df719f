import Mathlib.Algebra.Order.Ring.Rat
import Mathlib.Algebra.Order.Group.Unbundled.Abs
import RoamerX.Edge.RecoveryArbiter

set_option autoImplicit false

/-! # The obstacle monitor of the Edge

What `TaskExecutor` of `task_executor.py` makes of what it observes: an obstacle is seen, it stays, the robot gets on,
the obstacle is gone. `evaluate` is one evaluation under the lock; what it asks for is done by its thread afterwards.
The state keeps a history of evaluations, of stages emitted and of recovery attempts, which no step reads. -/

namespace RoamerX

namespace ObstacleMonitor

open RecoveryArbitration

/-! ## Observations -/

/-- `collision_monitor` of a snapshot; the state in capitals. -/
structure CollisionMonitor where
  sampleAgeSeconds : Option ℚ
  state : String
  reason : String
  /-- There is a zone. -/
  zone : Bool
  deriving DecidableEq

/-- `obstacle_monitor_snapshot()`; an absent speed is 0. -/
structure Observation where
  localizationNormal : Option Bool
  /-- What `localization_diagnostics` says in small letters, the empty text where it says nothing. -/
  localizationStatus : String
  collisionMonitor : CollisionMonitor
  frontObstacleDistance : Option ℚ
  requestedPlanarSpeed : ℚ
  actualPlanarSpeed : ℚ
  requestedTurnSpeed : ℚ
  actualTurnSpeed : ℚ
  /-- `stale` is `True`. -/
  stale : Bool
  /-- The clearances that are finite numbers. -/
  rearClearance : Option ℚ
  leftClearance : Option ℚ
  rightClearance : Option ℚ
  deriving DecidableEq

/-- `obstacle_speech` with what the navigation can do. -/
structure Settings where
  /-- `_obstacle_monitor_enabled()` -/
  enabled : Bool := true
  /-- `_obstacle_motion_recovery_enabled()` -/
  motionRecoveryEnabled : Bool := true
  obstacleMaxDistance : ℚ := 9 / 10
  collisionLimitRatio : ℚ := 3 / 5
  obstacleClearSeconds : ℚ := 3
  noProgressSeconds : ℚ := 5
  minProgress : ℚ := 1 / 2
  maxRecoveryAttempts : ℤ := 3
  reverseDistance : ℚ := 1 / 4
  lateralDistance : ℚ := 1 / 5
  rearMin : ℚ := 7 / 10
  sideMin : ℚ := 4 / 5
  deriving DecidableEq

/-- `_localization_allows_obstacle_monitor` -/
def localizationAllows (observation : Observation) : Bool :=
  match observation.localizationNormal with
  | some normal => normal
  | none => decide (observation.localizationStatus = "") || decide (observation.localizationStatus = "normal")

def physicalObstacleBlocked (settings : Settings) (observation : Observation) : Bool × String :=
  let collision := observation.collisionMonitor
  let collisionFresh : Bool := collision.sampleAgeSeconds.any fun age => decide (age ≤ 1)
  let scanBlocked : Bool := observation.frontObstacleDistance.any fun distance =>
    decide (distance ≤ settings.obstacleMaxDistance)
  if collisionFresh && decide (collision.state = "STOP") && decide (collision.reason = "polygon") && collision.zone then
    (true, "collision_polygon")
  else if collisionFresh && decide (collision.state = "STOP") &&
      decide (collision.reason ∈ ["localization_unhealthy", "source_stale"]) then
    (false, collision.reason)
  else if scanBlocked then (true, "front_scan")
  else if collisionFresh then
    (false, if collision.reason = "" then "collision_clear" else collision.reason)
  else
    let rawPlanar := |observation.requestedPlanarSpeed|
    let rawTurn := |observation.requestedTurnSpeed|
    let requestedMotion : Bool := decide (1 / 25 ≤ rawPlanar) || decide (3 / 20 ≤ rawTurn)
    let actualMotion := max |observation.actualPlanarSpeed| (|observation.actualTurnSpeed| / 4)
    let requestedMagnitude := max rawPlanar (rawTurn / 4)
    let collisionLimited : Bool :=
      requestedMotion && decide (actualMotion ≤ requestedMagnitude * settings.collisionLimitRatio)
    (collisionLimited, if collisionLimited then "velocity_limited" else "clear")

def blocked (settings : Settings) (observation : Observation) : Bool := (physicalObstacleBlocked settings observation).1

/-- `_obstacle_scan_is_fresh` -/
def scanIsFresh (observation : Observation) : Bool := !observation.stale

def obstacleIsClear (settings : Settings) (observation : Observation) : Bool :=
  scanIsFresh observation && !blocked settings observation

/-- `lateral_direction` -/
inductive Side
  | left | right
  deriving DecidableEq

/-- `_select_obstacle_recovery_direction`, where it is safe; the checks are those of `directional_clearance`. -/
def selectRecoveryDirection (settings : Settings) (observation : Observation)
    (reverseClear leftClear rightClear : Bool) : Option Side :=
  if !scanIsFresh observation then none
  else
    match observation.rearClearance with
    | none => none
    | some rear =>
      if rear < settings.rearMin || !reverseClear then none
      else
        let candidate (measured : Option ℚ) (clear : Bool) : Option ℚ :=
          measured.filter fun distance => decide (settings.sideMin ≤ distance) && clear
        match candidate observation.leftClearance leftClear, candidate observation.rightClearance rightClear with
        | some left, some right => some (if left < right then .right else .left)
        | some _, none => some .left
        | none, some _ => some .right
        | none, none => none

/-! ## State -/

inductive TaskState
  | accepted | running | pausing | paused | resuming | interrupted | cancelling
  | completed | failed | cancelled | timedOut | rejected
  deriving DecidableEq

/-- `TERMINAL_STATES` -/
def TaskState.terminal : TaskState → Bool
  | .completed | .failed | .cancelled | .timedOut | .rejected => true
  | _ => false

/-- A waypoint of an execution in a round. -/
structure WaypointKey where
  taskExecutionId : ℕ
  roundNumber : ℕ
  currentWaypointIndex : ℕ
  deriving DecidableEq

structure Context where
  key : WaypointKey
  state : TaskState
  /-- Where the current waypoint is, if that can be read. -/
  target : Option (ℚ × ℚ)
  deriving DecidableEq

/-- What `_emit_obstacle_stage` emits. -/
inductive Stage
  | detectedStop | waitingProgress | recoveryAttempt | dissuasion | safeObserving | clearConfirmed | resumed
  deriving DecidableEq

/-- An evaluation, and whether it saw a fresh scan that was not blocked while the task was running. -/
structure Sample where
  time : ℚ
  clear : Bool
  deriving DecidableEq

/-- A stage as it was emitted, with the evaluations until then. -/
structure Emission where
  stage : Stage
  episode : ℕ
  attempt : ℕ
  reason : String
  time : ℚ
  evaluations : List Sample

inductive Phase
  /-- A direction is selected, or none is safe. -/
  | selected
  /-- The cancel of the navigation goal is requested. -/
  | cancelling
  /-- The goal is cancelled, and the robot is told to stop. -/
  | stopping
  | acquiring
  | moving
  /-- In the `finally` block. -/
  | ended
  deriving DecidableEq

/-- The local state of `_perform_bounded_obstacle_recovery`; `ticket` is the number of the attempt in the history. -/
structure Recovery where
  attempt : ℕ
  ticket : ℕ
  executionId : ℕ
  side : Option Side
  phase : Phase
  cancelRequested : Bool
  navigationGoalCancelled : Bool
  stopConfirmed : Bool
  lease : Option RecoveryLease
  deriving DecidableEq

/-- What a thread is about to do, or doing. -/
inductive Activity
  | idle
  /-- `_resume_after_obstacle` is next. -/
  | toResume (automatic : Bool)
  /-- `_enter_obstacle_safe_observing` is next. -/
  | toObserve
  /-- The safe observation is announced and its cancel expected, but not requested. -/
  | announced
  /-- The cancel of the safe observation is requested. -/
  | observing
  /-- `_perform_bounded_obstacle_recovery` is next. -/
  | toRecover (attempt ticket : ℕ)
  | recovering (recovery : Recovery)
  deriving DecidableEq

structure Executor where
  context : Option Context
  obstacleWaypointKey : Option WaypointKey := none
  recoveryAttempts : ℕ := 0
  progressAnchor : Option (ℚ × ℚ) := none
  progressAnchorAt : Option ℚ := none
  targetDistanceAnchor : Option ℚ := none
  leaveRouteAnnounced : Bool := false
  lastObstacleSeenAt : Option ℚ := none
  episodeId : Option ℕ := none
  stage : Option Stage := none
  clearStartedAt : Option ℚ := none
  recoveryActive : Bool := false
  recoveryArbiter : RecoveryArbiter := {}
  expectedRecoveryCancels : ℕ := 0
  navGoalGeneration : ℕ := 0
  threads : ℕ → Activity := fun _ => .idle
  /-- The generation of the goal that was accepted last. -/
  goal : Option ℕ := none
  /-- The goals whose cancel the executor requested. -/
  cancelRequests : List ℕ := []
  evaluations : List Sample := []
  emitted : List Emission := []
  /-- The waypoint of each recovery attempt. -/
  attempted : List WaypointKey := []
  /-- The tickets of the recovery motions that were executed. -/
  motions : List ℕ := []
  /-- The leases of others. -/
  otherLeases : List RecoveryLease := []

namespace Executor

variable (s : Executor)

def running : Bool := s.context.any fun context => decide (context.state = .running)

/-- `_current_obstacle_waypoint_key` -/
def waypointKey : Option WaypointKey := s.context.map Context.key

def setThread (thread : ℕ) (activity : Activity) : Executor :=
  { s with threads := Function.update s.threads thread activity }

def record (now : ℚ) (clear : Bool) : Executor := { s with evaluations := s.evaluations ++ [⟨now, clear⟩] }

/-- `_reset_obstacle_episode` -/
def resetEpisode (resetWaypointBudget : Bool) : Executor :=
  { s with
    progressAnchor := none
    progressAnchorAt := none
    targetDistanceAnchor := none
    recoveryAttempts := if resetWaypointBudget then 0 else s.recoveryAttempts
    obstacleWaypointKey := if resetWaypointBudget then none else s.obstacleWaypointKey
    leaveRouteAnnounced := false
    lastObstacleSeenAt := none
    episodeId := none
    stage := none
    clearStartedAt := none
    recoveryActive := false
    recoveryArbiter := s.recoveryArbiter.resetBudget }

/-- `_sync_obstacle_waypoint_budget` -/
def syncBudget : Executor :=
  if s.waypointKey = s.obstacleWaypointKey then s
  else { s.resetEpisode true with obstacleWaypointKey := s.waypointKey }

/-- `_emit_obstacle_stage` -/
def emitStage (now : ℚ) (stage : Stage) (attempt : ℕ) (reason : String) : Executor :=
  match s.context, s.episodeId with
  | some _, some episode =>
    { s with
      stage := some stage
      emitted := s.emitted ++ [⟨stage, episode, attempt, reason, now, s.evaluations⟩] }
  | _, _ => s

theorem emitStage_eq (now : ℚ) (stage : Stage) (attempt : ℕ) (reason : String) :
    ∃ last emitted, s.emitStage now stage attempt reason = { s with
      stage := last
      emitted := emitted } := by
  unfold emitStage
  split
  · exact ⟨_, _, rfl⟩
  · exact ⟨s.stage, s.emitted, rfl⟩

@[simp] theorem threads_emitStage (now : ℚ) (stage : Stage) (attempt : ℕ) (reason : String) :
    (s.emitStage now stage attempt reason).threads = s.threads := by
  unfold emitStage
  split <;> rfl

@[simp] theorem threads_syncBudget : s.syncBudget.threads = s.threads := by
  unfold syncBudget
  split <;> rfl

end Executor

/-! ## One evaluation -/

section Evaluation

variable (settings : Settings) (hypot : ℚ → ℚ → ℚ)

def distanceToCurrentWaypoint (s : Executor) (pose : ℚ × ℚ) : Option ℚ :=
  (s.context.bind Context.target).map fun target => hypot (pose.1 - target.1) (pose.2 - target.2)

/-- How far the robot has got from the anchor. -/
def progressed (s : Executor) (pose anchor : ℚ × ℚ) : ℚ :=
  match s.targetDistanceAnchor, distanceToCurrentWaypoint hypot s pose with
  | some before, some current => max 0 (before - current)
  | _, _ => hypot (pose.1 - anchor.1) (pose.2 - anchor.2)

/-- The branch of `_evaluate_obstacle_progress` for an obstacle in the way. -/
def evaluateBlocked (s : Executor) (thread : ℕ) (now : ℚ) (triggerReason : String) (pose : ℚ × ℚ) (episode : ℕ) :
    Executor :=
  let s := { s with
    clearStartedAt := none
    lastObstacleSeenAt := some now }
  match s.progressAnchor with
  | none =>
    let s := { s with
      episodeId := some episode
      progressAnchor := some pose
      progressAnchorAt := some now
      targetDistanceAnchor := distanceToCurrentWaypoint hypot s pose }
    let s := s.emitStage now .detectedStop 0 triggerReason
    if !settings.motionRecoveryEnabled then s.setThread thread .toObserve
    else s.emitStage now .waitingProgress 0 triggerReason
  | some anchor =>
    if settings.minProgress ≤ progressed hypot s pose anchor then
      { s with
        progressAnchor := some pose
        progressAnchorAt := some now
        targetDistanceAnchor := distanceToCurrentWaypoint hypot s pose }
    else if s.progressAnchorAt.any (fun since => decide (settings.noProgressSeconds ≤ now - since)) &&
        !s.recoveryActive && !s.leaveRouteAnnounced then
      if settings.maxRecoveryAttempts ≤ s.recoveryAttempts then s.setThread thread .toObserve
      else
        let ticket := s.attempted.length
        let attempt := s.recoveryAttempts + 1
        let s := { s with
          recoveryAttempts := attempt
          progressAnchorAt := some now
          attempted := s.attempted ++ s.waypointKey.toList }
        (s.emitStage now .recoveryAttempt attempt "").setThread thread (.toRecover attempt ticket)
    else s

/-- The branch where the obstacle is gone, or the pose is not known. -/
def evaluateClear (s : Executor) (now : ℚ) : Executor :=
  if s.episodeId.isNone then s
  else
    match s.clearStartedAt with
    | none => { s with clearStartedAt := some now }
    | some since =>
      if settings.obstacleClearSeconds ≤ now - since then
        ((s.emitStage now .clearConfirmed 0 "").emitStage now .resumed 0 "").resetEpisode false
      else s

/-- `_evaluate_obstacle_progress` as far as it is under the lock; `episode` is the `uuid4` of a new episode. -/
def evaluate (s : Executor) (thread : ℕ) (now : ℚ) (observation : Observation) (pose : Option (ℚ × ℚ)) (episode : ℕ) :
    Executor :=
  if !s.running || !settings.enabled then s.record now false
  else
    let s := (s.record now (obstacleIsClear settings observation)).syncBudget
    if !localizationAllows observation then { s with clearStartedAt := none }
    else if s.episodeId.isSome && decide (s.stage = some .safeObserving) then
      if !obstacleIsClear settings observation then { s with clearStartedAt := none }
      else
        match s.clearStartedAt with
        | none => { s with clearStartedAt := some now }
        | some since =>
          if settings.obstacleClearSeconds ≤ now - since then
            (s.emitStage now .clearConfirmed 0 "").setThread thread (.toResume true)
          else s
    else
      match pose with
      | some pose =>
        if blocked settings observation then
          evaluateBlocked settings hypot s thread now (physicalObstacleBlocked settings observation).2 pose episode
        else evaluateClear settings s now
      | none => evaluateClear settings s now

end Evaluation

/-! ## What an evaluation leaves alone -/

/-- A thread has gone on with nothing that others wait for. -/
structure Apart (thread : ℕ) (s s' : Executor) : Prop where
  expected : s'.expectedRecoveryCancels = s.expectedRecoveryCancels
  generation : s'.navGoalGeneration = s.navGoalGeneration
  goal : s'.goal = s.goal
  requests : s'.cancelRequests = s.cancelRequests
  motions : s'.motions = s.motions
  otherLeases : s'.otherLeases = s.otherLeases
  lease : s'.recoveryArbiter.lease = s.recoveryArbiter.lease
  leaseGeneration : s'.recoveryArbiter.generation = s.recoveryArbiter.generation
  active : s'.recoveryActive = true → s.recoveryActive = true
  threads : ∀ other, other ≠ thread → s'.threads other = s.threads other

section Apart

variable {thread : ℕ} {s s' s'' : Executor} {settings : Settings} {hypot : ℚ → ℚ → ℚ}

theorem Apart.refl (thread : ℕ) (s : Executor) : Apart thread s s :=
  ⟨rfl, rfl, rfl, rfl, rfl, rfl, rfl, rfl, id, fun _ _ => rfl⟩

theorem Apart.trans (h : Apart thread s s') (h' : Apart thread s' s'') : Apart thread s s'' where
  expected := h'.expected.trans h.expected
  generation := h'.generation.trans h.generation
  goal := h'.goal.trans h.goal
  requests := h'.requests.trans h.requests
  motions := h'.motions.trans h.motions
  otherLeases := h'.otherLeases.trans h.otherLeases
  lease := h'.lease.trans h.lease
  leaseGeneration := h'.leaseGeneration.trans h.leaseGeneration
  active hactive := h.active (h'.active hactive)
  threads other hother := (h'.threads other hother).trans (h.threads other hother)

theorem apart_setThread (s : Executor) (thread : ℕ) (activity : Activity) :
    Apart thread s (s.setThread thread activity) :=
  ⟨rfl, rfl, rfl, rfl, rfl, rfl, rfl, rfl, id, fun _ hother => Function.update_of_ne hother _ _⟩

theorem apart_resetEpisode (s : Executor) (thread : ℕ) (resetWaypointBudget : Bool) :
    Apart thread s (s.resetEpisode resetWaypointBudget) :=
  ⟨rfl, rfl, rfl, rfl, rfl, rfl, rfl, rfl, nofun, fun _ _ => rfl⟩

theorem apart_syncBudget (s : Executor) (thread : ℕ) : Apart thread s s.syncBudget := by
  unfold Executor.syncBudget
  split
  · exact Apart.refl thread s
  · exact ⟨rfl, rfl, rfl, rfl, rfl, rfl, rfl, rfl, nofun, fun _ _ => rfl⟩

theorem apart_emitStage (s : Executor) (thread : ℕ) (now : ℚ) (stage : Stage) (attempt : ℕ) (reason : String) :
    Apart thread s (s.emitStage now stage attempt reason) := by
  unfold Executor.emitStage
  split
  · exact ⟨rfl, rfl, rfl, rfl, rfl, rfl, rfl, rfl, id, fun _ _ => rfl⟩
  · exact Apart.refl thread s

theorem apart_evaluateBlocked (s : Executor) (thread : ℕ) (now : ℚ) (triggerReason : String) (pose : ℚ × ℚ)
    (episode : ℕ) : Apart thread s (evaluateBlocked settings hypot s thread now triggerReason pose episode) := by
  unfold evaluateBlocked
  extract_lets stopped seen detected ticket attempt counted
  have hstopped : Apart thread s stopped := ⟨rfl, rfl, rfl, rfl, rfl, rfl, rfl, rfl, id, fun _ _ => rfl⟩
  have hseen : Apart thread s seen := ⟨rfl, rfl, rfl, rfl, rfl, rfl, rfl, rfl, id, fun _ _ => rfl⟩
  have hdetected : Apart thread s detected := hseen.trans (apart_emitStage _ _ _ _ _ _)
  have hcounted : Apart thread s counted := ⟨rfl, rfl, rfl, rfl, rfl, rfl, rfl, rfl, id, fun _ _ => rfl⟩
  split
  · split
    · exact hdetected.trans (apart_setThread _ _ _)
    · exact hdetected.trans (apart_emitStage _ _ _ _ _ _)
  split
  · exact ⟨rfl, rfl, rfl, rfl, rfl, rfl, rfl, rfl, id, fun _ _ => rfl⟩
  split
  · split
    · exact hstopped.trans (apart_setThread _ _ _)
    · exact (hcounted.trans (apart_emitStage _ _ _ _ _ _)).trans (apart_setThread _ _ _)
  · exact hstopped

theorem apart_evaluateClear (s : Executor) (thread : ℕ) (now : ℚ) : Apart thread s (evaluateClear settings s now) := by
  unfold evaluateClear
  split
  · exact Apart.refl thread s
  split
  · exact ⟨rfl, rfl, rfl, rfl, rfl, rfl, rfl, rfl, id, fun _ _ => rfl⟩
  split
  · exact ((apart_emitStage _ _ _ _ _ _).trans (apart_emitStage _ _ _ _ _ _)).trans (apart_resetEpisode _ _ _)
  · exact Apart.refl thread s

theorem apart_evaluate (s : Executor) (thread : ℕ) (now : ℚ) (observation : Observation) (pose : Option (ℚ × ℚ))
    (episode : ℕ) : Apart thread s (evaluate settings hypot s thread now observation pose episode) := by
  have hrecord : ∀ clear, Apart thread s (s.record now clear) := fun _ =>
    ⟨rfl, rfl, rfl, rfl, rfl, rfl, rfl, rfl, id, fun _ _ => rfl⟩
  unfold evaluate
  split
  · exact hrecord false
  extract_lets synced
  have hsynced : Apart thread s synced := (hrecord _).trans (apart_syncBudget _ _)
  have htimer : ∀ timer, Apart thread s { synced with clearStartedAt := timer } := fun _ =>
    ⟨hsynced.expected, hsynced.generation, hsynced.goal, hsynced.requests, hsynced.motions, hsynced.otherLeases,
      hsynced.lease, hsynced.leaseGeneration, hsynced.active, hsynced.threads⟩
  split
  · exact htimer none
  split
  · split
    · exact htimer none
    split
    · exact htimer (some now)
    split
    · exact (hsynced.trans (apart_emitStage _ _ _ _ _ _)).trans (apart_setThread _ _ _)
    · exact hsynced
  split
  · split
    · exact hsynced.trans (apart_evaluateBlocked _ _ _ _ _ _)
    · exact hsynced.trans (apart_evaluateClear _ _ _)
  · exact hsynced.trans (apart_evaluateClear _ _ _)

end Apart

end ObstacleMonitor

end RoamerX
