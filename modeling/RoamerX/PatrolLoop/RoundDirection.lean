import RoamerX.Edge.TaskStart
import RoamerX.PatrolLoop.Runs

set_option autoImplicit false

/-! # The direction of a round

`_dispatch_round` asks for odd rounds to be driven forward and for even rounds to be driven in
reverse, under the option `loop_direction`. `CommandService.create` does not put that option into
the command object, so the Edge sees no direction: it drives the route in reverse when the robot
stands nearest to its end, and otherwise forward from the nearest waypoint. -/

namespace RoamerX

namespace LoopDb

/-- The step dispatches round `n`. -/
def dispatchesRound (s : LoopDb) (a : LoopLabel) (n : ℕ) : Prop :=
  (s.step a).session.currentRound = n ∧ s.session.currentRound ≠ n

instance (s : LoopDb) (a : LoopLabel) (n : ℕ) : Decidable (s.dispatchesRound a n) :=
  inferInstanceAs (Decidable (_ ∧ _))

/-- The command object of the `task.start` of the current execution. -/
def currentStart (s : LoopDb) : Option TaskStartPayload :=
  s.session.currentExecution.bind (fun x =>
    match (s.center.commandsOf x .taskStart).head? with
    | some { payload := .start p, .. } => some p
    | _ => none)

/-! ## One step -/

theorem routeSnapshot_of_effect {a : LoopLabel} {s s' : LoopDb} (h : CallEffect a s s') :
    s'.view.routeSnapshot = s.view.routeSnapshot := by
  cases h with
  | poll _ hview _ => rw [hview]
  | window _ _ _ hview _ _ => rw [hview]
  | recover _ _ _ _ _ _ _ _ _ hview _ _ => rw [hview]
  | observe _ _ _ _ _ hview _ => rw [hview]
  | settle _ hview _ => rw [hview]
  | dispatch _ _ _ _ _ _ _ hview _ => rw [hview]
  | rest _ _ _ _ hview _ => rw [hview]
  | hold _ _ hview _ => rw [hview]
  | stopping _ _ hview _ => rw [hview]
  | finish _ _ _ _ _ hview _ => rw [hview]

theorem routeSnapshot_step {s : LoopDb} (hi : s.Inv) (a : LoopLabel) :
    (s.step a).session.routeSnapshot = s.session.routeSnapshot := by
  cases ha : a.isCall with
  | true => exact routeSnapshot_of_effect (step_result hi ha).effect
  | false => rw [(step_outside s ha).1]

theorem roundStart_of_dispatch {s : LoopDb} (hi : s.Inv) {a : LoopLabel} {n : ℕ}
    (hround : s.dispatchesRound a n) {p : TaskStartPayload}
    (hp : (s.step a).currentStart = some p) : p.roundStart s.session.routeSnapshot n := by
  obtain ⟨hn, hne⟩ := hround
  have hsame : (s.step a).session.currentRound = s.session.currentRound → False :=
    fun h => hne (h.symm.trans hn)
  cases ha : a.isCall with
  | false =>
    rw [(step_outside s ha).1] at hsame
    exact (hsame rfl).elim
  | true =>
    have hkept : ∀ v : LoopView, (s.step a).view = v → v.currentRound = s.view.currentRound →
        False := fun v hview hv => hsame ((congrArg LoopView.currentRound hview).trans hv)
    cases (step_result hi ha).effect with
    | poll _ hview _ => exact (hkept _ hview rfl).elim
    | window _ _ _ hview _ _ => exact (hkept _ hview rfl).elim
    | recover _ _ _ _ _ _ _ _ _ hview _ _ => exact (hkept _ hview rfl).elim
    | observe _ _ _ _ _ hview _ => exact (hkept _ hview rfl).elim
    | settle _ hview _ => exact (hkept _ hview rfl).elim
    | rest _ _ _ _ hview _ => exact (hkept _ hview rfl).elim
    | hold _ _ hview _ => exact (hkept _ hview rfl).elim
    | stopping _ _ hview _ => exact (hkept _ hview rfl).elim
    | finish _ _ _ _ _ hview _ => exact (hkept _ hview rfl).elim
    | dispatch x _ _ _ _ _ hstart hview _ =>
      obtain ⟨p', hpayloads, hp'⟩ := hstart
      have hcur : (s.step a).session.currentExecution = some x :=
        congrArg LoopView.currentExecution hview
      have hround : (s.step a).session.currentRound = s.session.currentRound + 1 :=
        congrArg LoopView.currentRound hview
      have hpp' : p = p' := by
        unfold currentStart at hp
        rw [hcur, Option.bind_some] at hp
        obtain ⟨c, rest, hcs⟩ : ∃ c rest,
            (s.step a).center.commandsOf x .taskStart = c :: rest := by
          cases hcs : (s.step a).center.commandsOf x .taskStart with
          | nil => rw [hcs] at hpayloads; exact absurd hpayloads (by simp)
          | cons c rest => exact ⟨c, rest, rfl⟩
        rw [hcs] at hp hpayloads
        have hpayload : c.payload = .start p' := by simpa using congrArg List.head? hpayloads
        rcases c with ⟨_, _, _, payload, _⟩
        obtain rfl : payload = .start p' := hpayload
        simpa using hp.symm
      rw [hpp', ← hn, hround]
      exact hp'

end LoopDb

/-! ## The order the Edge drives -/

/-- The route reads the same in both directions. -/
def Palindromic (base : List Waypoint) : Prop :=
  (base.map Waypoint.point).reverse = base.map Waypoint.point

instance (base : List Waypoint) : Decidable (Palindromic base) :=
  inferInstanceAs (Decidable (_ = _))

/-- The context starts at the first element of the base route in the order of round `n`. -/
def RoundOrder (base : List Waypoint) (n : ℕ) (context : TaskContext) : Prop :=
  context.route.waypoints.map Waypoint.point =
      (if n % 2 = 1 then base else base.reverse).map Waypoint.point ∧
    context.currentWaypointIndex = 0

instance (base : List Waypoint) (n : ℕ) (context : TaskContext) :
    Decidable (RoundOrder base n context) :=
  inferInstanceAs (Decidable (_ ∧ _))

/-- The robot stands where round `n` is to start: the first waypoint is nearest for an odd round
    and the last one for an even round, or the other one of a route that reads the same in both
    directions. -/
def StandsAtRoundStart (env : StartEnvironment) (base : List Waypoint) (n : ℕ) : Prop :=
  let nearest := env.nearestWaypointIndex base
  if n % 2 = 1 then nearest = 0 ∨ nearest = base.length - 1 ∧ Palindromic base
  else nearest = base.length - 1 ∨ nearest = 0 ∧ Palindromic base

instance (env : StartEnvironment) (base : List Waypoint) (n : ℕ) :
    Decidable (StandsAtRoundStart env base n) := by
  unfold StandsAtRoundStart
  infer_instance

theorem prepareRoute_roundStart (env : StartEnvironment) {p : TaskStartPayload}
    {base : RouteSnapshot} {n : ℕ} (hp : p.roundStart base n) (hlen : 2 ≤ base.waypoints.length) :
    let nearest := env.nearestWaypointIndex base.waypoints
    (prepareRoute env (buildCommandMessage p)).waypoints =
        (if nearest = base.waypoints.length - 1 then reverseWaypoints base.waypoints
         else base.waypoints) ∧
      (prepareRoute env (buildCommandMessage p)).initialWaypointIndex =
        (if nearest = base.waypoints.length - 1 then 0 else nearest) := by
  have hexplicit : (buildCommandMessage p).explicitLoopRound = false := by
    simp [TaskStartCommand.explicitLoopRound, buildCommandMessage]
  unfold prepareRoute
  rw [hexplicit]
  simp only [buildCommandMessage, hp.waypoints, hp.loopExecution, hp.docking, Bool.false_eq_true,
    if_false, true_and]
  by_cases hlast : env.nearestWaypointIndex base.waypoints = base.waypoints.length - 1
  · rw [if_pos ⟨hlen, hlast⟩, if_pos hlast, if_pos hlast]
    exact ⟨rfl, rfl⟩
  · rw [if_neg (fun h => hlast h.2), if_neg hlast, if_neg hlast]
    exact ⟨rfl, rfl⟩

theorem roundOrder_iff {env : StartEnvironment} {p : TaskStartPayload} {base : RouteSnapshot}
    {n : ℕ} (hp : p.roundStart base n) (hlen : 2 ≤ base.waypoints.length) {context : TaskContext}
    {commandId taskExecutionId : Uuid}
    (hcontext : prepareTaskStart env commandId taskExecutionId (buildCommandMessage p) =
      .ok context) :
    RoundOrder base.waypoints n context ↔ StandsAtRoundStart env base.waypoints n := by
  obtain ⟨-, -, -, -, hroute, hindex⟩ := prepareTaskStart_ok hcontext
  obtain ⟨hwaypoints, hstart⟩ := prepareRoute_roundStart env hp hlen
  have hlast : base.waypoints.length - 1 ≠ 0 := by omega
  unfold RoundOrder StandsAtRoundStart Palindromic
  rw [hindex, hroute, hwaypoints, hstart]
  by_cases hend : env.nearestWaypointIndex base.waypoints = base.waypoints.length - 1
  · by_cases hodd : n % 2 = 1
    · simp [hend, hodd, hlast, reverseWaypoints_point]
    · simp [hend, hodd, reverseWaypoints_point]
  · by_cases hodd : n % 2 = 1
    · simp [hend, hodd]
    · simp [hend, hodd, eq_comm, and_comm]

/-! ## Runs -/

namespace SessionStart

theorem run_routeSnapshot (st : SessionStart) (as : List LoopLabel) :
    (st.run as).session.routeSnapshot = st.session.session.routeSnapshot := by
  exact (Run.exec_invariant
    (fun s : LoopDb => s.Inv ∧ s.session.routeSnapshot = st.session.session.routeSnapshot)
    (fun _ a h => ⟨LoopDb.step_inv h.1 a, (LoopDb.routeSnapshot_step h.1 a).trans h.2⟩)
    ⟨st.inv_start, rfl⟩ as).2

/-- **The direction of a round.** Whenever a step dispatches round `n` of a session whose
    route has at least two waypoints, the context that the Edge prepares from the round's start
    command starts at the first element of the base route, in forward order for odd `n` and in
    reverse order for even `n`, if and only if the robot stands where that round is to start. -/
theorem round_direction_iff (st : SessionStart) (as : List LoopLabel) (a : LoopLabel) (n : ℕ)
    (hround : (st.run as).dispatchesRound a n)
    (hlen : 2 ≤ st.session.session.routeSnapshot.waypoints.length) (p : TaskStartPayload)
    (hp : ((st.run as).step a).currentStart = some p) (env : StartEnvironment)
    (commandId taskExecutionId : Uuid) (context : TaskContext)
    (hcontext : prepareTaskStart env commandId taskExecutionId (buildCommandMessage p) =
      .ok context) :
    RoundOrder st.session.session.routeSnapshot.waypoints n context ↔
      StandsAtRoundStart env st.session.session.routeSnapshot.waypoints n := by
  have hstart := LoopDb.roundStart_of_dispatch (st.run_inv as) hround hp
  rw [st.run_routeSnapshot as] at hstart
  exact roundOrder_iff hstart hlen hcontext

/-- The run in which the first round of `corridorPatrol` completes and the rest is over. -/
def secondRound : List LoopLabel :=
  [.process, .executionState 1 .completed 1 "" "", .advance (seconds 1), .process,
    .advance (seconds 5)]

/-- The robot on the line of the corridor, where distances are differences of `x`. -/
def inCorridor (x : ℚ) : StartEnvironment where
  distance a b := .finite (|a.1 - b.1| + |a.2 - b.2|)
  pose := some (.finite x, .finite 0)

/-- The start command of the second round. -/
def secondStart : TaskStartPayload :=
  ((corridorPatrol.run secondRound).step .process).currentStart.getD
    (taskStartPayload
      { id := 0, task := corridorTask, route := none, routeSnapshot := corridor } {})

theorem round_direction_iff_secondRound :
    ∃ context, prepareTaskStart (inCorridor 10) 4 3 (buildCommandMessage secondStart) =
        .ok context ∧
      (RoundOrder corridor.waypoints 2 context ↔
        StandsAtRoundStart (inCorridor 10) corridor.waypoints 2) := by
  have hok : (prepareTaskStart (inCorridor 10) 4 3 (buildCommandMessage secondStart)).isOk =
      true := by
    decide +kernel
  cases hcontext : prepareTaskStart (inCorridor 10) 4 3 (buildCommandMessage secondStart) with
  | error err =>
    rw [hcontext] at hok
    exact absurd hok (by simp [Except.isOk, Except.toBool])
  | ok context =>
    exact ⟨context, rfl, corridorPatrol.round_direction_iff secondRound .process 2
      (by decide +kernel) (by decide) secondStart (by decide +kernel) (inCorridor 10)
      4 3 context hcontext⟩

/-- The second round of `corridorPatrol`, dispatched while the robot stands at the first waypoint,
    is driven forward. -/
theorem not_roundOrder_secondRound :
    (corridorPatrol.run secondRound).dispatchesRound .process 2 ∧
      ((corridorPatrol.run secondRound).step .process).currentStart = some secondStart ∧
      (prepareTaskStart (inCorridor 0) 4 3 (buildCommandMessage secondStart)).toOption.any
        (fun context => ¬ RoundOrder corridor.waypoints 2 context) = true :=
  ⟨by decide +kernel, by decide +kernel, by decide +kernel⟩

end SessionStart

end RoamerX
