import RoamerX.Edge.RouteDispatch
import RoamerX.Lib.Run

set_option autoImplicit false

/-! # A task along its route

The start of a task, what the executor does with a navigation result and after a waypoint, and the
steps that take the route up again: timers, turns, recoveries, commands and a restart. -/

namespace RoamerX

/-- `loop_direction` of the start command. -/
inductive LoopDirection
  | unset | forward | reverse
  deriving DecidableEq

/-- What `prepare_task_start` reads of the start command. -/
structure RouteStart where
  waypoints : List RouteWaypoint
  /-- `task.start` requires waypoints. -/
  nonempty : waypoints ≠ []
  submaps : List Submap
  docking : Bool := false
  loopExecution : Bool := false
  loopDirection : LoopDirection := .unset
  roundNumber : ℕ := 1
  loopTotal : ℕ := 1

/-- Where the robot is when a round has ended. -/
inductive RoundEnd
  /-- There is no pose. -/
  | unknown
  /-- The start of the route is no farther than its end, or within one metre. -/
  | nearStart
  | nearEnd
  deriving DecidableEq

/-- What the steps after a waypoint find out. -/
structure Onward where
  /-- The turn towards the next waypoint. -/
  turn : Look := {}
  /-- The answers of the map activation and the navigation stack at a border of segments: those of
      `activate`, and of the initialization after it. -/
  switch : Except String Unit := .ok ()
  startup : Except String Unit := .ok ()
  /-- `_final_pose_error() is None`. -/
  finalPoseAccepted : Bool := true
  roundEnd : RoundEnd := .nearStart
  /-- `_confirm_and_skip_loop_anchor` skips the first waypoint. -/
  anchorConfirmed : Bool := false
  /-- `docking_arrived_handler` does not raise. -/
  dockingHandled : Bool := true
  /-- The legs of the dispatch. -/
  looks : ℕ → Look := fun _ => {}

/-- How the handling of a reached waypoint ends. -/
inductive Arrival
  /-- Nav2 reports missed waypoints. -/
  | missed
  /-- A safe hold, before or after a stage of the arrival is set. -/
  | held (staged : Bool)
  /-- A pause that names the reached waypoint. -/
  | paused
  /-- `_reapproach_rejected_arrival` dispatches the waypoint again. -/
  | reapproached (look : Look)
  /-- The turn to the yaw of the waypoint. -/
  | headingTurn (look : Look)
  /-- `_start_arrival_nav2_goal_adjustment` sends the waypoint once more. -/
  | microGoal
  /-- The arrival is accepted. Its side effects have begun before, or they start these waits. -/
  | accepted (started speech dwell : Bool)

namespace RouteStart

variable (c : RouteStart) (nearest : ℕ)

/-- `_nearest_waypoint_index` finds a waypoint of the route; a docking task starts at the first. -/
def initialIndex : ℕ := if c.docking then 0 else min nearest (c.waypoints.length - 1)

def explicitLoopRound : Bool :=
  c.loopExecution && decide (1 < c.roundNumber) && decide (c.loopDirection ≠ .unset)

def reverseReturn : Bool :=
  c.loopExecution && !c.explicitLoopRound && !c.docking && decide (1 < c.waypoints.length)
    && decide (c.initialIndex nearest = c.waypoints.length - 1)

/-- The task drives its route backwards. -/
def reversed : Bool :=
  c.explicitLoopRound && decide (c.loopDirection = .reverse) || c.reverseReturn nearest

end RouteStart

namespace RouteExecutor

variable (s : RouteExecutor)

/-! ## Start -/

def prepareTaskStart (c : RouteStart) (nearest : ℕ) : RouteExecutor :=
  let reversed := c.reversed nearest
  let initial :=
    if c.explicitLoopRound ∨ reversed then 0 else c.initialIndex nearest
  { s with
    state := .accepted
    waypoints := if reversed then c.waypoints.reverse else c.waypoints
    prepared := false
    baseWaypoints := c.waypoints
    submaps := c.submaps
    executionOrder :=
      if reversed then .reverseFromRouteEnd
      else if c.explicitLoopRound then .forward
      else .unset
    loopRoundContinuation := c.explicitLoopRound
    docking := c.docking
    currentWaypointIndex := initial
    currentSegmentIndex := 0
    roundNumber := max 1 c.roundNumber
    loopTotal := max 1 c.loopTotal
    arrivalReapproachIndex := none
    postArrivalIndex := none
    lastTargetIndex := (initial : ℤ) - 1
    lastReachedIndex := (initial : ℤ) - 1
    speechWaiting := none
    dwellWaiting := none
    localizationReadyIndex := none }

/-- `initialize_before_navigation`; what it raises ends the start. -/
def initializeBeforeNavigation (answer : Except String Unit) : RouteExecutor :=
  if s.state = .accepted then
    let prepared := s.prepareMapSetForCurrentWaypoint answer
    if prepared.1 then prepared.2 else prepared.2.fail
  else s

/-- `launch_prepared_task`; what it raises before the dispatch ends the start. -/
def launchPreparedTask (answer : Except String Unit) (looks : ℕ → Look) : RouteExecutor :=
  if s.state = .accepted then
    let built := s.buildSegments
    if built.1 = false then built.2.fail
    else if built.2.segments = [] then
      { built.2 with prepared := true }.sendFrom looks built.2.currentWaypointIndex
    else
      let segmentIndex := built.2.segmentOf built.2.currentWaypointIndex
      let prepared := built.2.prepareMapSetForCurrentWaypoint answer
      if prepared.1 = false then prepared.2.fail
      else
        match prepared.2.segments[segmentIndex]? with
        | none => { prepared.2 with indexError := true }
        | some segment =>
          prepared.2.sendSegment looks segmentIndex segment built.2.currentWaypointIndex
  else s

/-! ## After a waypoint -/

def dispatchDepartureHeading (look : Look) (reached : ℕ) : Bool × RouteExecutor :=
  if s.docking ∨ s.waypoints.length ≤ reached + 1 ∨ look.turnNeeded (reached + 1) = false then
    (false, s)
  else s.startDepartureHeading look reached none false

/-- The next waypoint of the round, after the turn towards it: within its segment, or over the border
    to the next one. -/
def continueToNext (onward : Onward) (next : ℕ) : RouteExecutor :=
  if s.segments = [] then s.sendFrom onward.looks next
  else
    match s.segments[s.currentSegmentIndex]? with
    | none => { s with indexError := true }
    | some segment =>
      if next < segment.endIndex then s.sendFrom onward.looks next
      else
        match s.segments[s.currentSegmentIndex + 1]? with
        | none => { s with indexError := true }
        | some nextSegment =>
          let switched := s.activate nextSegment onward.switch
          if switched.1 = false then switched.2.fail
          else
            let initialized := switched.2.prepareMapSetForCurrentWaypoint onward.startup
            if initialized.1 = false then initialized.2.fail
            else
              initialized.2.sendSegment onward.looks (s.currentSegmentIndex + 1) nextSegment next

/-- `loop_base_waypoints or route_snapshot["waypoints"]`. -/
def roundBase : List RouteWaypoint :=
  if s.baseWaypoints = [] then s.waypoints else s.baseWaypoints

def nextRound (roundEnd : RoundEnd) : RouteExecutor :=
  let base := s.roundBase
  let ordered := if roundEnd = .nearEnd ∧ 1 < base.length then base.reverse else base
  let order :=
    if roundEnd = .unknown ∨ base.length ≤ 1 then s.executionOrder
    else if roundEnd = .nearEnd then .reverse
    else .forward
  { s with
    roundNumber := s.roundNumber + 1
    waypoints := ordered
    executionOrder := order
    currentWaypointIndex := 0
    lastTargetIndex := -1
    lastReachedIndex := -1
    goalOffset := 0
    dispatchedCount := 0
    arrivalReapproachIndex := none }

def startRound (onward : Onward) : RouteExecutor :=
  let round := s.nextRound onward.roundEnd
  if onward.anchorConfirmed ∧ s.docking = false ∧ 2 ≤ round.waypoints.length then
    { round with
      currentWaypointIndex := 1
      lastTargetIndex := 0
      lastReachedIndex := 0 }.dispatchNavigation onward.looks 1
  else
    let past := round.advancePastColocatedWaypoints onward.turn 0
    past.2.dispatchNavigation onward.looks past.1

def endRound (onward : Onward) : RouteExecutor :=
  if onward.finalPoseAccepted = false then s.fail
  else if s.roundNumber < s.loopTotal then s.startRound onward
  else if s.docking ∧ onward.dockingHandled = false then s.fail
  else
    { s.clearDepartureHeading with
      state := .completed
      currentWaypointIndex := s.waypoints.length }

/-- The turn before the next leg, unless it is done or another one is under way. -/
def departureTurn (look : Look) (reached : ℕ) : Bool × RouteExecutor :=
  if s.departureHeadingCompletedIndex = some reached then
    (false, { s with departureHeadingCompletedIndex := none })
  else if s.departureHeadingIndex.isSome then (false, s)
  else s.dispatchDepartureHeading look reached

def continueAfterWaypoint (onward : Onward) (reached : ℕ) : RouteExecutor :=
  if s.state ≠ .running then s
  else
    let turned := { s with arrivalReapproachIndex := none }.departureTurn onward.turn reached
    if turned.1 then turned.2
    else
      let onNext :=
        { turned.2 with currentWaypointIndex := reached + 1, postArrivalIndex := none }
      if reached + 1 < onNext.waypoints.length then onNext.continueToNext onward (reached + 1)
      else onNext.endRound onward

def maybeContinueAfterWaypoint (onward : Onward) (index : ℕ) : RouteExecutor :=
  if s.state ≠ .running ∨ s.localizationReadyIndex ≠ some index
      ∨ s.speechWaiting = some (index, false) ∨ s.dwellWaiting = some (index, false) then s
  else
    { s with
      speechWaiting := if s.speechWaiting = some (index, true) then none else s.speechWaiting
      dwellWaiting := if s.dwellWaiting = some (index, true) then none else s.dwellWaiting
      localizationReadyIndex := none
      postArrivalIndex := some index }.continueAfterWaypoint onward index

/-! ## Navigation results -/

/-- `_complete_departure_heading_locked`. -/
def completeDepartureHeading (looks : ℕ → Look) (reached : ℕ) (cruise : Option ℕ) : RouteExecutor :=
  let completed :=
    { s with
      departureHeadingIndex := none
      departureCruiseIndex := none
      departureTeleop := false
      departureIsArrival := false }
  match cruise with
  | some index => completed.dispatchNavigation looks index
  | none => { completed with departureHeadingCompletedIndex := some reached }

/-- `_start_arrival_side_effects`, or what is left of it when they have begun before, and the end of
    the arrival. -/
def confirmArrival (started speech dwell : Bool) (onward : Onward) (reached : ℕ) : RouteExecutor :=
  let confirmed :=
    if started then s
    else
      { s with
        speechWaiting := if speech then some (reached, false) else s.speechWaiting
        dwellWaiting := if dwell then some (reached, false) else none }.onFeedback reached .arrived
        onward.turn.progressDue
  { confirmed with localizationReadyIndex := some reached }.maybeContinueAfterWaypoint onward reached

/-- The handling of a reached waypoint. -/
def arriveAt (arrival : Arrival) (onward : Onward) (reached : ℕ) : RouteExecutor :=
  match arrival with
  | .missed => s.fail
  | .held staged =>
    { s with
      postArrivalIndex := if staged then some reached else s.postArrivalIndex
      state := .paused }
  | .paused =>
    { s with postArrivalIndex := some reached, state := .paused, currentWaypointIndex := reached }
  | .reapproached look =>
    { s with
      arrivalReapproachIndex := some reached
      currentWaypointIndex := reached
      state := .running }.dispatchLeg look reached
  | .headingTurn look =>
    let turned :=
      { s with postArrivalIndex := some reached }.startDepartureHeading look reached none true
    if turned.1 then turned.2 else { turned.2 with state := .paused }
  | .microGoal => { s with postArrivalIndex := some reached }.sendWaypoint reached
  | .accepted started speech dwell =>
    { s with
      postArrivalIndex := some reached
      arrivalReapproachIndex := none }.confirmArrival started speech dwell onward reached

/-- The states in which `on_navigation_result` and the turns give up. -/
def turnedAway : Bool :=
  s.state.isTerminal || decide (s.state ∈ [.pausing, .cancelling, .paused])

/-- A result for the waypoint at `reached`. -/
def resultAt (arrival : Arrival) (onward : Onward) (reached : ℕ) : RouteExecutor :=
  if s.waypoints.length ≤ reached then s
  else if s.waypointIsPassThrough reached then
    ({ s with localizationReadyIndex := some reached }.onFeedback reached .other
      onward.turn.progressDue).maybeContinueAfterWaypoint onward reached
  else s.arriveAt arrival onward reached

/-- `on_navigation_result` with `succeeded`, for the goal sent last. -/
def onNavigationResult (arrival : Arrival) (onward : Onward) : RouteExecutor :=
  if s.turnedAway then s
  else
    match s.departureHeadingIndex with
    | some reached =>
      if s.departureTeleop then s
      else
        let completed := s.completeDepartureHeading onward.looks reached s.departureCruiseIndex
        if s.departureCruiseIndex.isSome then completed else completed.resultAt arrival onward reached
    | none => s.resultAt arrival onward (s.goalOffset + max s.dispatchedCount 1 - 1)

/-- The end of `_teleop_departure_heading_worker`, when the robot is aligned. -/
def teleopAligned (arrival : Arrival) (onward : Onward) : RouteExecutor :=
  if s.turnedAway ∨ s.departureTeleop = false then s
  else
    match s.departureHeadingIndex with
    | none => s
    | some reached =>
      if s.departureIsArrival then
        { s.completeDepartureHeading onward.looks reached none with
          departureHeadingCompletedIndex := none
          postArrivalIndex := some reached }.onNavigationResult arrival onward
      else
        let completed := s.completeDepartureHeading onward.looks reached s.departureCruiseIndex
        if s.departureCruiseIndex.isSome then completed
        else completed.continueAfterWaypoint onward reached

/-! ## Steps -/

/-- What the executor may be called for. -/
inductive Step
  | prepare (c : RouteStart) (nearest : ℕ)
  /-- `initialize_before_navigation` of the start command. -/
  | startup (answer : Except String Unit)
  | launch (answer : Except String Unit) (looks : ℕ → Look)
  /-- A Nav2 result, or a stage of the arrival that takes the result up again. -/
  | result (arrival : Arrival) (onward : Onward)
  /-- Nav2 feedback on the goal, which is one pose. -/
  | feedback (progressDue : Bool)
  /-- The end of a turn by the teleop worker. -/
  | aligned (arrival : Arrival) (onward : Onward)
  /-- `_clear_departure_heading`, by a timeout, a recovery or a command. -/
  | turnDropped
  | retry (looks : ℕ → Look)
  /-- `_send_from` of the current waypoint: by `resume_task` and `on_localization_recovered` of a task
      that is held, and by the obstacle monitor, `on_localization_recovered`, a cancelled goal and
      `_retry_blocked_navigation` of one that runs. -/
  | sendAgain (looks : ℕ → Look)
  /-- The two halves of `_handle_live_goal_source_switch`, which lets the lock go between them. -/
  | sourceSwitch
  | replan (looks : ℕ → Look)
  /-- `_resume_coarse_reapproach_after_recovery`. -/
  | coarseReapproach (looks : ℕ → Look)
  /-- `_reapproach_rejected_arrival` by `on_localization_recovered` or `recover_task`. -/
  | reapproach (atCurrent : Bool) (look : Look)
  /-- `_resume_post_arrival` of the current waypoint, at the last stage or an earlier one. -/
  | resumePostArrival (ready started speech dwell : Bool) (arrival : Arrival) (onward : Onward)
  /-- The dwell, or the speech of a waypoint, has ended. -/
  | waited (speech : Bool) (onward : Onward)
  /-- `resume_task` or `on_localization_recovered` at a waypoint that waits. -/
  | resumeWaiting (onward : Onward)
  /-- `_evaluate_cruise_watch` and, without the lock between them,
      `_complete_pass_through_from_cruise_watch`. -/
  | cruiseWatch (look : Look)
  | cruiseComplete (onward : Onward)
  /-- `pause_task`, or a hold of the executor itself. -/
  | pause (operator : Bool)
  /-- `cancel_task`, `force_exit` or a failure. -/
  | stop (final : ExecutionState)
  /-- `reconcile_center_state`, which leaves the timers. -/
  | reconcile (final : ExecutionState)
  /-- The process of the Edge starts again; the side effects of the arrival had begun, or not. -/
  | restart (started : Bool)

def retryNavDispatch (looks : ℕ → Look) : RouteExecutor :=
  if s.retryArmed = false ∨ s.state.isTerminal ∨ s.state = .cancelling then s
  else s.sendFrom looks (s.pendingDispatchIndex.getD s.currentWaypointIndex)

/-- `_send_from` of the current waypoint. -/
def sendAgain (looks : ℕ → Look) : RouteExecutor :=
  if s.state.isTerminal ∨ s.state = .cancelling then s
  else if s.state = .running then s.sendFrom looks s.currentWaypointIndex
  else
    let sent := { s with state := .resuming }.sendFrom looks s.currentWaypointIndex
    -- a turn before the leg leaves the task resuming
    if sent.state = .resuming ∧ sent.departureHeadingIndex.isSome then { sent with state := .running }
    else sent

/-- The first half of `_handle_live_goal_source_switch`. -/
def sourceSwitch : RouteExecutor :=
  if s.state = .running then { s with replanIndex := some s.currentWaypointIndex } else s

/-- The second half of `_handle_live_goal_source_switch`. -/
def replan (looks : ℕ → Look) : RouteExecutor :=
  match s.replanIndex with
  | none => s
  | some index => { s with replanIndex := none }.dispatchNavigation looks index

/-- `_resume_coarse_reapproach_after_recovery`, which sets the state to `running`. -/
def coarseReapproach (looks : ℕ → Look) : RouteExecutor :=
  if s.state.isTerminal ∨ s.postArrivalIndex ≠ some s.currentWaypointIndex then s
  else
    { s.clearDepartureHeading with
      state := .running
      arrivalReapproachIndex := none }.dispatchNavigation looks s.currentWaypointIndex

/-- `_reapproach_rejected_arrival`, at the current waypoint or that of the arrival. -/
def reapproach (atCurrent : Bool) (look : Look) : RouteExecutor :=
  if s.state.isTerminal then s
  else
    s.arriveAt (.reapproached look) {}
      (if atCurrent then s.currentWaypointIndex
        else s.postArrivalIndex.getD s.currentWaypointIndex)

/-- The executor that takes the arrival at the current waypoint up again. -/
def takePostArrival (started : Bool) : RouteExecutor :=
  { s with
    state := .running
    goalOffset := s.currentWaypointIndex
    dispatchedCount := 1
    lastTargetIndex := max s.lastTargetIndex s.currentWaypointIndex
    lastReachedIndex :=
      if started then max s.lastReachedIndex s.currentWaypointIndex else s.lastReachedIndex }

/-- `_resume_post_arrival` of the current waypoint, by callers that set the state to `running`. -/
def resumePostArrival (ready started speech dwell : Bool) (arrival : Arrival) (onward : Onward) :
    RouteExecutor :=
  if s.state.isTerminal ∨ s.postArrivalIndex ≠ some s.currentWaypointIndex then s
  else if ready then
    (s.takePostArrival started).confirmArrival started speech dwell onward s.currentWaypointIndex
  else (s.takePostArrival started).onNavigationResult arrival onward

def waited (speech : Bool) (onward : Onward) : RouteExecutor :=
  match if speech then s.speechWaiting else s.dwellWaiting with
  | none => s
  | some (index, _) =>
    let ended :=
      if speech then { s with speechWaiting := some (index, true) }
      else { s with dwellWaiting := some (index, true) }
    ended.maybeContinueAfterWaypoint onward index

def waitingWaypointIndex : Option ℕ := (s.speechWaiting.or s.dwellWaiting).map Prod.fst

def resumeWaiting (onward : Onward) : RouteExecutor :=
  match s.waitingWaypointIndex with
  | none => s
  | some index =>
    if s.state.isTerminal then s
    else
      { s with
        state := .running
        localizationReadyIndex := some index }.maybeContinueAfterWaypoint onward index

/-- `_evaluate_cruise_watch` at an occupied pass-through waypoint. -/
def cruiseWatch (look : Look) : RouteExecutor :=
  if s.state ≠ .running ∨ s.docking ∨ s.departureHeadingIndex.isSome then s
  else
    let arrived := s.advanceIfAlreadyArrived look s.currentWaypointIndex
    if arrived.1 = s.currentWaypointIndex then arrived.2
    else { arrived.2 with cruiseCompletes := true }

/-- `_complete_pass_through_from_cruise_watch`. -/
def cruiseComplete (onward : Onward) : RouteExecutor :=
  if s.cruiseCompletes = false ∨ s.state ≠ .running ∨ s.lastReachedIndex < 0 then
    { s with cruiseCompletes := false }
  else
    let reached := s.lastReachedIndex.toNat
    ({ s with
      cruiseCompletes := false
      localizationReadyIndex := some reached }.onFeedback reached .other
      onward.turn.progressDue).maybeContinueAfterWaypoint onward reached

/-- `pause_task`, which clears the retry, or a hold. -/
def pause (operator : Bool) : RouteExecutor :=
  if s.state.isTerminal then s
  else { (if operator then s.clearNavDispatchRetry else s) with state := .paused }

/-- A new process: the context is read from the store, and everything else is at its start. A task that
    is not paused is ended. -/
def restart (started : Bool) : RouteExecutor :=
  let target : ℤ := (s.postArrivalIndex.map fun index => (index : ℤ)).getD (-1)
  { s with
    state :=
      if s.state.isTerminal then s.state
      else if s.state = .paused then .paused
      else .failed
    segments := []
    coordinator := {}
    goalOffset := 0
    dispatchedCount := 0
    departureHeadingIndex := none
    departureCruiseIndex := none
    departureHeadingCompletedIndex := none
    departureTeleop := false
    departureIsArrival := false
    retryArmed := false
    pendingDispatchIndex := none
    lastTargetIndex := target
    lastReachedIndex := if started then target else -1
    localizationReadyIndex := none
    speechWaiting := none
    dwellWaiting := none
    replanIndex := none
    cruiseCompletes := false }

/-- A new task replaces one that has ended. -/
def step : Step → RouteExecutor
  | .prepare c nearest => if s.state.isTerminal then s.prepareTaskStart c nearest else s
  | .startup answer => s.initializeBeforeNavigation answer
  | .launch answer looks => s.launchPreparedTask answer looks
  | .result arrival onward => s.onNavigationResult arrival onward
  | .feedback progressDue => s.onFeedback s.goalOffset .other progressDue
  | .aligned arrival onward => s.teleopAligned arrival onward
  | .turnDropped => s.clearDepartureHeading
  | .retry looks => s.retryNavDispatch looks
  | .sendAgain looks => s.sendAgain looks
  | .sourceSwitch => s.sourceSwitch
  | .replan looks => s.replan looks
  | .coarseReapproach looks => s.coarseReapproach looks
  | .reapproach atCurrent look => s.reapproach atCurrent look
  | .resumePostArrival ready started speech dwell arrival onward =>
    s.resumePostArrival ready started speech dwell arrival onward
  | .waited speech onward => s.waited speech onward
  | .resumeWaiting onward => s.resumeWaiting onward
  | .cruiseWatch look => s.cruiseWatch look
  | .cruiseComplete onward => s.cruiseComplete onward
  | .pause operator => s.pause operator
  | .stop final =>
    if final.isTerminal then { s.clearNavDispatchRetry.clearDepartureHeading with state := final }
    else s
  | .reconcile final => if final.isTerminal then { s with state := final } else s
  | .restart started => s.restart started

end RouteExecutor

end RoamerX
