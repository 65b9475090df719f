import RoamerX.Center.Models
import RoamerX.Edge.MapSetCoordinator

set_option autoImplicit false

/-! # Dispatch along a route

The part of `TaskExecutor` that keeps the route index, the segment index and the submap, and sends the
navigation goals. Every function runs under the executor's lock. What the pose, the localization and
the navigation adapter answer is a parameter, anew for each leg a dispatch looks at. -/

namespace RoamerX

/-- `execution_order` of the route snapshot. -/
inductive RouteOrder
  | unset | forward | reverse | reverseFromRouteEnd
  deriving DecidableEq

/-- A goal handed to `send_waypoints`, with the context and the submap it is sent in. -/
structure SentGoal where
  waypointIndex : ℕ
  segmentIndex : ℕ
  /-- The submap that was activated last. -/
  submapId : String
  /-- The waypoints in the order of the round. -/
  waypoints : List RouteWaypoint
  submaps : List Submap
  deriving DecidableEq

/-- The milestones `on_feedback` tells apart. -/
inductive FeedbackMilestone
  | targetDispatched
  /-- `waypoint_reached` and `arrival_confirmed`. -/
  | arrived
  /-- Any other, or none. -/
  | other
  deriving DecidableEq

/-- What a dispatch finds out about the robot and the navigation stack. -/
structure Look where
  /-- `_current_pose_xy() is not None`. -/
  poseKnown : Bool := true
  /-- `_pose_agrees_with_click_for_skip` of a waypoint. -/
  colocated : ℕ → Bool := fun _ => false
  /-- The pose, and outdoors the RTK fix, lies in the arrival range of a waypoint. -/
  occupied : ℕ → Bool := fun _ => false
  /-- The pose lies in `ARRIVAL_ACCEPT_LIO_M` of a waypoint. -/
  near : ℕ → Bool := fun _ => false
  /-- The heading error towards a waypoint requires a turn. -/
  turnNeeded : ℕ → Bool := fun _ => false
  /-- `_use_teleop_departure_heading()`. -/
  teleop : Bool := true
  /-- The navigation accepts the goal of a turn. -/
  turnAccepted : Bool := true
  /-- `TASK_PROGRESS_MIN_INTERVAL_SECONDS` have passed since the last progress. -/
  progressDue : Bool := false
  /-- `_prepare_robot_for_navigation()`. -/
  robotStands : Bool := true
  /-- The profile of the leg is written. -/
  profileSet : Bool := true
  /-- The navigation accepts the goal. -/
  accepted : Bool := true
  /-- The retry budget is not used up. -/
  retryLeft : Bool := true

/-- `TaskExecutor` with its context and the coordinator. An ended context stands for none as well. -/
structure RouteExecutor where
  state : ExecutionState := .completed
  waypoints : List RouteWaypoint := []
  /-- `loop_base_waypoints`. -/
  baseWaypoints : List RouteWaypoint := []
  /-- `route_snapshot["map_set"]["submaps"]`. -/
  submaps : List Submap := []
  executionOrder : RouteOrder := .unset
  loopRoundContinuation : Bool := false
  docking : Bool := false
  currentWaypointIndex : ℕ := 0
  currentSegmentIndex : ℕ := 0
  roundNumber : ℕ := 1
  loopTotal : ℕ := 1
  /-- `arrival_reapproach_waypoint_index`, while its attempts are above zero. -/
  arrivalReapproachIndex : Option ℕ := none
  postArrivalIndex : Option ℕ := none
  segments : List RouteSegment := []
  coordinator : MapSetCoordinator := {}
  goalOffset : ℕ := 0
  dispatchedCount : ℕ := 0
  departureHeadingIndex : Option ℕ := none
  departureCruiseIndex : Option ℕ := none
  departureHeadingCompletedIndex : Option ℕ := none
  /-- `_departure_heading_mode == "teleop"`. -/
  departureTeleop : Bool := false
  departureIsArrival : Bool := false
  /-- `_nav_dispatch_retry_timer`. -/
  retryArmed : Bool := false
  pendingDispatchIndex : Option ℕ := none
  lastTargetIndex : ℤ := -1
  lastReachedIndex : ℤ := -1
  localizationReadyIndex : Option ℕ := none
  /-- `_speech_waiting_index` and `_speech_wait_finished`. -/
  speechWaiting : Option (ℕ × Bool) := none
  /-- `_dwell_waiting_index` and `_dwell_wait_finished`. -/
  dwellWaiting : Option (ℕ × Bool) := none
  /-- The index `_handle_live_goal_source_switch` has read and will dispatch. -/
  replanIndex : Option ℕ := none
  /-- `_evaluate_cruise_watch` has passed a waypoint and will complete it. -/
  cruiseCompletes : Bool := false
  /-- The start has prepared the map set, or has found none. -/
  prepared : Bool := false
  /-- The submap whose activation succeeded last; it outlives the process. -/
  activatedSubmapId : String := ""
  /-- The goals sent for waypoints so far. -/
  sent : List SentGoal := []
  /-- An index error of a batch or of the segments left the dispatch. -/
  indexError : Bool := false

namespace RouteExecutor

variable (s : RouteExecutor)

def waypointIsPassThrough (index : ℕ) : Bool := s.waypoints[index]?.any (·.passThrough)

/-! ## Progress -/

/-- `_build_progress_locked`. -/
def buildProgress (index : ℕ) : RouteExecutor := { s with currentWaypointIndex := index }

/-- One pass of the loop over the targets that lie before the reported waypoint. -/
def passTarget : RouteExecutor :=
  let reached :=
    if s.lastReachedIndex < s.lastTargetIndex then
      { s.buildProgress s.lastTargetIndex.toNat with lastReachedIndex := s.lastTargetIndex }
    else s
  { reached.buildProgress (s.lastTargetIndex + 1).toNat with
    lastTargetIndex := s.lastTargetIndex + 1 }

/-- One pass of the loop over the waypoints an arrival confirms. -/
def confirmReached : RouteExecutor :=
  let reached := s.lastReachedIndex + 1
  { s.buildProgress reached.toNat with
    lastTargetIndex := max s.lastTargetIndex reached
    lastReachedIndex := reached }

/-- `on_feedback` for the waypoint at `index` of the route, that is
    `current_waypoint_index + _goal_offset`. -/
def onFeedback (index : ℕ) (milestone : FeedbackMilestone) (progressDue : Bool) : RouteExecutor :=
  if s.state ≠ .running ∨ s.waypoints.length ≤ index then s
  else
    match milestone with
    | .targetDispatched =>
      if s.lastTargetIndex < index then { s.buildProgress index with lastTargetIndex := index }
      else s
    | .arrived => confirmReached^[(index - s.lastReachedIndex).toNat] s
    | .other =>
      if s.lastTargetIndex < index then passTarget^[(index - s.lastTargetIndex).toNat] s
      else if progressDue then s.buildProgress index
      else s

/-! ## Failure and retries -/

def clearNavDispatchRetry : RouteExecutor :=
  { s with retryArmed := false, pendingDispatchIndex := none }

def clearDepartureHeading : RouteExecutor :=
  { s with
    departureHeadingIndex := none
    departureCruiseIndex := none
    departureHeadingCompletedIndex := none
    departureTeleop := false
    departureIsArrival := false }

def fail : RouteExecutor :=
  { s.clearNavDispatchRetry.clearDepartureHeading with dwellWaiting := none, state := .failed }

def scheduleNavDispatchRetry (index : ℕ) (retryLeft : Bool) : RouteExecutor :=
  if s.state.isTerminal ∨ s.state = .cancelling then s
  else if !retryLeft then s.fail
  else
    { s with
      pendingDispatchIndex := some index
      currentWaypointIndex := index
      state := if s.state = .paused ∨ s.state = .pausing then s.state else .running
      retryArmed := true }

/-! ## Waypoints the robot has already reached -/

/-- The loop over the waypoints the robot is at: the next index, and the executor after it has reported
    the passed ones. At most `n` are passed. -/
def passWaypoints (isPassed : ℕ → Bool) : ℕ → ℕ → RouteExecutor → ℕ × RouteExecutor
  | 0, advanced, s => (advanced, s)
  | n + 1, advanced, s =>
    if isPassed advanced then
      passWaypoints isPassed n (advanced + 1)
        { s.buildProgress advanced with
          lastReachedIndex := max s.lastReachedIndex advanced
          lastTargetIndex := max s.lastTargetIndex advanced }
    else (advanced, s)

/-- The loop, which leaves the last waypoint, and the context after it. -/
def advanceWhile (isPassed : ℕ → Bool) (index : ℕ) : ℕ × RouteExecutor :=
  let r := passWaypoints isPassed (s.waypoints.length - 1 - index) index s
  if r.1 ≠ index then (r.1, r.2.buildProgress r.1) else r

def advancePastColocatedWaypoints (look : Look) (index : ℕ) : ℕ × RouteExecutor :=
  if s.docking ∨ s.executionOrder = .unset
      ∨ (s.executionOrder = .forward ∧ s.loopRoundContinuation = false)
      ∨ index ≠ 0 ∨ look.poseKnown = false ∨ s.waypoints.length ≤ index then (index, s)
  else s.advanceWhile look.colocated index

def advanceIfAlreadyArrived (look : Look) (index : ℕ) : ℕ × RouteExecutor :=
  if s.docking ∨ look.poseKnown = false ∨ s.waypoints.length ≤ index then (index, s)
  else s.advanceWhile (fun i => s.waypointIsPassThrough i && look.occupied i) index

/-! ## Turns -/

/-- `_start_departure_heading`: whether the turn has started, and the executor. -/
def startDepartureHeading (look : Look) (reached : ℕ) (cruise : Option ℕ) (arrivalHeading : Bool) :
    Bool × RouteExecutor :=
  let turning :=
    { s with
      departureHeadingIndex := some reached
      departureCruiseIndex := cruise
      departureTeleop := look.teleop
      departureIsArrival := arrivalHeading && look.teleop
      goalOffset := reached
      dispatchedCount := 1 }
  if look.teleop then (true, turning.onFeedback reached .other look.progressDue)
  else if arrivalHeading then (false, s)
  else if look.turnAccepted then (true, turning.onFeedback reached .other look.progressDue)
  else
    (false, { turning with
      departureHeadingIndex := none
      departureCruiseIndex := none })

/-- Where `_maybe_face_travel_direction` turns to, and the waypoint the leg after the turn goes to. -/
def travelDirection (look : Look) (target : ℕ) : Option (ℕ × ℕ) :=
  if s.docking ∨ s.departureHeadingIndex.isSome ∨ s.departureCruiseIndex.isSome
      ∨ s.waypoints.length ≤ target ∨ look.poseKnown = false then none
  else if look.near target then
    if s.waypoints.length ≤ target + 1 ∨ look.near (target + 1) then none
    else if look.turnNeeded (target + 1) then
      some (target + 1, if s.waypointIsPassThrough target then target + 1 else target)
    else none
  else if look.turnNeeded target then some (target, target)
  else none

def maybeFaceTravelDirection (look : Look) (target : ℕ) : Bool × RouteExecutor :=
  match s.travelDirection look target with
  | some (heading, cruise) => s.startDepartureHeading look (heading - 1) (some cruise) false
  | none => (false, s)

/-! ## Dispatch -/

/-- `_batch_end_index`, or no index when the segments have none at the segment index. -/
def batchEndIndex (start : ℕ) : Option ℕ :=
  if s.segments = [] then some (min (start + 1) s.waypoints.length)
  else s.segments[s.currentSegmentIndex]?.map fun segment =>
    min (start + 1) (min segment.endIndex s.waypoints.length)

/-- `send_waypoints` for the waypoint at `index`. -/
def sendWaypoint (index : ℕ) : RouteExecutor :=
  { s with
    sent := s.sent ++ [⟨index, s.currentSegmentIndex, s.activatedSubmapId, s.waypoints, s.submaps⟩] }

/-- `_dispatch_navigation` from where no waypoint is passed any more. -/
def dispatchLeg (look : Look) (index : ℕ) : RouteExecutor :=
  if look.robotStands = false then s.fail
  else if s.waypoints.length ≤ index then s
  else
    match s.batchEndIndex index with
    | none => { s with indexError := true }
    | some batchEnd =>
      if look.profileSet = false then s.scheduleNavDispatchRetry index look.retryLeft
      -- `batch[0]` of an empty batch
      else if batchEnd ≤ index then { s with indexError := true }
      else
        let sending :=
          { s with goalOffset := index, dispatchedCount := batchEnd - index }.sendWaypoint index
        if look.accepted = false then sending.scheduleNavDispatchRetry index look.retryLeft
        else
          { sending.clearNavDispatchRetry with
            currentWaypointIndex := index
            state := .running }.onFeedback index .targetDispatched look.progressDue

/-- `_send_from`, with what `_dispatch_navigation` does for the leg. -/
def sendFromWith (look : Look) (dispatch : RouteExecutor → ℕ → RouteExecutor) (index : ℕ) :
    RouteExecutor :=
  if s.arrivalReapproachIndex = some index then s.dispatchLeg look index
  else
    let past := s.advancePastColocatedWaypoints look index
    let arrived := past.2.advanceIfAlreadyArrived look past.1
    let faced := arrived.2.maybeFaceTravelDirection look arrived.1
    if faced.1 then faced.2 else dispatch faced.2 arrived.1

/-- `_dispatch_navigation`, which calls `_send_from` again for each waypoint it finds the robot at. The
    legs of the call are counted in `leg`, and as it never comes back to a waypoint `n` of them are
    enough when no more than `n` waypoints are left. -/
def dispatchLegs (looks : ℕ → Look) : ℕ → ℕ → RouteExecutor → ℕ → RouteExecutor
  | 0, _, s, _ => s
  | n + 1, leg, s, index =>
    let arrived := s.advanceIfAlreadyArrived (looks leg) index
    if arrived.1 = index then arrived.2.dispatchLeg (looks leg) index
    else arrived.2.sendFromWith (looks leg) (dispatchLegs looks n (leg + 1)) arrived.1

def dispatchNavigation (looks : ℕ → Look) (index : ℕ) : RouteExecutor :=
  dispatchLegs looks (s.waypoints.length + 1) 0 s index

def sendFrom (looks : ℕ → Look) (index : ℕ) : RouteExecutor :=
  s.sendFromWith (looks 0) (dispatchLegs looks (s.waypoints.length + 1) 1) index

/-! ## Submaps -/

/-- `map_set_coordinator.activate`: whether it returned, and the executor. -/
def activate (segment : RouteSegment) (answer : Except String Unit) : Bool × RouteExecutor :=
  let activated := s.coordinator.activate segment answer
  match activated.1 with
  | .ok _ =>
    (true, { s with coordinator := activated.2, activatedSubmapId := segment.submapId })
  | .error _ => (false, { s with coordinator := activated.2 })

/-- The segment a waypoint lies in, or the first. -/
def segmentOf (index : ℕ) : ℕ :=
  (s.segments.findIdx? fun segment =>
    decide (segment.startIndex ≤ index ∧ index < segment.endIndex)).getD 0

/-- `build_segments`, where no segments are left from before. -/
def buildSegments : Bool × RouteExecutor :=
  if s.segments = [] then
    match RoamerX.buildSegments s.waypoints s.submaps with
    | .ok segments => (true, { s with segments := segments })
    | .error _ => (false, s)
  else (true, s)

/-- `_prepare_map_set_for_current_waypoint`: whether it returned, and the executor. -/
def prepareMapSetForCurrentWaypoint (answer : Except String Unit) : Bool × RouteExecutor :=
  let built := s.buildSegments
  if built.1 = false then built
  else
    let segmentIndex := built.2.segmentOf built.2.currentWaypointIndex
    match built.2.segments[segmentIndex]? with
    | none => built
    | some segment =>
      let activated :=
        if segment.submapId = "" ∨ built.2.coordinator.currentSubmapId ≠ segment.submapId then
          built.2.activate segment answer
        else (true, built.2)
      if activated.1 = false then activated
      else (true, { activated.2 with currentSegmentIndex := segmentIndex, prepared := true })

def sendSegment (looks : ℕ → Look) (segmentIndex : ℕ) (segment : RouteSegment) (start : ℕ) :
    RouteExecutor :=
  { s with currentSegmentIndex := segmentIndex }.dispatchNavigation looks
    (max segment.startIndex start)

end RouteExecutor

end RoamerX
