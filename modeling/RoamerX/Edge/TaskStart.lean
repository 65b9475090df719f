import RoamerX.Center.TaskService

set_option autoImplicit false

/-! # The start of a task on the Edge

`TaskExecutor.prepare_task_start` of `roamerx_edge/task_executor.py`: it checks the route of a
`task.start` command, chooses the waypoint to start from and the order in which the route is
driven, and installs the task context. The speech fields of a waypoint are left out; a normalised
route has them in a form the Edge accepts. -/

namespace RoamerX

/-! ## The command -/

/-- The command object of a `task.start` as the Edge reads it; `loopDirection` is `""` when the
    object has no such key. -/
structure TaskStartCommand where
  payload : TaskStartPayload
  loopDirection : String := ""
  deriving DecidableEq

/-- `build_command_message`: the command object is the stored payload as it is. -/
def buildCommandMessage (p : TaskStartPayload) : TaskStartCommand where
  payload := p

/-! ## The context -/

/-- `route["execution_order"]`. -/
inductive ExecutionOrder
  | forward | reverseFromRouteEnd
  deriving DecidableEq

/-- The entries `prepare_task_start` adds to the route snapshot, and the waypoints. -/
structure EdgeRoute where
  waypoints : List Waypoint
  executionOrder : Option ExecutionOrder := none
  loopRoundContinuation : Bool := false
  initialMapPointNumber : Option ℤ := none
  initialWaypointIndex : ℕ
  deriving DecidableEq

structure TaskContext where
  taskExecutionId : Uuid
  state : ExecutionState := .accepted
  stateVersion : ℤ := 2
  route : EdgeRoute
  currentWaypointIndex : ℕ
  startCommandId : Uuid
  loopExecution : Bool
  loopSessionId : Option Uuid
  docking : Docking
  roundNumber : ℕ
  loopTotal : ℕ
  loopBaseWaypoints : List Waypoint
  deriving DecidableEq

/-! ## Where the robot stands -/

def waypointColocationM : ℚ := 1

def roundTripStartMarginM : ℚ := 2

/-- `_waypoint_xy`. -/
def Waypoint.xy (w : Waypoint) : Option (ℚ × ℚ) :=
  match w.x, w.y with
  | .finite x, .finite y => some (x, y)
  | _, _ => none

/-- What `prepare_task_start` reads besides the command. -/
structure StartEnvironment where
  localizationOperationActive : Bool := false
  /-- `hypot(a.x - b.x, a.y - b.y)` on floats. -/
  distance : ℚ × ℚ → ℚ × ℚ → Coord
  /-- `navigation.latest_pose()`. -/
  pose : Option (Coord × Coord)
  /-- The actions the waypoint action registry has handlers for. -/
  supportedActions : List String := []
  /-- `_assert_map_constraints`: the code of the error it raises, if it does. -/
  mapConstraints : RouteSnapshot → Option String := fun _ => none

/-- `a < b` for distances, where a distance that is not finite is infinite. -/
def Coord.nearer : Coord → Coord → Bool
  | .finite a, .finite b => a < b
  | .finite _, .nonfinite => true
  | .nonfinite, _ => false

/-- `min(range(len(distances)), key=distances.__getitem__)`: the first of the least distances. -/
def nearestOffset (distances : List Coord) : ℕ :=
  distances.findIdx (fun d => distances.all (fun d' => !d'.nearer d))

namespace StartEnvironment

variable (env : StartEnvironment)

/-- `_waypoints_are_colocated`. -/
def colocated (a b : Option (ℚ × ℚ)) : Bool :=
  match a, b with
  | some a, some b =>
    match env.distance a b with
    | .finite d => d ≤ waypointColocationM
    | .nonfinite => false
  | _, _ => false

def earliestColocatedNearestIndex (waypoints : List Waypoint) (startIndex : ℕ) : ℕ :=
  if waypoints = [] then 0
  else if waypoints.length ≤ startIndex then startIndex
  else
    match env.pose with
    | some (.finite px, .finite py) =>
      let distances := (waypoints.drop startIndex).map (fun w =>
        w.xy.elim .nonfinite (env.distance (px, py)))
      let offset := nearestOffset distances
      let nearestIndex := startIndex + offset
      match distances[offset]?, waypoints[nearestIndex]?.bind Waypoint.xy with
      | some (.finite _), some nearestXy =>
        let xyAt := fun i => waypoints[i]?.bind Waypoint.xy
        let chosenIndex :=
          ((List.range' startIndex (waypoints.length - startIndex)).find? (fun i =>
            env.colocated (xyAt i) (some nearestXy))).getD nearestIndex
        if chosenIndex ≤ startIndex then chosenIndex
        else
          match (List.range chosenIndex).find? (fun i =>
              env.colocated (xyAt i) (xyAt chosenIndex)) with
          -- a later copy of an earlier waypoint is not ahead on the route
          | some i => max startIndex i
          | none => chosenIndex
      | _, _ => startIndex
    | _ => startIndex

def preferRoundTripStart (waypoints : List Waypoint) (nearestIndex : ℕ) : ℕ :=
  if nearestIndex ≠ waypoints.length - 1 ∨ waypoints.length < 2 then nearestIndex
  else
    match env.pose, waypoints.head?.bind Waypoint.xy, waypoints.getLast?.bind Waypoint.xy with
    | some (.finite px, .finite py), some first, some last =>
      match env.distance (px, py) first, env.distance (px, py) last with
      | .finite f, .finite l => if f ≤ l + roundTripStartMarginM then 0 else nearestIndex
      | _, .nonfinite => 0
      | .nonfinite, .finite _ => nearestIndex
    | _, _, _ => nearestIndex

def nearestWaypointIndex (waypoints : List Waypoint) : ℕ :=
  env.preferRoundTripStart waypoints (env.earliestColocatedNearestIndex waypoints 0)

end StartEnvironment

/-! ## The order of the route -/

/-- `waypoints.reverse()` with the sequence numbers written anew. -/
def reverseWaypoints (waypoints : List Waypoint) : List Waypoint :=
  waypoints.reverse.zipIdx.map (fun p => { p.1 with sequence := p.2 })

def TaskStartCommand.explicitLoopRound (command : TaskStartCommand) : Bool :=
  command.payload.loopExecution && 1 < command.payload.roundNumber &&
    (command.loopDirection = "forward" || command.loopDirection = "reverse")

/-- The route as `prepare_task_start` orders it. -/
def prepareRoute (env : StartEnvironment) (command : TaskStartCommand) : EdgeRoute :=
  let waypoints := command.payload.routeSnapshot.waypoints
  let initialWaypointIndex :=
    if command.payload.docking.enabled then 0 else env.nearestWaypointIndex waypoints
  if command.explicitLoopRound then
    if command.loopDirection = "reverse" then
      { waypoints := reverseWaypoints waypoints
        executionOrder := some .reverseFromRouteEnd
        loopRoundContinuation := true
        initialWaypointIndex := 0 }
    else
      { waypoints := waypoints
        executionOrder := some .forward
        loopRoundContinuation := true
        initialWaypointIndex := 0 }
  else if command.payload.loopExecution ∧ command.payload.docking.enabled = false ∧
      1 < waypoints.length ∧ initialWaypointIndex = waypoints.length - 1 then
    { waypoints := reverseWaypoints waypoints
      executionOrder := some .reverseFromRouteEnd
      initialMapPointNumber := waypoints.getLast?.map Waypoint.mapPointNumber
      initialWaypointIndex := 0 }
  else
    { waypoints := waypoints
      initialWaypointIndex := initialWaypointIndex }

/-- `prepare_task_start`: the context it installs, or the code of the `ProtocolError` it raises. -/
def prepareTaskStart (env : StartEnvironment) (commandId taskExecutionId : Uuid)
    (command : TaskStartCommand) : Except ServiceError TaskContext :=
  let snapshot := command.payload.routeSnapshot
  if env.localizationOperationActive then .error (.protocol "LOCALIZATION_COMMAND_BUSY")
  else
    match env.mapConstraints snapshot with
    | some code => .error (.protocol code)
    | none =>
      if snapshot.waypoints.any (fun w => w.arrivalPolicy = .dock) ∧
          command.payload.docking.enabled = false then
        .error (.protocol "DOCKING_CONTEXT_REQUIRED")
      else if snapshot.waypoints.any (fun w => w.actions.any (· ∉ env.supportedActions)) then
        .error (.protocol "UNSUPPORTED_WAYPOINT_ACTION")
      else
        let route := prepareRoute env command
        .ok
          { taskExecutionId := taskExecutionId
            route := route
            currentWaypointIndex := route.initialWaypointIndex
            startCommandId := commandId
            loopExecution := command.payload.loopExecution
            loopSessionId := command.payload.loopSessionId
            docking := command.payload.docking
            roundNumber := max 1 command.payload.roundNumber
            loopTotal := max 1 command.payload.loopTotal
            loopBaseWaypoints := snapshot.waypoints }

/-! ## Reversing -/

/-- The waypoint without its place in the sequence. -/
def Waypoint.point (w : Waypoint) : Waypoint := { w with sequence := 0 }

theorem reverseWaypoints_point (waypoints : List Waypoint) :
    (reverseWaypoints waypoints).map Waypoint.point = (waypoints.map Waypoint.point).reverse := by
  unfold reverseWaypoints
  rw [List.map_map, ← List.map_reverse]
  calc waypoints.reverse.zipIdx.map (Waypoint.point ∘ fun p => { p.1 with sequence := p.2 })
      = waypoints.reverse.zipIdx.map (Waypoint.point ∘ Prod.fst) := rfl
    _ = waypoints.reverse.map Waypoint.point := by
      rw [← List.map_map, List.zipIdx_map_fst]

/-- **What the preparation installs**, when it succeeds. -/
theorem prepareTaskStart_ok {env : StartEnvironment} {commandId taskExecutionId : Uuid}
    {command : TaskStartCommand} {context : TaskContext}
    (h : prepareTaskStart env commandId taskExecutionId command = .ok context) :
    context.taskExecutionId = taskExecutionId ∧ context.startCommandId = commandId ∧
      context.state = .accepted ∧ context.stateVersion = 2 ∧
      context.route = prepareRoute env command ∧
      context.currentWaypointIndex = context.route.initialWaypointIndex := by
  unfold prepareTaskStart at h
  dsimp only at h
  split at h
  · exact absurd h (by simp)
  · split at h
    · exact absurd h (by simp)
    · split at h
      · exact absurd h (by simp)
      · split at h
        · exact absurd h (by simp)
        · obtain rfl := Except.ok.inj h
          exact ⟨rfl, rfl, rfl, rfl, rfl, rfl⟩

end RoamerX
