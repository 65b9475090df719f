import RoamerX.Center.Models

set_option autoImplicit false

/-! # The task service

`TaskStateService`/`TaskExecutionService` of `monitoring/services/task_service.py`: the transition
table, the state transition with its version check and event row, the repair of a center-only
timeout, progress, and the creation of an execution. `reconcile_task_start_for_execution` is here
too, because a terminal transition calls it.

A call that raises leaves the database as it was (`transaction.atomic`), so a call is a function
into `Except ServiceError CenterDb`. -/

namespace RoamerX

/-! ## The transition table -/

/-- `ALLOWED_TRANSITIONS` as written, before the terminal states are added to active states. -/
def allowedBase : ExecutionState → List ExecutionState
  | .created => [.dispatching, .pausing, .resuming, .cancelling, .cancelled, .interrupted]
  | .dispatching =>
    [.accepted, .pausing, .resuming, .cancelling, .cancelled, .rejected, .timedOut, .interrupted]
  | .accepted =>
    [.running, .pausing, .resuming, .cancelling, .completed, .cancelled, .failed, .timedOut,
      .interrupted]
  | .running =>
    [.pausing, .paused, .resuming, .cancelling, .cancelled, .completed, .failed, .timedOut,
      .interrupted]
  | .pausing =>
    [.accepted, .running, .paused, .resuming, .cancelling, .cancelled, .failed, .interrupted]
  | .paused => [.running, .pausing, .resuming, .cancelling, .cancelled, .interrupted]
  | .resuming =>
    [.accepted, .running, .paused, .pausing, .cancelling, .cancelled, .failed, .interrupted]
  | .cancelling => [.cancelled, .failed, .interrupted]
  | .interrupted =>
    [.accepted, .paused, .running, .pausing, .resuming, .cancelling, .cancelled, .failed]
  | .completed | .failed | .cancelled | .timedOut | .rejected => []

/-- `target in ALLOWED_TRANSITIONS.get(current, set())`, with `TERMINAL_RECONCILIATION_STATES`
    added to every active state. -/
def transitionAllowed (current target : ExecutionState) : Bool :=
  (allowedBase current).contains target || (current.isActive && target.isTerminal)

theorem transitionAllowed_of_terminal {current : ExecutionState} (h : current.isTerminal = true)
    (target : ExecutionState) : transitionAllowed current target = false := by
  cases current <;> first | rfl | exact absurd h (by decide)

theorem transitionAllowed_close {current target : ExecutionState} (hc : current.isActive = true)
    (ht : target.isTerminal = true) : transitionAllowed current target = true := by
  simp [transitionAllowed, hc, ht]

theorem isActive_of_transitionAllowed {current target : ExecutionState}
    (h : transitionAllowed current target = true) : current.isActive = true := by
  by_contra hc
  have hterm : current.isTerminal = true := by simpa [ExecutionState.isTerminal] using hc
  rw [transitionAllowed_of_terminal hterm target] at h
  exact absurd h (by decide)

/-! ## Event rows -/

/-- The two rows collide under `uniq_task_state_ver_non_obstacle`. -/
def TaskExecutionEvent.sameVersion (a b : TaskExecutionEvent) : Bool :=
  a.taskExecution = b.taskExecution && a.stateVersion = b.stateVersion
    && !a.eventType.isExempt && !b.eventType.isExempt

/-- The two rows collide under the uniqueness of `message_id`. -/
def TaskExecutionEvent.sameMessage (a b : TaskExecutionEvent) : Bool :=
  a.messageId.isSome && a.messageId = b.messageId

/-- `TaskExecutionEvent.objects.create`. -/
def CenterDb.createEvent (db : CenterDb) (ev : TaskExecutionEvent) :
    Except ServiceError CenterDb :=
  if db.events.any (fun old => old.sameVersion ev) then
    .error (.integrity "uniq_task_state_ver_non_obstacle")
  else if db.events.any (fun old => old.sameMessage ev) then
    .error (.integrity "message_id")
  else .ok { db with events := db.events ++ [ev] }

theorem CenterDb.createEvent_ok {db db' : CenterDb} {ev : TaskExecutionEvent}
    (h : db.createEvent ev = .ok db') :
    (∀ old ∈ db.events, old.sameVersion ev = false) ∧ db' = { db with events := db.events ++ [ev] } := by
  unfold CenterDb.createEvent at h
  split at h
  · exact absurd h (by simp)
  · next hver =>
    split at h
    · exact absurd h (by simp)
    · refine ⟨fun old hold => ?_, (Except.ok.inj h).symm⟩
      by_contra hc
      exact hver (List.any_eq_true.mpr ⟨old, hold, by simpa using hc⟩)

theorem CenterDb.createEvent_succeeds {db : CenterDb} {ev : TaskExecutionEvent}
    (hversion : ∀ old ∈ db.events, old.sameVersion ev = false) (hmessage : ev.messageId = none) :
    db.createEvent ev = .ok { db with events := db.events ++ [ev] } := by
  have hver : db.events.any (fun old => old.sameVersion ev) = false := by
    rw [List.any_eq_false]
    intro old hold
    simp [hversion old hold]
  have hmsg : db.events.any (fun old => old.sameMessage ev) = false := by
    rw [List.any_eq_false]
    intro old _
    rw [TaskExecutionEvent.sameMessage, hmessage]
    cases old.messageId <;> simp
  unfold CenterDb.createEvent
  rw [hver, hmsg]
  rfl

/-! ## The start command follows the execution -/

def executionCommandStatus : ExecutionState → Option CommandStatus
  | .completed => some .succeeded
  | .failed => some .failed
  | .cancelled => some .cancelled
  | .timedOut => some .timedOut
  | .rejected => some .rejected
  | _ => none

theorem executionCommandStatus_isSome (s : ExecutionState) :
    (executionCommandStatus s).isSome = s.isTerminal := by
  cases s <;> rfl

/-- The body of the loop in `reconcile_task_start_for_execution`. -/
def RemoteCommand.reconciled (c : RemoteCommand) (e : TaskExecution) (target : CommandStatus)
    (now : ℕ) : RemoteCommand :=
  { c with
    status := target
    finishedAt := some (e.finishedAt.getD now)
    resultPayload := c.resultPayload.update
      { finalTaskState := some (.known e.state), stateVersion := some e.stateVersion,
        reconciledFromExecution := some true }
    errorCode :=
      if target = .succeeded then ""
      else if e.failureCode ≠ "" then e.failureCode
      else if target = .timedOut then "COMMAND_TIMED_OUT" else ""
    errorMessage := if target = .succeeded then "" else e.failureMessage }

def CenterDb.reconcileTaskStartForExecution (db : CenterDb) (e : TaskExecution) : CenterDb :=
  match executionCommandStatus e.state with
  | none => db
  | some target =>
    { db with
      commands := db.commands.map (fun c =>
        if c.taskExecution = some e.id ∧ c.commandType = .taskStart ∧ c.status ≠ target then
          c.reconciled e target db.now
        else c) }

/-! ## Transitions -/

/-- The keyword arguments of `TaskExecutionService.transition`. -/
structure TransitionArgs where
  eventType : TaskEventType
  stateVersion : Option ℤ := none
  occurredAt : Option ℕ := none
  messageId : Option Uuid := none
  reasonCode : String := ""
  reasonMessage : String := ""
  deriving DecidableEq

/-- The row `transition` saves. -/
def TaskExecution.transitioned (e : TaskExecution) (target : ExecutionState) (next : ℤ)
    (args : TransitionArgs) (now : ℕ) : TaskExecution :=
  let at_ := args.occurredAt.getD now
  { e with
    state := target
    stateVersion := next
    lastEdgeEventAt := some at_
    acceptedAt := if target = .accepted then some at_ else e.acceptedAt
    startedAt := if target = .running ∧ e.startedAt = none then some at_ else e.startedAt
    pausedAt := if target = .paused then some at_ else e.pausedAt
    finishedAt := if target.isTerminal then some at_ else e.finishedAt
    failureCode := if args.reasonCode ≠ "" then args.reasonCode else e.failureCode
    failureMessage := if args.reasonCode ≠ "" then args.reasonMessage else e.failureMessage }

/-- The event row `transition` creates. -/
def transitionEvent (e : TaskExecution) (target : ExecutionState) (next : ℤ)
    (args : TransitionArgs) (now : ℕ) : TaskExecutionEvent where
  taskExecution := e.id
  state := target
  stateVersion := next
  eventType := args.eventType
  occurredAt := args.occurredAt.getD now
  messageId := args.messageId
  reasonCode := args.reasonCode
  reasonMessage := args.reasonMessage

def CenterDb.transition (db : CenterDb) (execution : Uuid) (target : ExecutionState)
    (args : TransitionArgs) : Except ServiceError CenterDb :=
  match db.execution? execution with
  | none => .error .doesNotExist
  | some locked =>
    if transitionAllowed locked.state target = false then
      .error (.taskState
        ("invalid task state transition: " ++ locked.state.text ++ " -> " ++ target.text))
    else
      let next := args.stateVersion.getD (locked.stateVersion + 1)
      if next ≤ locked.stateVersion then .error (.taskState "STALE_TASK_STATE")
      else
        let saved := locked.transitioned target next args db.now
        match (db.saveExecution saved).createEvent
            (transitionEvent locked target next args db.now) with
        | .error e => .error e
        | .ok db' => .ok (db'.reconcileTaskStartForExecution saved)

def CenterDb.reconcileEdgeActiveAfterCenterTimeout (db : CenterDb) (execution : Uuid)
    (target : ExecutionState) (edgeStateVersion : ℤ) (reasonCode reasonMessage : String) :
    Except ServiceError CenterDb :=
  match db.execution? execution with
  | none => .error .doesNotExist
  | some locked =>
    if (locked.state ≠ .timedOut ∧ locked.state ≠ .interrupted)
        ∨ locked.failureCode ≠ "COMMAND_TIMED_OUT"
        ∨ target.isActive = false
        ∨ target = .created ∨ target = .dispatching then
      .error (.taskState "TASK_TIMEOUT_NOT_RECONCILABLE")
    -- a row that is active already holds the robot's one active slot
    else if locked.state.isTerminal ∧ db.executions.any (fun e => e.state.isActive) then
      .error (.integrity "uniq_active_task_execution_per_robot")
    else
      let next := max (locked.stateVersion + 1) (edgeStateVersion + 1)
      let code :=
        if reasonCode ≠ "" then reasonCode
        else if target = .paused then "EDGE_SYNC_PAUSED" else "EDGE_SYNC_ACTIVE"
      let message :=
        if reasonMessage ≠ "" then reasonMessage
        else if target = .paused then "云边状态对账：设备端任务已暂停"
        else "云边状态对账：设备端任务仍处于 " ++ target.text ++ " 状态"
      let saved :=
        { locked with
          state := target
          stateVersion := next
          finishedAt := none
          lastEdgeEventAt := some db.now
          failureCode := code
          failureMessage := message
          pausedAt := if target = .paused then some db.now else locked.pausedAt }
      (db.saveExecution saved).createEvent
        { taskExecution := locked.id
          state := target
          stateVersion := next
          eventType := .syncCenterTimeoutReconciled
          occurredAt := db.now
          reasonCode := code
          reasonMessage := message }

/-! ## Progress -/

/-- The payload of a `task.progress` message. -/
structure ProgressPayload where
  stateVersion : ℤ
  currentWaypointIndex : Option ℕ := none
  currentWaypointId : String := ""
  completedWaypoints : ℕ := 0
  totalWaypoints : Option ℕ := none
  distanceRemainingM : Option ℚ := none
  estimatedTimeRemainingS : Option ℕ := none
  milestone : Option Milestone := none
  occurredAt : Option ℕ := none
  deriving DecidableEq

/-- What an execution keeps of the progress of its robot. -/
def TaskExecution.progressFields (e : TaskExecution) :
    Option ℕ × String × ℕ × ℕ × Option ℚ × Option ℕ :=
  (e.currentWaypointIndex, e.currentWaypointId, e.completedWaypoints, e.totalWaypoints,
    e.distanceRemainingM, e.estimatedTimeRemainingS)

def TaskExecution.progressed (e : TaskExecution) (p : ProgressPayload) (now : ℕ) :
    TaskExecution :=
  { e with
    stateVersion := p.stateVersion
    currentWaypointIndex := p.currentWaypointIndex
    currentWaypointId := p.currentWaypointId
    completedWaypoints := p.completedWaypoints
    totalWaypoints := p.totalWaypoints.getD e.totalWaypoints
    distanceRemainingM := p.distanceRemainingM
    estimatedTimeRemainingS := p.estimatedTimeRemainingS
    lastEdgeEventAt := some now }

/-- `TaskExecutionService.apply_progress`, on the locked row `e`. -/
def CenterDb.applyProgress (db : CenterDb) (e : TaskExecution) (p : ProgressPayload) :
    CenterDb × TaskExecution :=
  if p.stateVersion ≤ e.stateVersion then (db, e)
  else (db.saveExecution (e.progressed p db.now), e.progressed p db.now)

/-! ## Creating an execution -/

/-- `validate_route_against_map`, given what `validate_map_constraints` made of the map: the code
    of the `MapConstraintError` it raises, if any. -/
def validateRouteAgainstMap (constraints : Except String CoordinateMode) (sceneScope : SceneScope)
    (waypoints : List Waypoint) : Option String :=
  match constraints with
  | .error code => some code
  | .ok .unset => none
  | .ok .localOnly =>
    if sceneScope = .outdoor then some "MAP_LOCAL_ONLY_OUTDOOR_FORBIDDEN"
    else if sceneScope = .transition then some "MAP_LOCAL_ONLY_TRANSITION_FORBIDDEN"
    else if waypoints.any (fun w => w.localizationMode = .rtk) then some "MAP_LOCAL_ONLY_NDT_ONLY"
    else none
  | .ok .rtkFixed => none

/-- The snapshot `create_execution` stores: the given one, or the route's own, with the
    localization policy refreshed from the map record. -/
def refreshSnapshot (route : PatrolRoute) (snapshot : RouteSnapshot) (executionSource : String) :
    RouteSnapshot :=
  let scene := (route.mapData.sceneScope.orElse snapshot.sceneScope).orElse .indoor
  { snapshot with
    sceneScope := scene
    map :=
      { snapshot.map with
        sceneScope := scene
        coordinateMode :=
          (route.mapData.coordinateMode.orElse snapshot.map.coordinateMode).orElse .localOnly }
    executionSource := executionSource }

def loopDispatchKey (loopSessionId : Option Uuid) (roundNumber : ℕ) : Option (Uuid × ℕ) :=
  loopSessionId.map (fun id => (id, max 1 roundNumber))

def CenterDb.findLoopExecution (db : CenterDb) (loopSessionId : Option Uuid) (roundNumber : ℕ) :
    Option TaskExecution :=
  match loopDispatchKey loopSessionId roundNumber with
  | none => none
  | some key => db.executions.find? (fun e => e.loopDispatchKey = some key)

/-- `TaskExecutionService.create_execution`; the new execution is the second component. Without a
    given snapshot the source checks the route's raw waypoints before it normalises them, so where
    both fail the code of the error may differ. -/
def CenterDb.createExecution (db : CenterDb) (task : PatrolTask) (loopSessionId : Option Uuid)
    (roundNumber : ℕ) (routeSnapshot : Option RouteSnapshot) (executionSource : String) :
    Except ServiceError (CenterDb × TaskExecution) :=
  if db.executions.any (fun e => e.state.isActive) then .error (.taskState "ROBOT_BUSY")
  else if task.enabled = false then .error (.taskState "TASK_DISABLED")
  else match task.route with
    | none => .error (.taskState "TASK_ROUTE_MISSING")
    | some route =>
      match routeSnapshot.elim route.snapshot .ok with
      | .error code => .error (.taskState code)
      | .ok snapshot =>
        match validateRouteAgainstMap route.mapData.constraints
            ((route.mapData.sceneScope.orElse route.sceneScope).orElse .indoor)
            snapshot.waypoints with
        | some code => .error (.taskState code)
        | none =>
          let stored := refreshSnapshot route snapshot executionSource
          let key := loopDispatchKey loopSessionId roundNumber
          if key.isSome ∧ db.executions.any (fun e => e.loopDispatchKey = key) then
            .error (.taskState "ROBOT_BUSY")
          else
            let execution : TaskExecution :=
              { id := db.nextUuid
                task := task
                route := some route
                routeSnapshot := stored
                loopSessionId := loopSessionId
                roundNumber := max 1 roundNumber
                loopDispatchKey := key
                totalWaypoints := stored.waypoints.length }
            let db := { db with
              nextUuid := db.nextUuid + 1, executions := db.executions ++ [execution] }
            match db.createEvent
                { taskExecution := execution.id
                  state := .created
                  stateVersion := 0
                  eventType := .taskCreated
                  occurredAt := db.now } with
            | .error e => .error e
            | .ok db => .ok (db, execution)

/-! ## A task to run -/

/-- A corridor of two waypoints, ten metres apart. -/
def corridor : RouteSnapshot where
  routeId := "route-1"
  routeName := "corridor"
  map := { mapId := "map-1", sceneScope := .indoor, coordinateMode := .localOnly }
  sceneScope := .indoor
  waypoints :=
    [{ waypointId := "wp-1", sequence := 1, mapPointNumber := 1, name := "west", x := .finite 0,
       y := .finite 0, yaw := .finite 0 },
     { waypointId := "wp-2", sequence := 2, mapPointNumber := 2, name := "east", x := .finite 10,
       y := .finite 0, yaw := .finite 0 }]

/-- The task that patrols the corridor. -/
def corridorTask : PatrolTask where
  id := 1
  name := "corridor"
  enabled := true
  recordRosbag := false
  route := some
    { sceneScope := .indoor
      recordRosbag := false
      mapData := { sceneScope := .indoor, coordinateMode := .localOnly, constraints := .ok .localOnly }
      snapshot := .ok corridor }

end RoamerX
