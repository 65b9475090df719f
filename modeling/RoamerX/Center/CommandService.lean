import RoamerX.Center.TaskService

set_option autoImplicit false

/-! # The command service

`CommandService` of `monitoring/services/command_service.py`: creating a command together with the
task transition it requests, publishing marks, the timeout sweep, and the idempotent creation of
recovery commands. -/

namespace RoamerX

/-! ## Settings -/

/-- `settings.LOW_BATTERY_STOP_PERCENT`. -/
def lowBatteryPercent : ℤ := 20

def lowBatteryRearmPercent : ℤ := 25

def taskMaxDurationSeconds : ℕ := 1800

def commandControlExpirySeconds : ℕ := 15

def taskRecoveryExpirySeconds : ℕ := 300

/-! ## Creating commands -/

/-- `CommandService.COMMAND_TARGET_STATES`. -/
def commandTargetState : CommandType → Option ExecutionState
  | .taskStart => some .dispatching
  | .taskPause => some .pausing
  | .taskResume => some .resuming
  | .taskResumeForward => some .resuming
  | .taskCancel => some .cancelling
  | .taskForceExit => some .cancelling
  | .taskRecover | .navRosbagStop => none

/-- The keys of `command_options` a caller may give. -/
structure CommandOptions where
  recordRosbag : Option Bool := none
  recordRosbagFrozen : Bool := false
  continuousRosbag : Bool := false
  loopExecution : Bool := false
  loopTotal : ℕ := 1
  loopDirection : Option String := none
  smartInitialize : Bool := true
  docking : Docking := {}
  reason : String := ""
  deriving DecidableEq

def effectiveRecordRosbag (e : TaskExecution) (requested : Option Bool) : Bool :=
  let route := e.route.or e.task.route
  if route.any (·.recordRosbag) then true
  else requested.getD e.task.recordRosbag

/-- `CommandService._ensure_battery_allows`: the `PermissionDenied` message, if it raises. -/
def CenterDb.ensureBatteryAllows (db : CenterDb) (commandType : CommandType)
    (allowDocking : Bool) : Option String :=
  let percent : Option ℤ :=
    match db.latest with
    | some latest =>
      if latest.powerAvailable then latest.batteryPercent.or (some db.robot.batteryLevel)
      else some db.robot.batteryLevel
    | none => some db.robot.batteryLevel
  if commandType = .taskStart ∧ allowDocking = false
      ∧ db.lowBatteryEpisodes.any (fun ep => ep.active) then
    some "低电量保护仍在锁存"
  else
    match percent with
    | none => none
    | some percent =>
      if lowBatteryPercent ≤ percent then none
      else if commandType = .taskStart ∧ allowDocking = false then some "电量不足"
      else none

/-- The command object of a `task.start`. The options' `loop_direction` is not part of it. -/
def taskStartPayload (e : TaskExecution) (options : CommandOptions) : TaskStartPayload :=
  let recordRosbag :=
    if options.recordRosbagFrozen then options.recordRosbag.getD false
    else effectiveRecordRosbag e options.recordRosbag
  { taskId := e.task.id
    taskName := e.task.name
    map := e.routeSnapshot.map
    routeSnapshot := e.routeSnapshot
    maxDurationSeconds := taskMaxDurationSeconds
    recordRosbag := recordRosbag
    continuousRosbag := recordRosbag && e.loopSessionId.isSome && options.continuousRosbag
    loopExecution := options.loopExecution
    loopSessionId := e.loopSessionId
    roundNumber := e.roundNumber
    loopTotal := max 1 options.loopTotal
    smartInitialize := options.smartInitialize
    docking := options.docking }

/-- The payload and the expiry, in seconds, that `CommandService.create` gives a command. -/
def commandPayload (e : TaskExecution) (type : CommandType) (options : CommandOptions) :
    CommandPayload × ℕ :=
  match type with
  | .taskStart => (.start (taskStartPayload e options), taskMaxDurationSeconds)
  | .taskResume => (.resume (e.currentWaypointIndex.getD 0), commandControlExpirySeconds)
  | .taskResumeForward =>
    (.resumeForward "operator_resume_forward" true, commandControlExpirySeconds)
  | _ =>
    (.reason (if options.reason ≠ "" then options.reason else "operator_request"),
      commandControlExpirySeconds)

/-- `RemoteCommand.objects.create`: the new row gets a fresh id and the current time. -/
def CenterDb.insertCommand (db : CenterDb) (taskExecution : Option Uuid) (type : CommandType)
    (payload : CommandPayload) (expirySeconds : ℕ) : CenterDb × RemoteCommand :=
  let command : RemoteCommand :=
    { id := db.nextUuid
      taskExecution := taskExecution
      commandType := type
      payload := payload
      issuedAt := db.now
      expiresAt := db.now + seconds expirySeconds }
  ({ db with nextUuid := db.nextUuid + 1, commands := db.commands ++ [command] }, command)

/-- The transition `task.force_exit` makes on every active execution of the robot. -/
def forceExitArgs : TransitionArgs where
  eventType := .requested .taskForceExit
  reasonCode := "FORCE_EXIT"
  reasonMessage := "操作员强制退出并清理任务状态"

/-- The loop of `CommandService.create` over the active executions for `task.force_exit`. -/
def CenterDb.forceExitAll (db : CenterDb) : List Uuid → Except ServiceError CenterDb
  | [] => .ok db
  | id :: ids =>
    match db.transition id .cancelled forceExitArgs with
    | .error e => .error e
    | .ok db => db.forceExitAll ids

/-- `CommandService.create`; the new command is the second component. -/
def CenterDb.createCommand (db : CenterDb) (execution : Uuid) (type : CommandType)
    (options : CommandOptions) : Except ServiceError (CenterDb × RemoteCommand) :=
  match commandTargetState type with
  | none => .error .unsupportedCommand
  | some target =>
    match db.execution? execution with
    | none => .error .doesNotExist
    | some e =>
      match db.ensureBatteryAllows type options.docking.enabled with
      | some message => .error (.permissionDenied message)
      | none =>
        let (payload, expirySeconds) := commandPayload e type options
        let (db', command) := db.insertCommand (some execution) type payload expirySeconds
        let result :=
          if type = .taskForceExit then
            db'.forceExitAll (db'.activeExecutions.map TaskExecution.id)
          else db'.transition execution target { eventType := .requested type }
        match result with
        | .error err => .error err
        | .ok db'' => .ok (db'', command)

/-- `CommandService.create_robot_command`, for the one robot command a patrol loop issues. -/
def CenterDb.createRobotCommand (db : CenterDb) (type : CommandType) (payload : CommandPayload)
    (expirySeconds : ℕ) : CenterDb × RemoteCommand :=
  db.insertCommand none type payload expirySeconds

/-- The row is the recovery command of this execution, episode and attempt. -/
def RemoteCommand.isRecovery (c : RemoteCommand) (execution : Uuid) (episode : Uuid)
    (attempt : ℕ) : Bool :=
  c.taskExecution = some execution && c.commandType = .taskRecover &&
    match c.payload with
    | .recovery p => p.recoveryEpisodeId = episode && p.attempt = attempt
    | _ => false

/-- The command object of a recovery attempt. -/
def recoveryPayload (e : TaskExecution) (episode : Uuid) (attempt : ℕ)
    (reasonCode reasonMessage : String) : CommandPayload :=
  .recovery
    { recoveryEpisodeId := episode
      attempt := attempt
      expectedTaskStateVersion := e.stateVersion
      triggerReasonCode := reasonCode
      triggerReasonMessage := reasonMessage }

/-- `CommandService.create_task_recovery`: the existing command for this attempt, or a new one. -/
def CenterDb.createTaskRecovery (db : CenterDb) (e : TaskExecution) (episode : Uuid) (attempt : ℕ)
    (reasonCode reasonMessage : String) : CenterDb × RemoteCommand :=
  match db.commands.find? (fun c => c.isRecovery e.id episode attempt) with
  | some existing => (db, existing)
  | none =>
    db.insertCommand (some e.id) .taskRecover
      (recoveryPayload e episode attempt reasonCode reasonMessage) taskRecoveryExpirySeconds

/-! ## Publishing -/

/-- `CommandService.mark_published`, on the row read before the publish. -/
def CenterDb.markPublished (db : CenterDb) (command : Uuid) : CenterDb :=
  db.updateCommand command (fun c => { c with status := .published, publishedAt := some db.now })

def CenterDb.markPublishFailed (db : CenterDb) (command : Uuid) (message : String) : CenterDb :=
  db.updateCommand command (fun c =>
    { c with
      status := .failed
      errorCode := "MQTT_PUBLISH_FAILED"
      errorMessage := message
      finishedAt := some db.now })

/-! ## Timeouts -/

/-- The transition `mark_timeout` attempts on the execution `e` of a command of this type: the
    target and its arguments. -/
def timeoutTransition (type : CommandType) (startMessage : String) (e : TaskExecution) :
    Option (ExecutionState × TransitionArgs) :=
  match type with
  | .taskStart =>
    if e.state ≠ .interrupted then
      some (.interrupted, { eventType := .startTimeoutPendingEdge, reasonCode := "COMMAND_TIMED_OUT",
                            reasonMessage := startMessage })
    else none
  | .taskPause =>
    if e.state = .pausing then
      some (.running, { eventType := .pauseTimeout, reasonCode := "COMMAND_TIMED_OUT",
                        reasonMessage := "暂停指令超时，保留任务执行状态" })
    else none
  | .taskResume =>
    if e.state = .resuming then
      some (.paused, { eventType := .resumeTimeout, reasonCode := "COMMAND_TIMED_OUT",
                       reasonMessage := "继续指令超时，保留任务暂停状态" })
    else none
  | .taskForceExit => none
  | type =>
    some (.timedOut, { eventType := .commandTimeout type, reasonCode := "COMMAND_TIMED_OUT",
                       reasonMessage := "Edge Agent 未在超时时间内确认或完成指令" })

def RemoteCommand.markedTimedOut (c : RemoteCommand) (now : ℕ) : RemoteCommand :=
  { c with
    status := .timedOut
    errorCode := "COMMAND_TIMED_OUT"
    errorMessage :=
      if c.commandType = .taskStart then
        if c.status ∈ [CommandStatus.created, .published] then
          "启动指令确认超时，等待 Edge 状态对账或强制退出"
        else "中心等待任务完成超时，等待 Edge 状态对账或强制退出"
      else c.errorMessage
    finishedAt := some now }

/-- `CommandService.mark_timeout`. A `TaskStateError` of the transition is swallowed; an
    `IntegrityError` leaves the saved command behind, because the method is not atomic. -/
def CenterDb.markTimeout (db : CenterDb) (command : Uuid) : CenterDb :=
  match db.command? command with
  | none => db
  | some c =>
    let execution := c.taskExecution.bind db.execution?
    match (if c.commandType = .taskStart then
        execution.filter (fun e => (executionCommandStatus e.state).isSome) else none) with
    | some e => db.reconcileTaskStartForExecution e
    | none =>
      if c.status ∈ [CommandStatus.succeeded, .failed, .cancelled, .rejected, .timedOut, .expired]
      then db
      else
        let message := (c.markedTimedOut db.now).errorMessage
        let db := db.updateCommand command (fun c => c.markedTimedOut db.now)
        match execution with
        | none => db
        | some e =>
          if e.state.isActive then
            match timeoutTransition c.commandType message e with
            | none => db
            | some (target, args) =>
              match db.transition e.id target args with
              | .error _ => db
              | .ok db => db
          else db

end RoamerX
