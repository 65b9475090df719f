import RoamerX.Center.CommandService

set_option autoImplicit false

/-! # The handlers of Edge messages

`monitoring/message_handlers.py`: command acknowledgements, progress and results, task events and
sync requests. A message is handled in one transaction, which also records its id: a message that
was processed is not handled again, and one whose handling raised leaves nothing behind and may be
delivered again.

Of a payload only what the handlers read is kept. A version field is `none` where the source falls
back on its default: when the key is absent, zero, or no number. -/

namespace RoamerX

/-! ## Messages -/

/-- `command.ack`. -/
structure AckPayload where
  accepted : Bool
  edgeStateVersion : Option ℤ := none
  acknowledgedAt : Option ℕ := none
  reasonCode : String := ""
  reasonMessage : String := ""
  deriving DecidableEq

/-- `command.progress`. -/
structure CommandProgressPayload where
  result : ResultPayload := {}
  edgeStateVersion : Option ℤ := none
  startedAt : Option ℕ := none
  deriving DecidableEq

/-- The statuses a `command.result` may carry. -/
inductive ResultStatus
  | succeeded | failed | cancelled | timedOut
  deriving DecidableEq

def ResultStatus.commandStatus : ResultStatus → CommandStatus
  | .succeeded => .succeeded
  | .failed => .failed
  | .cancelled => .cancelled
  | .timedOut => .timedOut

/-- `command.result`. -/
structure CommandResultPayload where
  status : ResultStatus
  result : ResultPayload := {}
  startedAt : Option ℕ := none
  finishedAt : Option ℕ := none
  errorCode : String := ""
  errorMessage : String := ""
  deriving DecidableEq

/-- `task.navigation_stage` and `task.arrival_degraded_accepted`. -/
structure StagePayload where
  stateVersion : Option ℤ := none
  occurredAt : Option ℕ := none
  reasonCode : String := ""
  reasonMessage : String := ""
  deriving DecidableEq

/-- The `task.*` messages that name a state. -/
structure StatePayload where
  state : StateWord
  stateVersion : ℤ
  occurredAt : Option ℕ := none
  reasonCode : String := ""
  reasonMessage : String := ""
  deriving DecidableEq

/-- `sync.request`; a missing local state is the text `""`. -/
structure SyncPayload where
  currentTaskExecutionId : Option Uuid
  localTaskState : StateWord
  localTaskStateVersion : ℤ
  localTaskReasonCode : String := ""
  localTaskReasonMessage : String := ""
  deriving DecidableEq

/-- The messages of the Edge that touch executions, their events or commands. -/
inductive EdgeMessage
  | commandAck (command : Uuid) (p : AckPayload)
  | commandProgress (command : Uuid) (p : CommandProgressPayload)
  | commandResult (command : Uuid) (p : CommandResultPayload)
  | obstacleStage (execution : Uuid) (key : ObstacleKey) (occurredAt : Option ℕ)
  | navigationStage (execution : Uuid) (p : StagePayload)
  | arrivalDegradedAccepted (execution : Uuid) (p : StagePayload)
  | safeHold (execution : Uuid) (p : StagePayload)
  | roundStarted (execution : Uuid) (roundNumber : Option ℕ) (stateVersion : Option ℤ)
  | progress (execution : Uuid) (p : ProgressPayload)
  | taskState (kind : StateMessage) (execution : Uuid) (p : StatePayload)
  | syncRequest (p : SyncPayload)
  deriving DecidableEq

namespace CenterDb

/-! ## Commands -/

/-- `transition` to a state named by a message. -/
def transitionWord (db : CenterDb) (execution : Uuid) (target : StateWord)
    (args : TransitionArgs) : Except ServiceError CenterDb :=
  match target with
  | .known s => db.transition execution s args
  | .unknown text =>
    match db.execution? execution with
    | none => .error .doesNotExist
    | some locked =>
      .error (.taskState
        ("invalid task state transition: " ++ locked.state.text ++ " -> " ++ text))

/-- The center has given up waiting for the Edge on this execution. -/
def timedOutAtCenter (e : TaskExecution) : Bool :=
  (e.state = .timedOut || e.state = .interrupted) && e.failureCode = "COMMAND_TIMED_OUT"

def acknowledged (c : RemoteCommand) (p : AckPayload) (now : ℕ) : RemoteCommand :=
  { c with
    status := if p.accepted then .accepted else .rejected
    acknowledgedAt := some (p.acknowledgedAt.getD now)
    ackReasonCode := p.reasonCode
    ackReasonMessage := p.reasonMessage }

def handleCommandAck (db : CenterDb) (command : Uuid) (p : AckPayload) :
    Except ServiceError CenterDb :=
  match db.command? command with
  | none => .error (.protocol "UNKNOWN_COMMAND")
  | some c =>
    if c.status ∈ [CommandStatus.accepted, .rejected, .executing, .succeeded, .failed, .cancelled]
    then .ok db
    else
      let db := db.updateCommand command (fun c => acknowledged c p db.now)
      match (if c.commandType = .taskStart then c.taskExecution.bind db.execution? else none) with
      | none => .ok db
      | some e =>
        let edgeVersion := p.edgeStateVersion.getD (e.stateVersion + 1)
        if p.accepted ∧ timedOutAtCenter e then
          db.reconcileEdgeActiveAfterCenterTimeout e.id .accepted edgeVersion
            (orText p.reasonCode "EDGE_SYNC_ACTIVE")
            (orText p.reasonMessage "云边状态对账：设备端已接受启动指令")
        else
          db.transition e.id (if p.accepted then .accepted else .rejected)
            { eventType := .commandAck
              stateVersion := some edgeVersion
              occurredAt := some (p.acknowledgedAt.getD db.now)
              reasonCode := p.reasonCode
              reasonMessage := p.reasonMessage }

/-- `center_start_timeout`: the start command that only the center has timed out. -/
def centerStartTimeout (c : RemoteCommand) : Bool :=
  c.commandType = .taskStart && c.status = .timedOut && c.errorCode = "COMMAND_TIMED_OUT"

def progressed (c : RemoteCommand) (p : CommandProgressPayload) (now : ℕ) : RemoteCommand :=
  let starts := c.status ∈ [CommandStatus.created, .published, .accepted] ∨ centerStartTimeout c
  { c with
    status := if starts then .executing else c.status
    startedAt := if starts then c.startedAt.or (some (p.startedAt.getD now)) else c.startedAt
    resultPayload := c.resultPayload.update p.result }

def handleCommandProgress (db : CenterDb) (command : Uuid) (p : CommandProgressPayload) :
    Except ServiceError CenterDb :=
  match db.command? command with
  | none => .error (.protocol "UNKNOWN_COMMAND")
  | some c =>
    if c.status.isOpen = false ∧ centerStartTimeout c = false then .ok db
    else
      let db := db.updateCommand command (fun c => progressed c p db.now)
      match (if centerStartTimeout c then c.taskExecution.bind db.execution? else none) with
      | none => .ok db
      | some e =>
        if timedOutAtCenter e then
          db.reconcileEdgeActiveAfterCenterTimeout e.id .accepted
            (p.edgeStateVersion.getD e.stateVersion) "EDGE_SYNC_ACTIVE"
            "云边状态对账：设备端正在执行启动初始化"
        else .ok db

/-- The transition to the task state after a result: nothing if the execution is in it. -/
def finalTransition (p : CommandResultPayload) (result : ResultPayload) (finishedAt : ℕ)
    (e : TaskExecution) (final : StateWord) : Option (StateWord × TransitionArgs) :=
  if final = .known e.state then none
  else some (final,
    { eventType := .commandResult
      stateVersion := some (max (result.stateVersion.getD 0) (e.stateVersion + 1))
      occurredAt := some finishedAt
      reasonCode := orText p.errorCode (result.reasonCode.getD "")
      reasonMessage := orText p.errorMessage (result.reasonMessage.getD "") })

/-- The task state of a failed command that names none. -/
def fallbackState (errorCode : String) : ExecutionState :=
  if errorCode ∈ ["COMMAND_EXPIRED", "COMMAND_TIMED_OUT"] then .timedOut else .failed

/-- The transition a result asks for: to the task state it names, or, where a failed command names
    none, to the state its type falls back on. -/
def resultTransition (type : CommandType) (p : CommandResultPayload) (result : ResultPayload)
    (finishedAt : ℕ) (e : TaskExecution) : Option (StateWord × TransitionArgs) :=
  match result.finalTaskState.filter (· ≠ .unknown "") with
  | some final => finalTransition p result finishedAt e final
  | none =>
    if p.status = .failed ∨ p.status = .timedOut then
      match type with
      | .taskPause =>
        if e.state = .pausing then
          some (.known .running,
            { eventType := .pauseFailed, reasonCode := p.errorCode,
              reasonMessage := p.errorMessage })
        else none
      | .taskResume =>
        if e.state = .resuming then
          some (.known .paused,
            { eventType := .resumeFailed, reasonCode := p.errorCode,
              reasonMessage := p.errorMessage })
        else none
      -- a failed recovery attempt is not a terminal task result
      | .taskRecover => none
      | _ =>
        finalTransition p result finishedAt e
          (.known (fallbackState p.errorCode))
    else none

/-- The execution with the progress fields a result carries. -/
def withProgressFields (e : TaskExecution) (result : ResultPayload) : TaskExecution :=
  { e with
    completedWaypoints := result.completedWaypoints.getD e.completedWaypoints
    totalWaypoints := result.totalWaypoints.getD e.totalWaypoints
    currentWaypointIndex := result.currentWaypointIndex.getD e.currentWaypointIndex }

/-- `execution.save(update_fields=progress_fields)` at the end of `_handle_command_result`. -/
def writeProgressFields (db : CenterDb) (execution : Uuid) (result : ResultPayload) : CenterDb :=
  match db.execution? execution with
  | none => db
  | some e => db.saveExecution (withProgressFields e result)

/-- The payload a result leaves in the command: merged into the earlier one for `task.start`. -/
def resultMerged (c : RemoteCommand) (p : CommandResultPayload) : ResultPayload :=
  if c.commandType = .taskStart then c.resultPayload.update p.result else p.result

def finished (c : RemoteCommand) (p : CommandResultPayload) (now : ℕ) : RemoteCommand :=
  { c with
    status := p.status.commandStatus
    startedAt := some (p.startedAt.getD now)
    finishedAt := some (p.finishedAt.getD now)
    errorCode := p.errorCode
    errorMessage := p.errorMessage
    resultPayload := resultMerged c p }

def handleCommandResult (db : CenterDb) (command : Uuid) (p : CommandResultPayload) :
    Except ServiceError CenterDb :=
  match db.command? command with
  | none => .error (.protocol "UNKNOWN_COMMAND")
  | some c =>
    let result := resultMerged c p
    let db := db.updateCommand command (fun c => finished c p db.now)
    match c.taskExecution.bind db.execution? with
    | none => .ok db
    | some e =>
      match resultTransition c.commandType p result (p.finishedAt.getD db.now) e with
      | none => .ok (db.writeProgressFields e.id result)
      | some (target, args) =>
        match db.transitionWord e.id target args with
        | .error err => .error err
        | .ok db => .ok (db.writeProgressFields e.id result)

/-! ## Task events -/

/-- `TaskExecutionEvent.objects.get_or_create`, by the rows that `key` selects. When the creation
    fails, the second `get` finds what the first one did. -/
def getOrCreateEvent (db : CenterDb) (key : TaskExecutionEvent → Bool) (ev : TaskExecutionEvent) :
    Except ServiceError CenterDb :=
  match db.events.filter key with
  | [] => db.createEvent ev
  | [_] => .ok db
  | _ :: _ :: _ => .error .multipleObjects

/-- Rewrite the first row that `key` selects. -/
def updateFirst {α : Type} (key : α → Bool) (g : α → α) : List α → List α
  | [] => []
  | x :: xs => if key x then g x :: xs else x :: updateFirst key g xs

/-- The branch for `task.obstacle_stage`. -/
def handleObstacleStage (db : CenterDb) (message : Uuid) (e : TaskExecution) (key : ObstacleKey)
    (occurredAt : Option ℕ) : Except ServiceError CenterDb :=
  let occurredAt := occurredAt.getD db.now
  let same := fun ev : TaskExecutionEvent =>
    ev.taskExecution = e.id && ev.eventType = .obstacleStage && ev.obstacle = some key
  if db.events.any same then
    .ok
      { db with
        events := updateFirst same (fun ev => { ev with occurredAt := occurredAt }) db.events }
  else
    db.createEvent
      { taskExecution := e.id
        state := e.state
        stateVersion := e.stateVersion
        eventType := .obstacleStage
        occurredAt := occurredAt
        messageId := some message
        obstacle := some key }

/-- The branch for `task.navigation_stage` and `task.arrival_degraded_accepted`. -/
def handleStageEvent (db : CenterDb) (message : Uuid) (e : TaskExecution) (type : TaskEventType)
    (p : StagePayload) : Except ServiceError CenterDb :=
  let degraded := type = .arrivalDegradedAccepted
  db.getOrCreateEvent (fun ev => ev.messageId = some message)
    { taskExecution := e.id
      state := e.state
      stateVersion := p.stateVersion.getD e.stateVersion
      eventType := type
      occurredAt := p.occurredAt.getD db.now
      messageId := some message
      reasonCode := orText p.reasonCode (if degraded then "ARRIVAL_FINE_REAPPROACH_EXHAUSTED" else "")
      reasonMessage := orText p.reasonMessage (if degraded then "普通航点按粗到达半径完成" else "") }

/-- `except TaskStateError: pass`: the tables after the attempt, if it succeeded. -/
def unlessTaskState (result : Except ServiceError CenterDb) :
    Except ServiceError (Option CenterDb) :=
  match result with
  | .ok db => .ok (some db)
  | .error (.taskState _) => .ok none
  | .error err => .error err

/-- The branch for `task.safe_hold`. -/
def handleSafeHold (db : CenterDb) (message : Uuid) (e : TaskExecution) (p : StagePayload) :
    Except ServiceError CenterDb :=
  let incomingVersion := p.stateVersion.getD (e.stateVersion + 1)
  if e.stateVersion < incomingVersion ∧
      e.state ∉ [ExecutionState.paused, .failed, .cancelled, .completed] then
    match unlessTaskState (db.transition e.id .paused
        { eventType := .safeHold
          stateVersion := some incomingVersion
          occurredAt := some (p.occurredAt.getD db.now)
          messageId := some message
          reasonCode := orText p.reasonCode "SAFE_HOLD"
          reasonMessage := orText p.reasonMessage "安全保持" }) with
    | .error err => .error err
    | .ok held => .ok (held.getD db)
  else .ok db

def roundStarted (e : TaskExecution) (roundNumber : Option ℕ) (stateVersion : Option ℤ) :
    TaskExecution :=
  { e with
    roundNumber := max e.roundNumber (roundNumber.getD e.roundNumber)
    stateVersion := max e.stateVersion (stateVersion.getD e.stateVersion) }

/-- The branch for `task.round_started`. -/
def handleRoundStarted (db : CenterDb) (e : TaskExecution) (roundNumber : Option ℕ)
    (stateVersion : Option ℤ) : CenterDb :=
  db.saveExecution (roundStarted e roundNumber stateVersion)

/-- The branch for `task.progress`. -/
def handleProgress (db : CenterDb) (message : Uuid) (e : TaskExecution) (p : ProgressPayload) :
    Except ServiceError CenterDb :=
  let (db', e') := db.applyProgress e p
  match p.milestone with
  | none => .ok db'
  | some m =>
    if e'.stateVersion ≠ p.stateVersion then .ok db'
    else
      db'.getOrCreateEvent
        (fun ev => ev.taskExecution = e'.id && ev.stateVersion = e'.stateVersion)
        { taskExecution := e'.id
          state := e'.state
          stateVersion := e'.stateVersion
          eventType := .milestone m
          occurredAt := p.occurredAt.getD db.now
          messageId := some message }

/-- The last branch: the messages that name a state. -/
def handleTaskState (db : CenterDb) (message : Uuid) (e : TaskExecution) (kind : StateMessage)
    (p : StatePayload) : Except ServiceError CenterDb :=
  if p.stateVersion ≤ e.stateVersion then .ok db
  else
    match db.transitionWord e.id p.state
        { eventType := .stateMessage kind
          stateVersion := some p.stateVersion
          occurredAt := some (p.occurredAt.getD db.now)
          messageId := some message
          reasonCode := p.reasonCode
          reasonMessage := p.reasonMessage } with
    | .ok db' => .ok db'
    | .error (.taskState code) =>
      if p.state = .known e.state then .ok db else .error (.taskState code)
    | .error err => .error err

/-- `_handle_task_event` after the look-up of the execution. -/
def withExecution (db : CenterDb) (execution : Uuid)
    (branch : TaskExecution → Except ServiceError CenterDb) : Except ServiceError CenterDb :=
  match db.execution? execution with
  | none => .error (.protocol "UNKNOWN_TASK_EXECUTION")
  | some e => branch e

/-! ## Synchronisation -/

/-- `action` of a sync response. -/
inductive SyncAction
  | reportOnly | continue | hold | cancel
  deriving DecidableEq

/-- `sync.response`. -/
structure SyncResponse where
  taskExecutionId : Option Uuid := none
  expectedTaskState : Option ExecutionState := none
  expectedStateVersion : ℤ := 0
  action : SyncAction := .reportOnly
  stateReconciled : Bool := false
  terminalReconciled : Bool := false
  centerTimeoutRecovered : Bool := false
  deriving DecidableEq

inductive SyncOutcome
  | unchanged | timeoutRecovered | terminal | state
  deriving DecidableEq

/-- The reason a sync transition is recorded with. -/
def syncReason (reported : ExecutionState) (p : SyncPayload) : String × String :=
  if reported.isTerminal ∧ reported ≠ .completed ∧ p.localTaskReasonCode = "" then
    ("EDGE_SYNC_TERMINAL", orText p.localTaskReasonMessage ("Edge 重连时上报终态 " ++ reported.text))
  else if reported = .paused ∧ p.localTaskReasonCode = "" then
    ("EDGE_SYNC_PAUSED", orText p.localTaskReasonMessage "云边状态对账：设备端任务已暂停")
  else (p.localTaskReasonCode, p.localTaskReasonMessage)

/-- The two attempts of `_handle_sync` to follow the reported state: the repair of a center-only
    timeout, and a transition to a newer state. -/
def syncReconcile (db : CenterDb) (e : TaskExecution) (p : SyncPayload) :
    Except ServiceError (CenterDb × SyncOutcome) :=
  match p.localTaskState with
  | .unknown _ => .ok (db, .unchanged)
  | .known reported =>
    let repaired :=
      if timedOutAtCenter e ∧ reported.isActive ∧ reported ≠ .created ∧ reported ≠ .dispatching ∧
          reported ≠ e.state then
        unlessTaskState (db.reconcileEdgeActiveAfterCenterTimeout e.id reported
          p.localTaskStateVersion p.localTaskReasonCode p.localTaskReasonMessage)
      else .ok none
    match repaired with
    | .error err => .error err
    | .ok (some db') => .ok (db', .timeoutRecovered)
    | .ok none =>
      if e.state.isActive ∧ reported ≠ e.state ∧ e.stateVersion < p.localTaskStateVersion then
        match unlessTaskState (db.transition e.id reported
            { eventType :=
                if reported.isTerminal then .syncTerminalReconciled else .syncStateReconciled
              stateVersion := some p.localTaskStateVersion
              reasonCode := (syncReason reported p).1
              reasonMessage := (syncReason reported p).2 }) with
        | .error err => .error err
        | .ok none => .ok (db, .unchanged)
        | .ok (some db') => .ok (db', if reported.isTerminal then .terminal else .state)
      else .ok (db, .unchanged)

/-- The response to a sync request about `e`, the row as it is now. -/
def syncResponse (e : TaskExecution) (p : SyncPayload) (outcome : SyncOutcome) : SyncResponse where
  taskExecutionId := some e.id
  expectedTaskState := some e.state
  expectedStateVersion := e.stateVersion
  action :=
    if outcome ≠ .unchanged then .reportOnly
    else if p.localTaskState = .known e.state then .continue
    else if e.state = .cancelling ∨ e.state = .cancelled then .cancel
    else .hold
  stateReconciled := outcome ≠ .unchanged
  terminalReconciled := outcome = .terminal
  centerTimeoutRecovered := outcome = .timeoutRecovered

/-- `_handle_sync`, with the response it publishes. -/
def handleSync (db : CenterDb) (p : SyncPayload) :
    Except ServiceError (CenterDb × SyncResponse) :=
  match p.currentTaskExecutionId.bind db.execution? with
  | none => .ok (db, {})
  | some e =>
    match db.syncReconcile e p with
    | .error err => .error err
    | .ok (db', outcome) =>
      .ok (db', syncResponse ((db'.execution? e.id).getD e) p outcome)

theorem handleSync_eq {db db' : CenterDb} {p : SyncPayload} {e : TaskExecution} {outcome : SyncOutcome}
    (hread : p.currentTaskExecutionId.bind db.execution? = some e)
    (hok : db.syncReconcile e p = .ok (db', outcome)) :
    db.handleSync p = .ok (db', syncResponse ((db'.execution? e.id).getD e) p outcome) := by
  unfold handleSync
  rw [hread]
  dsimp only
  rw [hok]

/-! ## Receiving -/

/-- `_dispatch`. -/
def handle (db : CenterDb) (message : Uuid) : EdgeMessage → Except ServiceError CenterDb
  | .commandAck command p => db.handleCommandAck command p
  | .commandProgress command p => db.handleCommandProgress command p
  | .commandResult command p => db.handleCommandResult command p
  | .obstacleStage x key occurredAt =>
    db.withExecution x (fun e => db.handleObstacleStage message e key occurredAt)
  | .navigationStage x p =>
    db.withExecution x (fun e => db.handleStageEvent message e .navigationStage p)
  | .arrivalDegradedAccepted x p =>
    db.withExecution x (fun e => db.handleStageEvent message e .arrivalDegradedAccepted p)
  | .safeHold x p => db.withExecution x (fun e => db.handleSafeHold message e p)
  | .roundStarted x roundNumber stateVersion =>
    db.withExecution x (fun e => .ok (db.handleRoundStarted e roundNumber stateVersion))
  | .progress x p => db.withExecution x (fun e => db.handleProgress message e p)
  | .taskState kind x p => db.withExecution x (fun e => db.handleTaskState message e kind p)
  | .syncRequest p =>
    match db.handleSync p with
    | .error err => .error err
    | .ok (db', _) => .ok db'

/-- The row that marks a message as processed. -/
def recorded (db : CenterDb) (message : Uuid) : CenterDb :=
  { db with processedMessages := db.processedMessages ++ [message] }

/-- `handle_mqtt_message`: at most one handling of each message id succeeds. -/
def receive (db : CenterDb) (message : Uuid) (m : EdgeMessage) : CenterDb :=
  if message ∈ db.processedMessages then db
  else
    match (db.recorded message).handle message m with
    | .ok db' => db'
    | .error _ => db

end CenterDb

end RoamerX
