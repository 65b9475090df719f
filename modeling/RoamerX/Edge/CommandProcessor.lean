import RoamerX.Edge.TaskExecutor

set_option autoImplicit false

/-! # The command processor of the Edge

Every delivery of a command gets a thread of its own (`mqtt_client._on_message`), which runs
`CommandProcessor.handle_command`. The threads share the task executor and the `LocalStore` and are
not serialised, so a handler is a state machine: one step is one access to the store or one call of
the executor, which locks. Publishing a message goes with the access that stores it. Next to the
handlers the navigation threads, the sync handler and the low-battery policy use the executor.

The times in the messages, and the texts of errors, are left out. -/

namespace RoamerX

open CenterDb

/-! ## Commands and their handlers -/

/-- The message type of a command: of a task or a patrol loop, or any other. -/
inductive MessageType
  | known (type : CommandType)
  | other (text : String)
  deriving DecidableEq

/-- What a handler reads of a command message. -/
structure CommandMessage where
  commandId : Uuid
  taskExecutionId : Option Uuid
  messageType : MessageType
  command : CommandPayload
  deriving DecidableEq

/-- A row of `processed_commands`. -/
structure CommandRecord where
  ack : Option AckPayload := none
  result : Option CommandResultPayload := none
  deriving DecidableEq

/-- The messages that publish the row again. -/
def CommandRecord.messages (r : CommandRecord) (command : Uuid) : List EdgeMessage :=
  (r.ack.map (EdgeMessage.commandAck command)).toList ++
    (r.result.map (EdgeMessage.commandResult command)).toList

/-- How far `handle_command` has come. -/
inductive HandlerPhase
  | received
  /-- The look-up has found no row. -/
  | checked
  /-- `validate_task_start` has seen no active task. -/
  | admitted
  /-- `prepare_task_start` has installed the context. -/
  | prepared
  /-- The acceptance is stored. -/
  | accepted
  /-- The command has failed after its acceptance. -/
  | failing (code : String)
  | finished (result : CommandResultPayload)
  | done
  deriving DecidableEq

structure Handler where
  message : CommandMessage
  phase : HandlerPhase := .received
  deriving DecidableEq

/-- What `_execute` depends on besides the command. -/
structure ExecuteEnvironment where
  /-- A check before the operation, or the operation itself, raises. -/
  raises : Option String := none
  stop : StopOutcome := {}
  /-- The check of `resume_forward` that fails. -/
  obstacle : Option String := none
  continuation : TaskExecutor.Continuation := .continued none .running
  /-- What a command that is none of a task answers. -/
  answer : ResultPayload := {}

inductive HandlerInput
  | check
  /-- A validation raises `ProtocolError`. -/
  | reject (code : String)
  /-- Something else raises before the acceptance. Whether that is recorded: the clean-up itself
      raises while `prepared_task_start` is still unbound. -/
  | crash (recorded : Bool)
  /-- `validate_task_start`, given whether a task is active. -/
  | validateStart
  | prepare (env : StartEnvironment)
  | accept
  | execute (env : ExecuteEnvironment)
  /-- `_emit_command_progress`. -/
  | progress
  | launch
  | launchFailed (code : String)
  | cleanUp (stop : StopOutcome)
  | cleanUpRaised
  | save

structure HandlerStep where
  phase : HandlerPhase
  context : Option TaskContext
  /-- The step is the effect of the command. -/
  executes : Bool := false
  /-- `save_command_ack` and `publish_ack`. -/
  ack : Option AckPayload := none
  /-- `save_command_result` and `publish_result`. -/
  result : Option CommandResultPayload := none
  publishes : List EdgeMessage := []
  startResult : Option (Uuid × CommandResultPayload) := none

/-- `_state_version`; a version of zero reads as absent. -/
def stateVersion (context : Option TaskContext) : Option ℤ :=
  match context with
  | none => none
  | some c => if c.state.isTerminal ∨ c.stateVersion = 0 then none else some c.stateVersion

namespace Handler

/-- The command is a `task.start`. -/
def isStart (h : Handler) : Bool := h.message.messageType = .known .taskStart

def rejected (context : Option TaskContext) (code : String) : HandlerStep where
  phase := .done
  context := context
  ack := some { accepted := false, edgeStateVersion := stateVersion context, reasonCode := code }

def accepted (context : Option TaskContext) : HandlerStep where
  phase := .accepted
  context := context
  ack := some { accepted := true, edgeStateVersion := stateVersion context }

/-- The result of a command that failed after its acceptance. -/
def failedResult (code : String) : CommandResultPayload := { status := .failed, errorCode := code }

/-- `_execute`, for everything but `task.start`. -/
def execute (m : CommandMessage) (context : Option TaskContext) (env : ExecuteEnvironment) :
    ExecutorOutcome :=
  match env.raises with
  | some code => TaskExecutor.refused context code
  | none =>
    match m.messageType with
    | .other _ => { context := context, result := .ok env.answer }
    | .known .navRosbagStop => { context := context, result := .ok {} }
    | .known .taskForceExit =>
      TaskExecutor.forceExit context "FORCE_EXIT" "task force-exited" true env.stop
    | .known .taskPause => TaskExecutor.pauseTask context m.taskExecutionId env.stop
    | .known .taskResume | .known .taskRecover =>
      TaskExecutor.continueTask context m.taskExecutionId env.continuation
    | .known .taskResumeForward =>
      TaskExecutor.resumeForward context m.taskExecutionId env.obstacle
    | .known .taskCancel => TaskExecutor.cancelTask context m.taskExecutionId env.stop
    | .known .taskStart => TaskExecutor.refused context "INVALID_COMMAND_FLOW"

/-- The phase an executed command is in. -/
def executed : Except ServiceError ResultPayload → HandlerPhase
  | .ok result => .finished { status := .succeeded, result := result }
  | .error (.protocol code) => .failing code
  | .error _ => .failing "INTERNAL_ERROR"

/-- `prepare_task_start` for an admitted start. Anything but a `ProtocolError`, as for a command
    object without a route, is recorded as a failure. -/
def prepare (m : CommandMessage) (context : Option TaskContext) (env : StartEnvironment) :
    HandlerStep :=
  let failed :=
    { phase := .done
      context := context
      result := some (failedResult "INTERNAL_ERROR") : HandlerStep }
  match m.taskExecutionId, m.command with
  | some x, .start p =>
    match prepareTaskStart env m.commandId x (buildCommandMessage p) with
    | .ok prepared => { phase := .prepared, context := some prepared, executes := true }
    | .error (.protocol code) => rejected context code
    | .error _ => failed
  | _, _ => failed

/-- One step of `handle_command`, given the row of the command in the store and the context of the
    executor; `none` where the handler is elsewhere. -/
def step (h : Handler) (record : Option CommandRecord) (context : Option TaskContext) :
    HandlerInput → Option HandlerStep
  | .check =>
    if h.phase = .received then
      match record with
      | some r =>
        some { phase := .done, context := context, publishes := r.messages h.message.commandId }
      | none => some { phase := .checked, context := context }
    else none
  | .reject code =>
    if h.phase = .checked ∨ h.phase = .admitted then some (rejected context code) else none
  | .crash recorded =>
    if h.phase = .checked ∨ h.phase = .admitted then
      some
        { phase := .done
          context := context
          result := if recorded then some (failedResult "INTERNAL_ERROR") else none }
    else none
  | .validateStart =>
    if h.phase = .checked ∧ h.isStart then
      if TaskExecutor.hasActiveTask context then some (rejected context "ROBOT_BUSY")
      else some { phase := .admitted, context := context }
    else none
  | .prepare env =>
    if h.phase = .admitted ∧ h.isStart then some (prepare h.message context env) else none
  | .accept =>
    -- a start is prepared before it is acknowledged
    if h.phase = (if h.isStart then .prepared else .checked) then some (accepted context) else none
  | .execute env =>
    if h.phase = .accepted ∧ h.isStart = false then
      let outcome := execute h.message context env
      some
        { phase := executed outcome.result
          context := outcome.context
          executes := true
          publishes := outcome.events
          startResult := outcome.startResult }
    else none
  | .progress =>
    if h.phase = .accepted then
      some
        { phase := .accepted
          context := context
          publishes := [.commandProgress h.message.commandId {}] }
    else none
  | .launch =>
    if h.phase = .accepted ∧ h.isStart then
      if context.any (fun c => c.state = .accepted) then some { phase := .done, context := context }
      else some { phase := .failing "TASK_CONTEXT_MISMATCH", context := context }
    else none
  | .launchFailed code =>
    if h.phase = .accepted ∧ h.isStart then some { phase := .failing code, context := context }
    else none
  | .cleanUp stop =>
    match h.phase with
    | .failing code =>
      if h.isStart then
        -- `force_exit` does not look at the execution it is given
        some
          { phase := .finished (failedResult code)
            context :=
              (TaskExecutor.forceExit context "FORCE_EXIT" "task force-exited" false stop).context }
      else none
    | _ => none
  | .cleanUpRaised =>
    match h.phase with
    | .failing code =>
      if h.isStart then some { phase := .finished (failedResult code), context := context } else none
    | _ => none
  | .save =>
    match h.phase with
    | .failing code =>
      if h.isStart then none
      else some { phase := .done, context := context, result := some (failedResult code) }
    | .finished result => some { phase := .done, context := context, result := some result }
    | _ => none

end Handler

/-! ## The Edge as a system -/

/-- The executor's context, the store, the handlers, and what the Edge has sent so far. -/
structure EdgeSystem where
  context : Option TaskContext := none
  records : Uuid → Option CommandRecord := fun _ => none
  handlers : List Handler := []
  /-- The results `start_result_callback` has still to store and publish. -/
  startResults : List (Uuid × CommandResultPayload) := []
  /-- The commands whose effect was executed, the latest first. -/
  effects : List Uuid := []
  sent : List EdgeMessage := []

inductive EdgeInput
  | deliver (m : CommandMessage)
  | handler (i : ℕ) (input : HandlerInput)
  | saveStartResult
  /-- The navigation threads move an active task on, and may emit an event that names its state. -/
  | navigate (state : ExecutionState) (event : Option StateMessage)
  | finish (failure : Option (String × String))
  /-- A message that names no task state: progress, a stage, an obstacle. -/
  | report (m : EdgeMessage)
  | requestSync (reasonCode reasonMessage : String)
  | syncResponse (response : SyncResponse) (stop : StopOutcome)
  /-- `_handle_low_battery_alert`, once it has decided to exit. -/
  | lowBattery (stop : StopOutcome)
  /-- The process dies, and the executor loads the context it persisted. -/
  | restart

/-- The message is one a `report` may send. -/
def EdgeMessage.isReport : EdgeMessage → Bool
  | .obstacleStage .. | .navigationStage .. | .arrivalDegradedAccepted .. | .safeHold ..
  | .roundStarted .. | .progress .. => true
  | .commandAck .. | .commandProgress .. | .commandResult .. | .taskState .. | .syncRequest .. =>
    false

def restored (context : Option TaskContext) : Option TaskContext :=
  match context with
  | none => none
  | some c =>
    if c.state.isTerminal then none
    else if c.state = .paused then some c
    else some (c.moved .interrupted)

namespace EdgeSystem

/-- `save_command_ack` and `save_command_result`. -/
def saveRecord (s : EdgeSystem) (command : Uuid) (ack : Option AckPayload)
    (result : Option CommandResultPayload) : EdgeSystem :=
  if ack.isNone ∧ result.isNone then s
  else
    let row := (s.records command).getD {}
    { s with
      records := Function.update s.records command
        (some { ack := ack.or row.ack, result := result.or row.result })
      sent := s.sent ++ CommandRecord.messages { ack := ack, result := result } command }

/-- The system after a step of the `i`-th handler. -/
def afterHandler (s : EdgeSystem) (i : ℕ) (h : Handler) (o : HandlerStep) : EdgeSystem :=
  { s with
    context := o.context
    handlers := s.handlers.set i { h with phase := o.phase }
    startResults := s.startResults ++ o.startResult.toList
    effects := if o.executes then h.message.commandId :: s.effects else s.effects
    sent := s.sent ++ o.publishes }.saveRecord h.message.commandId o.ack o.result

/-- The system after a call of the executor that no handler makes. -/
def afterExecutor (s : EdgeSystem) (o : ExecutorOutcome) : EdgeSystem :=
  { s with
    context := o.context
    startResults := s.startResults ++ o.startResult.toList
    sent := s.sent ++ o.events }

def step (s : EdgeSystem) : EdgeInput → EdgeSystem
  | .deliver m => { s with handlers := s.handlers ++ [{ message := m }] }
  | .handler i input =>
    match s.handlers[i]? with
    | none => s
    | some h =>
      match h.step (s.records h.message.commandId) s.context input with
      | none => s
      | some o => s.afterHandler i h o
  | .saveStartResult =>
    match s.startResults with
    | [] => s
    | (command, result) :: rest =>
      { s with startResults := rest }.saveRecord command none (some result)
  | .navigate state event =>
    match s.context with
    | none => s
    | some c =>
      if c.state.isActive ∧ state.isActive then
        { s with
          context := some (c.moved state)
          sent := s.sent ++ (event.map (c.moved state).stateEvent).toList }
      else s
  | .finish failure => s.afterExecutor (TaskExecutor.finish s.context failure)
  | .report m => if m.isReport then { s with sent := s.sent ++ [m] } else s
  | .requestSync code text =>
    { s with sent := s.sent ++ [.syncRequest (TaskExecutor.syncRequest s.context code text)] }
  | .syncResponse response stop =>
    s.afterExecutor (TaskExecutor.handleSyncResponse s.context response stop)
  | .lowBattery stop =>
    s.afterExecutor (TaskExecutor.forceExit s.context "LOW_BATTERY" "" true stop)
  | .restart => { s with context := restored s.context, handlers := [], startResults := [] }

end EdgeSystem

end RoamerX
