import RoamerX.Center.MessageHandlers
import RoamerX.Edge.TaskStart

set_option autoImplicit false

/-! # The task executor of the Edge

The operations of `TaskExecutor` that end, hold or reconcile the one task context the Edge has.
Each runs under the executor's lock, so it is one step on the context; what the navigation adapter
answers is a parameter. An operation that raises may have changed the context before. -/

namespace RoamerX

open CenterDb

/-- What the navigation adapter answers while a task is being stopped. -/
structure StopOutcome where
  /-- `_waiting_waypoint_index() is not None`. -/
  waitingAtWaypoint : Bool := false
  /-- `_cancel_active_navigation()`. -/
  navigationCancelled : Bool := true
  /-- `is_robot_stopped()`. -/
  robotStopped : Bool := true
  deriving DecidableEq

/-- What an operation leaves behind and publishes. -/
structure ExecutorOutcome where
  context : Option TaskContext
  result : Except ServiceError ResultPayload
  events : List EdgeMessage := []
  /-- The result `start_result_callback` stores and publishes for the start command. -/
  startResult : Option (Uuid × CommandResultPayload) := none

namespace TaskContext

/-- Set `state` and count the version up. -/
def moved (c : TaskContext) (state : ExecutionState) : TaskContext :=
  { c with
    state := state
    stateVersion := c.stateVersion + 1 }

/-- `_emit` of a message that names the state. -/
def stateEvent (c : TaskContext) (kind : StateMessage) : EdgeMessage :=
  .taskState kind c.taskExecutionId { state := .known c.state, stateVersion := c.stateVersion }

/-- The result that names the state of the context. -/
def stateResult (c : TaskContext) (robotStopped : Option Bool) : ResultPayload where
  finalTaskState := some (.known c.state)
  stateVersion := some c.stateVersion
  robotStopped := robotStopped

end TaskContext

namespace TaskExecutor

def hasActiveTask (context : Option TaskContext) : Bool := context.any (fun c => c.state.isActive)

/-- The states `cancel_task` cancels from. -/
def cancellable : List ExecutionState := [.running, .paused, .pausing, .resuming, .interrupted]

/-- The states `pause_task` pauses from. -/
def pausable : List ExecutionState := [.accepted, .running, .pausing, .resuming, .interrupted]

def refused (context : Option TaskContext) (code : String) : ExecutorOutcome where
  context := context
  result := .error (.protocol code)

/-- `_assert_execution`, and what follows on the context. -/
def onExecution (context : Option TaskContext) (execution : Option Uuid)
    (f : TaskContext → ExecutorOutcome) : ExecutorOutcome :=
  match context with
  | none => refused context "TASK_CONTEXT_MISMATCH"
  | some c =>
    if some c.taskExecutionId = execution then f c else refused context "TASK_CONTEXT_MISMATCH"

def cancelTask (context : Option TaskContext) (execution : Option Uuid) (stop : StopOutcome) :
    ExecutorOutcome :=
  onExecution context execution fun c =>
    if c.state.isTerminal then
      { context := some c, result := .ok (c.stateResult (some true)) }
    else if c.state ∉ cancellable then refused context "INVALID_TASK_STATE"
    else
      let cancelling := c.moved .cancelling
      let held := fun code =>
        { context := some cancelling
          result := .error (.protocol code)
          events := [cancelling.stateEvent .cancelling] : ExecutorOutcome }
      if c.state ≠ .paused ∧ stop.waitingAtWaypoint = false ∧ stop.navigationCancelled = false then
        held "NAVIGATION_CANCEL_FAILED"
      else if stop.robotStopped = false then held "ROBOT_NOT_STOPPED"
      else
        let cancelled := cancelling.moved .cancelled
        let result := cancelled.stateResult (some true)
        { context := some cancelled
          result := .ok result
          events := [cancelling.stateEvent .cancelling, cancelled.stateEvent .cancelled]
          startResult := some (c.startCommandId,
            { status := .cancelled, result := result, errorCode := "TASK_CANCELLED",
              errorMessage := "task cancelled" }) }

/-- `force_exit`: it clears the context whatever execution it is of. -/
def forceExit (context : Option TaskContext) (reasonCode reasonMessage : String)
    (reportStartResult : Bool) (stop : StopOutcome) : ExecutorOutcome :=
  match context with
  | none =>
    { context := none
      result := .ok
        { finalTaskState := some (.known .cancelled), stateVersion := some 0,
          robotStopped := some stop.robotStopped, reasonCode := some reasonCode,
          reasonMessage := some reasonMessage } }
  | some c =>
    let exited := c.moved .cancelled
    let result :=
      { exited.stateResult (some stop.robotStopped) with
        reasonCode := some reasonCode
        reasonMessage := some reasonMessage }
    { context := none
      result := .ok result
      startResult :=
        if reportStartResult then
          some (c.startCommandId,
            { status := .cancelled, result := result, errorCode := reasonCode,
              errorMessage := reasonMessage })
        else none }

def pauseTask (context : Option TaskContext) (execution : Option Uuid) (stop : StopOutcome) :
    ExecutorOutcome :=
  onExecution context execution fun c =>
    if c.state = .paused then
      { context := some c, result := .ok (c.stateResult (some true)) }
    else if c.state ∉ pausable then refused context "INVALID_TASK_STATE"
    else
      let pausing := c.moved .pausing
      let held := fun code =>
        { context := some pausing
          result := .error (.protocol code)
          events := [pausing.stateEvent .pausing] : ExecutorOutcome }
      if c.state ≠ .accepted ∧ stop.waitingAtWaypoint = false ∧ stop.navigationCancelled = false then
        held "NAVIGATION_CANCEL_FAILED"
      else if stop.robotStopped = false then held "ROBOT_NOT_STOPPED"
      else
        let paused := pausing.moved .paused
        { context := some paused
          result := .ok (paused.stateResult (some true))
          events := [pausing.stateEvent .pausing, paused.stateEvent .paused] }

/-- `resume_forward`; `refusal` is the code of the check of the obstacle episode that fails. -/
def resumeForward (context : Option TaskContext) (execution : Option Uuid)
    (refusal : Option String) : ExecutorOutcome :=
  onExecution context execution fun c =>
    if c.state ≠ .running then refused context "INVALID_TASK_STATE"
    else
      match refusal with
      | some code => refused context code
      | none =>
        { context := some c
          result := .ok { finalTaskState := some (.known .running) } }

/-- `_fail`, or the end of the last round. Nothing keeps `_fail` from a task that has ended. -/
def finish (context : Option TaskContext) (failure : Option (String × String)) : ExecutorOutcome :=
  match context with
  | none => { context := none, result := .ok {} }
  | some c =>
    if c.state.isTerminal ∧ failure = none then { context := some c, result := .ok {} }
    else
      let (state, kind, status) := match failure with
        | none => (ExecutionState.completed, StateMessage.completed, ResultStatus.succeeded)
        | some _ => (.failed, .failed, .failed)
      let finished := c.moved state
      let result := finished.stateResult none
      { context := some finished
        result := .ok result
        events := [finished.stateEvent kind]
        startResult := some (c.startCommandId,
          { status := status, result := result, errorCode := (failure.getD ("", "")).1,
            errorMessage := (failure.getD ("", "")).2 }) }

/-- How `resume_task` or `recover_task` goes on with an active task. -/
inductive Continuation
  /-- It raises, and has moved the task to another active state before, or has not. -/
  | raised (code : String) (left : Option ExecutionState)
  /-- It leaves the task active, and reports an active state. -/
  | continued (left : Option ExecutionState) (reported : ExecutionState)
  /-- The navigation it starts ends the task at once; it reports the state this leaves, or
      `running`. -/
  | ended (failure : Option (String × String)) (reportsRunning : Bool)
  deriving DecidableEq

/-- Move the context to a state, if that is an active one. -/
def left (c : TaskContext) (state : Option ExecutionState) : TaskContext :=
  match state.filter ExecutionState.isActive with
  | none => c
  | some s => c.moved s

/-- `resume_task` and `recover_task`. Of their branches only this is kept: which of them are taken
    depends on the navigation, and none ends a task without `finish`. -/
def continueTask (context : Option TaskContext) (execution : Option Uuid) (how : Continuation) :
    ExecutorOutcome :=
  onExecution context execution fun c =>
    if c.state.isTerminal then refused context "INVALID_TASK_STATE"
    else
      match how with
      | .raised code state =>
        { context := some (left c state), result := .error (.protocol code) }
      | .continued state reported =>
        let continued := left c state
        { context := some continued
          result := .ok
            { continued.stateResult none with
              finalTaskState :=
                some (.known (if reported.isActive then reported else continued.state)) } }
      | .ended failure reportsRunning =>
        let outcome := finish (some c) failure
        { outcome with
          result := .ok
            { finalTaskState :=
                if reportsRunning then some (.known .running)
                else outcome.context.map (fun c => .known c.state) } }

/-! ## Synchronisation with the center -/

def reconcileCenterStateVersion (context : Option TaskContext) (execution : Option Uuid)
    (expectedState : Option ExecutionState) (expectedVersion : ℤ) : Option TaskContext :=
  context.map fun c =>
    if some c.taskExecutionId = execution ∧ some c.state = expectedState ∧
        c.stateVersion < expectedVersion then
      { c with stateVersion := expectedVersion }
    else c

def reconcileCenterState (context : Option TaskContext) (execution : Option Uuid)
    (expectedState : Option ExecutionState) : Option TaskContext :=
  if context.any (fun c => some c.taskExecutionId = execution) ∧
      expectedState.any (fun s => s.isTerminal) then none
  else context

/-- `_publish_sync_request`; the reason is that of the latest event, if it is of this state. -/
def syncRequest (context : Option TaskContext) (reasonCode reasonMessage : String) :
    SyncPayload where
  currentTaskExecutionId := context.map TaskContext.taskExecutionId
  localTaskState := context.elim (.unknown "") (fun c => .known c.state)
  localTaskStateVersion := context.elim 0 TaskContext.stateVersion
  localTaskReasonCode := reasonCode
  localTaskReasonMessage := reasonMessage

/-- `_handle_sync_message` for a `sync.response`. -/
def handleSyncResponse (context : Option TaskContext) (response : SyncResponse)
    (stop : StopOutcome) : ExecutorOutcome :=
  let adopted := reconcileCenterStateVersion context response.taskExecutionId
    response.expectedTaskState response.expectedStateVersion
  match response.action with
  | .cancel => cancelTask adopted (adopted.map TaskContext.taskExecutionId) stop
  | .hold =>
    { context := reconcileCenterState adopted response.taskExecutionId response.expectedTaskState
      result := .ok {} }
  | .continue | .reportOnly => { context := adopted, result := .ok {} }

end TaskExecutor

end RoamerX
