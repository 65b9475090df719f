import RoamerX.DevTasks.Center
import RoamerX.DevTasks.DevTaskRequest

set_option autoImplicit false

/-! # The dev agent

`DevAgentApplication` of `roamerx_dev_agent/app.py`: every order is handled by a thread of its own
(`_handle_task`), which looks the task up among the known ones, tries the task lock, stores the task,
runs Codex and publishes the result. -/

namespace RoamerX

/-- `DevAgentConfig`: what the handling of an order reads of it. -/
structure DevAgentConfig where
  texts : DevTexts
  workspaces : List (String × String)

/-- How far `_handle_task` has come. -/
inductive DevPhase
  | received
  /-- The task was not known, and its workspace is. -/
  | checked
  /-- The thread has the task lock. -/
  | locked
  /-- The task is known. -/
  | stored
  /-- The event `running` is published. -/
  | announced
  | running
  /-- The second run, in a new session. -/
  | retrying
  /-- The result is published. -/
  | finished
  | ended
  deriving DecidableEq

/-- The phases between the look-up and the start of the process. -/
def DevPhase.isOpen : DevPhase → Bool
  | .checked | .locked | .stored | .announced => true
  | .received | .running | .retrying | .finished | .ended => false

/-- A thread with the message it handles. -/
structure DevThread where
  task : DevelopmentTask
  phase : DevPhase := .received

inductive CodexRun
  | first (id : Uuid)
  /-- The second run, in a new session, after a session-integrity error. -/
  | retry (id : Uuid)
  deriving DecidableEq

def CodexRun.taskId : CodexRun → Uuid
  | .first id => id
  | .retry id => id

/-- `DevAgentApplication` and its runner. -/
structure DevAgent where
  /-- `_known_tasks`. -/
  known : List Uuid := []
  /-- `_task_lock`. -/
  lock : Bool := false
  threads : List DevThread := []
  /-- `runner._task_id`, while a process runs. -/
  process : Option Uuid := none
  cancelRequested : Bool := false
  startupPresencePending : Bool := true
  /-- Every process ever started, the latest first. -/
  runs : List CodexRun := []

namespace DevAgent

variable (a : DevAgent)

/-- What happened, and what was published. -/
abbrev Outcome := DevAgent × List DevReport

def setPhase (i : ℕ) (th : DevThread) (phase : DevPhase) : DevAgent :=
  { a with threads := a.threads.set i { th with phase := phase } }

/-- `_publish_result`. -/
def resultOf (id : Uuid) (status : DevTaskStatus) (now : ℕ) (error : String) : DevReport :=
  .result { taskId := id, status := status, timestamp := now, error := error }

/-- A result `rejected`, after which the thread ends. -/
def reject (i : ℕ) (th : DevThread) (now : ℕ) (error : String) : Outcome :=
  (a.setPhase i th .ended, [resultOf th.task.id .rejected now error])

/-- `_handle_task` up to the look-up of the workspace. -/
def check (config : DevAgentConfig) (i : ℕ) (th : DevThread) (now : ℕ) : Outcome :=
  match DevTaskRequest.parse config.texts (devTaskMessage config.texts th.task) with
  | .error error => a.reject i th now error
  | .ok request =>
    if th.task.id ∈ a.known then
      (a.setPhase i th .ended, [.event th.task.id .duplicate now])
    else if (config.workspaces.lookup request.workspace).isNone then
      a.reject i th now ("unknown workspace: " ++ request.workspace)
    else (a.setPhase i th .checked, [])

def acquire (i : ℕ) (th : DevThread) (now : ℕ) : Outcome :=
  if a.lock then a.reject i th now "ROBOT_DEV_BUSY"
  else ({ a.setPhase i th .locked with lock := true }, [])

/-- `_known_tasks.add(task.task_id)`. -/
def store (i : ℕ) (th : DevThread) : Outcome :=
  ({ a.setPhase i th .stored with known := th.task.id :: a.known }, [])

def announce (i : ℕ) (th : DevThread) (now : ℕ) : Outcome :=
  (a.setPhase i th .announced,
    [.event th.task.id .running now, .event th.task.id .resuming now])

/-- The start of the process in `runner.run`; with another one running it is ended at once. -/
def start (i : ℕ) (th : DevThread) (now : ℕ) : Outcome :=
  if a.process.isSome then
    ({ a.setPhase i th .finished with runs := .first th.task.id :: a.runs },
      [resultOf th.task.id .failed now "another Codex task is already running"])
  else
    ({ a.setPhase i th .running with
        process := some th.task.id
        cancelRequested := false
        runs := .first th.task.id :: a.runs }, [])

/-- An exception before the process is started. -/
def fail (i : ℕ) (th : DevThread) (now : ℕ) (error : String) : Outcome :=
  (a.setPhase i th .finished, [resultOf th.task.id .failed now error])

/-- The run in a new session after a session-integrity error, unless the first one was cancelled. -/
def retry (i : ℕ) (th : DevThread) (now : ℕ) : Outcome :=
  if a.cancelRequested then (a, [])
  else
    ({ a.setPhase i th .retrying with
        process := some th.task.id
        runs := .retry th.task.id :: a.runs }, [.event th.task.id .recovering now])

inductive Ending
  | exited (exitCode : ℤ)
  | timeout (error : String)
  | failed (error : String)

def endStatus (cancelled : Bool) : Ending → DevTaskStatus
  | .exited exitCode => if cancelled then .cancelled else if exitCode = 0 then .succeeded else .failed
  | .timeout _ => .timedOut
  | .failed _ => .failed

def endError : Ending → String
  | .exited _ => ""
  | .timeout error => error
  | .failed error => error

def endCode : Ending → Option ℤ
  | .exited exitCode => some exitCode
  | .timeout _ | .failed _ => none

/-- The end of the run, and the result. -/
def finish (i : ℕ) (th : DevThread) (now : ℕ) (ending : Ending) (lastMessage threadId : String) :
    Outcome :=
  ({ a.setPhase i th .finished with process := none },
    [.result
      { taskId := th.task.id
        status := endStatus a.cancelRequested ending
        timestamp := now
        exitCode := endCode ending
        error := endError ending
        lastMessage := lastMessage
        codexThreadId := threadId }])

def release (i : ℕ) (th : DevThread) : Outcome :=
  ({ a.setPhase i th .ended with lock := false }, [])

/-- What a thread may do next, apart from the ways it may end. -/
inductive Move
  | advance
  /-- An exception before the start of the process. -/
  | fail (error : String)
  | retry
  | finish (ending : Ending) (lastMessage threadId : String)

/-- One step of the thread at `i`. -/
def stepThread (config : DevAgentConfig) (i : ℕ) (th : DevThread) (now : ℕ) (move : Move) : Outcome :=
  match th.phase, move with
  | .received, .advance => a.check config i th now
  | .checked, .advance => a.acquire i th now
  | .locked, .advance => a.store i th
  | .stored, .advance => a.announce i th now
  | .stored, .fail error => a.fail i th now error
  | .announced, .advance => a.start i th now
  | .announced, .fail error => a.fail i th now error
  | .running, .retry => a.retry i th now
  | .running, .finish ending lastMessage threadId => a.finish i th now ending lastMessage threadId
  | .retrying, .finish ending lastMessage threadId => a.finish i th now ending lastMessage threadId
  | .finished, .advance => a.release i th
  | _, _ => (a, [])

/-- `_on_message`: an order starts a thread, a control is handled at once. -/
def receive (now : ℕ) : DevOrder → Outcome
  | .task t => ({ a with threads := a.threads ++ [{ task := t }] }, [])
  | .cancel id =>
    if a.process = some id then
      ({ a with cancelRequested := true }, [.event id .cancelling now])
    else (a, [.event id .notRunning now])

/-- A new process of the agent: what it had in memory is gone, and so are its threads. -/
def restart : DevAgent := { runs := a.runs }

/-- `_on_connect`. -/
def connect : Outcome :=
  ({ a with startupPresencePending := false }, [.presence a.startupPresencePending])

end DevAgent

end RoamerX
