import RoamerX.DevTasks.Models
import RoamerX.Lib.Rows

set_option autoImplicit false

/-! # The center's side of the development tasks

The housekeeping thread publishes the rows it read a while ago (`mqtt_client.py`), the cancel view
writes what it decided on a row it read a while ago (`dev_views.py`), and the MQTT thread handles the
agent's messages (`dev_message_handlers.py`), each under a lock of the row or in one statement. -/

namespace RoamerX

/-! ## What the two ends send -/

/-- What the center publishes on a robot's `dev/tasks` and `dev/tasks/{id}/control`. -/
inductive DevOrder
  /-- The message `devTaskMessage` of a row as it was read. -/
  | task (t : DevelopmentTask)
  | cancel (id : Uuid)

/-- The statuses of the agent's events. -/
inductive DevEventStatus
  | running | cancelling | notRunning | duplicate | creating | resuming | recovering
  deriving DecidableEq

structure DevResult where
  taskId : Uuid
  status : DevTaskStatus
  timestamp : ℕ
  exitCode : Option ℤ := none
  error : String := ""
  lastMessage : String := ""
  codexThreadId : String := ""
  deriving DecidableEq

inductive DevReport
  /-- `dev/presence`, with `agent_restarted`. -/
  | presence (agentRestarted : Bool)
  | event (taskId : Uuid) (status : DevEventStatus) (timestamp : ℕ)
  | result (r : DevResult)
  deriving DecidableEq

/-! ## The center -/

/-- The table, and the rows its threads have read and not yet written. -/
structure DevCenter where
  tasks : List DevelopmentTask := []
  nextUuid : ℕ := 0
  /-- The `now` and the rest of the rows of `publish_pending_development_tasks`. -/
  queriedAt : ℕ := 0
  publishing : List DevelopmentTask := []
  /-- The row whose message is published and whose status is not yet written. -/
  published : Option DevelopmentTask := none
  /-- The same of `publish_pending_development_controls`. -/
  controlsQueriedAt : ℕ := 0
  controls : List DevelopmentTask := []
  controlled : Option DevelopmentTask := none
  /-- The rows the cancel view has read. -/
  cancels : List DevelopmentTask := []

namespace DevCenter

variable (c : DevCenter)

def task? (id : Uuid) : Option DevelopmentTask := Rows.get? DevelopmentTask.id c.tasks id

/-- `task.save(update_fields=…)`, or an update of one row under its lock. -/
def update (id : Uuid) (g : DevelopmentTask → DevelopmentTask) : DevCenter :=
  { c with tasks := Rows.modify DevelopmentTask.id c.tasks id g }

/-- A row created from the web or by voice. The look-up for an active task is a read of its own, so
    nothing is assumed about the table. -/
def create (t : DevelopmentTask) : DevCenter :=
  { c with
    tasks := { t with id := c.nextUuid, status := .created } :: c.tasks
    nextUuid := c.nextUuid + 1 }

/-! ## The housekeeping thread -/

def retryAfter : ℕ := 5000000

/-- The rows `publish_pending_development_tasks` selects. -/
def isPending (now : ℕ) (t : DevelopmentTask) : Bool :=
  decide (t.status = .created) ||
    (decide (t.status = .published) && t.publishedAt.any (fun at' => at' + retryAfter < now))

/-- The query of `publish_pending_development_tasks`; the table lists the newest row first. -/
def readPending (now : ℕ) : DevCenter :=
  { c with
    queriedAt := now
    publishing := (c.tasks.filter (isPending now)).take 10
    published := none }

/-- What is written after the message of a row is published. -/
def markPublished (now : ℕ) (t : DevelopmentTask) : DevelopmentTask :=
  { t with status := .published, publishedAt := some now }

/-- The rows `publish_pending_development_controls` selects. -/
def isCancelPending (now : ℕ) (t : DevelopmentTask) : Bool :=
  decide (t.status = .cancelling) && t.cancelPublishedAt.all (fun at' => at' + retryAfter < now)

/-- The query of `publish_pending_development_controls`. -/
def readControls (now : ℕ) : DevCenter :=
  { c with
    controlsQueriedAt := now
    controls := (c.tasks.filter (isCancelPending now)).take 10
    controlled := none }

/-! ## The cancel view -/

/-- `DevelopmentTaskCancelView.post` up to its decision: the row, unless it is terminal. -/
def readCancel (id : Uuid) : DevCenter :=
  match c.task? id with
  | some t => if t.status.isTerminal then c else { c with cancels := c.cancels ++ [t] }
  | none => c

/-- What the cancel view writes, by the status it has read. -/
def markCancelled (read : DevTaskStatus) (now : ℕ) (t : DevelopmentTask) : DevelopmentTask :=
  if read = .created then
    { t with status := .cancelled, cancelRequestedAt := some now, finishedAt := some now }
  else { t with status := .cancelling, cancelRequestedAt := some now, cancelPublishedAt := none }

/-- The save of the cancel view that read the row at `i`. -/
def writeCancel (i : ℕ) (now : ℕ) : DevCenter :=
  match c.cancels[i]? with
  | some read =>
    { c.update read.id (markCancelled read.status now) with cancels := c.cancels.eraseIdx i }
  | none => c

/-! ## The agent's messages -/

/-- The update for a presence with `agent_restarted`. -/
def markInterrupted (now : ℕ) (t : DevelopmentTask) : DevelopmentTask :=
  if t.status.isActive then
    { t with
      status := .failed
      finishedAt := some now
      errorMessage := "ROBOT_AGENT_RESTARTED: Codex process was interrupted by Agent restart" }
  else t

/-- The presence branch of `handle_dev_mqtt_message`. -/
def handlePresence (agentRestarted : Bool) (now : ℕ) : DevCenter :=
  if agentRestarted then { c with tasks := c.tasks.map (markInterrupted now) } else c

/-- `_handle_event`: the status of the row. -/
def markEvent (status : DevEventStatus) (timestamp : ℕ) (t : DevelopmentTask) : DevelopmentTask :=
  if status = .running ∧ (t.status = .created ∨ t.status = .published) then
    { t with status := .running, startedAt := some (t.startedAt.getD timestamp) }
  else if status = .cancelling ∧ t.status.isTerminal = false then { t with status := .cancelling }
  else t

/-- `_handle_result`. -/
def markResult (r : DevResult) (t : DevelopmentTask) : DevelopmentTask :=
  if t.status.isTerminal then t
  else
    { t with
      status := if r.status.isTerminal then r.status else .failed
      finishedAt := some r.timestamp
      exitCode := r.exitCode
      errorMessage := r.error
      lastMessage := r.lastMessage
      codexThreadId := if r.codexThreadId = "" then t.codexThreadId else r.codexThreadId }

/-- `handle_dev_mqtt_message`. -/
def handle (now : ℕ) : DevReport → DevCenter
  | .presence agentRestarted => c.handlePresence agentRestarted now
  | .event id status timestamp => c.update id (markEvent status timestamp)
  | .result r => c.update r.taskId (markResult r)

end DevCenter

/-! ## What the writes keep -/

namespace DevCenter

variable {c : DevCenter} {t : DevelopmentTask} {id : Uuid} {now : ℕ}

@[simp] theorem id_markPublished : (markPublished now t).id = t.id := rfl

@[simp] theorem id_markCancelled (read : DevTaskStatus) : (markCancelled read now t).id = t.id := by
  rw [markCancelled]
  split_ifs
  · rfl
  · rfl

@[simp] theorem id_markInterrupted : (markInterrupted now t).id = t.id := by
  rw [markInterrupted]
  split_ifs
  · rfl
  · rfl

@[simp] theorem id_markEvent (status : DevEventStatus) (timestamp : ℕ) :
    (markEvent status timestamp t).id = t.id := by
  rw [markEvent]
  split_ifs
  · rfl
  · rfl
  · rfl

@[simp] theorem id_markResult (r : DevResult) : (markResult r t).id = t.id := by
  rw [markResult]
  by_cases h : t.status.isTerminal = true
  · rw [if_pos h]
  · rw [if_neg h]

theorem task?_update {g : DevelopmentTask → DevelopmentTask} (hg : ∀ x, (g x).id = x.id) (id' : Uuid) :
    (c.update id g).task? id' = if id' = id then (c.task? id').map g else c.task? id' :=
  Rows.get?_modify DevelopmentTask.id hg id'

theorem isTerminal_markEvent (status : DevEventStatus) (timestamp : ℕ) :
    (markEvent status timestamp t).status.isTerminal = t.status.isTerminal := by
  rw [markEvent]
  split_ifs with hrunning hcancelling
  · rcases hrunning.2 with h | h
    · rw [h]
      rfl
    · rw [h]
      rfl
  · rw [hcancelling.2]
    rfl
  · rfl

theorem markResult_of_terminal (r : DevResult) (h : t.status.isTerminal = true) : markResult r t = t := by
  rw [markResult, if_pos h]

theorem markInterrupted_of_terminal (h : t.status.isTerminal = true) : markInterrupted now t = t := by
  rw [markInterrupted, if_neg]
  cases hs : t.status <;> simp_all [DevTaskStatus.isActive, DevTaskStatus.isTerminal]

end DevCenter

end RoamerX
