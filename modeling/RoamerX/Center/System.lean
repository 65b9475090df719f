import RoamerX.Lib.Run
import RoamerX.Center.Writes

set_option autoImplicit false

/-! # The center as a system

Everything that reaches the center's tables of one robot, one input at a time: requests of
operators, patrol loops and schedules, the housekeeping of the device worker, and the messages of
the Edge in whatever order they arrive. A service call or a handled message is one step
(`transaction.atomic`). Publishing is two: the worker reads the pending rows, and the mark on a row
is saved only after the broker took the message, whatever has happened to the row meanwhile. -/

namespace RoamerX

inductive CenterInput
  | advance (elapsed : ℕ)
  | telemetry (robot : Robot) (latest : Option RobotStatusLatest)
      (episodes : List RobotLowBatteryEpisode)
  /-- `TaskExecutionService.create_execution`. -/
  | createExecution (task : PatrolTask) (loopSessionId : Option Uuid) (roundNumber : ℕ)
      (routeSnapshot : Option RouteSnapshot) (executionSource : String)
  /-- `CommandService.create`. -/
  | request (execution : Uuid) (type : CommandType) (options : CommandOptions)
  /-- `CommandService.create_task_recovery`. -/
  | recover (execution : Uuid) (episode : Uuid) (attempt : ℕ) (reasonCode reasonMessage : String)
  /-- `publish_pending_commands` reads the rows it will publish. -/
  | collectPending
  | published (command : Uuid)
  | publishFailed (command : Uuid) (message : String)
  /-- One round of a loop of `_expire_commands`. -/
  | sweep (command : Uuid)
  | receive (message : Uuid) (m : EdgeMessage)

/-- The tables, and the commands read for publishing whose mark is not saved yet. -/
structure CenterSystem where
  db : CenterDb
  publishing : List Uuid := []

def taskStartAckTimeoutSeconds : ℕ := 60

/-- The two selections of `_expire_commands`. -/
def CenterDb.expired (db : CenterDb) (c : RemoteCommand) : Bool :=
  (c.commandType = .taskStart && (c.status = .created || c.status = .published) &&
      c.issuedAt + seconds taskStartAckTimeoutSeconds < db.now) ||
    (c.status.isOpen && c.expiresAt < db.now)

namespace CenterSystem

/-- A center that has no execution and no command yet. -/
def initial (robot : Robot) : CenterSystem where
  db := { robot := robot }

/-- One input; a call that raises changes nothing. -/
def step (s : CenterSystem) : CenterInput → CenterSystem
  | .advance elapsed => { s with db := { s.db with now := s.db.now + elapsed } }
  | .telemetry robot latest episodes =>
    { s with
      db := { s.db with robot := robot, latest := latest, lowBatteryEpisodes := episodes } }
  | .createExecution task loopSessionId roundNumber routeSnapshot executionSource =>
    match s.db.createExecution task loopSessionId roundNumber routeSnapshot executionSource with
    | .ok (db, _) => { s with db := db }
    | .error _ => s
  | .request execution type options =>
    match s.db.createCommand execution type options with
    | .ok (db, _) => { s with db := db }
    | .error _ => s
  | .recover execution episode attempt reasonCode reasonMessage =>
    match s.db.execution? execution with
    | none => s
    | some e =>
      { s with db := (s.db.createTaskRecovery e episode attempt reasonCode reasonMessage).1 }
  | .collectPending =>
    { s with
      publishing := (s.db.commands.filter (fun c => c.status = .created)).map RemoteCommand.id }
  | .published command =>
    if command ∈ s.publishing then
      { db := s.db.markPublished command, publishing := s.publishing.erase command }
    else s
  | .publishFailed command message =>
    if command ∈ s.publishing then
      { db := s.db.markPublishFailed command message, publishing := s.publishing.erase command }
    else s
  | .sweep command =>
    if (s.db.command? command).any s.db.expired then { s with db := s.db.markTimeout command }
    else s
  | .receive message m => { s with db := s.db.receive message m }

/-! ## What every step keeps -/

/-- Every execution of `db` is still there in `db'`, at the same version or a later one. -/
def VersionsKept (db db' : CenterDb) : Prop :=
  ∀ id e, db.execution? id = some e →
    ∃ e', db'.execution? id = some e' ∧ e.stateVersion ≤ e'.stateVersion

theorem VersionsKept.refl (db : CenterDb) : VersionsKept db db :=
  fun _ e he => ⟨e, he, le_refl _⟩

theorem VersionsKept.of_writes {message : Option Uuid} {db db' : CenterDb}
    (h : CenterDb.Writes message db db') : VersionsKept db db' :=
  fun _ _ he => h.version_le he

theorem valid_of_rows {db db' : CenterDb} (hv : db.Valid) (huuid : db'.nextUuid = db.nextUuid)
    (hexec : db'.executions = db.executions) (hcommands : db'.commands = db.commands)
    (hevents : db'.events = db.events) (hm : db'.processedMessages = db.processedMessages) :
    db'.Valid := by
  have hread : ∀ id, db'.execution? id = db.execution? id := by
    intro id
    unfold CenterDb.execution?
    rw [hexec]
  refine ⟨?_, ?_, ?_, ?_, ?_, ?_, ?_, ?_⟩
  · rw [hexec]
    exact hv.execution_nodup
  · rw [hexec, huuid]
    exact hv.execution_fresh
  · rw [hcommands]
    exact hv.command_nodup
  · rw [hcommands, huuid]
    exact hv.command_fresh
  · rw [hcommands, huuid]
    exact hv.command_execution
  · rw [hevents, huuid]
    exact hv.event_execution
  · intro ev hev hexempt e he
    rw [hevents] at hev
    rw [hread] at he
    exact hv.event_version ev hev hexempt e he
  · rw [hevents, hm]
    exact hv.event_message

theorem createTaskRecovery_keeps {db : CenterDb} {e : TaskExecution} (hv : db.Valid)
    (he : e ∈ db.executions) (episode : Uuid) (attempt : ℕ) (code text : String) :
    (db.createTaskRecovery e episode attempt code text).1.Valid ∧
      VersionsKept db (db.createTaskRecovery e episode attempt code text).1 := by
  unfold CenterDb.createTaskRecovery
  split
  · exact ⟨hv, .refl db⟩
  · refine ⟨hv.insertCommand ?_, (CenterDb.Extends.insertCommand ..).execution_grows⟩
    intro y hy
    obtain rfl := Option.some.inj hy
    exact hv.execution_fresh e he

theorem markPublished_writes (db : CenterDb) (command : Uuid) :
    CenterDb.Writes none db (db.markPublished command) :=
  (CenterDb.Write.command command
    (fun c => { c with status := .published, publishedAt := some db.now })
    (fun _ => ⟨rfl, rfl, rfl, rfl⟩)).writes

theorem markPublishFailed_writes (db : CenterDb) (command : Uuid) (text : String) :
    CenterDb.Writes none db (db.markPublishFailed command text) :=
  (CenterDb.Write.command command
    (fun c =>
      { c with
        status := .failed
        errorCode := "MQTT_PUBLISH_FAILED"
        errorMessage := text
        finishedAt := some db.now })
    (fun _ => ⟨rfl, rfl, rfl, rfl⟩)).writes

theorem step_keeps {s : CenterSystem} (hv : s.db.Valid) (i : CenterInput) :
    (s.step i).db.Valid ∧ VersionsKept s.db (s.step i).db := by
  have hwrites : ∀ {db' : CenterDb}, CenterDb.Writes none s.db db' →
      db'.Valid ∧ VersionsKept s.db db' := by
    intro db' h
    exact ⟨h.valid (fun m hm => absurd hm (by simp)) hv, .of_writes h⟩
  cases i with
  | advance elapsed => exact ⟨valid_of_rows hv rfl rfl rfl rfl rfl, .refl _⟩
  | telemetry robot latest episodes => exact ⟨valid_of_rows hv rfl rfl rfl rfl rfl, .refl _⟩
  | createExecution task loopSessionId roundNumber routeSnapshot executionSource =>
    dsimp only [step]
    split
    · next db e h =>
      obtain ⟨hvalid, hextends, -⟩ := CenterDb.createExecution_valid hv h
      exact ⟨hvalid, hextends.execution_grows⟩
    · exact ⟨hv, .refl _⟩
  | request execution type options =>
    dsimp only [step]
    split
    · next db c h =>
      obtain ⟨hvalid, hextends⟩ := CenterDb.createCommand_valid hv h
      exact ⟨hvalid, hextends.execution_grows⟩
    · exact ⟨hv, .refl _⟩
  | recover execution episode attempt code text =>
    dsimp only [step]
    split
    · exact ⟨hv, .refl _⟩
    · next e he => exact createTaskRecovery_keeps hv (CenterDb.execution?_mem he) ..
  | collectPending => exact ⟨hv, .refl _⟩
  | published command =>
    dsimp only [step]
    split
    · exact hwrites (markPublished_writes ..)
    · exact ⟨hv, .refl _⟩
  | publishFailed command message =>
    dsimp only [step]
    split
    · exact hwrites (markPublishFailed_writes ..)
    · exact ⟨hv, .refl _⟩
  | sweep command =>
    dsimp only [step]
    split
    · exact hwrites (CenterDb.markTimeout_writes ..)
    · exact ⟨hv, .refl _⟩
  | receive message m => exact CenterDb.receive_keeps hv message m

theorem initial_valid (robot : Robot) : (initial robot).db.Valid where
  execution_nodup := List.nodup_nil
  execution_fresh := by simp [initial]
  command_nodup := List.nodup_nil
  command_fresh := by simp [initial]
  command_execution := by simp [initial]
  event_execution := by simp [initial]
  event_version := by simp [initial]
  event_message := by simp [initial]

theorem exec_valid (robot : Robot) (inputs : List CenterInput) :
    (Run.exec step (initial robot) inputs).db.Valid :=
  Run.exec_invariant (fun s : CenterSystem => s.db.Valid) (fun _ i hv => (step_keeps hv i).1)
    (initial_valid robot) inputs

end CenterSystem

end RoamerX
