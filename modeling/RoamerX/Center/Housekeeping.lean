import RoamerX.Center.System

set_option autoImplicit false

/-! # Housekeeping, one database access at a time

The housekeeping thread of the device worker reads a command, publishes it or finds it overdue, and
writes it back; the thread that receives messages may have stored something in between. Here every
read and every write of `publish_pending_commands`, `mark_published`, `mark_publish_failed`,
`_expire_commands` and `mark_timeout` for one command is a step of its own. A message is handled under
a lock on the command's row, and `reconcile_task_start_for_execution` and `transition` are
transactions; these are one step each. -/

namespace RoamerX

namespace Housekeeping

/-- Where the thread stands with the command, and the objects it holds. -/
inductive Stage
  | idle
  /-- `publish_command`: the command was read as created. -/
  | publishing (object : RemoteCommand)
  /-- `mark_published` has saved the command; its event row is still to be created. -/
  | published (object : RemoteCommand)
  /-- `_expire_commands` has read the command, at this time. -/
  | overdue (object : RemoteCommand) (readAt : ℕ)
  /-- `mark_timeout` has read the execution of a `task.start`. -/
  | prechecked (object : RemoteCommand) (readAt : ℕ) (execution : Option TaskExecution)
  /-- `mark_timeout` has saved the command. -/
  | timedOut (object : RemoteCommand)
  /-- `mark_timeout` has read `command.task_execution`. -/
  | deciding (object : RemoteCommand) (execution : TaskExecution)

structure System where
  db : CenterDb
  stage : Stage := .idle

/-- What the Edge sends about the command. -/
inductive CommandMessage
  | ack (p : AckPayload)
  | progress (p : CommandProgressPayload)
  | result (p : CommandResultPayload)

def CommandMessage.about (command : Uuid) : CommandMessage → EdgeMessage
  | .ack p => .commandAck command p
  | .progress p => .commandProgress command p
  | .result p => .commandResult command p

inductive Action
  | advance (elapsed : ℕ)
  /-- A message of the command is handled. -/
  | receive (message : Uuid) (m : CommandMessage)
  /-- The query of `publish_pending_commands`. -/
  | readPending
  /-- The broker takes the message and `mark_published` saves, or `mark_publish_failed` does. -/
  | savePublished (failure : Option String)
  /-- `mark_published` creates its event row, or fails to. -/
  | recordPublished (failure : Option String)
  /-- The queries of `_expire_commands`. -/
  | readOverdue
  /-- `TaskExecution.objects.filter(..).first()` of `mark_timeout`. -/
  | precheck
  /-- The reconciliation of `mark_timeout`, or its save of the command. -/
  | saveTimeout
  /-- `command.task_execution` of `mark_timeout`. -/
  | readExecution
  /-- The transition of `mark_timeout`. -/
  | transition

/-- The save of `mark_timeout`: what it writes is made of the object. -/
def CenterDb.saveTimedOut (db : CenterDb) (object : RemoteCommand) : CenterDb :=
  db.updateCommand object.id (fun c =>
    { c with
      status := .timedOut
      errorCode := "COMMAND_TIMED_OUT"
      errorMessage := (object.markedTimedOut db.now).errorMessage
      finishedAt := some db.now })

/-- The execution that `mark_timeout` finds ended, if any. -/
def ended (execution : Option TaskExecution) : Option TaskExecution :=
  execution.filter (fun e => (executionCommandStatus e.state).isSome)

def step (command : Uuid) (s : System) : Action → System
  | .advance elapsed => { s with db := { s.db with now := s.db.now + elapsed } }
  | .receive message m => { s with db := s.db.receive message (m.about command) }
  | .readPending =>
    match s.stage, s.db.command? command with
    | .idle, some c => if c.status = .created then { s with stage := .publishing c } else s
    | _, _ => s
  | .savePublished failure =>
    match s.stage, failure with
    | .publishing c, none => { db := s.db.markPublished c.id, stage := .published c }
    | .publishing c, some message => { db := s.db.markPublishFailed c.id message }
    | _, _ => s
  | .recordPublished failure =>
    match s.stage, failure with
    | .published _, none => { s with stage := .idle }
    | .published c, some message => { db := s.db.markPublishFailed c.id message }
    | _, _ => s
  | .readOverdue =>
    match s.stage, s.db.command? command with
    | .idle, some c => if s.db.expired c then { s with stage := .overdue c s.db.now } else s
    | _, _ => s
  | .precheck =>
    match s.stage with
    | .overdue c readAt =>
      { s with
        stage := .prechecked c readAt
          (if c.commandType = .taskStart then c.taskExecution.bind s.db.execution? else none) }
    | _ => s
  | .saveTimeout =>
    match s.stage with
    | .prechecked c _ execution =>
      match ended execution with
      | some e => { db := s.db.reconcileTaskStartForExecution e }
      | none =>
        if c.status.isOpen then { db := CenterDb.saveTimedOut s.db c, stage := .timedOut c }
        else { s with stage := .idle }
    | _ => s
  | .readExecution =>
    match s.stage with
    | .timedOut c =>
      match (c.taskExecution.bind s.db.execution?).filter (fun e => e.state.isActive) with
      | some e => { s with stage := .deciding c e }
      | none => { s with stage := .idle }
    | _ => s
  | .transition =>
    match s.stage with
    | .deciding c e =>
      match timeoutTransition c.commandType (c.markedTimedOut s.db.now).errorMessage e with
      | none => { s with stage := .idle }
      | some (target, args) =>
        match s.db.transition e.id target args with
        | .error _ => { s with stage := .idle }
        | .ok db => { db := db }
    | _ => s

/-! ## Regressions -/

/-- From accepted, executing or a terminal status back to created, published or timed out. -/
def Regresses (command : Uuid) (s : System) (a : Action) : Prop :=
  ∃ c c', s.db.command? command = some c ∧ (step command s a).db.command? command = some c' ∧
    c.status ∉ [CommandStatus.created, .published] ∧
    c'.status ∈ [CommandStatus.created, .published, .timedOut] ∧ c'.status ≠ c.status

/-- A result moves the execution of its command to `timed_out`. -/
def ResultTimesOut (db : CenterDb) (command : Uuid) (p : CommandResultPayload) : Prop :=
  ∃ c e args, db.command? command = some c ∧ c.taskExecution.bind db.execution? = some e ∧
    CenterDb.resultTransition c.commandType p (CenterDb.resultMerged c p)
      (p.finishedAt.getD db.now) e = some (.known .timedOut, args)

/-- The steps that are to time a command out: the sweep saves one that it read as accepted or
    executing past its expiry, or finds its execution timed out; or a result says so. -/
def TimesOut (command : Uuid) (s : System) : Action → Prop
  | .receive _ (.result p) => p.status = .timedOut ∨ ResultTimesOut s.db command p
  | .saveTimeout =>
    ∃ c readAt execution, s.stage = .prechecked c readAt execution ∧
      match ended execution with
      | some e => e.state = .timedOut
      | none => c.status ∈ [CommandStatus.accepted, .executing] ∧ c.expiresAt < readAt
  | _ => False

/-- The thread saves an object, or reconciles with one, of which something else is stored now. -/
def WritesStale (command : Uuid) (s : System) : Action → Prop
  | .savePublished none =>
    ∃ c, s.stage = .publishing c ∧ ∀ stored, s.db.command? command = some stored →
      stored.status ≠ c.status
  | .saveTimeout =>
    ∃ c readAt execution, s.stage = .prechecked c readAt execution ∧ ended execution = none ∧
      ∀ stored, s.db.command? command = some stored → stored.status ≠ c.status
  | _ => False

/-! ## The command's row -/

/-- What a reconciliation makes of a row. -/
def reconciledRow (e : TaskExecution) (now : ℕ) (c : RemoteCommand) : RemoteCommand :=
  match executionCommandStatus e.state with
  | none => c
  | some target =>
    if c.taskExecution = some e.id ∧ c.commandType = .taskStart ∧ c.status ≠ target then
      c.reconciled e target now
    else c

theorem reconciledRow_keeps (e : TaskExecution) (now : ℕ) (c : RemoteCommand) :
    (reconciledRow e now c).id = c.id ∧ (reconciledRow e now c).commandType = c.commandType := by
  rw [reconciledRow]
  split
  · exact ⟨rfl, rfl⟩
  · split
    · exact ⟨rfl, rfl⟩
    · exact ⟨rfl, rfl⟩

theorem reconciledRow_status (e : TaskExecution) (now : ℕ) (c : RemoteCommand) :
    (reconciledRow e now c).status = c.status ∨
      (c.commandType = .taskStart ∧
        executionCommandStatus e.state = some (reconciledRow e now c).status) := by
  rw [reconciledRow]
  split
  · exact .inl rfl
  · next target htarget =>
    split
    · next hrow => exact .inr ⟨hrow.2.1, htarget⟩
    · exact .inl rfl

theorem command?_reconcile (db : CenterDb) (e : TaskExecution) (command : Uuid) :
    (db.reconcileTaskStartForExecution e).command? command =
      (db.command? command).map (reconciledRow e db.now) := by
  have hrows : (db.reconcileTaskStartForExecution e).commands =
      db.commands.map (reconciledRow e db.now) := by
    unfold CenterDb.reconcileTaskStartForExecution
    split
    · next hnone =>
      have hid : reconciledRow e db.now = id := by
        funext c
        rw [reconciledRow, hnone]
        rfl
      rw [hid, List.map_id]
    · next target htarget =>
      apply List.map_congr_left
      intro c _
      rw [reconciledRow, htarget]
  rw [CenterDb.command?, hrows]
  exact Rows.get?_map RemoteCommand.id (fun c => (reconciledRow_keeps e db.now c).1) command

theorem command?_update (db : CenterDb) (id command : Uuid) {g : RemoteCommand → RemoteCommand}
    (hg : ∀ c, (g c).id = c.id) :
    (db.updateCommand id g).command? command =
      if command = id then (db.command? command).map g else db.command? command :=
  Rows.get?_modify RemoteCommand.id hg command

theorem command?_transition {db db' : CenterDb} {x : Uuid} {target : ExecutionState}
    {args : TransitionArgs} (h : db.transition x target args = .ok db') (command : Uuid) :
    ∃ saved : TaskExecution, saved.state = target ∧
      db'.command? command = (db.command? command).map (reconciledRow saved db.now) := by
  obtain ⟨locked, -, -, -, hdb⟩ := CenterDb.transition_ok h
  refine ⟨locked.transitioned target (args.stateVersion.getD (locked.stateVersion + 1)) args db.now,
    rfl, ?_⟩
  rw [hdb, CenterDb.afterTransition, command?_reconcile]
  rfl

theorem command?_repair {db db' : CenterDb} {x : Uuid} {target : ExecutionState} {version : ℤ}
    {code text : String}
    (h : db.reconcileEdgeActiveAfterCenterTimeout x target version code text = .ok db')
    (command : Uuid) : db'.command? command = db.command? command := by
  obtain ⟨locked, saved, ev, -, -, -, -, -, -, -, -, -, -, hdb⟩ := CenterDb.repair_ok h
  rw [hdb]
  rfl

theorem command?_writeProgressFields (db : CenterDb) (x : Uuid) (result : ResultPayload)
    (command : Uuid) : (db.writeProgressFields x result).command? command = db.command? command := by
  unfold CenterDb.writeProgressFields
  split
  · rfl
  · rfl

/-! ## Messages -/

/-- What a step leaves of the row: its type, and its status unless that has moved on. -/
def MovesOn (timesOut : Prop) (c c' : RemoteCommand) : Prop :=
  c'.commandType = c.commandType ∧
    (c'.status = c.status ∨ c'.status ∉ [CommandStatus.created, .published, .timedOut] ∨
      (c'.status = .timedOut ∧ timesOut))

theorem ack_movesOn {db db' : CenterDb} {command : Uuid} {p : AckPayload} {c c' : RemoteCommand}
    (h : db.handleCommandAck command p = .ok db') (hc : db.command? command = some c)
    (hc' : db'.command? command = some c') : MovesOn False c c' := by
  have hid : ∀ c : RemoteCommand, (CenterDb.acknowledged c p db.now).id = c.id := fun _ => rfl
  have hmarked : (db.updateCommand command (fun c => CenterDb.acknowledged c p db.now)).command?
      command = some (CenterDb.acknowledged c p db.now) := by
    rw [command?_update db command command hid, if_pos rfl, hc, Option.map_some]
  have hstatus : (CenterDb.acknowledged c p db.now).status ∉
      [CommandStatus.created, .published, .timedOut] := by
    cases hp : p.accepted <;> simp [CenterDb.acknowledged, hp]
  cases CenterDb.handleCommandAck_ok h with
  | ignored =>
    rw [hc] at hc'
    rw [Option.some.inj hc']
    exact ⟨rfl, .inl rfl⟩
  | marked =>
    rw [hmarked] at hc'
    rw [← Option.some.inj hc']
    exact ⟨rfl, .inr (.inl hstatus)⟩
  | repaired _ _ _ _ _ _ _ _ _ hrepair =>
    rw [command?_repair hrepair, hmarked] at hc'
    rw [← Option.some.inj hc']
    exact ⟨rfl, .inr (.inl hstatus)⟩
  | moved _ _ _ _ _ _ _ htransition =>
    obtain ⟨saved, hstate, hrow⟩ := command?_transition htransition command
    rw [hrow, hmarked, Option.map_some] at hc'
    rw [← Option.some.inj hc']
    refine ⟨(reconciledRow_keeps _ _ _).2, .inr (.inl ?_)⟩
    rcases reconciledRow_status saved _ (CenterDb.acknowledged c p db.now) with hsame | ⟨-, hmoved⟩
    · rw [hsame]
      exact hstatus
    · rw [hstate] at hmoved
      cases hp : p.accepted with
      | true => rw [hp] at hmoved; exact nomatch hmoved
      | false =>
        rw [hp] at hmoved
        rw [← Option.some.inj hmoved]
        decide

theorem progress_movesOn {db db' : CenterDb} {command : Uuid} {p : CommandProgressPayload}
    {c c' : RemoteCommand} (h : db.handleCommandProgress command p = .ok db')
    (hc : db.command? command = some c) (hc' : db'.command? command = some c') :
    MovesOn False c c' := by
  have hid : ∀ c : RemoteCommand, (CenterDb.progressed c p db.now).id = c.id := fun _ => rfl
  have hmarked : (db.updateCommand command (fun c => CenterDb.progressed c p db.now)).command?
      command = some (CenterDb.progressed c p db.now) := by
    rw [command?_update db command command hid, if_pos rfl, hc, Option.map_some]
  have hmoves : MovesOn False c (CenterDb.progressed c p db.now) := by
    refine ⟨rfl, ?_⟩
    simp only [CenterDb.progressed]
    split
    · exact .inr (.inl (by decide))
    · exact .inl rfl
  cases CenterDb.handleCommandProgress_ok h with
  | ignored =>
    rw [hc] at hc'
    rw [Option.some.inj hc']
    exact ⟨rfl, .inl rfl⟩
  | marked =>
    rw [hmarked] at hc'
    rw [← Option.some.inj hc']
    exact hmoves
  | repaired _ _ _ _ _ _ _ _ hrepair =>
    rw [command?_repair hrepair, hmarked] at hc'
    rw [← Option.some.inj hc']
    exact hmoves

theorem result_movesOn {db db' : CenterDb} {command : Uuid} {p : CommandResultPayload}
    {c c' : RemoteCommand} (h : db.handleCommandResult command p = .ok db')
    (hc : db.command? command = some c) (hc' : db'.command? command = some c') :
    MovesOn (p.status = .timedOut ∨ ResultTimesOut db command p) c c' := by
  have hid : ∀ c : RemoteCommand, (CenterDb.finished c p db.now).id = c.id := fun _ => rfl
  have hmarked : (db.updateCommand command (fun c => CenterDb.finished c p db.now)).command?
      command = some (CenterDb.finished c p db.now) := by
    rw [command?_update db command command hid, if_pos rfl, hc, Option.map_some]
  have hmoves : MovesOn (p.status = .timedOut ∨ ResultTimesOut db command p) c
      (CenterDb.finished c p db.now) := by
    refine ⟨rfl, .inr ?_⟩
    simp only [CenterDb.finished]
    cases hp : p.status with
    | timedOut => exact .inr ⟨rfl, .inl rfl⟩
    | _ => exact .inl (by decide)
  cases CenterDb.handleCommandResult_ok h with
  | orphan =>
    rw [hmarked] at hc'
    rw [← Option.some.inj hc']
    exact hmoves
  | kept =>
    rw [command?_writeProgressFields, hmarked] at hc'
    rw [← Option.some.inj hc']
    exact hmoves
  | moved c₀ e target args hc₀ he hresult htransition =>
    obtain ⟨saved, hstate, hrow⟩ := command?_transition htransition command
    rw [command?_writeProgressFields, hrow, hmarked, Option.map_some] at hc'
    rw [← Option.some.inj hc']
    refine ⟨(reconciledRow_keeps _ _ _).2, ?_⟩
    rcases reconciledRow_status saved _ (CenterDb.finished c p db.now) with hsame | ⟨-, hmoved⟩
    · rw [hsame]
      exact hmoves.2
    · rw [hstate] at hmoved
      cases target with
      | timedOut =>
        exact .inr (.inr ⟨(Option.some.inj hmoved).symm, .inr ⟨c₀, e, args, hc₀, he, hresult⟩⟩)
      | completed | failed | cancelled | rejected =>
        refine .inr (.inl ?_)
        rw [← Option.some.inj hmoved]
        decide
      | _ => exact nomatch hmoved

theorem receive_movesOn {command : Uuid} {s : System} {message : Uuid} {m : CommandMessage}
    {c c' : RemoteCommand} (hc : s.db.command? command = some c)
    (hc' : (s.db.receive message (m.about command)).command? command = some c') :
    MovesOn (TimesOut command s (.receive message m)) c c' := by
  rcases CenterDb.receive_cases s.db message (m.about command) with hsame | ⟨-, hhandled⟩
  · rw [hsame, hc] at hc'
    rw [Option.some.inj hc']
    exact ⟨rfl, .inl rfl⟩
  · have hstored : (s.db.recorded message).command? command = some c := hc
    cases m with
    | ack p =>
      obtain ⟨htype, hstatus⟩ := ack_movesOn hhandled hstored hc'
      exact ⟨htype, hstatus.imp_right (Or.imp_right (fun h => h.2.elim))⟩
    | progress p =>
      obtain ⟨htype, hstatus⟩ := progress_movesOn hhandled hstored hc'
      exact ⟨htype, hstatus.imp_right (Or.imp_right (fun h => h.2.elim))⟩
    | result p =>
      have hresult : (s.db.recorded message).handleCommandResult command p = .ok _ := hhandled
      have hmoves := result_movesOn hresult hstored hc'
      exact hmoves

/-! ## What the thread holds -/

/-- No write adds a command or changes what kind of command one is. -/
def KeepsType (command : Uuid) (db db' : CenterDb) : Prop :=
  ∀ c', db'.command? command = some c' →
    ∃ c, db.command? command = some c ∧ c'.commandType = c.commandType

theorem KeepsType.refl (command : Uuid) (db : CenterDb) : KeepsType command db db :=
  fun c' hc' => ⟨c', hc', rfl⟩

theorem keepsType_of_map {command : Uuid} {db db' : CenterDb} {f : RemoteCommand → RemoteCommand}
    (hf : ∀ c, (f c).commandType = c.commandType)
    (h : db'.command? command = (db.command? command).map f) : KeepsType command db db' := by
  intro c' hc'
  rw [h] at hc'
  obtain ⟨c, hc, hfc⟩ := Option.map_eq_some_iff.mp hc'
  refine ⟨c, hc, ?_⟩
  rw [← hfc]
  exact hf c

theorem keepsType_update {command id : Uuid} {db : CenterDb} {g : RemoteCommand → RemoteCommand}
    (hg : CenterDb.KeepsCommand g) : KeepsType command db (db.updateCommand id g) := by
  have hrow := command?_update db id command (fun c => (hg c).1)
  by_cases hid : command = id
  · rw [if_pos hid] at hrow
    exact keepsType_of_map (fun c => (hg c).2.2.1) hrow
  · rw [if_neg hid] at hrow
    intro c' hc'
    rw [hrow] at hc'
    exact ⟨c', hc', rfl⟩

theorem keepsType_reconcile (command : Uuid) (db : CenterDb) (e : TaskExecution) :
    KeepsType command db (db.reconcileTaskStartForExecution e) :=
  keepsType_of_map (fun c => (reconciledRow_keeps e db.now c).2) (command?_reconcile db e command)

theorem keepsType_transition {command : Uuid} {db db' : CenterDb} {x : Uuid}
    {target : ExecutionState} {args : TransitionArgs} (h : db.transition x target args = .ok db') :
    KeepsType command db db' := by
  obtain ⟨saved, -, hrow⟩ := command?_transition h command
  exact keepsType_of_map (fun c => (reconciledRow_keeps saved db.now c).2) hrow

theorem keepsType_write {message : Option Uuid} {command : Uuid} {db db' : CenterDb}
    (h : CenterDb.Write message db db') : KeepsType command db db' := by
  cases h with
  | command id g hg => exact keepsType_update hg
  | reconcile e => exact keepsType_reconcile command db e
  | transition x target args _ h => exact keepsType_transition h
  | repair x target version code text h =>
    intro c' hc'
    rw [command?_repair h] at hc'
    exact ⟨c', hc', rfl⟩
  | save e saved => exact .refl command _
  | event e ev _ _ _ h =>
    obtain ⟨-, rfl⟩ := CenterDb.createEvent_ok h
    exact .refl command _
  | touch key g => exact .refl command _

theorem keepsType_writes {message : Option Uuid} {command : Uuid} {db db' : CenterDb}
    (h : CenterDb.Writes message db db') : KeepsType command db db' := by
  induction h with
  | refl => exact .refl command db
  | tail _ hlast ih =>
    intro c' hc'
    obtain ⟨c, hc, htype⟩ := keepsType_write hlast c' hc'
    obtain ⟨c₀, hc₀, htype₀⟩ := ih c hc
    exact ⟨c₀, hc₀, htype.trans htype₀⟩

def OfCommand (command : Uuid) (db : CenterDb) (c : RemoteCommand) : Prop :=
  c.id = command ∧
    ∀ stored, db.command? command = some stored → stored.commandType = c.commandType

theorem OfCommand.of_read {command : Uuid} {db : CenterDb} {c : RemoteCommand}
    (h : db.command? command = some c) : OfCommand command db c := by
  refine ⟨Rows.get?_key RemoteCommand.id h, ?_⟩
  intro stored hstored
  rw [Option.some.inj (hstored.symm.trans h)]

theorem OfCommand.keep {command : Uuid} {db db' : CenterDb} {c : RemoteCommand}
    (hc : OfCommand command db c) (h : KeepsType command db db') : OfCommand command db' c := by
  refine ⟨hc.1, ?_⟩
  intro stored hstored
  obtain ⟨before, hbefore, htype⟩ := h stored hstored
  rw [htype]
  exact hc.2 before hbefore

/-- What the queries of `_expire_commands` have established about the object. -/
def WasOverdue (c : RemoteCommand) (readAt : ℕ) : Prop :=
  c.status ∈ [CommandStatus.created, .published] ∨ (c.status.isOpen = true ∧ c.expiresAt < readAt)

theorem wasOverdue_of_expired {db : CenterDb} {c : RemoteCommand} (h : db.expired c = true) :
    WasOverdue c db.now := by
  simp only [CenterDb.expired, Bool.or_eq_true, Bool.and_eq_true, decide_eq_true_eq] at h
  rcases h with ⟨⟨-, hstatus⟩, -⟩ | hopen
  · left
    simpa using hstatus
  · exact .inr hopen

/-- The objects in the thread's hands are of the command, in the status their query asked for. -/
def StageInv (command : Uuid) (s : System) : Prop :=
  match s.stage with
  | .idle => True
  | .publishing c => OfCommand command s.db c ∧ c.status = .created
  | .published c => OfCommand command s.db c
  | .overdue c readAt => OfCommand command s.db c ∧ WasOverdue c readAt
  | .prechecked c readAt _ => OfCommand command s.db c ∧ WasOverdue c readAt
  | .timedOut c => OfCommand command s.db c
  | .deciding c _ => OfCommand command s.db c

theorem StageInv.keep {command : Uuid} {s : System} (hs : StageInv command s) {db' : CenterDb}
    (h : KeepsType command s.db db') : StageInv command { s with db := db' } := by
  obtain ⟨db, stage⟩ := s
  cases stage with
  | idle => trivial
  | publishing c => exact ⟨OfCommand.keep hs.1 h, hs.2⟩
  | published c => exact OfCommand.keep hs h
  | overdue c readAt => exact ⟨OfCommand.keep hs.1 h, hs.2⟩
  | prechecked c readAt e => exact ⟨OfCommand.keep hs.1 h, hs.2⟩
  | timedOut c => exact OfCommand.keep hs h
  | deciding c e => exact OfCommand.keep hs h

theorem keepsType_receive (command : Uuid) (db : CenterDb) (message : Uuid) (m : EdgeMessage) :
    KeepsType command db (db.receive message m) := by
  rcases CenterDb.receive_cases db message m with hsame | ⟨-, hhandled⟩
  · rw [hsame]
    exact .refl command db
  · have hkeeps := @keepsType_writes _ command _ _ (CenterDb.handle_writes hhandled)
    exact hkeeps

theorem keepsType_saveTimedOut (command : Uuid) (db : CenterDb) (c : RemoteCommand) :
    KeepsType command db (CenterDb.saveTimedOut db c) :=
  keepsType_update (fun _ => ⟨rfl, rfl, rfl, rfl⟩)

theorem stageInv_step {command : Uuid} (s : System) (a : Action) (hs : StageInv command s) :
    StageInv command (step command s a) := by
  obtain ⟨db, stage⟩ := s
  cases a with
  | advance elapsed => exact StageInv.keep hs (.refl command db)
  | receive message m => exact StageInv.keep hs (keepsType_receive command db message _)
  | readPending =>
    cases stage with
    | idle =>
      cases hc : db.command? command with
      | none => simpa [step, hc] using hs
      | some c =>
        by_cases hstatus : c.status = .created
        · simpa [step, hc, hstatus] using ⟨OfCommand.of_read hc, hstatus⟩
        · simpa [step, hc, hstatus] using hs
    | _ => exact hs
  | savePublished failure =>
    cases stage with
    | publishing c =>
      cases failure with
      | none => exact OfCommand.keep hs.1 (keepsType_update (fun _ => ⟨rfl, rfl, rfl, rfl⟩))
      | some text => trivial
    | _ => exact hs
  | recordPublished failure =>
    cases stage with
    | published c =>
      cases failure with
      | none => trivial
      | some text => trivial
    | _ => exact hs
  | readOverdue =>
    cases stage with
    | idle =>
      cases hc : db.command? command with
      | none => simpa [step, hc] using hs
      | some c =>
        by_cases hexpired : db.expired c = true
        · simpa [step, hc, hexpired] using
            ⟨OfCommand.of_read hc, wasOverdue_of_expired hexpired⟩
        · simpa [step, hc, hexpired] using hs
    | _ => exact hs
  | precheck =>
    cases stage with
    | overdue c readAt => exact hs
    | _ => exact hs
  | saveTimeout =>
    cases stage with
    | prechecked c readAt execution =>
      dsimp only [step]
      split
      · trivial
      · split
        · exact OfCommand.keep hs.1 (keepsType_saveTimedOut command db c)
        · trivial
    | _ => exact hs
  | readExecution =>
    cases stage with
    | timedOut c =>
      dsimp only [step]
      split
      · exact hs
      · trivial
    | _ => exact hs
  | transition =>
    cases stage with
    | deciding c e =>
      dsimp only [step]
      split
      · trivial
      · split
        · trivial
        · trivial
    | _ => exact hs

/-! ## Where a status can regress -/

theorem not_regresses_of_status {command : Uuid} {s : System} {a : Action}
    (h : ∀ c c', s.db.command? command = some c →
      (step command s a).db.command? command = some c' → c'.status = c.status) :
    ¬ Regresses command s a := by
  rintro ⟨c, c', hc, hc', -, -, hne⟩
  exact hne (h c c' hc hc')

theorem not_regresses_of_db {command : Uuid} {s : System} {a : Action}
    (h : (step command s a).db = s.db) : ¬ Regresses command s a := by
  apply not_regresses_of_status
  intro c c' hc hc'
  rw [h, hc] at hc'
  rw [Option.some.inj hc']

theorem not_regresses_of_failed {command id : Uuid} {s : System} {a : Action} {text : String}
    (h : (step command s a).db = s.db.markPublishFailed id text) : ¬ Regresses command s a := by
  rintro ⟨c, c', hc, hc', -, hregressed, hne⟩
  let failed : RemoteCommand → RemoteCommand := fun c =>
    { c with
      status := .failed
      errorCode := "MQTT_PUBLISH_FAILED"
      errorMessage := text
      finishedAt := some s.db.now }
  have hid : ∀ c, (failed c).id = c.id := fun _ => rfl
  have hrow : (s.db.updateCommand id failed).command? command = some c' := by
    rw [h] at hc'
    exact hc'
  rw [command?_update s.db id command hid] at hrow
  by_cases hcommand : command = id
  · rw [if_pos hcommand, hc, Option.map_some] at hrow
    have hfailed : c'.status = .failed := by
      rw [← Option.some.inj hrow]
    rw [hfailed] at hregressed
    exact absurd hregressed (by decide)
  · rw [if_neg hcommand, hc] at hrow
    rw [Option.some.inj hrow] at hne
    exact hne rfl

/-- The sweep's save: it timed out an accepted or executing command that was past its expiry, or
    one that it had read as not answered and that has been answered since. -/
theorem regresses_saveTimeout {command : Uuid} {db : CenterDb} {c : RemoteCommand} {readAt : ℕ}
    {execution : Option TaskExecution} (hoverdue : WasOverdue c readAt)
    (h : Regresses command ⟨db, .prechecked c readAt execution⟩ .saveTimeout) :
    TimesOut command ⟨db, .prechecked c readAt execution⟩ .saveTimeout ∨
      WritesStale command ⟨db, .prechecked c readAt execution⟩ .saveTimeout := by
  obtain ⟨stored, stored', hstored, hstored', hmoved, hregressed, hne⟩ := h
  cases hended : ended execution with
  | some e =>
    -- reconciled with an execution that has ended
    left
    refine ⟨c, readAt, execution, rfl, ?_⟩
    rw [hended]
    have hrow : (db.reconcileTaskStartForExecution e).command? command = some stored' := by
      simpa only [step, hended] using hstored'
    have hdb : db.command? command = some stored := hstored
    rw [command?_reconcile, hdb, Option.map_some] at hrow
    have hreconciled : reconciledRow e db.now stored = stored' := Option.some.inj hrow
    rcases reconciledRow_status e db.now stored with hsame | ⟨-, htarget⟩
    · rw [hreconciled] at hsame
      exact absurd hsame hne
    · rw [hreconciled] at htarget
      show e.state = .timedOut
      cases hstate : e.state with
      | timedOut => rfl
      | completed | failed | cancelled | rejected =>
        rw [hstate] at htarget
        rw [← Option.some.inj htarget] at hregressed
        exact absurd hregressed (by decide)
      | _ =>
        rw [hstate] at htarget
        exact nomatch htarget
  | none =>
    by_cases hunanswered : c.status ∈ [CommandStatus.created, .published]
    · right
      refine ⟨c, readAt, execution, rfl, hended, ?_⟩
      intro now hnow heq
      have hdb : db.command? command = some stored := hstored
      rw [Option.some.inj (hnow.symm.trans hdb)] at heq
      rw [heq] at hmoved
      exact hmoved hunanswered
    · left
      refine ⟨c, readAt, execution, rfl, ?_⟩
      rw [hended]
      rcases hoverdue with hpending | ⟨hopen, hexpired⟩
      · exact absurd hpending hunanswered
      · refine ⟨?_, hexpired⟩
        cases hstatus : c.status with
        | accepted => decide
        | executing => decide
        | created | published => rw [hstatus] at hunanswered; exact absurd hunanswered (by decide)
        | _ => rw [hstatus] at hopen; exact nomatch hopen

/-- What `mark_timeout` asks of an execution moves no command back: a start command is only
    interrupted, and the others are not reconciled. -/
theorem not_regresses_transition {command : Uuid} {db : CenterDb} {c : RemoteCommand}
    {e : TaskExecution} (hc : OfCommand command db c) :
    ¬ Regresses command ⟨db, .deciding c e⟩ .transition := by
  cases htransition : timeoutTransition c.commandType (c.markedTimedOut db.now).errorMessage e with
  | none =>
    apply not_regresses_of_db
    simp only [step, htransition]
  | some asked =>
    obtain ⟨target, args⟩ := asked
    cases hdb : db.transition e.id target args with
    | error err =>
      apply not_regresses_of_db
      simp only [step, htransition, hdb]
    | ok db' =>
      apply not_regresses_of_status
      intro stored stored' hstored hstored'
      have hrow : db'.command? command = some stored' := by
        simpa only [step, htransition, hdb] using hstored'
      have htype : stored.commandType = c.commandType := hc.2 stored hstored
      obtain ⟨saved, hstate, hreconciled⟩ := command?_transition hdb command
      have hbefore : db.command? command = some stored := hstored
      rw [hreconciled, hbefore, Option.map_some] at hrow
      have hrow' : reconciledRow saved db.now stored = stored' := Option.some.inj hrow
      rcases reconciledRow_status saved db.now stored with hsame | ⟨hstart, htarget⟩
      · rw [← hrow']
        exact hsame
      · rw [← htype, hstart] at htransition
        simp only [timeoutTransition] at htransition
        split at htransition
        · rw [hstate, ← (Prod.mk.inj (Option.some.inj htransition)).1] at htarget
          exact nomatch htarget
        · exact nomatch htransition

theorem regresses_step {command : Uuid} (s : System) (a : Action) (hs : StageInv command s) :
    Regresses command s a → TimesOut command s a ∨ WritesStale command s a := by
  obtain ⟨db, stage⟩ := s
  intro hregresses
  cases a with
  | advance elapsed => exact absurd hregresses (not_regresses_of_status (fun c c' hc hc' => by
      rw [← Option.some.inj (hc.symm.trans hc')]))
  | receive message m =>
    obtain ⟨c, c', hc, hc', hmoved, hregressed, hne⟩ := hregresses
    obtain ⟨-, hsame | hon | ⟨-, hout⟩⟩ := receive_movesOn hc hc'
    · exact absurd hsame hne
    · exact absurd hregressed hon
    · exact .inl hout
  | readPending =>
    cases stage with
    | idle =>
      refine absurd hregresses (not_regresses_of_db ?_)
      dsimp only [step]
      split
      · split
        · rfl
        · rfl
      · rfl
    | _ => exact absurd hregresses (not_regresses_of_db rfl)
  | savePublished failure =>
    cases stage with
    | publishing c =>
      cases failure with
      | none =>
        right
        refine ⟨c, rfl, ?_⟩
        intro stored hstored heq
        obtain ⟨before, -, hbefore, -, hmoved, -, -⟩ := hregresses
        rw [Option.some.inj (hstored.symm.trans hbefore), hs.2] at heq
        rw [heq] at hmoved
        exact hmoved (by decide)
      | some text =>
        exact absurd hregresses (not_regresses_of_failed rfl)
    | _ => exact absurd hregresses (not_regresses_of_db rfl)
  | recordPublished failure =>
    cases stage with
    | published c =>
      cases failure with
      | none => exact absurd hregresses (not_regresses_of_db rfl)
      | some text =>
        exact absurd hregresses (not_regresses_of_failed rfl)
    | _ => exact absurd hregresses (not_regresses_of_db rfl)
  | readOverdue =>
    cases stage with
    | idle =>
      refine absurd hregresses (not_regresses_of_db ?_)
      dsimp only [step]
      split
      · split
        · rfl
        · rfl
      · rfl
    | _ => exact absurd hregresses (not_regresses_of_db rfl)
  | precheck =>
    cases stage with
    | overdue c readAt => exact absurd hregresses (not_regresses_of_db rfl)
    | _ => exact absurd hregresses (not_regresses_of_db rfl)
  | saveTimeout =>
    cases stage with
    | prechecked c readAt execution => exact regresses_saveTimeout hs.2 hregresses
    | _ => exact absurd hregresses (not_regresses_of_db rfl)
  | readExecution =>
    cases stage with
    | timedOut c =>
      refine absurd hregresses (not_regresses_of_db ?_)
      dsimp only [step]
      split
      · rfl
      · rfl
    | _ => exact absurd hregresses (not_regresses_of_db rfl)
  | transition =>
    cases stage with
    | deciding c e => exact absurd hregresses (not_regresses_transition hs)
    | _ => exact absurd hregresses (not_regresses_of_db rfl)

/-- **In every interleaving of the housekeeping thread with the command's messages, the status goes
    from accepted, executing or ended back to created, published or timed out only where a timeout
    of the command says so, or where the thread saves an object that is no longer what is
    stored.** -/
theorem run_regresses (db : CenterDb) (command : Uuid) (actions : List Action) :
    Run.Always (step command)
      (fun s a => Regresses command s a → TimesOut command s a ∨ WritesStale command s a)
      { db := db } actions :=
  have hidle : StageInv command { db := db } := trivial
  Run.always_of_invariant (StageInv command) stageInv_step regresses_step hidle actions

/-- The tables with one start command, 1, that is not published yet. -/
def startCreated : CenterDb :=
  (Run.exec CenterSystem.step (CenterSystem.initial { id := 1 })
    [.createExecution corridorTask none 1 none "", .request 0 .taskStart {}]).db

/-- The start is published, acknowledged and runs until its expiry is over. -/
def outlasting : List Action :=
  [.readPending, .savePublished none, .recordPublished none, .receive 10 (.ack { accepted := true }),
   .receive 11 (.progress {}), .advance (seconds (taskMaxDurationSeconds + 1)), .readOverdue, .precheck]

/-- The start is handed to the broker, and the acknowledgement is handled before the save. -/
def overtaking : List Action := [.readPending, .receive 10 (.ack { accepted := true })]

theorem statuses_outlasting :
    ((Run.exec (step 1) { db := startCreated } outlasting).db.command? 1).map RemoteCommand.status =
        some .executing ∧
      ((step 1 (Run.exec (step 1) { db := startCreated } outlasting) .saveTimeout).db.command? 1).map
        RemoteCommand.status = some .timedOut := by decide

theorem statuses_overtaking :
    ((Run.exec (step 1) { db := startCreated } overtaking).db.command? 1).map RemoteCommand.status =
        some .accepted ∧
      ((step 1 (Run.exec (step 1) { db := startCreated } overtaking) (.savePublished none)).db.command?
        1).map RemoteCommand.status = some .published := by decide

theorem regresses_of_statuses {command : Uuid} {s : System} {a : Action} {old new : CommandStatus}
    (h : (s.db.command? command).map RemoteCommand.status = some old ∧
      ((step command s a).db.command? command).map RemoteCommand.status = some new)
    (hold : old ∉ [CommandStatus.created, .published])
    (hnew : new ∈ [CommandStatus.created, .published, .timedOut]) (hne : new ≠ old) :
    Regresses command s a := by
  obtain ⟨c, hc, hstatus⟩ := Option.map_eq_some_iff.mp h.1
  obtain ⟨c', hc', hstatus'⟩ := Option.map_eq_some_iff.mp h.2
  refine ⟨c, c', hc, hc', ?_, ?_, ?_⟩
  · rw [hstatus]
    exact hold
  · rw [hstatus']
    exact hnew
  · rw [hstatus, hstatus']
    exact hne

/-- An executing command that is past its expiry is timed out; and the late save of an object that
    was read before the acknowledgement takes an accepted command back to published. -/
theorem regresses_outlasting_overtaking :
    ¬ Run.Always (step 1) (fun s a => ¬ Regresses 1 s a) { db := startCreated }
        (outlasting ++ [.saveTimeout]) ∧
      ¬ Run.Always (step 1) (fun s a => ¬ Regresses 1 s a) { db := startCreated }
        (overtaking ++ [.savePublished none]) := by
  refine ⟨?_, ?_⟩
  · rw [Run.always_append]
    rintro ⟨-, hkept, -⟩
    exact hkept (regresses_of_statuses statuses_outlasting (by decide) (by decide) (by decide))
  · rw [Run.always_append]
    rintro ⟨-, hkept, -⟩
    exact hkept (regresses_of_statuses statuses_overtaking (by decide) (by decide) (by decide))

end Housekeeping

end RoamerX
