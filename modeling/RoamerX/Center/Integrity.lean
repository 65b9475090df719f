import RoamerX.Center.CommandService

set_option autoImplicit false

/-! # Integrity of the center's tables

`CenterDb.Valid` is what the database's own constraints and the way ids are drawn guarantee, and
what makes an event row at a new version never collide: no event of the constrained kinds lies
above its execution's stored version. `CenterDb.Extends T` says what a service call does to the
rest of the tables when it creates commands of the types in `T` only. Each call of the two
services gets one inversion lemma, and `Valid` and `Extends` are derived from it. -/

namespace RoamerX

namespace CenterDb

/-! ## Reading after a write -/

theorem execution?_id {db : CenterDb} {id : Uuid} {e : TaskExecution}
    (h : db.execution? id = some e) : e.id = id := Rows.get?_key _ h

theorem execution?_mem {db : CenterDb} {id : Uuid} {e : TaskExecution}
    (h : db.execution? id = some e) : e ∈ db.executions := Rows.get?_mem _ h

theorem execution?_saveExecution (db : CenterDb) (e : TaskExecution) (id : Uuid) :
    (db.saveExecution e).execution? id =
      if id = e.id then (db.execution? id).map (fun _ => e) else db.execution? id :=
  Rows.get?_put _ _ _ _

@[simp] theorem saveExecution_now (db : CenterDb) (e : TaskExecution) :
    (db.saveExecution e).now = db.now := rfl

@[simp] theorem saveExecution_events (db : CenterDb) (e : TaskExecution) :
    (db.saveExecution e).events = db.events := rfl

@[simp] theorem saveExecution_commands (db : CenterDb) (e : TaskExecution) :
    (db.saveExecution e).commands = db.commands := rfl

@[simp] theorem updateCommand_executions (db : CenterDb) (c : Uuid)
    (g : RemoteCommand → RemoteCommand) : (db.updateCommand c g).executions = db.executions := rfl

@[simp] theorem execution?_updateCommand (db : CenterDb) (c : Uuid)
    (g : RemoteCommand → RemoteCommand) (id : Uuid) :
    (db.updateCommand c g).execution? id = db.execution? id := rfl

@[simp] theorem execution?_insertCommand (db : CenterDb) (x : Option Uuid) (t : CommandType)
    (p : CommandPayload) (n : ℕ) (id : Uuid) :
    (db.insertCommand x t p n).1.execution? id = db.execution? id := rfl

theorem mem_activeExecutions {db : CenterDb} {e : TaskExecution} :
    e ∈ db.activeExecutions ↔ e ∈ db.executions ∧ e.state.isActive = true := by
  simp [activeExecutions]

/-! ## The start-command reconciliation -/

section Reconcile

variable (db : CenterDb) (e : TaskExecution)

@[simp] theorem reconcileTaskStart_executions :
    (db.reconcileTaskStartForExecution e).executions = db.executions := by
  unfold reconcileTaskStartForExecution
  split <;> rfl

@[simp] theorem reconcileTaskStart_events :
    (db.reconcileTaskStartForExecution e).events = db.events := by
  unfold reconcileTaskStartForExecution
  split <;> rfl

@[simp] theorem reconcileTaskStart_now :
    (db.reconcileTaskStartForExecution e).now = db.now := by
  unfold reconcileTaskStartForExecution
  split <;> rfl

@[simp] theorem reconcileTaskStart_nextUuid :
    (db.reconcileTaskStartForExecution e).nextUuid = db.nextUuid := by
  unfold reconcileTaskStartForExecution
  split <;> rfl

@[simp] theorem reconcileTaskStart_latest :
    (db.reconcileTaskStartForExecution e).latest = db.latest := by
  unfold reconcileTaskStartForExecution
  split <;> rfl

@[simp] theorem reconcileTaskStart_robot :
    (db.reconcileTaskStartForExecution e).robot = db.robot := by
  unfold reconcileTaskStartForExecution
  split <;> rfl

@[simp] theorem reconcileTaskStart_processedMessages :
    (db.reconcileTaskStartForExecution e).processedMessages = db.processedMessages := by
  unfold reconcileTaskStartForExecution
  split <;> rfl

theorem reconcileTaskStart_commands :
    ∃ f : RemoteCommand → RemoteCommand,
      (db.reconcileTaskStartForExecution e).commands = db.commands.map f ∧
        (∀ c, c.commandType ≠ .taskStart → f c = c) ∧
        (∀ c, (f c).id = c.id ∧ (f c).taskExecution = c.taskExecution ∧
          (f c).commandType = c.commandType ∧ (f c).payload = c.payload) := by
  unfold reconcileTaskStartForExecution
  split
  · exact ⟨id, by simp, fun _ _ => rfl, fun _ => ⟨rfl, rfl, rfl, rfl⟩⟩
  · next target _ =>
    refine ⟨_, rfl, fun c hc => ?_, fun c => ?_⟩
    · simp [hc]
    · split
      · exact ⟨rfl, rfl, rfl, rfl⟩
      · exact ⟨rfl, rfl, rfl, rfl⟩

end Reconcile

/-- Rewriting rows in place leaves the commands of a type alone when it leaves each of them
    alone. -/
theorem filter_type_map {f : RemoteCommand → RemoteCommand} {t : CommandType}
    (hf : ∀ c, c.commandType = t → f c = c) (htype : ∀ c, (f c).commandType = c.commandType)
    (cs : List RemoteCommand) :
    (cs.map f).filter (fun c => c.commandType = t) = cs.filter (fun c => c.commandType = t) := by
  induction cs with
  | nil => rfl
  | cons c cs ih =>
    rw [List.map_cons, List.filter_cons, List.filter_cons, ih, htype c]
    by_cases hc : c.commandType = t
    · simp [hc, hf c hc]
    · simp [hc]

/-! ## Transitions -/

/-- The database after a transition of the row `locked`. -/
def afterTransition (db : CenterDb) (locked : TaskExecution) (target : ExecutionState)
    (args : TransitionArgs) : CenterDb :=
  let next := args.stateVersion.getD (locked.stateVersion + 1)
  let saved := locked.transitioned target next args db.now
  ({ db.saveExecution saved with
      events := db.events ++ [transitionEvent locked target next args db.now] }
    ).reconcileTaskStartForExecution saved

theorem transition_ok {db db' : CenterDb} {id : Uuid} {target : ExecutionState}
    {args : TransitionArgs} (h : db.transition id target args = .ok db') :
    ∃ locked, db.execution? id = some locked ∧
      transitionAllowed locked.state target = true ∧
      locked.stateVersion < args.stateVersion.getD (locked.stateVersion + 1) ∧
      db' = db.afterTransition locked target args := by
  unfold transition at h
  split at h
  · exact absurd h (by simp)
  · next locked hlocked =>
    split at h
    · exact absurd h (by simp)
    · next hallowed =>
      dsimp only at h
      split at h
      · exact absurd h (by simp)
      · next hversion =>
        split at h
        · exact absurd h (by simp)
        · next mid hevent =>
          obtain ⟨-, rfl⟩ := createEvent_ok hevent
          refine ⟨locked, hlocked, by simpa using hallowed, by omega, ?_⟩
          exact (Except.ok.inj h).symm

/-- A transition succeeds when the table allows it, the version is new, and no event row is in
    its way. -/
theorem transition_succeeds {db : CenterDb} {id : Uuid} {target : ExecutionState}
    {args : TransitionArgs} {locked : TaskExecution} (hlocked : db.execution? id = some locked)
    (hallowed : transitionAllowed locked.state target = true)
    (hversion : locked.stateVersion < args.stateVersion.getD (locked.stateVersion + 1))
    (hevent : ∀ old ∈ db.events, old.sameVersion (transitionEvent locked target
      (args.stateVersion.getD (locked.stateVersion + 1)) args db.now) = false)
    (hmessage : args.messageId = none) :
    db.transition id target args = .ok (db.afterTransition locked target args) := by
  unfold transition afterTransition
  rw [hlocked]
  dsimp only
  rw [if_neg (by simp [hallowed]), if_neg (by omega)]
  rw [createEvent_succeeds (by simpa using hevent) hmessage]
  rfl

section AfterTransition

variable (db : CenterDb) (locked : TaskExecution) (target : ExecutionState) (args : TransitionArgs)

@[simp] theorem afterTransition_now : (db.afterTransition locked target args).now = db.now := by
  simp [afterTransition]

@[simp] theorem afterTransition_nextUuid :
    (db.afterTransition locked target args).nextUuid = db.nextUuid := by
  simp [afterTransition, saveExecution]

@[simp] theorem afterTransition_latest :
    (db.afterTransition locked target args).latest = db.latest := by
  simp [afterTransition, saveExecution]

@[simp] theorem afterTransition_robot :
    (db.afterTransition locked target args).robot = db.robot := by
  simp [afterTransition, saveExecution]

@[simp] theorem afterTransition_processedMessages :
    (db.afterTransition locked target args).processedMessages = db.processedMessages := by
  simp [afterTransition, saveExecution]

theorem afterTransition_events :
    (db.afterTransition locked target args).events = db.events ++
      [transitionEvent locked target (args.stateVersion.getD (locked.stateVersion + 1)) args
        db.now] := by
  simp [afterTransition]

theorem afterTransition_executions :
    (db.afterTransition locked target args).executions = Rows.put TaskExecution.id db.executions
      (locked.transitioned target (args.stateVersion.getD (locked.stateVersion + 1)) args
        db.now) := by
  simp [afterTransition, saveExecution]

theorem execution?_afterTransition (id : Uuid) :
    (db.afterTransition locked target args).execution? id =
      if id = locked.id then (db.execution? id).map (fun _ => locked.transitioned target
        (args.stateVersion.getD (locked.stateVersion + 1)) args db.now)
      else db.execution? id := by
  unfold execution?
  rw [afterTransition_executions, Rows.get?_put]
  rfl

theorem afterTransition_commands :
    ∃ f : RemoteCommand → RemoteCommand,
      (db.afterTransition locked target args).commands = db.commands.map f ∧
        (∀ c, c.commandType ≠ .taskStart → f c = c) ∧
        (∀ c, (f c).id = c.id ∧ (f c).taskExecution = c.taskExecution ∧
          (f c).commandType = c.commandType ∧ (f c).payload = c.payload) :=
  reconcileTaskStart_commands _ _

end AfterTransition

/-! ## Validity -/

/-- What the constraints of the schema and the drawing of ids guarantee of the tables. -/
structure Valid (db : CenterDb) : Prop where
  execution_nodup : (db.executions.map TaskExecution.id).Nodup
  execution_fresh : ∀ e ∈ db.executions, e.id < db.nextUuid
  command_nodup : (db.commands.map RemoteCommand.id).Nodup
  command_fresh : ∀ c ∈ db.commands, c.id < db.nextUuid
  command_execution : ∀ c ∈ db.commands, ∀ x, c.taskExecution = some x → x < db.nextUuid
  event_execution : ∀ ev ∈ db.events, ev.taskExecution < db.nextUuid
  event_version : ∀ ev ∈ db.events, ev.eventType.isExempt = false →
    ∀ e, db.execution? ev.taskExecution = some e → ev.stateVersion ≤ e.stateVersion
  event_message : ∀ ev ∈ db.events, ∀ m, ev.messageId = some m → m ∈ db.processedMessages

theorem Valid.no_collision {db : CenterDb} (hv : db.Valid) {e : TaskExecution}
    {ev : TaskExecutionEvent} (he : db.execution? ev.taskExecution = some e)
    (hnew : e.stateVersion < ev.stateVersion) :
    ∀ old ∈ db.events, old.sameVersion ev = false := by
  intro old hold
  by_contra hc
  simp only [TaskExecutionEvent.sameVersion, Bool.not_eq_false, Bool.and_eq_true,
    decide_eq_true_eq, Bool.not_eq_true'] at hc
  obtain ⟨⟨⟨hexec, hversion⟩, hexempt⟩, -⟩ := hc
  have hle := hv.event_version old hold hexempt e (hexec ▸ he)
  omega

theorem Valid.commandsOf_fresh {db : CenterDb} (hv : db.Valid) {x : Uuid} (hx : db.nextUuid ≤ x)
    (t : CommandType) : db.commandsOf x t = [] := by
  rw [List.eq_nil_iff_forall_not_mem]
  intro c hc
  simp only [commandsOf, commandsOfType, List.mem_filter, decide_eq_true_eq] at hc
  exact absurd (hv.command_execution c hc.1.1 x hc.2) (Nat.not_lt.mpr hx)

theorem Valid.map_commands {db : CenterDb} (hv : db.Valid) {f : RemoteCommand → RemoteCommand}
    (hf : ∀ c, (f c).id = c.id ∧ (f c).taskExecution = c.taskExecution) :
    ((db.commands.map f).map RemoteCommand.id).Nodup ∧
      (∀ c ∈ db.commands.map f, c.id < db.nextUuid) ∧
      (∀ c ∈ db.commands.map f, ∀ x, c.taskExecution = some x → x < db.nextUuid) := by
  refine ⟨?_, fun c hc => ?_, fun c hc x hx => ?_⟩
  · have hid : (db.commands.map f).map RemoteCommand.id = db.commands.map RemoteCommand.id := by
      rw [List.map_map]
      exact List.map_congr_left (fun c _ => (hf c).1)
    rw [hid]
    exact hv.command_nodup
  · obtain ⟨c, hmem, rfl⟩ := List.mem_map.mp hc
    rw [(hf c).1]
    exact hv.command_fresh c hmem
  · obtain ⟨c, hmem, rfl⟩ := List.mem_map.mp hc
    rw [(hf c).2] at hx
    exact hv.command_execution c hmem x hx

/-- **Saving an execution and logging it.** The tables stay valid when an execution is saved at a
    version no lower than the stored one, commands are rewritten in place, and the event logged
    for it is no newer than the version saved. -/
theorem Valid.save {db db' : CenterDb} (hv : db.Valid) {e : TaskExecution}
    (saved : TaskExecution) (he : db.execution? saved.id = some e) (hle : e.stateVersion ≤ saved.stateVersion)
    (hexec : db'.executions = Rows.put TaskExecution.id db.executions saved)
    (huuid : db'.nextUuid = db.nextUuid)
    (hcommands : ∃ f : RemoteCommand → RemoteCommand, db'.commands = db.commands.map f ∧
      ∀ c, (f c).id = c.id ∧ (f c).taskExecution = c.taskExecution)
    (hevents : ∀ ev ∈ db'.events, ev ∈ db.events ∨
      (ev.taskExecution = saved.id ∧
        (ev.eventType.isExempt = false → ev.stateVersion ≤ saved.stateVersion) ∧
        ∀ m, ev.messageId = some m → m ∈ db'.processedMessages))
    (hmessages : ∀ m ∈ db.processedMessages, m ∈ db'.processedMessages) : db'.Valid := by
  obtain ⟨f, hcmds, hf⟩ := hcommands
  obtain ⟨hnodup, hfresh, hcexec⟩ := hv.map_commands hf
  have hmem : saved.id < db.nextUuid := by
    rw [← execution?_id he]
    exact hv.execution_fresh e (execution?_mem he)
  have hread : ∀ id, db'.execution? id =
      if id = saved.id then (db.execution? id).map (fun _ => saved) else db.execution? id := by
    intro id
    unfold execution?
    rw [hexec, Rows.get?_put]
  constructor
  · rw [hexec, Rows.map_key_put]
    exact hv.execution_nodup
  · intro x hx
    rw [hexec] at hx
    rw [huuid]
    rcases Rows.mem_put _ hx with rfl | ⟨hx, -⟩
    · exact hmem
    · exact hv.execution_fresh x hx
  · rw [hcmds]
    exact hnodup
  · rw [hcmds, huuid]
    exact hfresh
  · rw [hcmds, huuid]
    exact hcexec
  · intro ev hev
    rw [huuid]
    rcases hevents ev hev with hold | ⟨hid, -, -⟩
    · exact hv.event_execution ev hold
    · rw [hid]
      exact hmem
  · intro ev hev hexempt x hx
    rw [hread] at hx
    by_cases hid : ev.taskExecution = saved.id
    · rw [if_pos hid, hid, he, Option.map_some] at hx
      obtain rfl := Option.some.inj hx
      rcases hevents ev hev with hold | ⟨-, hver, -⟩
      · exact le_trans (hv.event_version ev hold hexempt e (hid ▸ he)) hle
      · exact hver hexempt
    · rw [if_neg hid] at hx
      rcases hevents ev hev with hold | ⟨hid', -, -⟩
      · exact hv.event_version ev hold hexempt x hx
      · exact absurd hid' hid
  · intro ev hev m hm
    rcases hevents ev hev with hold | ⟨-, -, hmsg⟩
    · exact hmessages m (hv.event_message ev hold m hm)
    · exact hmsg m hm

theorem Valid.transition {db db' : CenterDb} (hv : db.Valid) {id : Uuid} {target : ExecutionState}
    {args : TransitionArgs} (hm : ∀ m, args.messageId = some m → m ∈ db.processedMessages)
    (h : db.transition id target args = .ok db') : db'.Valid := by
  obtain ⟨locked, hlocked, -, hversion, rfl⟩ := transition_ok h
  have hid := execution?_id hlocked
  refine hv.save (e := locked) (locked.transitioned target
      (args.stateVersion.getD (locked.stateVersion + 1)) args db.now) ?_ ?_
    (afterTransition_executions ..) (afterTransition_nextUuid ..) ?_ ?_ ?_
  · show db.execution? locked.id = some locked
    rw [hid]
    exact hlocked
  · exact le_of_lt hversion
  · obtain ⟨f, hf, -, hkeep⟩ := afterTransition_commands db locked target args
    exact ⟨f, hf, fun c => ⟨(hkeep c).1, (hkeep c).2.1⟩⟩
  · intro ev hev
    rw [afterTransition_events, List.mem_append, List.mem_singleton] at hev
    rcases hev with hev | rfl
    · exact .inl hev
    · refine .inr ⟨rfl, fun _ => le_refl _, fun m hmsg => ?_⟩
      rw [afterTransition_processedMessages]
      exact hm m hmsg
  · intro m hmem
    rw [afterTransition_processedMessages]
    exact hmem

theorem Valid.insertCommand {db : CenterDb} (hv : db.Valid) {x : Option Uuid} {t : CommandType}
    {p : CommandPayload} {n : ℕ} (hx : ∀ y, x = some y → y < db.nextUuid) :
    (db.insertCommand x t p n).1.Valid := by
  have hlt : ∀ {y : Uuid}, y < db.nextUuid → y < db.nextUuid + 1 := fun h => Nat.lt_succ_of_lt h
  constructor
  · exact hv.execution_nodup
  · exact fun e he => hlt (hv.execution_fresh e he)
  · show ((db.commands ++ [_]).map RemoteCommand.id).Nodup
    rw [List.map_append, List.nodup_append]
    refine ⟨hv.command_nodup, by simp, ?_⟩
    intro a ha b hb heq
    obtain ⟨c, hc, rfl⟩ := List.mem_map.mp ha
    have hb' : b = db.nextUuid := by simpa using hb
    exact absurd (hv.command_fresh c hc) (by rw [heq, hb']; exact Nat.lt_irrefl _)
  · intro c hc
    rcases List.mem_append.mp hc with hc | hc
    · exact hlt (hv.command_fresh c hc)
    · obtain rfl := List.mem_singleton.mp hc
      exact Nat.lt_succ_self _
  · intro c hc y hy
    rcases List.mem_append.mp hc with hc | hc
    · exact hlt (hv.command_execution c hc y hy)
    · obtain rfl := List.mem_singleton.mp hc
      exact hlt (hx y hy)
  · exact fun ev hev => hlt (hv.event_execution ev hev)
  · exact hv.event_version
  · exact hv.event_message

/-! ## What a service call leaves alone -/

/-- The call kept the clock and the telemetry, lost no execution and lowered no version, left
    terminal executions as they were, deleted no command and changed no payload, and touched,
    besides start commands, only the commands `T` allows: those of type `t` of execution `k`.
    An execution is new only if `T` allows its start command. -/
structure Extends (T : Uuid → CommandType → Prop) (db db' : CenterDb) : Prop where
  now_eq : db'.now = db.now
  latest_eq : db'.latest = db.latest
  robot_eq : db'.robot = db.robot
  uuid_le : db.nextUuid ≤ db'.nextUuid
  execution_grows : ∀ id e, db.execution? id = some e →
    ∃ e', db'.execution? id = some e' ∧ e.stateVersion ≤ e'.stateVersion
  terminal_eq : ∀ id e, db.execution? id = some e → e.state.isTerminal = true →
    db'.execution? id = some e
  payloads_prefix : ∀ k t, (db.commandsOf k t).map RemoteCommand.payload <+:
    (db'.commandsOf k t).map RemoteCommand.payload
  commands_eq : ∀ k t, t ≠ .taskStart → ¬ T k t → db'.commandsOf k t = db.commandsOf k t
  executions_new : ∀ e' ∈ db'.executions, T e'.id .taskStart ∨
    ∃ e ∈ db.executions, e.id = e'.id ∧ e.loopDispatchKey = e'.loopDispatchKey

abbrev noCommand : Uuid → CommandType → Prop := fun _ _ => False

/-- Only commands of this type of this execution are allowed, and no new execution. -/
abbrev onlyCommand (id : Uuid) (type : CommandType) : Uuid → CommandType → Prop :=
  fun k t => k = id ∧ t = type ∧ t ≠ .taskStart

/-- Only this execution is allowed to be created. -/
abbrev onlyExecution (id : Uuid) : Uuid → CommandType → Prop := fun k t => k = id ∧ t = .taskStart

theorem Extends.refl (T : Uuid → CommandType → Prop) (db : CenterDb) : Extends T db db :=
  ⟨rfl, rfl, rfl, le_refl _, fun _ e he => ⟨e, he, le_refl _⟩, fun _ _ he _ => he,
    fun _ _ => List.prefix_rfl, fun _ _ _ _ => rfl, fun e he => .inr ⟨e, he, rfl, rfl⟩⟩

theorem Extends.trans {T : Uuid → CommandType → Prop} {a b c : CenterDb} (hab : Extends T a b)
    (hbc : Extends T b c) : Extends T a c where
  now_eq := hbc.now_eq.trans hab.now_eq
  latest_eq := hbc.latest_eq.trans hab.latest_eq
  robot_eq := hbc.robot_eq.trans hab.robot_eq
  uuid_le := le_trans hab.uuid_le hbc.uuid_le
  execution_grows id e he := by
    obtain ⟨e', he', hle⟩ := hab.execution_grows id e he
    obtain ⟨e'', he'', hle'⟩ := hbc.execution_grows id e' he'
    exact ⟨e'', he'', le_trans hle hle'⟩
  terminal_eq id e he ht := hbc.terminal_eq id e (hab.terminal_eq id e he ht) ht
  payloads_prefix k t := (hab.payloads_prefix k t).trans (hbc.payloads_prefix k t)
  commands_eq k t ht hT := (hbc.commands_eq k t ht hT).trans (hab.commands_eq k t ht hT)
  executions_new e'' he'' := by
    rcases hbc.executions_new e'' he'' with hT | ⟨e', he', hid, hkey⟩
    · exact .inl hT
    · rcases hab.executions_new e' he' with hT | ⟨e, he, hid', hkey'⟩
      · exact .inl (hid ▸ hT)
      · exact .inr ⟨e, he, hid'.trans hid, hkey'.trans hkey⟩

theorem Extends.mono {T T' : Uuid → CommandType → Prop} {a b : CenterDb} (h : Extends T a b)
    (hTT' : ∀ k t, T k t → T' k t) : Extends T' a b :=
  { h with
    commands_eq := fun k t ht hT' => h.commands_eq k t ht (fun hT => hT' (hTT' k t hT))
    executions_new := fun e he => (h.executions_new e he).imp_left (hTT' _ _) }

theorem Extends.of_eq {T : Uuid → CommandType → Prop} {db db' : CenterDb} (hnow : db'.now = db.now)
    (hlatest : db'.latest = db.latest) (hrobot : db'.robot = db.robot)
    (huuid : db.nextUuid ≤ db'.nextUuid) (hexec : db'.executions = db.executions)
    (hcommands : db'.commands = db.commands) : Extends T db db' := by
  have hread : ∀ id, db'.execution? id = db.execution? id := fun id => by
    unfold execution?
    rw [hexec]
  have hof : ∀ k t, db'.commandsOf k t = db.commandsOf k t := fun k t => by
    unfold commandsOf commandsOfType
    rw [hcommands]
  refine ⟨hnow, hlatest, hrobot, huuid, fun id e he => ⟨e, (hread id).trans he, le_refl _⟩,
    fun id e he _ => (hread id).trans he, fun k t => ?_, fun k t _ _ => hof k t,
    fun e he => .inr ⟨e, hexec ▸ he, rfl, rfl⟩⟩
  rw [hof]

/-- Rewriting commands in place leaves the commands of an execution and type alone when it leaves
    those of the type alone. -/
theorem commandsOf_map {db db' : CenterDb} {f : RemoteCommand → RemoteCommand}
    (hf : db'.commands = db.commands.map f) {t : CommandType}
    (hkeep : ∀ c, c.commandType = t → f c = c) (htype : ∀ c, (f c).commandType = c.commandType)
    (k : Uuid) : db'.commandsOf k t = db.commandsOf k t := by
  unfold commandsOf commandsOfType
  rw [hf, filter_type_map hkeep htype]

theorem commandsOf_rewrite {db db' : CenterDb} {f : RemoteCommand → RemoteCommand}
    (hf : db'.commands = db.commands.map f)
    (hkeep : ∀ c, (f c).taskExecution = c.taskExecution ∧ (f c).commandType = c.commandType)
    (k : Uuid) (t : CommandType) : db'.commandsOf k t = (db.commandsOf k t).map f := by
  unfold commandsOf commandsOfType
  rw [hf, List.filter_map, List.filter_map]
  congr 1
  have htype : (fun c => decide (c.commandType = t)) ∘ f = fun c => decide (c.commandType = t) :=
    funext fun c => by simp [(hkeep c).2]
  have hexec : (fun c => decide (c.taskExecution = some k)) ∘ f =
      fun c => decide (c.taskExecution = some k) :=
    funext fun c => by simp [(hkeep c).1]
  rw [htype, hexec]

theorem payloads_map {db db' : CenterDb} {f : RemoteCommand → RemoteCommand}
    (hf : db'.commands = db.commands.map f)
    (hkeep : ∀ c, (f c).taskExecution = c.taskExecution ∧ (f c).commandType = c.commandType ∧
      (f c).payload = c.payload) (k : Uuid) (t : CommandType) :
    (db'.commandsOf k t).map RemoteCommand.payload =
      (db.commandsOf k t).map RemoteCommand.payload := by
  rw [commandsOf_rewrite hf (fun c => ⟨(hkeep c).1, (hkeep c).2.1⟩), List.map_map]
  exact List.map_congr_left (fun c _ => (hkeep c).2.2)

theorem Extends.transition {db db' : CenterDb} {id : Uuid} {target : ExecutionState}
    {args : TransitionArgs} (h : db.transition id target args = .ok db') :
    Extends noCommand db db' := by
  obtain ⟨locked, hlocked, hallowed, hversion, rfl⟩ := transition_ok h
  have hlid := execution?_id hlocked
  obtain ⟨f, hf, hkeep, hsame⟩ := afterTransition_commands db locked target args
  refine ⟨by simp, by simp, by simp, by simp, fun k e he => ?_, fun k e he ht => ?_,
    fun k t => ?_, fun k t ht _ => ?_, fun e' he' => .inr ?_⟩
  · rw [execution?_afterTransition]
    by_cases hk : k = locked.id
    · rw [if_pos hk, he]
      refine ⟨_, rfl, ?_⟩
      have hel : e = locked := by
        rw [hk, hlid, hlocked] at he
        exact (Option.some.inj he).symm
      rw [hel]
      exact le_of_lt hversion
    · rw [if_neg hk]
      exact ⟨e, he, le_refl _⟩
  · rw [execution?_afterTransition, if_neg]
    · exact he
    · intro hk
      rw [hk, hlid, hlocked] at he
      obtain rfl := Option.some.inj he
      rw [transitionAllowed_of_terminal ht] at hallowed
      exact absurd hallowed (by simp)
  · rw [payloads_map hf (fun c => (hsame c).2) k t]
  · exact commandsOf_map hf (fun c hc => hkeep c (hc ▸ ht)) (fun c => (hsame c).2.2.1) k
  · rw [afterTransition_executions] at he'
    rcases Rows.mem_put _ he' with rfl | ⟨hold, -⟩
    · exact ⟨locked, execution?_mem hlocked, rfl, rfl⟩
    · exact ⟨e', hold, rfl, rfl⟩

theorem commandsOf_insertCommand (db : CenterDb) (x : Option Uuid) (type : CommandType)
    (p : CommandPayload) (n : ℕ) (k : Uuid) (t : CommandType) :
    (db.insertCommand x type p n).1.commandsOf k t =
      db.commandsOf k t ++
        (if x = some k ∧ type = t then [(db.insertCommand x type p n).2] else []) := by
  unfold commandsOf commandsOfType insertCommand
  by_cases ht : type = t <;> by_cases hk : x = some k <;> simp [ht, hk]

theorem Extends.insertCommand (db : CenterDb) (x : Option Uuid) (type : CommandType)
    (p : CommandPayload) (n : ℕ) :
    Extends (fun k t => x = some k ∧ t = type ∧ t ≠ .taskStart) db
      (db.insertCommand x type p n).1 := by
  refine ⟨rfl, rfl, rfl, Nat.le_succ _, fun _ e he => ⟨e, he, le_refl _⟩, fun _ _ he _ => he,
    fun k t => ?_, fun k t ht hT => ?_, fun e he => .inr ⟨e, he, rfl, rfl⟩⟩
  · rw [commandsOf_insertCommand, List.map_append]
    exact List.prefix_append _ _
  · rw [commandsOf_insertCommand, if_neg (fun h => hT ⟨h.1, h.2.symm, ht⟩), List.append_nil]

/-! ## Force exit -/

theorem forceExitAll_ok {ids : List Uuid} :
    ∀ {db db' : CenterDb}, db.Valid → db.forceExitAll ids = .ok db' →
      db'.Valid ∧ Extends noCommand db db' := by
  induction ids with
  | nil =>
    intro db db' hv h
    obtain rfl := Except.ok.inj h
    exact ⟨hv, Extends.refl _ _⟩
  | cons id ids ih =>
    intro db db' hv h
    unfold forceExitAll at h
    split at h
    · exact absurd h (by simp)
    · next mid hmid =>
      obtain ⟨hv', hext⟩ := ih (hv.transition (by simp [forceExitArgs]) hmid) h
      exact ⟨hv', (Extends.transition hmid).trans hext⟩

theorem forceExitAll_succeeds {ids : List Uuid} (hnodup : ids.Nodup) :
    ∀ {db : CenterDb}, db.Valid →
      (∀ id ∈ ids, ∃ e, db.execution? id = some e ∧ e.state.isActive = true) →
      ∃ db', db.forceExitAll ids = .ok db' := by
  induction ids with
  | nil => exact fun {db} _ _ => ⟨db, rfl⟩
  | cons id ids ih =>
    intro db hv hact
    obtain ⟨hnotin, hrest⟩ := List.nodup_cons.mp hnodup
    obtain ⟨e, he, hactive⟩ := hact id (by simp)
    have hid := execution?_id he
    have htrans : db.transition id .cancelled forceExitArgs =
        .ok (db.afterTransition e .cancelled forceExitArgs) := by
      refine transition_succeeds he (transitionAllowed_close hactive rfl) ?_ ?_ rfl
      · show e.stateVersion < e.stateVersion + 1
        omega
      · refine hv.no_collision (e := e) ?_ ?_
        · show db.execution? e.id = some e
          rw [hid]
          exact he
        · show e.stateVersion < e.stateVersion + 1
          omega
    have hv' := hv.transition (by simp [forceExitArgs]) htrans
    unfold forceExitAll
    rw [htrans]
    refine ih hrest hv' (fun k hk => ?_)
    obtain ⟨x, hx, hxact⟩ := hact k (by simp [hk])
    refine ⟨x, ?_, hxact⟩
    have hne : k ≠ e.id := by
      intro h
      rw [h, hid] at hk
      exact hnotin hk
    rw [execution?_afterTransition, if_neg hne]
    exact hx

theorem activeExecutions_nodup {db : CenterDb} (hv : db.Valid) :
    (db.activeExecutions.map TaskExecution.id).Nodup :=
  hv.execution_nodup.sublist (List.filter_sublist.map TaskExecution.id)

theorem execution?_of_active {db : CenterDb} (hv : db.Valid) {id : Uuid}
    (h : id ∈ db.activeExecutions.map TaskExecution.id) :
    ∃ e, db.execution? id = some e ∧ e.state.isActive = true := by
  obtain ⟨e, he, rfl⟩ := List.mem_map.mp h
  obtain ⟨hmem, hact⟩ := mem_activeExecutions.mp he
  exact ⟨e, Rows.get?_of_mem _ hv.execution_nodup hmem, hact⟩

/-! ## Creating commands and executions -/

theorem createCommand_ok {db db' : CenterDb} {id : Uuid} {type : CommandType}
    {options : CommandOptions} {c : RemoteCommand}
    (h : db.createCommand id type options = .ok (db', c)) :
    ∃ e target, db.execution? id = some e ∧ commandTargetState type = some target ∧
      db.ensureBatteryAllows type options.docking.enabled = none ∧
      c = (db.insertCommand (some id) type (commandPayload e type options).1
        (commandPayload e type options).2).2 ∧
      (let mid := (db.insertCommand (some id) type (commandPayload e type options).1
          (commandPayload e type options).2).1
        if type = .taskForceExit then
          mid.forceExitAll (mid.activeExecutions.map TaskExecution.id) = .ok db'
        else mid.transition id target { eventType := .requested type } = .ok db') := by
  unfold createCommand at h
  split at h
  · exact absurd h (by simp)
  · next target htarget =>
    split at h
    · exact absurd h (by simp)
    · next e he =>
      split at h
      · exact absurd h (by simp)
      · next hbattery =>
        dsimp only at h
        split at h
        · exact absurd h (by simp)
        · next mid hmid =>
          obtain ⟨rfl, rfl⟩ := Prod.mk.inj (Except.ok.inj h)
          refine ⟨e, target, he, htarget, hbattery, rfl, ?_⟩
          by_cases htype : type = .taskForceExit
          · simp only [htype, if_true] at hmid ⊢
            exact hmid
          · simp only [htype, if_false] at hmid ⊢
            exact hmid

theorem createCommand_valid {db db' : CenterDb} {id : Uuid} {type : CommandType}
    {options : CommandOptions} {c : RemoteCommand} (hv : db.Valid)
    (h : db.createCommand id type options = .ok (db', c)) :
    db'.Valid ∧ Extends (onlyCommand id type) db db' := by
  obtain ⟨e, target, he, -, -, -, hrest⟩ := createCommand_ok h
  have hid : id < db.nextUuid := by
    rw [← execution?_id he]
    exact hv.execution_fresh e (execution?_mem he)
  have hmid : (db.insertCommand (some id) type (commandPayload e type options).1
      (commandPayload e type options).2).1.Valid :=
    hv.insertCommand (fun y hy => by rw [← Option.some.inj hy]; exact hid)
  have hext : Extends (onlyCommand id type) db (db.insertCommand (some id) type
      (commandPayload e type options).1 (commandPayload e type options).2).1 :=
    (Extends.insertCommand ..).mono (fun _ _ h => ⟨(Option.some.inj h.1).symm, h.2⟩)
  dsimp only at hrest
  split at hrest
  · obtain ⟨hv', hext'⟩ := forceExitAll_ok hmid hrest
    exact ⟨hv', hext.trans (hext'.mono (fun _ _ h => h.elim))⟩
  · exact ⟨hmid.transition (by simp) hrest,
      hext.trans ((Extends.transition hrest).mono (fun _ _ h => h.elim))⟩

theorem createCommand_forceExit_succeeds {db : CenterDb} {id : Uuid} {e : TaskExecution}
    (hv : db.Valid) (he : db.execution? id = some e) (options : CommandOptions) :
    ∃ r, db.createCommand id .taskForceExit options = .ok r := by
  have hbattery : db.ensureBatteryAllows .taskForceExit options.docking.enabled = none := by
    unfold ensureBatteryAllows
    dsimp only
    rw [if_neg (by simp)]
    split
    · rfl
    · simp
  have hid : id < db.nextUuid := by
    rw [← execution?_id he]
    exact hv.execution_fresh e (execution?_mem he)
  have hmid : (db.insertCommand (some id) .taskForceExit
      (commandPayload e .taskForceExit options).1 (commandPayload e .taskForceExit options).2).1.Valid :=
    hv.insertCommand (fun y hy => by rw [← Option.some.inj hy]; exact hid)
  obtain ⟨db', hdb'⟩ := forceExitAll_succeeds (activeExecutions_nodup hmid) hmid
    (fun k hk => execution?_of_active hmid hk)
  unfold createCommand
  simp only [commandTargetState, he, hbattery, if_true, hdb']
  exact ⟨_, rfl⟩

theorem createCommand_start_payloads {db db' : CenterDb} {e : TaskExecution}
    {options : CommandOptions} {c : RemoteCommand}
    (h : db.createCommand e.id .taskStart options = .ok (db', c))
    (he : db.execution? e.id = some e) (hnone : db.commandsOf e.id .taskStart = []) :
    (db'.commandsOf e.id .taskStart).map RemoteCommand.payload =
      [.start (taskStartPayload e options)] := by
  obtain ⟨x, target, hx, -, -, -, hmid⟩ := createCommand_ok h
  obtain rfl := Option.some.inj (hx.symm.trans he)
  simp only [reduceCtorEq, if_false] at hmid
  obtain ⟨locked, -, -, -, rfl⟩ := transition_ok hmid
  obtain ⟨f, hf, -, hsame⟩ := afterTransition_commands _ locked target _
  rw [payloads_map hf (fun c => (hsame c).2), commandsOf_insertCommand, hnone]
  simp [insertCommand, commandPayload]

theorem createExecution_ok {db db' : CenterDb} {task : PatrolTask} {loopSessionId : Option Uuid}
    {roundNumber : ℕ} {routeSnapshot : Option RouteSnapshot} {source : String} {e : TaskExecution}
    (h : db.createExecution task loopSessionId roundNumber routeSnapshot source = .ok (db', e)) :
    e.id = db.nextUuid ∧ e.state = .created ∧ e.stateVersion = 0 ∧
      e.loopSessionId = loopSessionId ∧ e.roundNumber = max 1 roundNumber ∧
      e.loopDispatchKey = loopDispatchKey loopSessionId roundNumber ∧
      (∃ route snapshot, task.route = some route ∧
        routeSnapshot.elim route.snapshot .ok = .ok snapshot ∧
        e.routeSnapshot = refreshSnapshot route snapshot source) ∧
      (∀ x ∈ db.executions, x.state.isActive = false) ∧
      ∃ ev, ev.taskExecution = db.nextUuid ∧ ev.stateVersion = 0 ∧ ev.messageId = none ∧
        db' = { db with
          nextUuid := db.nextUuid + 1
          executions := db.executions ++ [e]
          events := db.events ++ [ev] } := by
  unfold createExecution at h
  split at h
  · exact absurd h (by simp)
  · next hactive =>
    split at h
    · exact absurd h (by simp)
    · split at h
      · exact absurd h (by simp)
      · next route hroute =>
        split at h
        · exact absurd h (by simp)
        · next snapshot hsnap =>
          split at h
          · exact absurd h (by simp)
          · dsimp only at h
            split at h
            · exact absurd h (by simp)
            · split at h
              · exact absurd h (by simp)
              · next mid hevent =>
                obtain ⟨-, rfl⟩ := createEvent_ok hevent
                obtain ⟨rfl, rfl⟩ := Prod.mk.inj (Except.ok.inj h)
                refine ⟨rfl, rfl, rfl, rfl, rfl, rfl, ⟨route, snapshot, hroute, hsnap, rfl⟩, ?_,
                  _, rfl, rfl, rfl, rfl⟩
                intro x hx
                by_contra hc
                exact hactive (List.any_eq_true.mpr ⟨x, hx, by simpa using hc⟩)

theorem createExecution_valid {db db' : CenterDb} {task : PatrolTask}
    {loopSessionId : Option Uuid} {roundNumber : ℕ} {routeSnapshot : Option RouteSnapshot}
    {source : String} {e : TaskExecution} (hv : db.Valid)
    (h : db.createExecution task loopSessionId roundNumber routeSnapshot source = .ok (db', e)) :
    db'.Valid ∧ Extends (onlyExecution e.id) db db' ∧ db'.execution? e.id = some e := by
  obtain ⟨hid, hstate, hversion, -, -, -, -, -, ev, hev, hevver, hevmsg, rfl⟩ := createExecution_ok h
  have hlt : ∀ {y : Uuid}, y < db.nextUuid → y < db.nextUuid + 1 := fun h => Nat.lt_succ_of_lt h
  have hnone : Rows.get? TaskExecution.id db.executions e.id = none := by
    rw [Rows.get?_eq_none]
    intro x hx heq
    exact absurd (hv.execution_fresh x hx) (by rw [heq, hid]; exact Nat.lt_irrefl _)
  have hold : ∀ {id : Uuid} {x : TaskExecution}, db.execution? id = some x →
      Rows.get? TaskExecution.id (db.executions ++ [e]) id = some x :=
    fun hx => Rows.get?_insert_of_some _ hx
  refine ⟨⟨?_, ?_, hv.command_nodup, fun c hc => hlt (hv.command_fresh c hc),
    fun c hc x hx => hlt (hv.command_execution c hc x hx), ?_, ?_, ?_⟩,
    ⟨rfl, rfl, rfl, Nat.le_succ _, fun k x hx => ⟨x, hold hx, le_refl _⟩, fun k x hx _ => hold hx,
      fun _ _ => List.prefix_rfl, fun _ _ _ _ => rfl, ?_⟩, Rows.get?_insert_self _ hnone⟩
  · rw [List.map_append, List.nodup_append]
    refine ⟨hv.execution_nodup, by simp, ?_⟩
    intro a ha b hb heq
    obtain ⟨x, hx, rfl⟩ := List.mem_map.mp ha
    have hb' : b = db.nextUuid := by simpa [hid] using hb
    exact absurd (hv.execution_fresh x hx) (by rw [heq, hb']; exact Nat.lt_irrefl _)
  · intro x hx
    rcases List.mem_append.mp hx with hx | hx
    · exact hlt (hv.execution_fresh x hx)
    · obtain rfl := List.mem_singleton.mp hx
      rw [hid]
      exact Nat.lt_succ_self _
  · intro ev' hev'
    rcases List.mem_append.mp hev' with hev' | hev'
    · exact hlt (hv.event_execution ev' hev')
    · obtain rfl := List.mem_singleton.mp hev'
      rw [hev]
      exact Nat.lt_succ_self _
  · intro ev' hev' hexempt x hx
    rcases List.mem_append.mp hev' with hev' | hev'
    · have hne : e.id ≠ ev'.taskExecution := by
        intro heq
        exact absurd (hv.event_execution ev' hev') (by rw [← heq, hid]; exact Nat.lt_irrefl _)
      refine hv.event_version ev' hev' hexempt x ?_
      rw [execution?, ← Rows.get?_insert_ne _ hne]
      exact hx
    · obtain rfl := List.mem_singleton.mp hev'
      have hxe : x = e := by
        have hself := Rows.get?_insert_self _ hnone
        rw [hid] at hself
        rw [execution?, hev] at hx
        exact (Option.some.inj (hself.symm.trans hx)).symm
      rw [hevver, hxe, hversion]
  · intro ev' hev' m hm
    rcases List.mem_append.mp hev' with hev' | hev'
    · exact hv.event_message ev' hev' m hm
    · obtain rfl := List.mem_singleton.mp hev'
      rw [hevmsg] at hm
      exact absurd hm (by simp)
  · intro x hx
    rcases List.mem_append.mp hx with hx | hx
    · exact .inr ⟨x, hx, rfl, rfl⟩
    · obtain rfl := List.mem_singleton.mp hx
      exact .inl ⟨rfl, rfl⟩

end CenterDb

end RoamerX
