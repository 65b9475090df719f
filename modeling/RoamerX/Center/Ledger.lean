import RoamerX.Center.System

set_option autoImplicit false

/-! # What the center keeps to

Events are only ever added (a later report of an obstacle stage moves the time of its row), a message that was processed
counts as processed from then on, and one execution is active at most. -/

namespace RoamerX

/-- An event but for the time of its last report. -/
def TaskExecutionEvent.content (ev : TaskExecutionEvent) : TaskExecutionEvent := { ev with occurredAt := 0 }

namespace CenterDb

def OneActive (db : CenterDb) : Prop := ∃ id, ∀ e ∈ db.executions, e.state.isActive = true → e.id = id

/-- The events of `db` are still the first ones, in their order, and so are the messages that count as processed, each
of them once; and no second execution is active. -/
structure Records (db db' : CenterDb) : Prop where
  events : db.events.map TaskExecutionEvent.content <+: db'.events.map TaskExecutionEvent.content
  processed : db.processedMessages <+: db'.processedMessages
  nodup : db.processedMessages.Nodup → db'.processedMessages.Nodup
  oneActive : db.OneActive → db'.OneActive

variable {db db' db'' : CenterDb}

theorem Records.trans (h : Records db db') (h' : Records db' db'') : Records db db'' :=
  ⟨h.events.trans h'.events, h.processed.trans h'.processed, h'.nodup ∘ h.nodup, h'.oneActive ∘ h.oneActive⟩

theorem records_added (events : List TaskExecutionEvent) (hevents : db'.events = db.events ++ events)
    (hprocessed : db'.processedMessages = db.processedMessages) (hactive : db.OneActive → db'.OneActive) :
    Records db db' := by
  refine ⟨?_, ?_, ?_, hactive⟩
  · rw [hevents, List.map_append]
    exact List.prefix_append _ _
  · rw [hprocessed]
  · rw [hprocessed]
    exact id

theorem records_same (hevents : db'.events = db.events) (hprocessed : db'.processedMessages = db.processedMessages)
    (hexecutions : db'.executions = db.executions) : Records db db' := by
  refine records_added [] (by rw [hevents, List.append_nil]) hprocessed ?_
  unfold OneActive
  rw [hexecutions]
  exact id

/-- A saved row that is active takes the slot that is free or its own. -/
theorem OneActive.save {saved : TaskExecution} (h : db.OneActive)
    (hslot : saved.state.isActive = true → ∀ e ∈ db.executions, e.state.isActive = true → e.id = saved.id)
    (hexecutions : db'.executions = Rows.put TaskExecution.id db.executions saved) : db'.OneActive := by
  unfold OneActive
  rw [hexecutions]
  by_cases hactive : saved.state.isActive = true
  · refine ⟨saved.id, fun e he hon => ?_⟩
    rcases Rows.mem_put _ he with rfl | ⟨he, -⟩
    · rfl
    · exact hslot hactive e he hon
  · obtain ⟨id, hid⟩ := h
    refine ⟨id, fun e he hon => ?_⟩
    rcases Rows.mem_put _ he with rfl | ⟨he, -⟩
    · exact absurd hon hactive
    · exact hid e he hon

theorem OneActive.eq (h : db.OneActive) {e e' : TaskExecution} (he : e ∈ db.executions) (hon : e.state.isActive = true)
    (he' : e' ∈ db.executions) (hon' : e'.state.isActive = true) : e'.id = e.id := by
  obtain ⟨id, hid⟩ := h
  rw [hid e he hon, hid e' he' hon']

theorem content_updateFirst {key : TaskExecutionEvent → Bool} {g : TaskExecutionEvent → TaskExecutionEvent}
    (hg : ∀ ev, ∃ t, g ev = { ev with occurredAt := t }) (events : List TaskExecutionEvent) :
    (updateFirst key g events).map TaskExecutionEvent.content = events.map TaskExecutionEvent.content := by
  induction events with
  | nil => rfl
  | cons ev events ih =>
    rw [updateFirst]
    split
    · obtain ⟨t, ht⟩ := hg ev
      rw [List.map_cons, List.map_cons, ht]
      rfl
    · rw [List.map_cons, List.map_cons, ih]

theorem records_transition {id : Uuid} {target : ExecutionState} {args : TransitionArgs}
    (h : db.transition id target args = .ok db') : Records db db' := by
  obtain ⟨locked, hlocked, hallowed, -, rfl⟩ := transition_ok h
  refine records_added _ (afterTransition_events ..) (afterTransition_processedMessages ..) fun hone => ?_
  refine hone.save (fun _ e he hon => ?_) (afterTransition_executions ..)
  show e.id = locked.id
  exact hone.eq (execution?_mem hlocked) (isActive_of_transitionAllowed hallowed) he hon

/-- A repair takes the slot of the execution itself, or the one that is free. -/
theorem repair_slot {x : Uuid} {target : ExecutionState} {version : ℤ} {code text : String} {locked : TaskExecution}
    (h : db.reconcileEdgeActiveAfterCenterTimeout x target version code text = .ok db')
    (hlocked : db.execution? x = some locked) :
    locked.state.isActive = true ∨ ∀ e ∈ db.executions, e.state.isActive = false := by
  unfold reconcileEdgeActiveAfterCenterTimeout at h
  rw [hlocked] at h
  dsimp only at h
  split at h
  · exact absurd h (by simp)
  · split at h
    · exact absurd h (by simp)
    · next hslot =>
      rcases not_and_or.mp hslot with hslot | hslot
      · exact .inl (by simpa [ExecutionState.isTerminal] using hslot)
      · exact .inr (by simpa using hslot)

theorem Write.records {message : Option Uuid} (h : Write message db db') : Records db db' := by
  cases h with
  | command id g hg => exact records_same rfl rfl rfl
  | reconcile e => exact records_same (by simp) (by simp) (by simp)
  | transition x target args hm h => exact records_transition h
  | repair x target version code text h =>
    obtain ⟨locked, saved, ev, hlocked, -, -, hid, -, -, -, -, -, -, rfl⟩ := repair_ok h
    refine records_added [ev] rfl rfl fun hone => hone.save (fun _ e he hon => ?_) rfl
    rw [hid]
    rcases repair_slot h hlocked with hactive | hfree
    · exact hone.eq (execution?_mem hlocked) hactive he hon
    · exact absurd hon (by simp [hfree e he])
  | save e saved he hid hstate hversion =>
    refine records_added [] (List.append_nil _).symm rfl fun hone => hone.save (fun hactive x hx hon => ?_) rfl
    rw [hid]
    exact hone.eq (execution?_mem he) (hstate ▸ hactive) hx hon
  | event e ev he hversion hm h =>
    obtain ⟨-, rfl⟩ := createEvent_ok h
    exact records_added [ev] rfl rfl id
  | touch key g hg =>
    refine ⟨?_, List.prefix_rfl, id, id⟩
    rw [content_updateFirst hg]

theorem Writes.records {message : Option Uuid} (h : Writes message db db') : Records db db' := by
  induction h with
  | refl => exact records_same rfl rfl rfl
  | tail _ hw ih => exact ih.trans hw.records

theorem records_forceExitAll {ids : List Uuid} :
    ∀ {db db' : CenterDb}, db.forceExitAll ids = .ok db' → Records db db' := by
  induction ids with
  | nil =>
    intro db db' h
    obtain rfl := Except.ok.inj h
    exact records_same rfl rfl rfl
  | cons id ids ih =>
    intro db db' h
    unfold forceExitAll at h
    split at h
    · exact absurd h (by simp)
    · next mid hmid => exact (records_transition hmid).trans (ih h)

theorem records_createCommand {id : Uuid} {type : CommandType} {options : CommandOptions} {c : RemoteCommand}
    (h : db.createCommand id type options = .ok (db', c)) : Records db db' := by
  obtain ⟨e, target, -, -, -, -, hrest⟩ := createCommand_ok h
  have hinserted : Records db (db.insertCommand (some id) type (commandPayload e type options).1
      (commandPayload e type options).2).1 := records_same rfl rfl rfl
  dsimp only at hrest
  split at hrest
  · exact hinserted.trans (records_forceExitAll hrest)
  · exact hinserted.trans (records_transition hrest)

/-- A message is marked by being handled, and only a new one is handled. -/
theorem records_receive (db : CenterDb) (message : Uuid) (m : EdgeMessage) : Records db (db.receive message m) := by
  rcases receive_cases db message m with h | ⟨hnew, h⟩
  · rw [h]
    exact records_same rfl rfl rfl
  · have hwrites := handle_writes h
    have hprocessed : (db.receive message m).processedMessages = db.processedMessages ++ [message] :=
      hwrites.processedMessages
    refine ⟨hwrites.records.events, ?_, fun hnodup => ?_, hwrites.records.oneActive⟩
    · rw [hprocessed]
      exact List.prefix_append _ _
    · rw [hprocessed, List.nodup_append_comm]
      exact List.nodup_cons.mpr ⟨hnew, hnodup⟩

end CenterDb

namespace CenterSystem

open CenterDb

theorem records_step (s : CenterSystem) (i : CenterInput) : Records s.db (s.step i).db := by
  have hsame : Records s.db s.db := records_same rfl rfl rfl
  cases i with
  | advance elapsed => exact records_same rfl rfl rfl
  | telemetry robot latest episodes => exact records_same rfl rfl rfl
  | createExecution task loopSessionId roundNumber routeSnapshot executionSource =>
    dsimp only [step]
    split
    · next db e h =>
      obtain ⟨-, -, -, -, -, -, -, hfree, ev, -, -, -, rfl⟩ := createExecution_ok h
      refine records_added [ev] rfl rfl fun _ => ⟨e.id, fun x hx hon => ?_⟩
      rcases List.mem_append.mp hx with hx | hx
      · exact absurd hon (by simp [hfree x hx])
      · rw [List.mem_singleton.mp hx]
    · exact hsame
  | request execution type options =>
    dsimp only [step]
    split
    · next db c h => exact records_createCommand h
    · exact hsame
  | recover execution episode attempt code text =>
    dsimp only [step]
    split
    · exact hsame
    · unfold CenterDb.createTaskRecovery
      split
      · exact hsame
      · exact records_same rfl rfl rfl
  | collectPending => exact hsame
  | published command =>
    dsimp only [step]
    split
    · exact (markPublished_writes ..).records
    · exact hsame
  | publishFailed command message =>
    dsimp only [step]
    split
    · exact (markPublishFailed_writes ..).records
    · exact hsame
  | sweep command =>
    dsimp only [step]
    split
    · exact (markTimeout_writes none s.db command).records
    · exact hsame
  | receive message m => exact records_receive s.db message m

theorem records_exec (inputs : List CenterInput) (s : CenterSystem) : Records s.db (Run.exec step s inputs).db := by
  induction inputs generalizing s with
  | nil => exact records_same rfl rfl rfl
  | cons i inputs ih => exact (records_step s i).trans (ih (s.step i))

/-- No message is processed twice, and one that was processed changes nothing when it comes again, whatever happened in
between and whatever it carries then. -/
structure HandlesOnce (s : CenterSystem) : Prop where
  nodup : s.db.processedMessages.Nodup
  ignored : ∀ message ∈ s.db.processedMessages, ∀ (more : List CenterInput) (m : EdgeMessage),
    (Run.exec step s more).step (.receive message m) = Run.exec step s more

theorem messages_handled_once (robot : Robot) (inputs : List CenterInput) :
    HandlesOnce (Run.exec step (initial robot) inputs) where
  nodup := (records_exec inputs (initial robot)).nodup List.nodup_nil
  ignored message hmessage more m := by
    have hkept := (records_exec more (Run.exec step (initial robot) inputs)).processed.subset hmessage
    show CenterSystem.mk _ _ = _
    unfold CenterDb.receive
    rw [if_pos hkept]

/-- **One execution is active at most**, in every run. -/
theorem active_at_most_one (robot : Robot) (inputs : List CenterInput) :
    (Run.exec step (initial robot) inputs).db.activeExecutions.length ≤ 1 := by
  have hempty : (initial robot).db.OneActive := ⟨0, fun e he => absurd he List.not_mem_nil⟩
  obtain ⟨id, hid⟩ := (records_exec inputs (initial robot)).oneActive hempty
  have hsame : ∀ x ∈ (Run.exec step (initial robot) inputs).db.activeExecutions.map TaskExecution.id, x = id := by
    intro x hx
    obtain ⟨e, he, rfl⟩ := List.mem_map.mp hx
    obtain ⟨hmem, hactive⟩ := mem_activeExecutions.mp he
    exact hid e hmem hactive
  have hnodup := activeExecutions_nodup (exec_valid robot inputs)
  rw [List.eq_replicate_of_mem hsame, List.nodup_replicate, List.length_map] at hnodup
  exact hnodup

end CenterSystem

end RoamerX
