import Mathlib.Logic.Relation
import RoamerX.Center.Integrity
import RoamerX.Center.MessageHandlers

set_option autoImplicit false

/-! # What handling a message writes

Every handler is a short sequence of writes of few kinds: command rows, transitions, repairs of a
center-only timeout, execution rows, event rows. `Writes` is that sequence; that the tables stay
valid and that no version decreases is proved for each kind of write once. -/

namespace RoamerX

namespace CenterDb

/-- Rewriting a command changes neither what it is nor what it is about. -/
def KeepsCommand (g : RemoteCommand → RemoteCommand) : Prop :=
  ∀ c, (g c).id = c.id ∧ (g c).taskExecution = c.taskExecution ∧
    (g c).commandType = c.commandType ∧ (g c).payload = c.payload

/-- One write made while the message `message` is handled. -/
inductive Write (message : Option Uuid) : CenterDb → CenterDb → Prop
  | command {db : CenterDb} (id : Uuid) (g : RemoteCommand → RemoteCommand)
      (hg : KeepsCommand g) : Write message db (db.updateCommand id g)
  | reconcile {db : CenterDb} (e : TaskExecution) :
      Write message db (db.reconcileTaskStartForExecution e)
  | transition {db db' : CenterDb} (x : Uuid) (target : ExecutionState) (args : TransitionArgs)
      (hm : args.messageId = none ∨ args.messageId = message)
      (h : db.transition x target args = .ok db') : Write message db db'
  | repair {db db' : CenterDb} (x : Uuid) (target : ExecutionState) (version : ℤ)
      (code text : String)
      (h : db.reconcileEdgeActiveAfterCenterTimeout x target version code text = .ok db') :
      Write message db db'
  | save {db : CenterDb} (e saved : TaskExecution) (he : db.execution? e.id = some e)
      (hid : saved.id = e.id) (hstate : saved.state = e.state)
      (hversion : e.stateVersion ≤ saved.stateVersion) : Write message db (db.saveExecution saved)
  | event {db db' : CenterDb} (e : TaskExecution) (ev : TaskExecutionEvent)
      (he : db.execution? ev.taskExecution = some e)
      (hversion : ev.eventType.isExempt = false → ev.stateVersion ≤ e.stateVersion)
      (hm : ev.messageId = none ∨ ev.messageId = message) (h : db.createEvent ev = .ok db') :
      Write message db db'
  | touch {db : CenterDb} (key : TaskExecutionEvent → Bool)
      (g : TaskExecutionEvent → TaskExecutionEvent)
      (hg : ∀ ev, ∃ t, g ev = { ev with occurredAt := t }) :
      Write message db { db with events := updateFirst key g db.events }

def Writes (message : Option Uuid) : CenterDb → CenterDb → Prop :=
  Relation.ReflTransGen (Write message)

theorem Write.writes {message : Option Uuid} {db db' : CenterDb} (h : Write message db db') :
    Writes message db db' := Relation.ReflTransGen.single h

/-! ## The repair of a center-only timeout -/

theorem repair_ok {db db' : CenterDb} {x : Uuid} {target : ExecutionState} {version : ℤ}
    {code text : String}
    (h : db.reconcileEdgeActiveAfterCenterTimeout x target version code text = .ok db') :
    ∃ locked saved ev, db.execution? x = some locked ∧ timedOutAtCenter locked = true ∧
      target.isActive = true ∧ saved.id = locked.id ∧ saved.state = target ∧
      saved.progressFields = locked.progressFields ∧
      saved.stateVersion = max (locked.stateVersion + 1) (version + 1) ∧
      ev.taskExecution = locked.id ∧ ev.stateVersion = saved.stateVersion ∧ ev.messageId = none ∧
      db' = { db.saveExecution saved with events := db.events ++ [ev] } := by
  unfold reconcileEdgeActiveAfterCenterTimeout at h
  split at h
  · exact absurd h (by simp)
  · next locked hlocked =>
    split at h
    · exact absurd h (by simp)
    · next hcheck =>
      split at h
      · exact absurd h (by simp)
      · dsimp only at h
        obtain ⟨-, rfl⟩ := createEvent_ok h
        simp only [not_or, not_and, Classical.not_not] at hcheck
        obtain ⟨hstate, hcode, hactive, -, -⟩ := hcheck
        have htimedOut : timedOutAtCenter locked = true := by
          unfold timedOutAtCenter
          by_cases hto : locked.state = .timedOut
          · simp [hto, hcode]
          · simp [hstate hto, hcode]
        refine ⟨locked, _, _, hlocked, htimedOut, by simpa using hactive, ?_, ?_, ?_, ?_, ?_, ?_, ?_, rfl⟩
        all_goals rfl

/-- The repair of an active row succeeds: the row holds the robot's active slot already, and its
    new version is above every recorded one. -/
theorem repair_succeeds {db : CenterDb} (hv : db.Valid) {e : TaskExecution} {target : ExecutionState}
    (he : db.execution? e.id = some e) (hactive : e.state.isActive = true)
    (htimedOut : timedOutAtCenter e = true) (htarget : target.isActive = true)
    (hcreated : target ≠ .created) (hdispatching : target ≠ .dispatching) (version : ℤ)
    (code text : String) :
    ∃ db', db.reconcileEdgeActiveAfterCenterTimeout e.id target version code text = .ok db' := by
  obtain ⟨hstate, hcode⟩ : (e.state = .timedOut ∨ e.state = .interrupted) ∧
      e.failureCode = "COMMAND_TIMED_OUT" := by
    simpa [timedOutAtCenter] using htimedOut
  have hterm : e.state.isTerminal = false := by simp [ExecutionState.isTerminal, hactive]
  unfold reconcileEdgeActiveAfterCenterTimeout
  rw [he]
  dsimp only
  rw [if_neg (by grind), if_neg (by simp [hterm])]
  refine ⟨_, createEvent_succeeds ?_ rfl⟩
  intro old hold
  refine hv.no_collision (e := e) he ?_ old hold
  show e.stateVersion < max (e.stateVersion + 1) (version + 1)
  omega

/-! ## What every write keeps -/

theorem updateFirst_mem {α : Type} {key : α → Bool} {g : α → α} {xs : List α} {x : α}
    (h : x ∈ updateFirst key g xs) : x ∈ xs ∨ ∃ y ∈ xs, x = g y := by
  induction xs with
  | nil => exact absurd h (by simp [updateFirst])
  | cons y ys ih =>
    unfold updateFirst at h
    split at h
    · rcases List.mem_cons.mp h with rfl | h
      · exact .inr ⟨y, by simp, rfl⟩
      · exact .inl (by simp [h])
    · rcases List.mem_cons.mp h with rfl | h
      · exact .inl (by simp)
      · rcases ih h with h | ⟨z, hz, rfl⟩
        · exact .inl (by simp [h])
        · exact .inr ⟨z, by simp [hz], rfl⟩

theorem execution?_repaired {db : CenterDb} {saved : TaskExecution}
    {events : List TaskExecutionEvent} (id : Uuid) :
    ({ db.saveExecution saved with events := events } : CenterDb).execution? id =
      if id = saved.id then (db.execution? id).map (fun _ => saved) else db.execution? id :=
  execution?_saveExecution db saved id

theorem Write.processedMessages {message : Option Uuid} {db db' : CenterDb}
    (h : Write message db db') : db'.processedMessages = db.processedMessages := by
  cases h with
  | command _ _ _ => rfl
  | reconcile e => exact reconcileTaskStart_processedMessages db e
  | transition _ _ _ _ h =>
    obtain ⟨locked, -, -, -, rfl⟩ := transition_ok h
    exact afterTransition_processedMessages ..
  | repair _ _ _ _ _ h =>
    obtain ⟨_, _, _, -, -, -, -, -, -, -, -, -, -, rfl⟩ := repair_ok h
    rfl
  | save _ _ _ _ _ _ => rfl
  | event _ _ _ _ _ h =>
    obtain ⟨-, rfl⟩ := createEvent_ok h
    rfl
  | touch _ _ _ => rfl

theorem Write.version_le {message : Option Uuid} {db db' : CenterDb} (h : Write message db db')
    {id : Uuid} {e : TaskExecution} (he : db.execution? id = some e) :
    ∃ e', db'.execution? id = some e' ∧ e.stateVersion ≤ e'.stateVersion := by
  cases h with
  | command _ _ _ => exact ⟨e, he, le_refl _⟩
  | reconcile r =>
    refine ⟨e, ?_, le_refl _⟩
    rw [execution?, reconcileTaskStart_executions]
    exact he
  | transition _ _ _ _ h => exact (Extends.transition h).execution_grows id e he
  | repair x _ _ _ _ h =>
    obtain ⟨locked, saved, ev, hlocked, -, -, hid, -, -, hversion, -, -, -, rfl⟩ := repair_ok h
    rw [execution?_repaired]
    by_cases hx : id = saved.id
    · rw [if_pos hx, he]
      refine ⟨saved, rfl, ?_⟩
      have hel : e = locked := by
        rw [hx, hid, execution?_id hlocked, hlocked] at he
        exact (Option.some.inj he).symm
      rw [hel, hversion]
      omega
    · rw [if_neg hx]
      exact ⟨e, he, le_refl _⟩
  | save old saved hold hid _ hversion =>
    rw [execution?_saveExecution]
    by_cases hx : id = saved.id
    · rw [if_pos hx, he]
      refine ⟨saved, rfl, ?_⟩
      have hel : e = old := by
        rw [hx, hid, hold] at he
        exact (Option.some.inj he).symm
      rw [hel]
      exact hversion
    · rw [if_neg hx]
      exact ⟨e, he, le_refl _⟩
  | event _ _ _ _ _ h =>
    obtain ⟨-, rfl⟩ := createEvent_ok h
    exact ⟨e, he, le_refl _⟩
  | touch _ _ _ => exact ⟨e, he, le_refl _⟩

theorem Write.valid {message : Option Uuid} {db db' : CenterDb} (h : Write message db db')
    (hm : ∀ m, message = some m → m ∈ db.processedMessages) (hv : db.Valid) : db'.Valid := by
  have hrecorded : ∀ id : Option Uuid, id = none ∨ id = message →
      ∀ m, id = some m → m ∈ db.processedMessages := by
    rintro id (rfl | rfl) m hid
    · exact absurd hid (by simp)
    · exact hm m hid
  have hcommands : ∀ f : RemoteCommand → RemoteCommand,
      (∀ c, (f c).id = c.id ∧ (f c).taskExecution = c.taskExecution) →
      ∀ db' : CenterDb, db' = { db with commands := db.commands.map f } → db'.Valid := by
    rintro f hf db' rfl
    obtain ⟨hnodup, hfresh, hexec⟩ := hv.map_commands hf
    exact ⟨hv.execution_nodup, hv.execution_fresh, hnodup, hfresh, hexec, hv.event_execution,
      hv.event_version, hv.event_message⟩
  cases h with
  | command id g hg =>
    refine hcommands (fun c => if c.id = id then g c else c) (fun c => ?_) _ rfl
    split
    · exact ⟨(hg c).1, (hg c).2.1⟩
    · exact ⟨rfl, rfl⟩
  | reconcile e =>
    obtain ⟨f, hf, -, hkeep⟩ := reconcileTaskStart_commands db e
    refine hcommands f (fun c => ⟨(hkeep c).1, (hkeep c).2.1⟩) _ ?_
    rw [← hf]
    unfold reconcileTaskStartForExecution
    split <;> rfl
  | transition _ _ args hargs h => exact hv.transition (hrecorded _ hargs) h
  | repair x _ _ _ _ h =>
    obtain ⟨locked, saved, ev, hlocked, -, -, hid, -, -, hversion, hev, hevver, hevmsg, rfl⟩ :=
      repair_ok h
    refine hv.save (e := locked) saved ?_ (by omega) rfl rfl ⟨id, by simp [saveExecution], fun _ => ⟨rfl, rfl⟩⟩
      (fun x hx => ?_) (fun m hmem => hmem)
    · rw [hid, execution?_id hlocked]
      exact hlocked
    · rcases List.mem_append.mp hx with hx | hx
      · exact .inl hx
      · obtain rfl := List.mem_singleton.mp hx
        refine .inr ⟨hev.trans hid.symm, fun _ => le_of_eq hevver, fun m hmsg => ?_⟩
        rw [hevmsg] at hmsg
        exact absurd hmsg (by simp)
  | save old saved hold hid _ hversion =>
    refine hv.save (e := old) saved ?_ hversion rfl rfl ⟨id, by simp [saveExecution], fun _ => ⟨rfl, rfl⟩⟩
      (fun x hx => .inl hx) (fun m hmem => hmem)
    rw [hid]
    exact hold
  | event e ev he hversion hmsg h =>
    obtain ⟨-, rfl⟩ := createEvent_ok h
    refine ⟨hv.execution_nodup, hv.execution_fresh, hv.command_nodup, hv.command_fresh,
      hv.command_execution, fun x hx => ?_, fun x hx hexempt y hy => ?_, fun x hx m hxm => ?_⟩
    · rcases List.mem_append.mp hx with hx | hx
      · exact hv.event_execution x hx
      · obtain rfl := List.mem_singleton.mp hx
        rw [← execution?_id he]
        exact hv.execution_fresh e (execution?_mem he)
    · rcases List.mem_append.mp hx with hx | hx
      · exact hv.event_version x hx hexempt y hy
      · obtain rfl := List.mem_singleton.mp hx
        obtain rfl := Option.some.inj (he.symm.trans hy)
        exact hversion hexempt
    · rcases List.mem_append.mp hx with hx | hx
      · exact hv.event_message x hx m hxm
      · obtain rfl := List.mem_singleton.mp hx
        exact hrecorded _ hmsg m hxm
  | touch key g hg =>
    have hold : ∀ ev ∈ updateFirst key g db.events, ∃ old ∈ db.events,
        ev.taskExecution = old.taskExecution ∧ ev.stateVersion = old.stateVersion ∧
          ev.eventType = old.eventType ∧ ev.messageId = old.messageId := by
      intro ev hev
      rcases updateFirst_mem hev with hev | ⟨old, hold, rfl⟩
      · exact ⟨ev, hev, rfl, rfl, rfl, rfl⟩
      · obtain ⟨t, ht⟩ := hg old
        rw [ht]
        exact ⟨old, hold, rfl, rfl, rfl, rfl⟩
    refine ⟨hv.execution_nodup, hv.execution_fresh, hv.command_nodup, hv.command_fresh,
      hv.command_execution, fun ev hev => ?_, fun ev hev hexempt e he => ?_, fun ev hev m hm => ?_⟩
    · obtain ⟨old, hmem, hx, -⟩ := hold ev hev
      rw [hx]
      exact hv.event_execution old hmem
    · obtain ⟨old, hmem, hx, hver, htype, -⟩ := hold ev hev
      rw [hx] at he
      rw [hver]
      exact hv.event_version old hmem (htype ▸ hexempt) e he
    · obtain ⟨old, hmem, -, -, -, hmsg⟩ := hold ev hev
      exact hv.event_message old hmem m (hmsg ▸ hm)

theorem Writes.processedMessages {message : Option Uuid} {db db' : CenterDb}
    (h : Writes message db db') : db'.processedMessages = db.processedMessages := by
  induction h with
  | refl => rfl
  | tail _ hw ih => rw [hw.processedMessages, ih]

theorem Writes.version_le {message : Option Uuid} {db db' : CenterDb} (h : Writes message db db')
    {id : Uuid} {e : TaskExecution} (he : db.execution? id = some e) :
    ∃ e', db'.execution? id = some e' ∧ e.stateVersion ≤ e'.stateVersion := by
  induction h with
  | refl => exact ⟨e, he, le_refl _⟩
  | tail _ hw ih =>
    obtain ⟨mid, hmid, hle⟩ := ih
    obtain ⟨e', he', hle'⟩ := hw.version_le hmid
    exact ⟨e', he', le_trans hle hle'⟩

theorem Writes.valid {message : Option Uuid} {db db' : CenterDb} (h : Writes message db db')
    (hm : ∀ m, message = some m → m ∈ db.processedMessages) (hv : db.Valid) : db'.Valid := by
  induction h with
  | refl => exact hv
  | tail hws hw ih =>
    refine hw.valid (fun m hmsg => ?_) ih
    rw [Writes.processedMessages hws]
    exact hm m hmsg

/-! ## What the handlers of command messages do

Each rewrites the command's row and then repairs or moves its execution, or leaves it. -/

/-- What `_handle_command_ack` does when it succeeds. -/
inductive AckEffect (db : CenterDb) (command : Uuid) (p : AckPayload) : CenterDb → Prop
  | ignored : AckEffect db command p db
  | marked (c : RemoteCommand) (hc : db.command? command = some c)
      (hstart : c.commandType = .taskStart → c.taskExecution.bind db.execution? = none) :
      AckEffect db command p (db.updateCommand command (fun c => acknowledged c p db.now))
  | repaired {db' : CenterDb} (c : RemoteCommand) (e : TaskExecution)
      (hc : db.command? command = some c) (hstart : c.commandType = .taskStart)
      (he : c.taskExecution.bind db.execution? = some e) (haccepted : p.accepted = true)
      (version : ℤ) (code text : String)
      (h : (db.updateCommand command (fun c => acknowledged c p db.now)
        ).reconcileEdgeActiveAfterCenterTimeout e.id .accepted version code text = .ok db') :
      AckEffect db command p db'
  | moved {db' : CenterDb} (c : RemoteCommand) (e : TaskExecution)
      (hc : db.command? command = some c) (hstart : c.commandType = .taskStart)
      (he : c.taskExecution.bind db.execution? = some e) (args : TransitionArgs)
      (hm : args.messageId = none)
      (h : (db.updateCommand command (fun c => acknowledged c p db.now)).transition e.id
        (if p.accepted then .accepted else .rejected) args = .ok db') :
      AckEffect db command p db'

/-- What `_handle_command_progress` does when it succeeds. -/
inductive ProgressEffect (db : CenterDb) (command : Uuid) (p : CommandProgressPayload) :
    CenterDb → Prop
  | ignored : ProgressEffect db command p db
  | marked (c : RemoteCommand) (hc : db.command? command = some c)
      (hopen : c.status.isOpen = true ∨ centerStartTimeout c = true)
      (hexecution : centerStartTimeout c = true → ∀ e, c.taskExecution.bind db.execution? = some e →
        timedOutAtCenter e = false) :
      ProgressEffect db command p (db.updateCommand command (fun c => progressed c p db.now))
  | repaired {db' : CenterDb} (c : RemoteCommand) (e : TaskExecution)
      (hc : db.command? command = some c) (hstart : centerStartTimeout c = true)
      (he : c.taskExecution.bind db.execution? = some e) (version : ℤ) (code text : String)
      (h : (db.updateCommand command (fun c => progressed c p db.now)
        ).reconcileEdgeActiveAfterCenterTimeout e.id .accepted version code text = .ok db') :
      ProgressEffect db command p db'

/-- What `_handle_command_result` does when it succeeds. -/
inductive ResultEffect (db : CenterDb) (command : Uuid) (p : CommandResultPayload) :
    CenterDb → Prop
  | orphan (c : RemoteCommand) (hc : db.command? command = some c)
      (he : c.taskExecution.bind db.execution? = none) :
      ResultEffect db command p (db.updateCommand command (fun c => finished c p db.now))
  | kept (c : RemoteCommand) (e : TaskExecution) (hc : db.command? command = some c)
      (he : c.taskExecution.bind db.execution? = some e)
      (h : resultTransition c.commandType p (resultMerged c p) (p.finishedAt.getD db.now) e = none) :
      ResultEffect db command p
        ((db.updateCommand command (fun c => finished c p db.now)).writeProgressFields e.id
          (resultMerged c p))
  | moved {mid : CenterDb} (c : RemoteCommand) (e : TaskExecution) (target : ExecutionState)
      (args : TransitionArgs) (hc : db.command? command = some c)
      (he : c.taskExecution.bind db.execution? = some e)
      (htransition : resultTransition c.commandType p (resultMerged c p)
        (p.finishedAt.getD db.now) e = some (.known target, args))
      (h : (db.updateCommand command (fun c => finished c p db.now)).transition e.id target args =
        .ok mid) :
      ResultEffect db command p (mid.writeProgressFields e.id (resultMerged c p))

/-- What `mark_timeout` does. -/
inductive TimeoutEffect (db : CenterDb) (command : Uuid) : CenterDb → Prop
  | ignored : TimeoutEffect db command db
  | reconciled (e : TaskExecution) (he : db.execution? e.id = some e) :
      TimeoutEffect db command (db.reconcileTaskStartForExecution e)
  | marked (c : RemoteCommand) (hc : db.command? command = some c)
      (hstart : c.commandType = .taskStart → ∀ e, c.taskExecution.bind db.execution? = some e →
        executionCommandStatus e.state = none) :
      TimeoutEffect db command (db.updateCommand command (fun c => c.markedTimedOut db.now))
  | moved {db' : CenterDb} (c : RemoteCommand) (e : TaskExecution) (text : String)
      (target : ExecutionState) (args : TransitionArgs) (hc : db.command? command = some c)
      (he : c.taskExecution.bind db.execution? = some e)
      (htransition : timeoutTransition c.commandType text e = some (target, args))
      (h : (db.updateCommand command (fun c => c.markedTimedOut db.now)).transition e.id target
        args = .ok db') :
      TimeoutEffect db command db'

theorem execution?_of_bind {db : CenterDb} {x : Option Uuid} {e : TaskExecution}
    (h : x.bind db.execution? = some e) : x = some e.id ∧ db.execution? e.id = some e := by
  obtain ⟨id, rfl, he⟩ := Option.bind_eq_some_iff.mp h
  rw [execution?_id he]
  exact ⟨rfl, he⟩

theorem transitionWord_ok {db db' : CenterDb} {x : Uuid} {target : StateWord}
    {args : TransitionArgs} (h : db.transitionWord x target args = .ok db') :
    ∃ s, target = .known s ∧ db.transition x s args = .ok db' := by
  unfold transitionWord at h
  split at h
  · exact ⟨_, rfl, h⟩
  · split at h
    · exact absurd h (by simp)
    · exact absurd h (by simp)

theorem handleCommandAck_ok {db db' : CenterDb} {command : Uuid} {p : AckPayload}
    (h : db.handleCommandAck command p = .ok db') : AckEffect db command p db' := by
  unfold handleCommandAck at h
  split at h
  · exact absurd h (by simp)
  · next c hc =>
    split at h
    · obtain rfl := Except.ok.inj h
      exact .ignored
    · dsimp only at h
      split at h
      · next hnone =>
        obtain rfl := Except.ok.inj h
        refine .marked c hc (fun hstart => ?_)
        rw [if_pos hstart] at hnone
        exact hnone
      · next e he =>
        have hstart : c.commandType = .taskStart := by
          by_contra hne
          rw [if_neg hne] at he
          exact absurd he (by simp)
        rw [if_pos hstart] at he
        split at h
        · next hcheck => exact .repaired c e hc hstart he hcheck.1 _ _ _ h
        · exact .moved c e hc hstart he _ rfl h

theorem handleCommandProgress_ok {db db' : CenterDb} {command : Uuid} {p : CommandProgressPayload}
    (h : db.handleCommandProgress command p = .ok db') : ProgressEffect db command p db' := by
  unfold handleCommandProgress at h
  split at h
  · exact absurd h (by simp)
  · next c hc =>
    split at h
    · obtain rfl := Except.ok.inj h
      exact .ignored
    · next hopen =>
      have hopen' : c.status.isOpen = true ∨ centerStartTimeout c = true := by
        by_contra hno
        simp only [not_or, Bool.not_eq_true] at hno
        exact hopen hno
      dsimp only at h
      split at h
      · next hnone =>
        obtain rfl := Except.ok.inj h
        refine .marked c hc hopen' (fun hstart e he => ?_)
        rw [if_pos hstart] at hnone
        exact absurd (he.symm.trans hnone) (by simp)
      · next e he =>
        have hstart : centerStartTimeout c = true := by
          by_contra hne
          rw [if_neg hne] at he
          exact absurd he (by simp)
        rw [if_pos hstart] at he
        split at h
        · exact .repaired c e hc hstart he _ _ _ h
        · next htimedOut =>
          obtain rfl := Except.ok.inj h
          refine .marked c hc hopen' (fun _ e' he' => ?_)
          obtain rfl := Option.some.inj (he.symm.trans he')
          simpa using htimedOut

theorem handleCommandResult_ok {db db' : CenterDb} {command : Uuid} {p : CommandResultPayload}
    (h : db.handleCommandResult command p = .ok db') : ResultEffect db command p db' := by
  unfold handleCommandResult at h
  split at h
  · exact absurd h (by simp)
  · next c hc =>
    dsimp only at h
    split at h
    · next hnone =>
      obtain rfl := Except.ok.inj h
      exact .orphan c hc hnone
    · next e he =>
      split at h
      · next hnone =>
        obtain rfl := Except.ok.inj h
        exact .kept c e hc he hnone
      · next target args htransition =>
        split at h
        · exact absurd h (by simp)
        · next mid hmid =>
          obtain rfl := Except.ok.inj h
          obtain ⟨s, rfl, hmid⟩ := transitionWord_ok hmid
          exact .moved c e s args hc he htransition hmid

theorem markTimeout_ok (db : CenterDb) (command : Uuid) :
    TimeoutEffect db command (db.markTimeout command) := by
  unfold markTimeout
  split
  · exact .ignored
  · next c hc =>
    dsimp only
    split
    · next e he =>
      split at he
      · exact .reconciled e (execution?_of_bind (Option.eq_some_of_filter_eq_some he)).2
      · exact absurd he (by simp)
    · next hnone =>
      split
      · exact .ignored
      · have hstart : c.commandType = .taskStart → ∀ e, c.taskExecution.bind db.execution? = some e →
            executionCommandStatus e.state = none := by
          intro hstart e he
          rw [if_pos hstart, he, Option.filter_some] at hnone
          by_contra hsome
          rw [if_pos (Option.isSome_iff_ne_none.mpr hsome)] at hnone
          exact absurd hnone (by simp)
        split
        · exact .marked c hc hstart
        · next e he =>
          split
          · split
            · exact .marked c hc hstart
            · next target args htransition =>
              split
              · exact .marked c hc hstart
              · next db' h => exact .moved c e _ target args hc he htransition h
          · exact .marked c hc hstart

/-! ## The handlers -/

theorem updateCommand_writes (message : Option Uuid) (db : CenterDb) (command : Uuid)
    {g : RemoteCommand → RemoteCommand} (hg : KeepsCommand g) :
    Writes message db (db.updateCommand command g) := (Write.command command g hg).writes

theorem acknowledged_keeps (p : AckPayload) (now : ℕ) :
    KeepsCommand (fun c => acknowledged c p now) := fun _ => ⟨rfl, rfl, rfl, rfl⟩

theorem progressed_keeps (p : CommandProgressPayload) (now : ℕ) :
    KeepsCommand (fun c => progressed c p now) := fun _ => ⟨rfl, rfl, rfl, rfl⟩

theorem finished_keeps (p : CommandResultPayload) (now : ℕ) :
    KeepsCommand (fun c => finished c p now) := fun _ => ⟨rfl, rfl, rfl, rfl⟩

theorem markedTimedOut_keeps (now : ℕ) :
    KeepsCommand (fun c => c.markedTimedOut now) := fun _ => ⟨rfl, rfl, rfl, rfl⟩

theorem handleCommandAck_writes {message : Option Uuid} {db db' : CenterDb} {command : Uuid}
    {p : AckPayload} (h : db.handleCommandAck command p = .ok db') : Writes message db db' := by
  have hmark := updateCommand_writes message db command (acknowledged_keeps p db.now)
  cases handleCommandAck_ok h with
  | ignored => exact .refl
  | marked _ _ _ => exact hmark
  | repaired _ _ _ _ _ _ _ _ _ h => exact hmark.tail (.repair _ _ _ _ _ h)
  | moved _ _ _ _ _ _ hm h => exact hmark.tail (.transition _ _ _ (.inl hm) h)

theorem handleCommandProgress_writes {message : Option Uuid} {db db' : CenterDb} {command : Uuid}
    {p : CommandProgressPayload} (h : db.handleCommandProgress command p = .ok db') :
    Writes message db db' := by
  have hmark := updateCommand_writes message db command (progressed_keeps p db.now)
  cases handleCommandProgress_ok h with
  | ignored => exact .refl
  | marked _ _ _ _ => exact hmark
  | repaired _ _ _ _ _ _ _ _ h => exact hmark.tail (.repair _ _ _ _ _ h)

theorem writeProgressFields_writes (message : Option Uuid) (db : CenterDb) (x : Uuid)
    (result : ResultPayload) : Writes message db (db.writeProgressFields x result) := by
  unfold writeProgressFields
  split
  · exact .refl
  · next e he =>
    rw [← execution?_id he] at he
    exact (Write.save e (withProgressFields e result) he rfl rfl (le_refl _)).writes

theorem resultTransition_message {type : CommandType} {p : CommandResultPayload}
    {result : ResultPayload} {finishedAt : ℕ} {e : TaskExecution} {target : StateWord}
    {args : TransitionArgs} (h : resultTransition type p result finishedAt e = some (target, args)) :
    args.messageId = none := by
  have hfinal : ∀ {final}, finalTransition p result finishedAt e final = some (target, args) →
      args.messageId = none := by
    intro final hf
    unfold finalTransition at hf
    split at hf
    · exact absurd hf (by simp)
    · obtain ⟨-, rfl⟩ := Prod.mk.inj (Option.some.inj hf)
      rfl
  unfold resultTransition at h
  split at h
  · exact hfinal h
  · split at h
    · split at h
      · split at h
        · obtain ⟨-, rfl⟩ := Prod.mk.inj (Option.some.inj h)
          rfl
        · exact absurd h (by simp)
      · split at h
        · obtain ⟨-, rfl⟩ := Prod.mk.inj (Option.some.inj h)
          rfl
        · exact absurd h (by simp)
      · exact absurd h (by simp)
      · exact hfinal h
    · exact absurd h (by simp)

theorem handleCommandResult_writes {message : Option Uuid} {db db' : CenterDb} {command : Uuid}
    {p : CommandResultPayload} (h : db.handleCommandResult command p = .ok db') :
    Writes message db db' := by
  have hmark := updateCommand_writes message db command (finished_keeps p db.now)
  cases handleCommandResult_ok h with
  | orphan _ _ _ => exact hmark
  | kept _ _ _ _ _ => exact hmark.trans (writeProgressFields_writes ..)
  | moved _ _ _ _ _ _ htransition hmove =>
    have hm := resultTransition_message htransition
    exact (hmark.tail (.transition _ _ _ (.inl hm) hmove)).trans (writeProgressFields_writes ..)

theorem timeoutTransition_message {type : CommandType} {text : String} {e : TaskExecution}
    {target : ExecutionState} {args : TransitionArgs}
    (h : timeoutTransition type text e = some (target, args)) : args.messageId = none := by
  unfold timeoutTransition at h
  cases type <;> dsimp only at h
  case taskForceExit => exact absurd h (by simp)
  case taskStart | taskPause | taskResume =>
    split at h
    · obtain ⟨-, rfl⟩ := Prod.mk.inj (Option.some.inj h)
      rfl
    · exact absurd h (by simp)
  all_goals
    obtain ⟨-, rfl⟩ := Prod.mk.inj (Option.some.inj h)
    rfl

theorem markTimeout_writes (message : Option Uuid) (db : CenterDb) (command : Uuid) :
    Writes message db (db.markTimeout command) := by
  have hmark := updateCommand_writes message db command (markedTimedOut_keeps db.now)
  have heffect := markTimeout_ok db command
  generalize db.markTimeout command = db' at heffect ⊢
  cases heffect with
  | ignored => exact .refl
  | reconciled e _ => exact (Write.reconcile e).writes
  | marked _ _ _ => exact hmark
  | moved _ _ _ _ _ _ _ htransition h =>
    have hm := timeoutTransition_message htransition
    exact hmark.tail (.transition _ _ _ (.inl hm) h)

theorem getOrCreateEvent_writes {message : Option Uuid} {db db' : CenterDb}
    {key : TaskExecutionEvent → Bool} {ev : TaskExecutionEvent} {e : TaskExecution}
    (he : db.execution? ev.taskExecution = some e)
    (hversion : ev.eventType.isExempt = false → ev.stateVersion ≤ e.stateVersion)
    (hm : ev.messageId = none ∨ ev.messageId = message)
    (h : db.getOrCreateEvent key ev = .ok db') : Writes message db db' := by
  unfold getOrCreateEvent at h
  split at h
  · exact (Write.event e ev he hversion hm h).writes
  · obtain rfl := Except.ok.inj h
    exact .refl
  · exact absurd h (by simp)

theorem handleObstacleStage_writes {message : Uuid} {db db' : CenterDb} {x : Uuid}
    {e : TaskExecution} {key : ObstacleKey} {occurredAt : Option ℕ}
    (he : db.execution? x = some e)
    (h : db.handleObstacleStage message e key occurredAt = .ok db') :
    Writes (some message) db db' := by
  unfold handleObstacleStage at h
  dsimp only at h
  split at h
  · obtain rfl := Except.ok.inj h
    exact (Write.touch _ _ (fun ev => ⟨_, rfl⟩)).writes
  · refine (Write.event e _ ?_ (fun _ => le_refl _) (.inr rfl) h).writes
    rw [← execution?_id he] at he
    exact he

theorem handleStageEvent_writes {message : Uuid} {db db' : CenterDb} {x : Uuid}
    {e : TaskExecution} {type : TaskEventType} (htype : type.isExempt = true) {p : StagePayload}
    (he : db.execution? x = some e) (h : db.handleStageEvent message e type p = .ok db') :
    Writes (some message) db db' := by
  rw [← execution?_id he] at he
  refine getOrCreateEvent_writes he (fun hexempt => ?_) (.inr rfl) h
  exact absurd (hexempt.symm.trans htype) (by simp)

theorem unlessTaskState_ok {result : Except ServiceError CenterDb} {db : CenterDb}
    (h : unlessTaskState result = .ok (some db)) : result = .ok db := by
  unfold unlessTaskState at h
  split at h
  · rw [Option.some.inj (Except.ok.inj h)]
  · exact absurd h (by simp)
  · exact absurd h (by simp)

theorem handleSafeHold_ok {message : Uuid} {db db' : CenterDb} {e : TaskExecution}
    {p : StagePayload} (h : db.handleSafeHold message e p = .ok db') :
    db' = db ∨ ∃ args : TransitionArgs, args.messageId = some message ∧
      db.transition e.id .paused args = .ok db' := by
  unfold handleSafeHold at h
  dsimp only at h
  split at h
  · split at h
    · exact absurd h (by simp)
    · next held hheld =>
      obtain rfl := Except.ok.inj h
      cases held with
      | none => exact .inl rfl
      | some mid => exact .inr ⟨_, rfl, unlessTaskState_ok hheld⟩
  · exact .inl (Except.ok.inj h).symm

theorem handleSafeHold_writes {message : Uuid} {db db' : CenterDb} {e : TaskExecution}
    {p : StagePayload} (h : db.handleSafeHold message e p = .ok db') :
    Writes (some message) db db' := by
  rcases handleSafeHold_ok h with rfl | ⟨args, hm, h⟩
  · exact .refl
  · exact (Write.transition _ _ _ (.inr hm) h).writes

theorem handleRoundStarted_writes (message : Option Uuid) {db : CenterDb} {x : Uuid}
    {e : TaskExecution} (he : db.execution? x = some e) (roundNumber : Option ℕ)
    (stateVersion : Option ℤ) :
    Writes message db (db.handleRoundStarted e roundNumber stateVersion) := by
  rw [← execution?_id he] at he
  exact (Write.save e (roundStarted e roundNumber stateVersion) he rfl rfl
    (le_max_left _ _)).writes

theorem applyProgress_writes (message : Option Uuid) {db : CenterDb} {x : Uuid}
    {e : TaskExecution} (he : db.execution? x = some e) (p : ProgressPayload) :
    Writes message db (db.applyProgress e p).1 ∧
      (db.applyProgress e p).1.execution? x = some (db.applyProgress e p).2 := by
  unfold applyProgress
  split
  · exact ⟨.refl, he⟩
  · next hnew =>
    have hid := execution?_id he
    constructor
    · refine (Write.save e (e.progressed p db.now) (hid ▸ he) rfl rfl ?_).writes
      show e.stateVersion ≤ p.stateVersion
      omega
    · rw [execution?_saveExecution, if_pos (show x = (e.progressed p db.now).id from hid.symm), he,
        Option.map_some]

theorem handleProgress_writes {message : Uuid} {db db' : CenterDb} {x : Uuid} {e : TaskExecution}
    {p : ProgressPayload} (he : db.execution? x = some e)
    (h : db.handleProgress message e p = .ok db') : Writes (some message) db db' := by
  obtain ⟨hwrites, hfound⟩ := applyProgress_writes (some message) he p
  unfold handleProgress at h
  dsimp only at h
  split at h
  · obtain rfl := Except.ok.inj h
    exact hwrites
  · split at h
    · obtain rfl := Except.ok.inj h
      exact hwrites
    · refine hwrites.trans (getOrCreateEvent_writes ?_ (fun _ => le_refl _) (.inr rfl) h)
      rw [execution?_id hfound]
      exact hfound

theorem handleTaskState_ok {message : Uuid} {db db' : CenterDb} {e : TaskExecution}
    {kind : StateMessage} {p : StatePayload}
    (h : db.handleTaskState message e kind p = .ok db') :
    db' = db ∨ ∃ (s : ExecutionState) (args : TransitionArgs), p.state = .known s ∧
      args.messageId = some message ∧ db.transition e.id s args = .ok db' := by
  unfold handleTaskState at h
  split at h
  · exact .inl (Except.ok.inj h).symm
  · split at h
    · next mid hmid =>
      obtain rfl := Except.ok.inj h
      obtain ⟨s, hs, hmid⟩ := transitionWord_ok hmid
      exact .inr ⟨s, _, hs, rfl, hmid⟩
    · split at h
      · exact .inl (Except.ok.inj h).symm
      · exact absurd h (by simp)
    · exact absurd h (by simp)

theorem handleTaskState_writes {message : Uuid} {db db' : CenterDb} {e : TaskExecution}
    {kind : StateMessage} {p : StatePayload}
    (h : db.handleTaskState message e kind p = .ok db') : Writes (some message) db db' := by
  rcases handleTaskState_ok h with rfl | ⟨s, args, -, hm, h⟩
  · exact .refl
  · exact (Write.transition _ _ _ (.inr hm) h).writes

/-- What the reconciliation with a sync request does when it succeeds. -/
inductive SyncEffect (db : CenterDb) (e : TaskExecution) (p : SyncPayload) :
    CenterDb → SyncOutcome → Prop
  | unchanged : SyncEffect db e p db .unchanged
  | repaired {db' : CenterDb} (reported : ExecutionState)
      (hreported : p.localTaskState = .known reported)
      (h : db.reconcileEdgeActiveAfterCenterTimeout e.id reported p.localTaskStateVersion
        p.localTaskReasonCode p.localTaskReasonMessage = .ok db') :
      SyncEffect db e p db' .timeoutRecovered
  | followed {db' : CenterDb} (reported : ExecutionState) (args : TransitionArgs)
      (outcome : SyncOutcome) (hreported : p.localTaskState = .known reported)
      (hm : args.messageId = none) (hversion : args.stateVersion = some p.localTaskStateVersion)
      (houtcome : outcome = if reported.isTerminal then .terminal else .state)
      (h : db.transition e.id reported args = .ok db') : SyncEffect db e p db' outcome

theorem syncReconcile_ok {db db' : CenterDb} {e : TaskExecution} {p : SyncPayload}
    {outcome : SyncOutcome} (h : db.syncReconcile e p = .ok (db', outcome)) :
    SyncEffect db e p db' outcome := by
  unfold syncReconcile at h
  split at h
  · obtain ⟨rfl, rfl⟩ := Prod.mk.inj (Except.ok.inj h)
    exact .unchanged
  · next reported hreported =>
    dsimp only at h
    split at h
    · exact absurd h (by simp)
    · next mid hmid =>
      obtain ⟨rfl, rfl⟩ := Prod.mk.inj (Except.ok.inj h)
      split at hmid
      · exact .repaired reported hreported (unlessTaskState_ok hmid)
      · exact absurd hmid (by simp)
    · split at h
      · split at h
        · exact absurd h (by simp)
        · obtain ⟨rfl, rfl⟩ := Prod.mk.inj (Except.ok.inj h)
          exact .unchanged
        · next mid hmid =>
          obtain ⟨rfl, rfl⟩ := Prod.mk.inj (Except.ok.inj h)
          exact .followed reported _ _ hreported rfl rfl rfl (unlessTaskState_ok hmid)
      · obtain ⟨rfl, rfl⟩ := Prod.mk.inj (Except.ok.inj h)
        exact .unchanged

theorem syncReconcile_writes {message : Option Uuid} {db db' : CenterDb} {e : TaskExecution}
    {p : SyncPayload} {outcome : SyncOutcome} (h : db.syncReconcile e p = .ok (db', outcome)) :
    Writes message db db' := by
  cases syncReconcile_ok h with
  | unchanged => exact .refl
  | repaired _ _ hrepair => exact (Write.repair _ _ _ _ _ hrepair).writes
  | followed _ _ _ _ hm _ _ hmove => exact (Write.transition _ _ _ (.inl hm) hmove).writes

theorem handleSync_writes {message : Option Uuid} {db db' : CenterDb} {p : SyncPayload}
    {response : SyncResponse} (h : db.handleSync p = .ok (db', response)) :
    Writes message db db' := by
  unfold handleSync at h
  split at h
  · obtain ⟨rfl, -⟩ := Prod.mk.inj (Except.ok.inj h)
    exact .refl
  · split at h
    · exact absurd h (by simp)
    · next mid outcome hmid =>
      obtain ⟨rfl, -⟩ := Prod.mk.inj (Except.ok.inj h)
      exact syncReconcile_writes hmid

/-- **What a handled message writes.** -/
theorem handle_writes {message : Uuid} {db db' : CenterDb} {m : EdgeMessage}
    (h : db.handle message m = .ok db') : Writes (some message) db db' := by
  have hfound : ∀ {x : Uuid} {branch : TaskExecution → Except ServiceError CenterDb},
      db.withExecution x branch = .ok db' →
        ∃ e, db.execution? x = some e ∧ branch e = .ok db' := by
    intro x branch hb
    unfold withExecution at hb
    split at hb
    · exact absurd hb (by simp)
    · next e he => exact ⟨e, he, hb⟩
  cases m with
  | commandAck command p => exact handleCommandAck_writes h
  | commandProgress command p => exact handleCommandProgress_writes h
  | commandResult command p => exact handleCommandResult_writes h
  | obstacleStage x key occurredAt =>
    obtain ⟨e, he, hb⟩ := hfound h
    exact handleObstacleStage_writes he hb
  | navigationStage x p =>
    obtain ⟨e, he, hb⟩ := hfound h
    exact handleStageEvent_writes rfl he hb
  | arrivalDegradedAccepted x p =>
    obtain ⟨e, he, hb⟩ := hfound h
    exact handleStageEvent_writes rfl he hb
  | safeHold x p =>
    obtain ⟨e, he, hb⟩ := hfound h
    exact handleSafeHold_writes hb
  | roundStarted x n v =>
    obtain ⟨e, he, hb⟩ := hfound h
    obtain rfl := Except.ok.inj hb
    exact handleRoundStarted_writes _ he n v
  | progress x p =>
    obtain ⟨e, he, hb⟩ := hfound h
    exact handleProgress_writes he hb
  | taskState kind x p =>
    obtain ⟨e, he, hb⟩ := hfound h
    exact handleTaskState_writes hb
  | syncRequest p =>
    unfold handle at h
    dsimp only at h
    split at h
    · exact absurd h (by simp)
    · next mid response hmid =>
      obtain rfl := Except.ok.inj h
      exact handleSync_writes hmid

/-! ## Receiving -/

theorem receive_handled {db db' : CenterDb} {message : Uuid} {m : EdgeMessage}
    (hnew : message ∉ db.processedMessages)
    (h : (db.recorded message).handle message m = .ok db') : db.receive message m = db' := by
  unfold receive
  rw [if_neg hnew, h]

theorem receive_raised {db : CenterDb} {message : Uuid} {m : EdgeMessage} {err : ServiceError}
    (hnew : message ∉ db.processedMessages)
    (h : (db.recorded message).handle message m = .error err) : db.receive message m = db := by
  unfold receive
  rw [if_neg hnew, h]

theorem receive_cases (db : CenterDb) (message : Uuid) (m : EdgeMessage) :
    db.receive message m = db ∨
      (message ∉ db.processedMessages ∧
        (db.recorded message).handle message m = .ok (db.receive message m)) := by
  by_cases hold : message ∈ db.processedMessages
  · left
    unfold receive
    rw [if_pos hold]
  · cases h : (db.recorded message).handle message m with
    | ok db' =>
      right
      rw [receive_handled hold h]
      exact ⟨hold, rfl⟩
    | error err => exact .inl (receive_raised hold h)

theorem Valid.recorded {db : CenterDb} (hv : db.Valid) (message : Uuid) :
    (db.recorded message).Valid :=
  ⟨hv.execution_nodup, hv.execution_fresh, hv.command_nodup, hv.command_fresh,
    hv.command_execution, hv.event_execution, hv.event_version,
    fun ev hev m hm => List.mem_append_left _ (hv.event_message ev hev m hm)⟩

theorem receive_keeps {db : CenterDb} (hv : db.Valid) (message : Uuid) (m : EdgeMessage) :
    (db.receive message m).Valid ∧ ∀ id e, db.execution? id = some e →
      ∃ e', (db.receive message m).execution? id = some e' ∧ e.stateVersion ≤ e'.stateVersion := by
  rcases receive_cases db message m with h | ⟨-, h⟩
  · rw [h]
    exact ⟨hv, fun id e he => ⟨e, he, le_refl _⟩⟩
  · refine ⟨(handle_writes h).valid (fun k hk => ?_) (hv.recorded message), fun id e he =>
      (handle_writes h).version_le he⟩
    obtain rfl := Option.some.inj hk
    simp [recorded]

end CenterDb

end RoamerX
