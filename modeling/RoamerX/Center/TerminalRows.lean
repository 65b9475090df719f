import RoamerX.Center.System

set_option autoImplicit false

/-! # Terminal executions

What is left of an execution once it is terminal: its row, and the status of its start command.
`transition` refuses terminal rows and reconciles the start command, but not everything that writes
these tables goes through it. `StartFollows` and `TerminalRowsKept` are shown for each write of a
handler; what the writes outside `transition` need is the condition `undisturbed`. -/

namespace RoamerX

namespace CenterDb

/-! ## The start command follows -/

/-- The start commands of a terminal execution have the status its state assigns. -/
def StartFollows (db : CenterDb) (x : Uuid) : Prop :=
  ∀ e, db.execution? x = some e → ∀ status, executionCommandStatus e.state = some status →
    ∀ c ∈ db.commands, c.taskExecution = some x → c.commandType = .taskStart → c.status = status

theorem executionCommandStatus_active {s : ExecutionState} (h : s.isActive = true) :
    executionCommandStatus s = none := by
  cases s <;> first | rfl | exact absurd h (by decide)

theorem executionCommandStatus_settled {s : ExecutionState} {status : CommandStatus}
    (h : executionCommandStatus s = some status) : status.isOpen = false := by
  cases s <;> simp [executionCommandStatus] at h <;> subst h <;> rfl

theorem StartFollows.of_active {db : CenterDb} {x : Uuid}
    (h : ∀ e, db.execution? x = some e → e.state.isActive = true) : StartFollows db x := by
  intro e he status hstatus
  rw [executionCommandStatus_active (h e he)] at hstatus
  exact absurd hstatus (by simp)

/-- The commands are the same and every execution is in the state it was in. -/
def SameStates (db db' : CenterDb) : Prop :=
  db'.commands = db.commands ∧
    ∀ x, (db'.execution? x).map TaskExecution.state = (db.execution? x).map TaskExecution.state

theorem SameStates.refl (db : CenterDb) : SameStates db db := ⟨rfl, fun _ => rfl⟩

theorem SameStates.trans {a b c : CenterDb} (hab : SameStates a b) (hbc : SameStates b c) :
    SameStates a c :=
  ⟨hbc.1.trans hab.1, fun x => (hbc.2 x).trans (hab.2 x)⟩

theorem SameStates.of_createEvent {db db' : CenterDb} {ev : TaskExecutionEvent}
    (h : db.createEvent ev = .ok db') : SameStates db db' := by
  obtain ⟨-, rfl⟩ := createEvent_ok h
  exact .refl db

theorem SameStates.of_getOrCreateEvent {db db' : CenterDb} {key : TaskExecutionEvent → Bool}
    {ev : TaskExecutionEvent} (h : db.getOrCreateEvent key ev = .ok db') : SameStates db db' := by
  unfold getOrCreateEvent at h
  split at h
  · exact .of_createEvent h
  · obtain rfl := Except.ok.inj h
    exact .refl db
  · exact absurd h (by simp)

theorem SameStates.of_save {db : CenterDb} {e : TaskExecution} (saved : TaskExecution)
    (he : db.execution? saved.id = some e) (hstate : saved.state = e.state) :
    SameStates db (db.saveExecution saved) := by
  refine ⟨rfl, fun x => ?_⟩
  rw [execution?_saveExecution]
  by_cases hx : x = saved.id
  · rw [if_pos hx, hx, he]
    simp [hstate]
  · rw [if_neg hx]

theorem StartFollows.same {db db' : CenterDb} {x : Uuid} (h : StartFollows db x)
    (hsame : SameStates db db') : StartFollows db' x := by
  intro e' he' status hstatus c hc hcx hctype
  obtain ⟨hcommands, hstates⟩ := hsame
  have hx := hstates x
  rw [he', Option.map_some] at hx
  obtain ⟨e, he, hstate⟩ := Option.map_eq_some_iff.mp hx.symm
  rw [hcommands] at hc
  exact h e he status (hstate ▸ hstatus) c hc hcx hctype

/-- Rewriting a command `c` keeps the start commands in step, if it leaves a start command of a
    terminal execution with the status assigned. -/
theorem StartFollows.updateCommand {db : CenterDb} (hv : db.Valid) {x : Uuid}
    (h : StartFollows db x) (command : Uuid) {g : RemoteCommand → RemoteCommand}
    (hg : KeepsCommand g)
    (hstart : ∀ c e status, db.command? command = some c → c.commandType = .taskStart →
      c.taskExecution = some x → db.execution? x = some e →
      executionCommandStatus e.state = some status → (g c).status = status) :
    StartFollows (db.updateCommand command g) x := by
  intro e he status hstatus c' hc' hcx hctype
  obtain ⟨c, hc, rfl⟩ := List.mem_map.mp hc'
  by_cases hid : c.id = command
  · rw [if_pos hid] at hcx hctype ⊢
    rw [(hg c).2.1] at hcx
    rw [(hg c).2.2.1] at hctype
    refine hstart c e status ?_ hctype hcx he hstatus
    rw [← hid]
    exact Rows.get?_of_mem _ hv.command_nodup hc
  · rw [if_neg hid] at hcx hctype ⊢
    exact h e he status hstatus c hc hcx hctype

/-- The reconciliation brings the start commands of its own execution in step and keeps those of
    every other. -/
theorem StartFollows.reconcile {db : CenterDb} {e : TaskExecution}
    (he : db.execution? e.id = some e) {x : Uuid} (h : x ≠ e.id → StartFollows db x) :
    StartFollows (db.reconcileTaskStartForExecution e) x := by
  intro e' he' status hstatus c' hc' hcx hctype
  rw [execution?, reconcileTaskStart_executions] at he'
  unfold reconcileTaskStartForExecution at hc'
  split at hc'
  · next hnone =>
    have hne : x ≠ e.id := by
      rintro rfl
      obtain rfl := Option.some.inj (he.symm.trans he')
      rw [hnone] at hstatus
      exact absurd hstatus (by simp)
    exact h hne e' he' status hstatus c' hc' hcx hctype
  · next target htarget =>
    obtain ⟨c, hc, rfl⟩ := List.mem_map.mp hc'
    split at hcx
    · next hmatch =>
      rw [if_pos hmatch] at hctype ⊢
      have hxe : x = e.id := (Option.some.inj (hmatch.1.symm.trans hcx)).symm
      subst hxe
      obtain rfl := Option.some.inj (he.symm.trans he')
      exact Option.some.inj (htarget.symm.trans hstatus)
    · next hmatch =>
      rw [if_neg hmatch] at hctype ⊢
      by_cases hxe : x = e.id
      · subst hxe
        obtain rfl := Option.some.inj (he.symm.trans he')
        have hstatus' : target = status := Option.some.inj (htarget.symm.trans hstatus)
        by_contra hne
        exact hmatch ⟨hcx, hctype, hstatus'.symm ▸ hne⟩
      · exact h hxe e' he' status hstatus c hc hcx hctype

theorem StartFollows.transition {db db' : CenterDb} {id : Uuid} {target : ExecutionState}
    {args : TransitionArgs} (h : db.transition id target args = .ok db') {x : Uuid}
    (hx : x ≠ id → StartFollows db x) : StartFollows db' x := by
  obtain ⟨locked, hlocked, -, -, rfl⟩ := transition_ok h
  have hid := execution?_id hlocked
  refine StartFollows.reconcile ?_ (fun hne => ?_)
  · rw [execution?_repaired, if_pos rfl]
    show (db.execution? locked.id).map _ = _
    rw [hid, hlocked]
    rfl
  · have hne' : x ≠ locked.id := hne
    intro e he
    rw [execution?_repaired, if_neg hne] at he
    exact hx (hid ▸ hne') e he

theorem StartFollows.repair {db db' : CenterDb} {id : Uuid} {target : ExecutionState} {version : ℤ}
    {code text : String}
    (h : db.reconcileEdgeActiveAfterCenterTimeout id target version code text = .ok db') {x : Uuid}
    (hx : x ≠ id → StartFollows db x) : StartFollows db' x := by
  obtain ⟨locked, saved, ev, hlocked, -, hactive, hid, hstate, -, -, -, -, -, rfl⟩ := repair_ok h
  have hlid := execution?_id hlocked
  by_cases hxid : x = id
  · refine StartFollows.of_active (fun e he => ?_)
    rw [execution?_repaired, if_pos (by rw [hid, hlid]; exact hxid), hxid, hlocked] at he
    obtain rfl := Option.some.inj he
    rw [hstate]
    exact hactive
  · intro e he
    rw [execution?_repaired, if_neg (by rw [hid, hlid]; exact hxid)] at he
    exact hx hxid e he

theorem StartFollows.insertCommand {db : CenterDb} {x : Uuid} (h : StartFollows db x)
    {y : Option Uuid} {type : CommandType} (hy : type ≠ .taskStart ∨ y ≠ some x)
    (p : CommandPayload) (n : ℕ) : StartFollows (db.insertCommand y type p n).1 x := by
  intro e he status hstatus c hc hcx hctype
  rcases List.mem_append.mp hc with hc | hc
  · exact h e he status hstatus c hc hcx hctype
  · obtain rfl := List.mem_singleton.mp hc
    rcases hy with hy | hy
    · exact absurd hctype hy
    · exact absurd hcx hy

/-! ## Terminal rows -/

def RowsKept (db db' : CenterDb) : Prop :=
  ∀ x e, db.execution? x = some e → e.state.isTerminal = true → db'.execution? x = some e

/-- The repair of a center-only timeout made the execution active again. -/
def Repaired (db' : CenterDb) (e : TaskExecution) : Prop :=
  timedOutAtCenter e = true ∧ ∃ e', db'.execution? e.id = some e' ∧ e'.state.isActive = true ∧
    e.stateVersion < e'.stateVersion ∧ e'.progressFields = e.progressFields

/-- Every terminal row is as it was, unless it was repaired. -/
def TerminalRowsKept (db db' : CenterDb) : Prop :=
  ∀ x e, db.execution? x = some e → e.state.isTerminal = true →
    db'.execution? x = some e ∨ Repaired db' e

theorem RowsKept.refl (db : CenterDb) : RowsKept db db := fun _ _ he _ => he

theorem RowsKept.trans {a b c : CenterDb} (hab : RowsKept a b) (hbc : RowsKept b c) :
    RowsKept a c :=
  fun x e he hterminal => hbc x e (hab x e he hterminal) hterminal

theorem RowsKept.kept {db db' : CenterDb} (h : RowsKept db db') : TerminalRowsKept db db' :=
  fun x e he hterminal => .inl (h x e he hterminal)

theorem RowsKept.then {a b c : CenterDb} (hab : RowsKept a b) (hbc : TerminalRowsKept b c) :
    TerminalRowsKept a c :=
  fun x e he hterminal => hbc x e (hab x e he hterminal) hterminal

theorem RowsKept.of_executions {db db' : CenterDb} (h : db'.executions = db.executions) :
    RowsKept db db' := by
  intro x e he _
  unfold execution?
  rw [h]
  exact he

theorem RowsKept.of_transition {db db' : CenterDb} {id : Uuid} {target : ExecutionState}
    {args : TransitionArgs} (h : db.transition id target args = .ok db') : RowsKept db db' :=
  (Extends.transition h).terminal_eq

theorem RowsKept.of_save {db : CenterDb} {saved : TaskExecution}
    (h : ∀ e, db.execution? saved.id = some e → e.state.isTerminal = true → saved = e) :
    RowsKept db (db.saveExecution saved) := by
  intro x e he hterminal
  rw [execution?_saveExecution]
  by_cases hx : x = saved.id
  · subst hx
    rw [if_pos rfl, he, h e he hterminal]
    rfl
  · rw [if_neg hx]
    exact he

theorem RowsKept.of_createEvent {db db' : CenterDb} {ev : TaskExecutionEvent}
    (h : db.createEvent ev = .ok db') : RowsKept db db' := by
  obtain ⟨-, rfl⟩ := createEvent_ok h
  exact .of_executions rfl

theorem RowsKept.of_getOrCreateEvent {db db' : CenterDb} {key : TaskExecutionEvent → Bool}
    {ev : TaskExecutionEvent} (h : db.getOrCreateEvent key ev = .ok db') : RowsKept db db' := by
  unfold getOrCreateEvent at h
  split at h
  · exact .of_createEvent h
  · obtain rfl := Except.ok.inj h
    exact .refl db
  · exact absurd h (by simp)

theorem TerminalRowsKept.of_repair {db db' : CenterDb} {id : Uuid} {target : ExecutionState}
    {version : ℤ} {code text : String}
    (h : db.reconcileEdgeActiveAfterCenterTimeout id target version code text = .ok db') :
    TerminalRowsKept db db' := by
  obtain ⟨locked, saved, ev, hlocked, htimedOut, hactive, hid, hstate, hfields, hversion, -, -, -,
    rfl⟩ := repair_ok h
  have hlid := execution?_id hlocked
  intro x e he hterminal
  by_cases hx : x = id
  · right
    subst hx
    obtain rfl := Option.some.inj (hlocked.symm.trans he)
    refine ⟨htimedOut, saved, ?_, hstate ▸ hactive, by omega, hfields⟩
    rw [execution?_repaired, if_pos hid.symm, hlid, hlocked]
    rfl
  · left
    rw [execution?_repaired, if_neg (by rw [hid, hlid]; exact hx)]
    exact he

/-! ## The messages -/

/-- A result of a command of `e` names, or falls back on, a final state other than the state of
    `e`. -/
def resultRefused (type : CommandType) (p : CommandResultPayload) (result : ResultPayload)
    (e : TaskExecution) : Bool :=
  match result.finalTaskState.filter (· ≠ .unknown "") with
  | some final => final ≠ .known e.state
  | none =>
    (p.status = .failed || p.status = .timedOut) &&
      !(type = .taskPause || type = .taskResume || type = .taskRecover) &&
      fallbackState p.errorCode ≠ e.state

/-- A result of a command of `e` carries the progress of `e`, and for `task.start` the status that
    the state of `e` assigns. -/
def resultAgrees (type : CommandType) (p : CommandResultPayload) (result : ResultPayload)
    (e : TaskExecution) : Bool :=
  (withProgressFields e result).progressFields = e.progressFields &&
    (type ≠ .taskStart || executionCommandStatus e.state = some p.status.commandStatus)

/-- The milestone of the message matches several rows, so that recording it raises. -/
def progressRaises (db : CenterDb) (x : Uuid) (p : ProgressPayload) : Bool :=
  p.milestone.isSome && 1 < (db.events.filter
    (fun ev => ev.taskExecution = x && ev.stateVersion = p.stateVersion)).length

/-- Handling the message keeps what is left of terminal executions: it is no progress or round
    newer than a terminal row, no progress of a start command the center has timed out whose
    execution ended otherwise, and no result that is taken and says something else. -/
def undisturbedBy (db : CenterDb) : EdgeMessage → Bool
  | .commandProgress command _ =>
    (db.command? command).all fun c => !centerStartTimeout c ||
      (c.taskExecution.bind db.execution?).all fun e => e.state.isActive || timedOutAtCenter e
  | .commandResult command p =>
    (db.command? command).all fun c =>
      (c.taskExecution.bind db.execution?).all fun e => e.state.isActive ||
        resultRefused c.commandType p (resultMerged c p) e ||
        resultAgrees c.commandType p (resultMerged c p) e
  | .roundStarted x roundNumber stateVersion =>
    (db.execution? x).all fun e => e.state.isActive ||
      (roundNumber.getD e.roundNumber ≤ e.roundNumber &&
        stateVersion.getD e.stateVersion ≤ e.stateVersion)
  | .progress x p =>
    (db.execution? x).all fun e => e.state.isActive || p.stateVersion ≤ e.stateVersion ||
      progressRaises db x p
  | _ => true

theorem isActive_eq_false {s : ExecutionState} (h : s.isTerminal = true) : s.isActive = false :=
  (ExecutionState.isTerminal_iff s).mp h

theorem resultRefused_of_none {type : CommandType} {p : CommandResultPayload}
    {result : ResultPayload} {finishedAt : ℕ} {e : TaskExecution}
    (h : resultTransition type p result finishedAt e = none) :
    resultRefused type p result e = false := by
  have hfinal : ∀ {final}, finalTransition p result finishedAt e final = none →
      final = .known e.state := by
    intro final hf
    unfold finalTransition at hf
    split at hf
    · next heq => exact heq
    · exact absurd hf (by simp)
  unfold resultTransition at h
  unfold resultRefused
  cases hnamed : result.finalTaskState.filter (· ≠ .unknown "") with
  | some final =>
    rw [hnamed] at h
    simp [hfinal h]
  | none =>
    rw [hnamed] at h
    dsimp only at h ⊢
    split at h
    · cases type <;> dsimp only at h
      case taskPause | taskResume | taskRecover => simp
      all_goals
        have hstate := StateWord.known.inj (hfinal h)
        simp [hstate]
    · next hstatus =>
      rw [not_or] at hstatus
      simp [hstatus.1, hstatus.2]

theorem withProgressFields_eq {e : TaskExecution} {result : ResultPayload}
    (h : (withProgressFields e result).progressFields = e.progressFields) :
    withProgressFields e result = e := by
  simp only [TaskExecution.progressFields, withProgressFields, Prod.mk.injEq] at h
  obtain ⟨hindex, -, hcompleted, htotal, -⟩ := h
  unfold withProgressFields
  rw [hindex, hcompleted, htotal]

theorem writeProgressFields_same (db : CenterDb) (x : Uuid) (result : ResultPayload) :
    SameStates db (db.writeProgressFields x result) := by
  unfold writeProgressFields
  split
  · exact .refl db
  · next e he =>
    have hid := execution?_id he
    exact .of_save (e := e) (withProgressFields e result) (hid ▸ he) rfl

theorem execution?_writeProgressFields (db : CenterDb) (id : Uuid) (result : ResultPayload)
    (x : Uuid) : (db.writeProgressFields id result).execution? x =
      if x = id then (db.execution? x).map (fun e => withProgressFields e result)
      else db.execution? x := by
  unfold writeProgressFields
  split
  · next hnone =>
    by_cases hx : x = id
    · rw [if_pos hx, hx, hnone, Option.map_none]
    · rw [if_neg hx]
  · next e he =>
    have hid : (withProgressFields e result).id = id := (execution?_id he : e.id = id)
    rw [execution?_saveExecution, hid]
    by_cases hx : x = id
    · rw [if_pos hx, if_pos hx, hx, he, Option.map_some, Option.map_some]
    · rw [if_neg hx, if_neg hx]

theorem writeProgressFields_rows {db : CenterDb} {id : Uuid} {result : ResultPayload}
    (h : ∀ e, db.execution? id = some e → e.state.isTerminal = true →
      withProgressFields e result = e) : RowsKept db (db.writeProgressFields id result) := by
  intro x e he hterminal
  rw [execution?_writeProgressFields]
  by_cases hx : x = id
  · subst hx
    rw [if_pos rfl, he, Option.map_some, h e he hterminal]
  · rw [if_neg hx]
    exact he

theorem handleProgress_raises {db : CenterDb} {message x : Uuid} {e : TaskExecution} {p : ProgressPayload}
    (he : db.execution? x = some e) (hnew : ¬ p.stateVersion ≤ e.stateVersion)
    (hraises : progressRaises db x p = true) :
    db.handleProgress message e p = .error .multipleObjects := by
  have hid := execution?_id he
  simp only [progressRaises, Bool.and_eq_true, decide_eq_true_eq] at hraises
  obtain ⟨hm, hrows⟩ := hraises
  obtain ⟨m, hm⟩ := Option.isSome_iff_exists.mp hm
  have happly : db.applyProgress e p =
      (db.saveExecution (e.progressed p db.now), e.progressed p db.now) := if_neg hnew
  unfold handleProgress
  rw [happly, hm]
  dsimp only
  rw [if_neg (not_not_intro (show (e.progressed p db.now).stateVersion = p.stateVersion from rfl))]
  unfold getOrCreateEvent
  have hsame : (db.saveExecution (e.progressed p db.now)).events.filter (fun ev =>
      ev.taskExecution = (e.progressed p db.now).id &&
        ev.stateVersion = (e.progressed p db.now).stateVersion) =
      db.events.filter (fun ev => ev.taskExecution = x && ev.stateVersion = p.stateVersion) := by
    rw [← hid]
    rfl
  rw [hsame]
  split
  · next hnone => simp [hnone] at hrows
  · next hone => simp [hone] at hrows
  · rfl

section Handlers

variable {db db' : CenterDb} (hv : db.Valid) (hf : ∀ x, StartFollows db x)

/-- What is left of terminal executions is the same. -/
def Absorbed (db db' : CenterDb) : Prop := TerminalRowsKept db db' ∧ ∀ x, StartFollows db' x

include hf

theorem Absorbed.refl : Absorbed db db := ⟨(RowsKept.refl db).kept, hf⟩

theorem Absorbed.of_transition {id : Uuid}
    {target : ExecutionState} {args : TransitionArgs} (h : db.transition id target args = .ok db') :
    Absorbed db db' :=
  ⟨(RowsKept.of_transition h).kept, fun x => .transition h (fun _ => hf x)⟩

theorem Absorbed.of_same (hrows : RowsKept db db') (hsame : SameStates db db') : Absorbed db db' :=
  ⟨hrows.kept, fun x => (hf x).same hsame⟩

theorem handleProgress_absorbed {message x : Uuid} {e : TaskExecution} {p : ProgressPayload}
    (he : db.execution? x = some e) (hu : undisturbedBy db (.progress x p) = true)
    (h : db.handleProgress message e p = .ok db') : Absorbed db db' := by
  have hid := execution?_id he
  have hsaved : SameStates db (db.applyProgress e p).1 ∧ RowsKept db (db.applyProgress e p).1 := by
    unfold applyProgress
    split
    · exact ⟨.refl db, .refl db⟩
    · next hnew =>
      refine ⟨.of_save (e := e) _ (hid.symm ▸ he) rfl, .of_save (fun e' he' hterminal => ?_)⟩
      have he'' : db.execution? e.id = some e' := he'
      rw [hid] at he''
      obtain rfl := Option.some.inj (he.symm.trans he'')
      -- newer progress for a terminal row is let through only where it raises
      have hraises : progressRaises db x p = true := by
        simpa [undisturbedBy, he, isActive_eq_false hterminal, hnew] using hu
      rw [handleProgress_raises he hnew hraises] at h
      exact absurd h (by simp)
  unfold handleProgress at h
  dsimp only at h
  split at h
  · obtain rfl := Except.ok.inj h
    exact .of_same hf hsaved.2 hsaved.1
  · split at h
    · obtain rfl := Except.ok.inj h
      exact .of_same hf hsaved.2 hsaved.1
    · exact .of_same hf (hsaved.2.trans (.of_getOrCreateEvent h))
        (hsaved.1.trans (.of_getOrCreateEvent h))

theorem handleRoundStarted_absorbed {x : Uuid} {e : TaskExecution} (he : db.execution? x = some e)
    {roundNumber : Option ℕ} {stateVersion : Option ℤ}
    (hu : undisturbedBy db (.roundStarted x roundNumber stateVersion) = true) :
    Absorbed db (db.handleRoundStarted e roundNumber stateVersion) := by
  have hid := execution?_id he
  have hsame : SameStates db (db.handleRoundStarted e roundNumber stateVersion) :=
    .of_save (e := e) (roundStarted e roundNumber stateVersion) (hid.symm ▸ he) rfl
  refine .of_same hf (RowsKept.of_save (fun e' he' hterminal => ?_)) hsame
  have he'' : db.execution? e.id = some e' := he'
  rw [hid] at he''
  obtain rfl := Option.some.inj (he.symm.trans he'')
  simp [undisturbedBy, he, isActive_eq_false hterminal] at hu
  unfold roundStarted
  rw [max_eq_left hu.1, max_eq_left hu.2]

theorem handleSync_absorbed {p : SyncPayload} {response : SyncResponse}
    (h : db.handleSync p = .ok (db', response)) : Absorbed db db' := by
  unfold handleSync at h
  split at h
  · obtain ⟨rfl, -⟩ := Prod.mk.inj (Except.ok.inj h)
    exact .refl hf
  · split at h
    · exact absurd h (by simp)
    · next mid outcome hmid =>
      obtain ⟨rfl, -⟩ := Prod.mk.inj (Except.ok.inj h)
      cases syncReconcile_ok hmid with
      | unchanged => exact .refl hf
      | repaired _ _ hrepair =>
        exact ⟨.of_repair hrepair, fun x => .repair hrepair (fun _ => hf x)⟩
      | followed _ _ _ _ _ _ _ hmove => exact .of_transition hf hmove

include hv

/-- A command is rewritten and its execution `e` moved: whatever becomes of the command, the
    transition brings the start commands of `e` in step. -/
theorem Absorbed.command_moved {command : Uuid} {g : RemoteCommand → RemoteCommand}
    (hg : KeepsCommand g) {c : RemoteCommand} {e : TaskExecution}
    (hc : db.command? command = some c) (he : c.taskExecution.bind db.execution? = some e)
    {target : ExecutionState} {args : TransitionArgs}
    (h : (db.updateCommand command g).transition e.id target args = .ok db') :
    Absorbed db db' := by
  obtain ⟨hx, -⟩ := execution?_of_bind he
  refine ⟨((RowsKept.of_executions rfl).trans (.of_transition h)).kept, fun x => ?_⟩
  refine .transition h (fun hne => (hf x).updateCommand hv command hg ?_)
  intro c' e' status hc' _ hcx
  obtain rfl := Option.some.inj (hc.symm.trans hc')
  exact absurd (Option.some.inj (hcx.symm.trans hx)) hne

theorem Absorbed.command_repaired {command : Uuid} {g : RemoteCommand → RemoteCommand}
    (hg : KeepsCommand g) {c : RemoteCommand} {e : TaskExecution}
    (hc : db.command? command = some c) (he : c.taskExecution.bind db.execution? = some e)
    {target : ExecutionState} {version : ℤ} {code text : String}
    (h : (db.updateCommand command g).reconcileEdgeActiveAfterCenterTimeout e.id target version
      code text = .ok db') : Absorbed db db' := by
  obtain ⟨hx, -⟩ := execution?_of_bind he
  have hmark : RowsKept db (db.updateCommand command g) := .of_executions rfl
  refine ⟨hmark.then (.of_repair h), fun x => ?_⟩
  refine .repair h (fun hne => (hf x).updateCommand hv command hg ?_)
  intro c' e' status hc' _ hcx
  obtain rfl := Option.some.inj (hc.symm.trans hc')
  exact absurd (Option.some.inj (hcx.symm.trans hx)) hne

theorem handleCommandAck_absorbed {command : Uuid} {p : AckPayload}
    (h : db.handleCommandAck command p = .ok db') : Absorbed db db' := by
  have hg := acknowledged_keeps p db.now
  cases handleCommandAck_ok h with
  | ignored => exact .refl hf
  | marked c hc hnone =>
    refine ⟨(RowsKept.of_executions rfl).kept, fun x => (hf x).updateCommand hv command hg ?_⟩
    intro c' e status hc' hstart hcx he
    obtain rfl := Option.some.inj (hc.symm.trans hc')
    have hbind := hnone hstart
    rw [hcx, Option.bind_some, he] at hbind
    exact absurd hbind (by simp)
  | repaired c e hc _ he _ _ _ _ hrepair => exact .command_repaired hv hf hg hc he hrepair
  | moved c e hc _ he _ _ hmove => exact .command_moved hv hf hg hc he hmove

theorem handleCommandProgress_absorbed {command : Uuid} {p : CommandProgressPayload}
    (hu : undisturbedBy db (.commandProgress command p) = true)
    (h : db.handleCommandProgress command p = .ok db') : Absorbed db db' := by
  have hg := progressed_keeps p db.now
  cases handleCommandProgress_ok h with
  | ignored => exact .refl hf
  | marked c hc hopen hexecution =>
    refine ⟨(RowsKept.of_executions rfl).kept, fun x => (hf x).updateCommand hv command hg ?_⟩
    intro c' e status hc' hstart hcx he hstatus
    obtain rfl := Option.some.inj (hc.symm.trans hc')
    have hbind : c.taskExecution.bind db.execution? = some e := by
      rw [hcx, Option.bind_some, he]
    have hcstatus : c.status = status :=
      hf x e he status hstatus c (Rows.get?_mem _ hc) hcx hstart
    -- a start command in step is closed, so it was the center that timed it out
    have htimeout : centerStartTimeout c = true := by
      rcases hopen with hopen | htimeout
      · rw [hcstatus, executionCommandStatus_settled hstatus] at hopen
        exact absurd hopen (by simp)
      · exact htimeout
    have hactive : e.state.isActive = false := by
      by_contra hactive
      rw [executionCommandStatus_active (by simpa using hactive)] at hstatus
      exact absurd hstatus (by simp)
    have hnot := hexecution htimeout e hbind
    simp [undisturbedBy, hc, htimeout, hbind, hactive, hnot] at hu
  | repaired c e hc _ he _ _ _ hrepair => exact .command_repaired hv hf hg hc he hrepair

theorem handleCommandResult_absorbed {command : Uuid} {p : CommandResultPayload}
    (hu : undisturbedBy db (.commandResult command p) = true)
    (h : db.handleCommandResult command p = .ok db') : Absorbed db db' := by
  have hg := finished_keeps p db.now
  cases handleCommandResult_ok h with
  | orphan c hc hnone =>
    refine ⟨(RowsKept.of_executions rfl).kept, fun x => (hf x).updateCommand hv command hg ?_⟩
    intro c' e status hc' _ hcx he
    obtain rfl := Option.some.inj (hc.symm.trans hc')
    rw [hcx, Option.bind_some, he] at hnone
    exact absurd hnone (by simp)
  | kept c e hc he hnone =>
    obtain ⟨hx, hrow⟩ := execution?_of_bind he
    have hrefused := resultRefused_of_none hnone
    -- the result was taken, so where the execution is terminal it agrees with it
    have hagrees : e.state.isTerminal = true →
        resultAgrees c.commandType p (resultMerged c p) e = true := by
      intro hterminal
      simpa [undisturbedBy, hc, he, isActive_eq_false hterminal, hrefused] using hu
    have hfields : ∀ e', (db.updateCommand command (fun c => finished c p db.now)).execution? e.id =
        some e' → e'.state.isTerminal = true →
          withProgressFields e' (resultMerged c p) = e' := by
      intro e' he' hterminal
      obtain rfl := Option.some.inj (hrow.symm.trans he')
      have hag := hagrees hterminal
      simp only [resultAgrees, Bool.and_eq_true, decide_eq_true_eq] at hag
      exact withProgressFields_eq hag.1
    refine ⟨((RowsKept.of_executions rfl).trans (writeProgressFields_rows hfields)).kept,
      fun x => StartFollows.same ?_ (writeProgressFields_same ..)⟩
    refine (hf x).updateCommand hv command hg ?_
    intro c' e' status hc' hstart hcx he' hstatus
    obtain rfl := Option.some.inj (hc.symm.trans hc')
    have hxe : x = e.id := Option.some.inj (hcx.symm.trans hx)
    subst hxe
    obtain rfl := Option.some.inj (hrow.symm.trans he')
    have hterminal : e.state.isTerminal = true := by
      rw [← executionCommandStatus_isSome, hstatus]
      rfl
    have hag := hagrees hterminal
    simp only [resultAgrees, Bool.and_eq_true, decide_eq_true_eq, hstart, hstatus, ne_eq,
      not_true_eq_false, decide_false, Bool.false_or, Option.some.injEq] at hag
    exact hag.2.symm
  | moved c e target args hc he _ hmove =>
    obtain ⟨hx, hrow⟩ := execution?_of_bind he
    obtain ⟨-, hfollows⟩ := Absorbed.command_moved hv hf hg hc he hmove
    obtain ⟨locked, hlocked, hallowed, -, -⟩ := transition_ok hmove
    obtain rfl := Option.some.inj (hrow.symm.trans hlocked)
    have hactive := isActive_of_transitionAllowed hallowed
    refine ⟨fun x r hr hterminal => .inl ?_,
      fun x => (hfollows x).same (writeProgressFields_same ..)⟩
    -- the row that moved was active
    have hne : x ≠ e.id := by
      rintro rfl
      obtain rfl := Option.some.inj (hrow.symm.trans hr)
      rw [isActive_eq_false hterminal] at hactive
      exact absurd hactive (by simp)
    rw [execution?_writeProgressFields, if_neg hne]
    exact RowsKept.of_transition hmove x r hr hterminal

/-- **A handled message** that disturbs no terminal execution leaves them as they were. -/
theorem handle_absorbed {message : Uuid} {m : EdgeMessage} (hu : undisturbedBy db m = true)
    (h : db.handle message m = .ok db') : Absorbed db db' := by
  have hfound : ∀ {x : Uuid} {branch : TaskExecution → Except ServiceError CenterDb},
      db.withExecution x branch = .ok db' →
        ∃ e, db.execution? x = some e ∧ branch e = .ok db' := by
    intro x branch hb
    unfold withExecution at hb
    split at hb
    · exact absurd hb (by simp)
    · next e he => exact ⟨e, he, hb⟩
  cases m with
  | commandAck command p => exact handleCommandAck_absorbed hv hf h
  | commandProgress command p => exact handleCommandProgress_absorbed hv hf hu h
  | commandResult command p => exact handleCommandResult_absorbed hv hf hu h
  | obstacleStage x key occurredAt =>
    obtain ⟨e, he, hb⟩ := hfound h
    unfold handleObstacleStage at hb
    dsimp only at hb
    split at hb
    · obtain rfl := Except.ok.inj hb
      exact .of_same hf (.of_executions rfl) (.refl _)
    · exact .of_same hf (.of_createEvent hb) (.of_createEvent hb)
  | navigationStage x p | arrivalDegradedAccepted x p =>
    obtain ⟨e, he, hb⟩ := hfound h
    exact .of_same hf (.of_getOrCreateEvent hb) (.of_getOrCreateEvent hb)
  | safeHold x p =>
    obtain ⟨e, he, hb⟩ := hfound h
    rcases handleSafeHold_ok hb with rfl | ⟨args, -, hmove⟩
    · exact .refl hf
    · exact .of_transition hf hmove
  | roundStarted x n v =>
    obtain ⟨e, he, hb⟩ := hfound h
    obtain rfl := Except.ok.inj hb
    exact handleRoundStarted_absorbed hf he hu
  | progress x p =>
    obtain ⟨e, he, hb⟩ := hfound h
    exact handleProgress_absorbed hf he hu hb
  | taskState kind x p =>
    obtain ⟨e, he, hb⟩ := hfound h
    rcases handleTaskState_ok hb with rfl | ⟨s, args, -, -, hmove⟩
    · exact .refl hf
    · exact .of_transition hf hmove
  | syncRequest p =>
    unfold handle at h
    dsimp only at h
    split at h
    · exact absurd h (by simp)
    · next mid response hmid =>
      obtain rfl := Except.ok.inj h
      exact handleSync_absorbed hf hmid

theorem markTimeout_absorbed (command : Uuid) : Absorbed db (db.markTimeout command) := by
  have hg := markedTimedOut_keeps db.now
  have heffect := markTimeout_ok db command
  generalize db.markTimeout command = db' at heffect ⊢
  cases heffect with
  | ignored => exact .refl hf
  | reconciled e he =>
    refine ⟨(RowsKept.of_executions (reconcileTaskStart_executions db e)).kept, fun x => ?_⟩
    exact .reconcile he (fun _ => hf x)
  | marked c hc hstart =>
    refine ⟨(RowsKept.of_executions rfl).kept, fun x => (hf x).updateCommand hv command hg ?_⟩
    intro c' e status hc' hctype hcx he hstatus
    obtain rfl := Option.some.inj (hc.symm.trans hc')
    have hbind : c.taskExecution.bind db.execution? = some e := by
      rw [hcx, Option.bind_some, he]
    rw [hstart hctype e hbind] at hstatus
    exact absurd hstatus (by simp)
  | moved c e _ _ _ hc he _ hmove => exact .command_moved hv hf hg hc he hmove

end Handlers

/-! ## The other inputs -/

theorem StartFollows.forceExitAll {ids : List Uuid} :
    ∀ {db db' : CenterDb}, (∀ x, StartFollows db x) → db.forceExitAll ids = .ok db' →
      ∀ x, StartFollows db' x := by
  induction ids with
  | nil =>
    intro db db' hf h
    obtain rfl := Except.ok.inj h
    exact hf
  | cons id ids ih =>
    intro db db' hf h
    unfold CenterDb.forceExitAll at h
    split at h
    · exact absurd h (by simp)
    · next mid hmid => exact ih (fun x => .transition hmid (fun _ => hf x)) h

theorem createCommand_absorbed {db db' : CenterDb} (hv : db.Valid) (hf : ∀ x, StartFollows db x)
    {id : Uuid} {type : CommandType} {options : CommandOptions} {c : RemoteCommand}
    (h : db.createCommand id type options = .ok (db', c)) : Absorbed db db' := by
  refine ⟨(createCommand_valid hv h).2.terminal_eq |> RowsKept.kept, fun x => ?_⟩
  obtain ⟨e, target, he, -, -, -, hmove⟩ := createCommand_ok h
  dsimp only at hmove
  split at hmove
  · next htype =>
    refine StartFollows.forceExitAll (fun x => (hf x).insertCommand (.inl ?_) _ _) hmove x
    rw [htype]
    decide
  · refine .transition hmove (fun hne => (hf x).insertCommand (.inr ?_) _ _)
    intro heq
    exact hne (Option.some.inj heq).symm

theorem createExecution_absorbed {db db' : CenterDb} (hv : db.Valid)
    (hf : ∀ x, StartFollows db x) {task : PatrolTask} {loopSessionId : Option Uuid}
    {roundNumber : ℕ} {routeSnapshot : Option RouteSnapshot} {source : String} {e : TaskExecution}
    (h : db.createExecution task loopSessionId roundNumber routeSnapshot source = .ok (db', e)) :
    Absorbed db db' := by
  refine ⟨RowsKept.kept (createExecution_valid hv h).2.1.terminal_eq, fun x => ?_⟩
  obtain ⟨-, hstate, -, -, -, -, -, -, ev, -, -, -, rfl⟩ := createExecution_ok h
  intro e' he' status hstatus c hc hcx hctype
  unfold execution? at he'
  rw [Rows.get?_append, Option.or_eq_some_iff] at he'
  rcases he' with hold | ⟨-, hnew⟩
  · exact hf x e' hold status hstatus c hc hcx hctype
  · rw [Rows.get?_cons] at hnew
    split at hnew
    · obtain rfl := Option.some.inj hnew
      rw [hstate] at hstatus
      exact absurd hstatus (by simp [executionCommandStatus])
    · exact absurd hnew (by simp)

theorem createTaskRecovery_absorbed {db : CenterDb} (hf : ∀ x, StartFollows db x)
    (e : TaskExecution) (episode : Uuid) (attempt : ℕ) (code text : String) :
    Absorbed db (db.createTaskRecovery e episode attempt code text).1 := by
  unfold createTaskRecovery
  split
  · exact .refl hf
  · exact ⟨(RowsKept.of_executions rfl).kept,
      fun x => (hf x).insertCommand (.inl (by decide)) _ _⟩

/-- The command is no start command of an execution in a terminal state other than `allowed`. -/
def startOpen (db : CenterDb) (command : Uuid) (allowed : ExecutionState → Bool) : Bool :=
  (db.command? command).all fun c => c.commandType ≠ .taskStart ||
    (c.taskExecution.bind db.execution?).all fun e => e.state.isActive || allowed e.state

/-- Setting the status of a command keeps the start commands in step, if it is no start command of
    a terminal execution or the status is the one assigned. -/
theorem setStatus_absorbed {db : CenterDb} (hv : db.Valid) (hf : ∀ x, StartFollows db x)
    {command : Uuid} {g : RemoteCommand → RemoteCommand} (hg : KeepsCommand g)
    {allowed : ExecutionState → Bool} (hopen : db.startOpen command allowed = true)
    (hstatus : ∀ c s status, allowed s = true → executionCommandStatus s = some status →
      (g c).status = status) : Absorbed db (db.updateCommand command g) := by
  refine ⟨(RowsKept.of_executions rfl).kept, fun x => (hf x).updateCommand hv command hg ?_⟩
  intro c e status hc hstart hcx he hassigned
  have hbind : c.taskExecution.bind db.execution? = some e := by
    rw [hcx, Option.bind_some, he]
  have hactive : e.state.isActive = false := by
    by_contra hactive
    rw [executionCommandStatus_active (by simpa using hactive)] at hassigned
    exact absurd hassigned (by simp)
  simp [startOpen, hc, hstart, hbind, hactive] at hopen
  exact hstatus c e.state status hopen hassigned

end CenterDb

namespace CenterSystem

/-- The input disturbs no terminal execution: no mark of the publisher comes after the execution of
    a start command has ended, and no message disturbs one. -/
def undisturbed (s : CenterSystem) : CenterInput → Bool
  | .published command =>
    command ∉ s.publishing || s.db.startOpen command (fun _ => false)
  | .publishFailed command _ =>
    command ∉ s.publishing || s.db.startOpen command (fun state => state = .failed)
  | .receive message m => message ∈ s.db.processedMessages || s.db.undisturbedBy m
  | _ => true

/-- A step keeps every terminal row (but for the repair of a center-only timeout), and leaves every
    start command of a terminal execution with the status its state assigns. -/
def AbsorbsTerminal (s : CenterSystem) (i : CenterInput) : Prop :=
  s.db.Absorbed (s.step i).db

theorem step_absorbs {s : CenterSystem} (hv : s.db.Valid) (hf : ∀ x, s.db.StartFollows x)
    (i : CenterInput) (hu : s.undisturbed i = true) : AbsorbsTerminal s i := by
  unfold AbsorbsTerminal
  cases i with
  | advance _ | telemetry _ _ _ =>
    exact .of_same hf (.of_executions rfl) ⟨rfl, fun _ => rfl⟩
  | createExecution task loopSessionId roundNumber routeSnapshot executionSource =>
    dsimp only [step]
    split
    · next h => exact CenterDb.createExecution_absorbed hv hf h
    · exact .refl hf
  | request execution type options =>
    dsimp only [step]
    split
    · next h => exact CenterDb.createCommand_absorbed hv hf h
    · exact .refl hf
  | recover execution episode attempt code text =>
    dsimp only [step]
    split
    · exact .refl hf
    · exact CenterDb.createTaskRecovery_absorbed hf ..
  | collectPending => exact .refl hf
  | published command =>
    dsimp only [step]
    split
    · next hmem =>
      have hopen : s.db.startOpen command (fun _ => false) = true := by
        simpa [undisturbed, hmem] using hu
      exact CenterDb.setStatus_absorbed hv hf (fun _ => ⟨rfl, rfl, rfl, rfl⟩) hopen
        (fun _ _ _ hallowed => absurd hallowed (by simp))
    · exact .refl hf
  | publishFailed command text =>
    dsimp only [step]
    split
    · next hmem =>
      have hopen : s.db.startOpen command (fun state => state = .failed) = true := by
        simpa [undisturbed, hmem] using hu
      refine CenterDb.setStatus_absorbed hv hf (fun _ => ⟨rfl, rfl, rfl, rfl⟩) hopen ?_
      intro c state status hallowed hassigned
      rw [of_decide_eq_true hallowed] at hassigned
      exact Option.some.inj hassigned
    · exact .refl hf
  | sweep command =>
    dsimp only [step]
    split
    · exact CenterDb.markTimeout_absorbed hv hf command
    · exact .refl hf
  | receive message m =>
    dsimp only [step]
    rcases CenterDb.receive_cases s.db message m with hsame | ⟨hnew, hhandled⟩
    · rw [hsame]
      exact .refl hf
    · have hm : s.db.undisturbedBy m = true := by
        simpa [undisturbed, hnew] using hu
      have habsorbed : (s.db.recorded message).Absorbed (s.db.receive message m) :=
        CenterDb.handle_absorbed (hv.recorded message) hf hm hhandled
      exact habsorbed

/-- **Terminal executions absorb, and their start command follows**, in every run none of whose
    steps disturbs a terminal execution. -/
theorem terminal_absorbs (robot : Robot) {inputs : List CenterInput}
    (h : Run.Always step (fun s i => s.undisturbed i = true) (initial robot) inputs) :
    Run.Always step AbsorbsTerminal (initial robot) inputs := by
  refine Run.always_of_guarded
    (fun s : CenterSystem => s.db.Valid ∧ ∀ x, s.db.StartFollows x) ?_ ?_ ?_ h
  · rintro s i ⟨hv, hf⟩ hu
    exact ⟨(step_keeps hv i).1, (step_absorbs hv hf i hu).2⟩
  · rintro s i ⟨hv, hf⟩ hu
    exact step_absorbs hv hf i hu
  · refine ⟨initial_valid robot, fun x e he => ?_⟩
    exact absurd he (by simp [initial, CenterDb.execution?])

/-- A patrol the operator forces out of, with stale progress and a late acknowledgement after it. -/
def forcedExit : List CenterInput :=
  [.createExecution corridorTask none 1 none "",
   .request 0 .taskStart {},
   .receive 10 (.commandAck 1 { accepted := true, edgeStateVersion := some 2 }),
   .receive 11 (.taskState .started 0 { state := .known .running, stateVersion := 3 }),
   .request 0 .taskForceExit {},
   .receive 12 (.progress 0 { stateVersion := 3, completedWaypoints := 1 }),
   .receive 13 (.commandAck 1 { accepted := true, edgeStateVersion := some 2 })]

theorem terminal_absorbs_forcedExit :
    Run.Always step AbsorbsTerminal (initial { id := 1 }) forcedExit :=
  terminal_absorbs { id := 1 } (by decide)

/-- The progress the robot reported before the force exit reached it: its version is ahead of the
    one the force exit gave the row. -/
def lateProgress : CenterInput := .receive 14 (.progress 0 { stateVersion := 5, completedWaypoints := 1 })

/-- That progress changes the row of the cancelled execution. -/
theorem not_terminal_absorbs_lateProgress :
    ¬ Run.Always step AbsorbsTerminal (initial { id := 1 }) (forcedExit ++ [lateProgress]) := by
  rw [Run.always_append]
  rintro ⟨-, ⟨hrows, -⟩, -⟩
  have hbefore : ((Run.exec step (initial { id := 1 }) forcedExit).db.execution? 0).map
      (fun e => (e.state, e.stateVersion)) = some (.cancelled, 4) := by decide
  have hafter : (((Run.exec step (initial { id := 1 }) forcedExit).step
      lateProgress).db.execution? 0).map TaskExecution.stateVersion = some 5 := by decide
  obtain ⟨e, he, heq⟩ := Option.map_eq_some_iff.mp hbefore
  obtain ⟨hstate, hversion⟩ := Prod.mk.inj heq
  rcases hrows 0 e he (by rw [hstate]; rfl) with hsame | ⟨htimedOut, -⟩
  · rw [hsame, Option.map_some, hversion] at hafter
    exact absurd hafter (by decide)
  · unfold CenterDb.timedOutAtCenter at htimedOut
    rw [hstate] at htimedOut
    exact absurd htimedOut (by simp)

end CenterSystem

end RoamerX
