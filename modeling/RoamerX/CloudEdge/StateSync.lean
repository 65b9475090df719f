import RoamerX.Center.System
import RoamerX.Edge.TaskExecutor

set_option autoImplicit false

/-! # Synchronisation of the task state

One exchange between the two sides: the Edge publishes a `sync.request` that names its task, the
center handles it and responds, and the Edge reconciles its context with the response. The center
follows the Edge where the Edge is ahead of it and the transition table has the move, or where it
gave up on the Edge itself; otherwise the Edge is told to hold, and nothing moves. -/

namespace RoamerX

open CenterDb

/-! ## What the center makes of a request -/

namespace CenterDb

/-- `_handle_sync` follows the reported active state: it repairs its own timeout, or the report is
    newer and the transition table has the move. -/
def followable (e : TaskExecution) (reported : ExecutionState) (version : ℤ) : Bool :=
  (timedOutAtCenter e && reported ≠ .created && reported ≠ .dispatching) ||
    (e.stateVersion < version && transitionAllowed e.state reported)

section Reconcile

variable {db : CenterDb} {e : TaskExecution} {p : SyncPayload} {reported : ExecutionState}

theorem syncReconcile_follows (hv : db.Valid) (he : db.execution? e.id = some e)
    (hactive : e.state.isActive = true) (hp : p.localTaskState = .known reported)
    (hreported : reported.isActive = true) (hne : reported ≠ e.state)
    (hf : followable e reported p.localTaskStateVersion = true) :
    ∃ db' outcome e', db.syncReconcile e p = .ok (db', outcome) ∧ outcome ≠ .unchanged ∧
      db'.execution? e.id = some e' ∧ e'.state = reported := by
  unfold syncReconcile
  rw [hp]
  dsimp only
  by_cases htimedOut : timedOutAtCenter e = true ∧ reported ≠ .created ∧ reported ≠ .dispatching
  · -- the repair is tried first, whatever version is reported
    obtain ⟨hto, hcreated, hdispatching⟩ := htimedOut
    obtain ⟨db', hrepair⟩ := repair_succeeds hv he hactive hto hreported hcreated hdispatching
      p.localTaskStateVersion p.localTaskReasonCode p.localTaskReasonMessage
    obtain ⟨locked, saved, ev, hlocked, -, -, hid, hstate, -, -, -, -, -, rfl⟩ := repair_ok hrepair
    obtain rfl : e = locked := Option.some.inj (he.symm.trans hlocked)
    rw [if_pos ⟨hto, hreported, hcreated, hdispatching, hne⟩, hrepair]
    refine ⟨_, _, saved, rfl, by decide, ?_, hstate⟩
    rw [execution?_repaired, if_pos hid.symm, he, Option.map_some]
  · have hnewer : e.stateVersion < p.localTaskStateVersion ∧
        transitionAllowed e.state reported = true := by
      simp only [followable, Bool.or_eq_true, Bool.and_eq_true, decide_eq_true_eq, ne_eq] at hf
      rcases hf with ⟨⟨hto, hcreated⟩, hdispatching⟩ | hnewer
      · exact absurd ⟨hto, hcreated, hdispatching⟩ htimedOut
      · exact hnewer
    obtain ⟨hversion, hallowed⟩ := hnewer
    have hmove : ∀ args : TransitionArgs, args.stateVersion = some p.localTaskStateVersion →
        args.messageId = none → ∃ db' e', db.transition e.id reported args = .ok db' ∧
          db'.execution? e.id = some e' ∧ e'.state = reported := by
      intro args hargs hmessage
      have hnext : e.stateVersion < args.stateVersion.getD (e.stateVersion + 1) := by
        rw [hargs]
        exact hversion
      have hread : (db.afterTransition e reported args).execution? e.id =
          some (e.transitioned reported (args.stateVersion.getD (e.stateVersion + 1)) args
            db.now) := by
        rw [execution?_afterTransition, if_pos rfl, he, Option.map_some]
      exact ⟨_, _, transition_succeeds he hallowed hnext (hv.no_collision (e := e) he hnext)
        hmessage, hread, rfl⟩
    rw [if_neg (by tauto)]
    dsimp only
    rw [if_pos ⟨hactive, hne, hversion⟩]
    obtain ⟨db', e', hok, he', hstate⟩ := hmove
      { eventType :=
          if reported.isTerminal then .syncTerminalReconciled else .syncStateReconciled
        stateVersion := some p.localTaskStateVersion
        reasonCode := (syncReason reported p).1
        reasonMessage := (syncReason reported p).2 } rfl rfl
    rw [hok]
    refine ⟨_, _, e', rfl, ?_, he', hstate⟩
    split <;> decide

theorem syncReconcile_refuses (he : db.execution? e.id = some e)
    (hp : p.localTaskState = .known reported)
    (hf : reported = e.state ∨ followable e reported p.localTaskStateVersion = false) :
    db.syncReconcile e p = .ok (db, .unchanged) := by
  unfold syncReconcile
  rw [hp]
  dsimp only
  rw [if_neg]
  · dsimp only
    split
    · next hnewer =>
      obtain ⟨-, hne, hversion⟩ := hnewer
      have hforbidden : transitionAllowed e.state reported = false := by
        have hf := hf.resolve_left hne
        simp only [followable, Bool.or_eq_false_iff, Bool.and_eq_false_iff] at hf
        exact hf.2.resolve_left (by simpa using hversion)
      unfold transition
      rw [he]
      dsimp only
      rw [if_pos hforbidden]
      rfl
    · rfl
  · rintro ⟨hto, -, hcreated, hdispatching, hne⟩
    have hf := hf.resolve_left hne
    simp [followable, hto, hcreated, hdispatching] at hf

end Reconcile

end CenterDb

/-! ## The exchange -/

/-- What one exchange leaves on both sides, and the action the center responded with. -/
structure SyncExchange where
  center : CenterDb
  action : SyncAction
  edge : Option TaskContext

namespace SyncExchange

/-- A `sync.request` about `context`, handled by the center, and its response, handled by the
    Edge. -/
def exchange (db : CenterDb) (message : Uuid) (context : Option TaskContext)
    (reasonCode reasonMessage : String) (stop : StopOutcome) : Except ServiceError SyncExchange :=
  match (db.recorded message).handleSync
      (TaskExecutor.syncRequest context reasonCode reasonMessage) with
  | .error err => .error err
  | .ok (db', response) =>
    .ok
      { center := db'
        action := response.action
        edge := (TaskExecutor.handleSyncResponse context response stop).context }

theorem receive_syncRequest {db : CenterDb} {message : Uuid} {context : Option TaskContext}
    {code text : String} {stop : StopOutcome} {r : SyncExchange}
    (hnew : message ∉ db.processedMessages) (h : exchange db message context code text stop = .ok r) :
    db.receive message (.syncRequest (TaskExecutor.syncRequest context code text)) = r.center := by
  unfold exchange at h
  split at h
  · exact absurd h (by simp)
  · next db' response hsync =>
    obtain rfl := Except.ok.inj h
    refine receive_handled hnew ?_
    show (match (db.recorded message).handleSync
        (TaskExecutor.syncRequest context code text) with
      | .error err => .error err
      | .ok (db', _) => .ok db') = Except.ok db'
    rw [hsync]

/-- Both sides have the same state of `x`, or the Edge runs no task of it. -/
def InStep (r : SyncExchange) (x : Uuid) : Prop :=
  ∀ c, r.edge = some c → c.taskExecutionId = x → c.state.isActive = true →
    (r.center.execution? x).map TaskExecution.state = some c.state

/-- The exchange moved nothing: the next one is the same again. -/
def Stalled (r : SyncExchange) (db : CenterDb) (message : Uuid) (c : TaskContext) : Prop :=
  r.center = db.recorded message ∧ r.action = .hold ∧ r.edge = some c

section Exchange

variable {db : CenterDb} {e : TaskExecution} {c : TaskContext}

theorem handleSyncResponse_keeps (response : SyncResponse) (stop : StopOutcome)
    (haction : response.action ≠ .cancel)
    (hactive : ∀ s, response.expectedTaskState = some s → s.isActive = true) :
    ∃ c', (TaskExecutor.handleSyncResponse (some c) response stop).context = some c' ∧
      c'.state = c.state ∧ c'.taskExecutionId = c.taskExecutionId := by
  have hadopted : ∃ c', TaskExecutor.reconcileCenterStateVersion (some c) response.taskExecutionId
      response.expectedTaskState response.expectedStateVersion = some c' ∧
        c'.state = c.state ∧ c'.taskExecutionId = c.taskExecutionId := by
    refine ⟨_, rfl, ?_⟩
    dsimp only
    split <;> exact ⟨rfl, rfl⟩
  obtain ⟨c', hc', hsame⟩ := hadopted
  refine ⟨c', ?_, hsame⟩
  unfold TaskExecutor.handleSyncResponse
  rw [hc']
  split
  · next h => exact absurd h haction
  · -- `hold` ends the context only for a terminal state
    unfold TaskExecutor.reconcileCenterState
    dsimp only
    rw [if_neg]
    rintro ⟨-, hterminal⟩
    obtain ⟨s, hs, hterm⟩ := (Option.any_eq_true _ _).mp hterminal
    rw [ExecutionState.isTerminal, hactive s hs] at hterm
    exact absurd hterm (by decide)
  · rfl
  · rfl

theorem exchange_inStep (hv : db.Valid) (he : db.execution? e.id = some e)
    (hactive : e.state.isActive = true) (hc : c.taskExecutionId = e.id)
    (hcactive : c.state.isActive = true)
    (hf : c.state = e.state ∨ followable e c.state c.stateVersion = true) (message : Uuid)
    (code text : String) (stop : StopOutcome) :
    ∃ r, exchange db message (some c) code text stop = .ok r ∧ r.InStep e.id := by
  let p := TaskExecutor.syncRequest (some c) code text
  have hreconciled : ∃ db' outcome e', (db.recorded message).syncReconcile e p = .ok (db', outcome) ∧
      db'.execution? e.id = some e' ∧ e'.state = c.state ∧
      (syncResponse e' p outcome).action ≠ .cancel := by
    by_cases hsame : c.state = e.state
    · refine ⟨_, _, e, syncReconcile_refuses he rfl (.inl hsame), he, hsame.symm, ?_⟩
      simp [syncResponse, p, TaskExecutor.syncRequest, hsame]
    · obtain ⟨db', outcome, e', hok, hout, he', hstate⟩ := syncReconcile_follows
        (hv.recorded message) he hactive (p := p) rfl hcactive hsame (hf.resolve_left hsame)
      refine ⟨db', outcome, e', hok, he', hstate, ?_⟩
      simp [syncResponse, hout]
  obtain ⟨db', outcome, e', hok, he', hstate, haction⟩ := hreconciled
  have hhandled : (db.recorded message).handleSync p = .ok (db', syncResponse e' p outcome) := by
    have hread : p.currentTaskExecutionId.bind (db.recorded message).execution? = some e := by
      show (db.recorded message).execution? c.taskExecutionId = some e
      rw [hc]
      exact he
    rw [CenterDb.handleSync_eq hread hok, he', Option.getD_some]
  obtain ⟨c', hc', hsame, hid⟩ := handleSyncResponse_keeps (c := c) (syncResponse e' p outcome) stop
    haction (fun s hs => by
      obtain rfl := Option.some.inj hs
      rw [hstate]
      exact hcactive)
  refine ⟨{ center := db', action := (syncResponse e' p outcome).action, edge := some c' }, ?_, ?_⟩
  · unfold exchange
    rw [hhandled]
    dsimp only
    rw [hc']
  · intro c'' heq _ _
    obtain rfl := Option.some.inj heq
    show (db'.execution? e.id).map TaskExecution.state = some c'.state
    rw [he', Option.map_some, hstate, hsame]

theorem exchange_stalled (he : db.execution? e.id = some e) (hactive : e.state.isActive = true)
    (hcancelling : e.state ≠ .cancelling) (hc : c.taskExecutionId = e.id)
    (hne : c.state ≠ e.state) (hf : followable e c.state c.stateVersion = false) (message : Uuid)
    (code text : String) (stop : StopOutcome) :
    ∃ r, exchange db message (some c) code text stop = .ok r ∧ r.Stalled db message c := by
  let p := TaskExecutor.syncRequest (some c) code text
  have hhandled : (db.recorded message).handleSync p =
      .ok (db.recorded message, syncResponse e p .unchanged) := by
    have hread : p.currentTaskExecutionId.bind (db.recorded message).execution? = some e := by
      show (db.recorded message).execution? c.taskExecutionId = some e
      rw [hc]
      exact he
    have hknown : (db.recorded message).execution? e.id = some e := he
    have hrefused : (db.recorded message).syncReconcile e p = .ok (db.recorded message, .unchanged) :=
      syncReconcile_refuses he rfl (.inr hf)
    rw [CenterDb.handleSync_eq hread hrefused, hknown, Option.getD_some]
  have haction : (syncResponse e p .unchanged).action = .hold := by
    have hcancelled : e.state ≠ .cancelled := by
      intro h
      rw [h] at hactive
      exact absurd hactive (by decide)
    simp [syncResponse, p, TaskExecutor.syncRequest, hne, hcancelling, hcancelled]
  have hedge : (TaskExecutor.handleSyncResponse (some c) (syncResponse e p .unchanged) stop).context =
      some c := by
    have hadopted : TaskExecutor.reconcileCenterStateVersion (some c) (some e.id) (some e.state)
        e.stateVersion = some c := by
      unfold TaskExecutor.reconcileCenterStateVersion
      rw [Option.map_some, if_neg]
      rintro ⟨-, hstate, -⟩
      exact hne (Option.some.inj hstate)
    unfold TaskExecutor.handleSyncResponse
    rw [haction]
    show TaskExecutor.reconcileCenterState (TaskExecutor.reconcileCenterStateVersion (some c)
      (some e.id) (some e.state) e.stateVersion) (some e.id) (some e.state) = some c
    rw [hadopted]
    unfold TaskExecutor.reconcileCenterState
    rw [if_neg]
    rintro ⟨-, hterminal⟩
    simp [ExecutionState.isTerminal, hactive] at hterminal
  refine ⟨{ center := db.recorded message, action := .hold, edge := some c }, ?_, rfl, rfl, rfl⟩
  unfold exchange
  rw [hhandled]
  dsimp only
  rw [haction, hedge]

end Exchange

/-- **State synchronisation.** In every reachable center, about every active execution that is not
    being cancelled and every active context the Edge may have of it, an exchange is answered; it
    ends in step exactly when the states agree or the center can follow, and otherwise moves
    neither side. -/
theorem exchange_inStep_iff (robot : Robot) (inputs : List CenterInput) {x : Uuid}
    {e : TaskExecution}
    (he : (Run.exec CenterSystem.step (CenterSystem.initial robot) inputs).db.execution? x = some e)
    (hactive : e.state.isActive = true) (hcancelling : e.state ≠ .cancelling) {c : TaskContext}
    (hc : c.taskExecutionId = x) (hcactive : c.state.isActive = true) (message : Uuid)
    (code text : String) (stop : StopOutcome) :
    ∃ r, exchange (Run.exec CenterSystem.step (CenterSystem.initial robot) inputs).db message
        (some c) code text stop = .ok r ∧
      (r.InStep x ↔ c.state = e.state ∨ followable e c.state c.stateVersion = true) ∧
      (r.InStep x ∨
        r.Stalled (Run.exec CenterSystem.step (CenterSystem.initial robot) inputs).db message c) := by
  have hv := CenterSystem.exec_valid robot inputs
  generalize (Run.exec CenterSystem.step (CenterSystem.initial robot) inputs).db = db at he hv ⊢
  obtain rfl : e.id = x := execution?_id he
  by_cases hf : c.state = e.state ∨ followable e c.state c.stateVersion = true
  · obtain ⟨r, hr, hstep⟩ := exchange_inStep hv he hactive hc hcactive hf message code text stop
    exact ⟨r, hr, ⟨fun _ => hf, fun _ => hstep⟩, .inl hstep⟩
  · obtain ⟨hne, hnot⟩ := not_or.mp hf
    obtain ⟨r, hr, hstalled⟩ := exchange_stalled he hactive hcancelling hc hne
      (by simpa using hnot) message code text stop
    refine ⟨r, hr, ⟨fun hstep => ?_, fun h => absurd h hf⟩, .inr hstalled⟩
    obtain ⟨hcenter, -, hedge⟩ := hstalled
    have hstate := hstep c hedge hc hcactive
    rw [hcenter, show (db.recorded message).execution? e.id = some e from he] at hstate
    exact absurd (Option.some.inj hstate).symm hne

/-- The context of the Edge that drives the corridor. -/
def corridorContext (state : ExecutionState) (stateVersion : ℤ) : TaskContext where
  taskExecutionId := 0
  state := state
  stateVersion := stateVersion
  route := { waypoints := corridor.waypoints, initialWaypointIndex := 0 }
  currentWaypointIndex := 0
  startCommandId := 1
  loopExecution := false
  loopSessionId := none
  docking := {}
  roundNumber := 1
  loopTotal := 1
  loopBaseWaypoints := []

/-- A running patrol that the operator asks to pause. -/
def pauseRequested : List CenterInput :=
  [.createExecution corridorTask none 1 none "",
   .request 0 .taskStart {},
   .receive 10 (.commandAck 1 { accepted := true, edgeStateVersion := some 2 }),
   .receive 11 (.taskState .started 0 { state := .known .running, stateVersion := 3 }),
   .request 0 .taskPause {}]

theorem pauseRequested_state :
    ((Run.exec CenterSystem.step (CenterSystem.initial { id := 1 }) pauseRequested).db.execution?
      0).map (fun e => (e.id, e.state, e.stateVersion, timedOutAtCenter e)) =
        some (0, .pausing, 4, false) := by decide

/-- Once the Edge has paused, the exchange closes the gap. -/
theorem exchange_inStep_iff_pausedEdge :
    ∃ r, exchange (Run.exec CenterSystem.step (CenterSystem.initial { id := 1 }) pauseRequested).db
        12 (some (corridorContext .paused 5)) "" "" {} = .ok r ∧ r.InStep 0 := by
  obtain ⟨e, he, heq⟩ := Option.map_eq_some_iff.mp pauseRequested_state
  simp only [Prod.mk.injEq] at heq
  obtain ⟨-, hstate, hversion, -⟩ := heq
  have hc : (corridorContext .paused 5).taskExecutionId = 0 := rfl
  obtain ⟨r, hr, hiff, -⟩ := exchange_inStep_iff { id := 1 } pauseRequested he (by rw [hstate]; rfl)
    (by rw [hstate]; decide) hc rfl 12 "" "" {}
  refine ⟨r, hr, hiff.mpr (.inr ?_)⟩
  rw [followable, hstate, hversion]
  simp [corridorContext, transitionAllowed, allowedBase]

/-- An exchange about the context always ends in step. -/
def Converges (db : CenterDb) (c : TaskContext) : Prop :=
  ∀ message code text stop, ∃ r, exchange db message (some c) code text stop = .ok r ∧
    r.InStep c.taskExecutionId

/-- Until then it does not: the Edge still runs, at an older version than the request gave the
    center, and is told to hold. -/
theorem not_converges_staleEdge :
    ((Run.exec CenterSystem.step (CenterSystem.initial { id := 1 }) pauseRequested).db.execution?
      0).map TaskExecution.state = some .pausing ∧
    ¬ Converges (Run.exec CenterSystem.step (CenterSystem.initial { id := 1 }) pauseRequested).db
      (corridorContext .running 3) := by
  obtain ⟨e, he, heq⟩ := Option.map_eq_some_iff.mp pauseRequested_state
  simp only [Prod.mk.injEq] at heq
  obtain ⟨hid, hstate, hversion, htimedOut⟩ := heq
  refine ⟨by rw [he, Option.map_some, hstate], fun hconverges => ?_⟩
  rw [← hid] at he
  have hne : (corridorContext .running 3).state ≠ e.state := by
    rw [hstate]
    decide
  obtain ⟨r, hr, hcenter, -, hedge⟩ := exchange_stalled he (by rw [hstate]; rfl)
    (by rw [hstate]; decide) hid.symm hne (by simp [followable, htimedOut, hversion, corridorContext])
    12 "" "" {}
  obtain ⟨r', hr', hstep⟩ := hconverges 12 "" "" {}
  obtain rfl : r = r' := Except.ok.inj (hr.symm.trans hr')
  have hsame := hstep _ hedge rfl rfl
  rw [hcenter, show (corridorContext .running 3).taskExecutionId = e.id from hid.symm] at hsame
  have hsame : (some e).map TaskExecution.state = some ExecutionState.running := by
    rw [← he]
    exact hsame
  exact hne (Option.some.inj hsame).symm

end SyncExchange

end RoamerX
