import RoamerX.Center.Models
import RoamerX.Lib.Rows
import RoamerX.Lib.Run
import RoamerX.Protocol.Json
import Mathlib

set_option autoImplicit false

/-! # The task context across a restart

`save_task_context`, `load_active_task_context` and `clear_task_context` of `local_store.py`, and what
`TaskExecutor` makes of a loaded row when it starts. A JSON value and its text are not told apart. -/

namespace RoamerX

namespace ContextStore

/-! ## The context and its row -/

/-- `TaskContext`, with every field of the dataclass. -/
structure Context where
  taskExecutionId : Uuid
  state : ExecutionState
  stateVersion : ℤ
  routeSnapshot : List (String × Json)
  currentWaypointIndex : ℕ
  startCommandId : Uuid
  currentSegmentIndex : ℕ := 0
  recordRosbag : Bool := false
  loopExecution : Bool := false
  loopSessionId : String := ""
  continuousRosbag : Bool := false
  docking : Option (List (String × Json)) := none
  roundNumber : ℕ := 1
  loopTotal : ℕ := 1
  loopBaseWaypoints : Option (List Json) := none
  traceId : String := ""
  postArrivalWaypointIndex : Option ℕ := none
  postArrivalStage : String := ""
  arrivalSideEffectsStarted : Bool := false
  arrivalCoarseFallbackAccepted : Bool := false
  arrivalReapproachWaypointIndex : Option ℕ := none
  arrivalReapproachAttempts : ℕ := 0
  arrivalMicroAdjustTotalM : ℚ≥0 := 0
  arrivalMicroAdjustSteps : ℕ := 0
  arrivalMicroAdjustStartedAt : Option ℚ := none
  lastSafeHoldCode : String := ""
  lastSafeHoldMessage : String := ""

/-- A row of the table `task_context`. -/
structure Row where
  taskExecutionId : Uuid
  state : ExecutionState
  stateVersion : ℤ
  routeSnapshotJson : List (String × Json)
  currentWaypointIndex : ℕ
  startCommandId : Uuid
  recordRosbag : Bool
  loopExecution : Bool
  loopSessionId : String
  continuousRosbag : Bool
  postArrivalWaypointIndex : Option ℕ
  postArrivalStage : String
  arrivalSideEffectsStarted : Bool
  arrivalCoarseFallbackAccepted : Bool
  arrivalReapproachWaypointIndex : Option ℕ
  arrivalReapproachAttempts : ℕ
  arrivalMicroAdjustTotalM : ℚ≥0
  arrivalMicroAdjustSteps : ℕ
  arrivalMicroAdjustStartedAt : Option ℚ
  updatedAt : ℕ

/-- The values that `save_task_context` binds. -/
def Context.row (c : Context) (now : ℕ) : Row where
  taskExecutionId := c.taskExecutionId
  state := c.state
  stateVersion := c.stateVersion
  routeSnapshotJson := c.routeSnapshot
  currentWaypointIndex := c.currentWaypointIndex
  startCommandId := c.startCommandId
  recordRosbag := c.recordRosbag
  loopExecution := c.loopExecution
  loopSessionId := c.loopSessionId
  continuousRosbag := c.continuousRosbag
  postArrivalWaypointIndex := c.postArrivalWaypointIndex
  postArrivalStage := c.postArrivalStage
  arrivalSideEffectsStarted := c.arrivalSideEffectsStarted
  arrivalCoarseFallbackAccepted := c.arrivalCoarseFallbackAccepted
  arrivalReapproachWaypointIndex := c.arrivalReapproachWaypointIndex
  arrivalReapproachAttempts := max 0 c.arrivalReapproachAttempts
  arrivalMicroAdjustTotalM := max 0 c.arrivalMicroAdjustTotalM
  arrivalMicroAdjustSteps := max 0 c.arrivalMicroAdjustSteps
  arrivalMicroAdjustStartedAt := c.arrivalMicroAdjustStartedAt
  updatedAt := now

/-- `TaskContext(**raw)`: the fields that no column holds get their defaults. -/
def Row.context (r : Row) : Context where
  taskExecutionId := r.taskExecutionId
  state := r.state
  stateVersion := r.stateVersion
  routeSnapshot := r.routeSnapshotJson
  currentWaypointIndex := r.currentWaypointIndex
  startCommandId := r.startCommandId
  recordRosbag := r.recordRosbag
  loopExecution := r.loopExecution
  loopSessionId := r.loopSessionId
  continuousRosbag := r.continuousRosbag
  postArrivalWaypointIndex := r.postArrivalWaypointIndex
  postArrivalStage := r.postArrivalStage
  arrivalSideEffectsStarted := r.arrivalSideEffectsStarted
  arrivalCoarseFallbackAccepted := r.arrivalCoarseFallbackAccepted
  arrivalReapproachWaypointIndex := r.arrivalReapproachWaypointIndex
  arrivalReapproachAttempts := r.arrivalReapproachAttempts
  arrivalMicroAdjustTotalM := r.arrivalMicroAdjustTotalM
  arrivalMicroAdjustSteps := r.arrivalMicroAdjustSteps
  arrivalMicroAdjustStartedAt := r.arrivalMicroAdjustStartedAt

/-! ## The table -/

/-- `save_task_context`: a new row, or the row of the execution written over. -/
def saveTaskContext (rows : List Row) (c : Context) (now : ℕ) : List Row :=
  match Rows.get? Row.taskExecutionId rows c.taskExecutionId with
  | some _ => Rows.put Row.taskExecutionId rows (c.row now)
  | none => rows ++ [c.row now]

def clearTaskContext (rows : List Row) (execution : Uuid) (finalState : ExecutionState) (now : ℕ) :
    List Row :=
  Rows.modify Row.taskExecutionId rows execution (fun r =>
    { r with
      state := finalState
      updatedAt := now })

/-- `ORDER BY updated_at DESC LIMIT 1`. -/
def latest : List Row → Option Row
  | [] => none
  | r :: rows =>
    match latest rows with
    | some r' => if r'.updatedAt ≤ r.updatedAt then some r else some r'
    | none => some r

def loadActiveTaskContext (rows : List Row) : Option Context :=
  (latest (rows.filter (fun r => !r.state.isTerminal))).map Row.context

/-! ## The executor -/

/-- What `TaskExecutor` keeps of a task besides the context and restores from it. -/
structure Tracking where
  arrivalRetryCounts : List (ℕ × ℕ) := []
  arrivalReapproachIndex : Option ℕ := none
  lastTargetIndex : ℤ := -1
  lastReachedIndex : ℤ := -1

/-- The tracking that `__init__` restores. -/
def Context.tracking (c : Context) : Tracking where
  arrivalRetryCounts :=
    match c.arrivalReapproachWaypointIndex with
    | some index =>
      if 0 < c.arrivalReapproachAttempts then [(index, c.arrivalReapproachAttempts)] else []
    | none => []
  arrivalReapproachIndex := c.arrivalReapproachWaypointIndex
  lastTargetIndex := c.postArrivalWaypointIndex.elim (-1) (fun reached => max (-1) reached)
  lastReachedIndex :=
    if c.arrivalSideEffectsStarted then
      c.postArrivalWaypointIndex.elim (-1) (fun reached => max (-1) reached)
    else -1

/-- A loaded task that is not paused is interrupted. -/
def Context.interrupted (c : Context) : Context :=
  if c.state ≠ .paused then
    { c with
      state := .interrupted
      stateVersion := c.stateVersion + 1 }
  else c

structure Edge where
  rows : List Row := []
  context : Option Context := none
  tracking : Tracking := {}

namespace Edge

def persist (e : Edge) (now : ℕ) : Edge :=
  match e.context with
  | some c => { e with rows := saveTaskContext e.rows c now }
  | none => e

/-- `TaskExecutor.__init__` on the store that is there. -/
def restart (e : Edge) (now : ℕ) : Edge :=
  match loadActiveTaskContext e.rows with
  | none => { rows := e.rows }
  | some c =>
    let started : Edge :=
      { rows := e.rows
        context := some c.interrupted
        tracking := c.tracking }
    if c.state ≠ .paused then started.persist now else started

/-- What happens to the context, each under the executor's lock. -/
inductive Input
  /-- `prepare_task_start`, after the check that no task is active. -/
  | start (c : Context) (now : ℕ)
  /-- Any operation that changes the context of an execution and persists it. -/
  | change (c : Context) (tracking : Tracking) (now : ℕ)
  /-- `_fail`, `cancel_task` and the completion: the row is closed and the context stays. -/
  | finish (finalState : ExecutionState) (now : ℕ)
  /-- `reconcile_center_state` and `force_exit`: the row is closed and the context dropped. -/
  | drop (finalState : ExecutionState) (now : ℕ)
  /-- The process ends and starts anew. -/
  | restart (now : ℕ)

/-- The context, moved to a final state and persisted. -/
def finished (e : Edge) (c : Context) (finalState : ExecutionState) (now : ℕ) : Edge :=
  { e with
    rows := clearTaskContext
      (saveTaskContext e.rows
        { c with
          state := finalState
          stateVersion := c.stateVersion + 1 } now)
      c.taskExecutionId finalState now
    context := some
      { c with
        state := finalState
        stateVersion := c.stateVersion + 1 } }

def step (e : Edge) : Input → Edge
  | .start c now =>
    if e.context.any (fun c => !c.state.isTerminal) then e
    else persist { e with context := some c } now
  | .change c tracking now =>
    if e.context.any (fun old => decide (old.taskExecutionId = c.taskExecutionId)) then
      persist { e with
        context := some c
        tracking := tracking } now
    else e
  | .finish finalState now =>
    match e.context with
    | some c => if finalState.isTerminal then e.finished c finalState now else e
    | none => e
  | .drop finalState now =>
    match e.context with
    | some c =>
      if finalState.isTerminal then { e.finished c finalState now with context := none } else e
    | none => e
  | .restart now => e.restart now

end Edge

/-! ## Rows -/

theorem mem_saveTaskContext {rows : List Row} {c : Context} {now : ℕ} {r : Row}
    (h : r ∈ saveTaskContext rows c now) :
    r = c.row now ∨ (r ∈ rows ∧ r.taskExecutionId ≠ c.taskExecutionId) := by
  rw [saveTaskContext] at h
  split at h
  · exact Rows.mem_put Row.taskExecutionId h
  · next hnone =>
    have hother := (Rows.get?_eq_none Row.taskExecutionId).1 hnone
    rcases List.mem_append.1 h with hold | hnew
    · exact .inr ⟨hold, hother r hold⟩
    · exact .inl (List.mem_singleton.1 hnew)

theorem row_mem_saveTaskContext (rows : List Row) (c : Context) (now : ℕ) :
    c.row now ∈ saveTaskContext rows c now := by
  rw [saveTaskContext]
  split
  · next r hr =>
    have hput : Rows.get? Row.taskExecutionId (Rows.put Row.taskExecutionId rows (c.row now))
        c.taskExecutionId = some (c.row now) := Rows.get?_put_self Row.taskExecutionId hr
    exact Rows.get?_mem Row.taskExecutionId hput
  · exact List.mem_append_right _ List.mem_cons_self

theorem mem_clearTaskContext {rows : List Row} {execution : Uuid} {finalState : ExecutionState}
    {now : ℕ} {r : Row} (h : r ∈ clearTaskContext rows execution finalState now) :
    (r.taskExecutionId = execution ∧ r.state = finalState) ∨
      (r ∈ rows ∧ r.taskExecutionId ≠ execution) := by
  obtain ⟨x, hx, hr⟩ := List.mem_map.1 h
  by_cases hkey : x.taskExecutionId = execution
  · rw [if_pos hkey] at hr
    exact .inl (hr ▸ ⟨hkey, rfl⟩)
  · rw [if_neg hkey] at hr
    exact .inr (hr ▸ ⟨hx, hkey⟩)

theorem latest_mem {rows : List Row} {r : Row} (h : latest rows = some r) : r ∈ rows := by
  induction rows generalizing r with
  | nil => exact nomatch h
  | cons x rows ih =>
    rw [latest] at h
    split at h
    · next r' hr' =>
      split at h
      · exact Option.some.inj h ▸ List.mem_cons_self
      · exact List.mem_cons_of_mem _ (Option.some.inj h ▸ ih hr')
    · exact Option.some.inj h ▸ List.mem_cons_self

theorem latest_isSome {rows : List Row} {r : Row} (h : r ∈ rows) : ∃ r', latest rows = some r' := by
  cases rows with
  | nil => exact absurd h (by simp)
  | cons x rows =>
    rw [latest]
    split
    · split
      · exact ⟨_, rfl⟩
      · exact ⟨_, rfl⟩
    · exact ⟨_, rfl⟩

theorem row_of_load {rows : List Row} {c : Context} (h : loadActiveTaskContext rows = some c) :
    ∃ r ∈ rows, r.state.isTerminal = false ∧ c = r.context := by
  obtain ⟨r, hr, hc⟩ := Option.map_eq_some_iff.1 h
  obtain ⟨hmem, hactive⟩ := List.mem_filter.1 (latest_mem hr)
  exact ⟨r, hmem, by simpa using hactive, hc.symm⟩

theorem exists_load {rows : List Row} {r : Row} (h : r ∈ rows)
    (hactive : r.state.isTerminal = false) : ∃ c, loadActiveTaskContext rows = some c := by
  have hmem : r ∈ rows.filter (fun r => !r.state.isTerminal) :=
    List.mem_filter.2 ⟨h, by rw [hactive]; rfl⟩
  obtain ⟨r', hr'⟩ := latest_isSome hmem
  exact ⟨r'.context, by rw [loadActiveTaskContext, hr', Option.map_some]⟩

theorem interrupted_id (c : Context) : c.interrupted.taskExecutionId = c.taskExecutionId := by
  rw [Context.interrupted]
  split <;> rfl

/-! ## The row of the task that the executor has -/

/-- Every active row is that of the context, which is active itself. -/
def Edge.OwnsRows (e : Edge) : Prop :=
  ∀ r ∈ e.rows, r.state.isTerminal = false → ∃ c, e.context = some c ∧
    r.taskExecutionId = c.taskExecutionId ∧ c.state.isTerminal = false

namespace Edge

variable {e : Edge}

theorem ownsRows_persist {c : Context} (hcontext : e.context = some c)
    (hother : ∀ r ∈ e.rows, r.state.isTerminal = false → r.taskExecutionId = c.taskExecutionId)
    (now : ℕ) : (e.persist now).OwnsRows := by
  intro r hr hactive
  simp only [persist, hcontext] at hr ⊢
  rcases mem_saveTaskContext hr with hnew | ⟨hold, hne⟩
  · refine ⟨c, rfl, ?_, ?_⟩
    · rw [hnew]
      rfl
    · rw [hnew] at hactive
      exact hactive
  · exact absurd (hother r hold hactive) hne

theorem closed_finished (h : e.OwnsRows) {c : Context} (hcontext : e.context = some c)
    {finalState : ExecutionState} (hfinal : finalState.isTerminal = true) (now : ℕ) :
    ∀ r ∈ (e.finished c finalState now).rows, r.state.isTerminal = true := by
  intro r hr
  rcases mem_clearTaskContext hr with ⟨-, hstate⟩ | ⟨hsaved, hne⟩
  · rw [hstate, hfinal]
  · rcases mem_saveTaskContext hsaved with hnew | ⟨hold, -⟩
    · rw [hnew] at hne
      exact absurd rfl hne
    · cases hterminal : r.state.isTerminal with
      | true => rfl
      | false =>
        obtain ⟨c', hc', hid, -⟩ := h r hold hterminal
        rw [hcontext] at hc'
        exact absurd (Option.some.inj hc' ▸ hid) hne

theorem OwnsRows.step (h : e.OwnsRows) (i : Input) : (e.step i).OwnsRows := by
  cases i with
  | start c now =>
    rw [Edge.step]
    split
    · exact h
    · next hfree =>
      refine ownsRows_persist rfl (fun r hr hactive => ?_) now
      obtain ⟨c', hc', -, hlive⟩ := h r hr hactive
      exact absurd (by simp [hc', hlive]) hfree
  | change c tracking now =>
    rw [Edge.step]
    split
    · next hsame =>
      refine ownsRows_persist rfl (fun r hr hactive => ?_) now
      obtain ⟨c', hc', hid, -⟩ := h r hr hactive
      rw [hc'] at hsame
      exact hid.trans (by simpa using hsame)
    · exact h
  | finish finalState now =>
    rw [Edge.step]
    split
    · next c hc =>
      split
      · next hfinal =>
        intro r hr hactive
        rw [closed_finished h hc hfinal now r hr] at hactive
        exact nomatch hactive
      · exact h
    · exact h
  | drop finalState now =>
    rw [Edge.step]
    split
    · next c hc =>
      split
      · next hfinal =>
        intro r hr hactive
        rw [closed_finished h hc hfinal now r hr] at hactive
        exact nomatch hactive
      · exact h
    · exact h
  | restart now =>
    rw [Edge.step, Edge.restart]
    split
    · next hnone =>
      intro r hr hactive
      obtain ⟨c, hload⟩ := exists_load hr hactive
      rw [hnone] at hload
      exact nomatch hload
    · next c hload =>
      obtain ⟨r, hr, hactive, hc⟩ := row_of_load hload
      -- all active rows are of one execution, so that of the loaded one is the only one
      have hsame : ∀ r' ∈ e.rows, r'.state.isTerminal = false →
          r'.taskExecutionId = c.taskExecutionId := by
        intro r' hr' hactive'
        obtain ⟨old, hold, hid, -⟩ := h r hr hactive
        obtain ⟨old', hold', hid', -⟩ := h r' hr' hactive'
        rw [hold] at hold'
        rw [hid', ← Option.some.inj hold', ← hid, hc]
        rfl
      split
      · refine ownsRows_persist (c := c.interrupted) rfl (fun r' hr' hactive' => ?_) now
        rw [hsame r' hr' hactive', interrupted_id]
      · next hpaused =>
        rw [not_ne_iff] at hpaused
        intro r' hr' hactive'
        refine ⟨c.interrupted, rfl, ?_, ?_⟩
        · rw [hsame r' hr' hactive', interrupted_id]
        · rw [Context.interrupted, if_neg (not_not.2 hpaused), hpaused]
          rfl

theorem ownsRows_exec (inputs : List Input) : (Run.exec Edge.step {} inputs).OwnsRows :=
  Run.exec_invariant OwnsRows (fun _ i h => h.step i) (fun _ hr => absurd hr (by simp)) inputs

theorem restart_persist (h : e.OwnsRows) {c : Context} (hcontext : e.context = some c)
    (hactive : c.state.isTerminal = false) (now restarted : ℕ) :
    ((e.persist now).restart restarted).context = some (c.row now).context.interrupted := by
  have hrows : (e.persist now).rows = saveTaskContext e.rows c now := by
    rw [persist, hcontext]
  have honly : ∀ r ∈ saveTaskContext e.rows c now, r.state.isTerminal = false → r = c.row now := by
    intro r hr hr'
    rcases mem_saveTaskContext hr with hnew | ⟨hold, hne⟩
    · exact hnew
    · obtain ⟨c', hc', hid, -⟩ := h r hold hr'
      rw [hcontext] at hc'
      exact absurd (Option.some.inj hc' ▸ hid) hne
  obtain ⟨loaded, hload⟩ := exists_load (row_mem_saveTaskContext e.rows c now) hactive
  obtain ⟨r, hr, hr', hloaded⟩ := row_of_load hload
  rw [honly r hr hr'] at hloaded
  rw [restart, hrows, hload, hloaded]
  dsimp only
  split <;> rfl

end Edge

/-! ## What survives -/

/-- Two contexts agree on every field that has a column, but for the state and its version. -/
structure Context.SameStored (c c' : Context) : Prop where
  taskExecutionId : c'.taskExecutionId = c.taskExecutionId
  routeSnapshot : c'.routeSnapshot = c.routeSnapshot
  currentWaypointIndex : c'.currentWaypointIndex = c.currentWaypointIndex
  startCommandId : c'.startCommandId = c.startCommandId
  recordRosbag : c'.recordRosbag = c.recordRosbag
  loopExecution : c'.loopExecution = c.loopExecution
  loopSessionId : c'.loopSessionId = c.loopSessionId
  continuousRosbag : c'.continuousRosbag = c.continuousRosbag
  postArrivalWaypointIndex : c'.postArrivalWaypointIndex = c.postArrivalWaypointIndex
  postArrivalStage : c'.postArrivalStage = c.postArrivalStage
  arrivalSideEffectsStarted : c'.arrivalSideEffectsStarted = c.arrivalSideEffectsStarted
  arrivalCoarseFallbackAccepted : c'.arrivalCoarseFallbackAccepted = c.arrivalCoarseFallbackAccepted
  arrivalReapproachWaypointIndex :
    c'.arrivalReapproachWaypointIndex = c.arrivalReapproachWaypointIndex
  arrivalReapproachAttempts : c'.arrivalReapproachAttempts = c.arrivalReapproachAttempts
  arrivalMicroAdjustTotalM : c'.arrivalMicroAdjustTotalM = c.arrivalMicroAdjustTotalM
  arrivalMicroAdjustSteps : c'.arrivalMicroAdjustSteps = c.arrivalMicroAdjustSteps
  arrivalMicroAdjustStartedAt : c'.arrivalMicroAdjustStartedAt = c.arrivalMicroAdjustStartedAt

theorem Context.sameStored_row (c : Context) (now : ℕ) :
    c.SameStored (c.row now).context.interrupted := by
  have htotal : 0 ≤ c.arrivalMicroAdjustTotalM := c.arrivalMicroAdjustTotalM.2
  rw [Context.interrupted]
  split <;> constructor <;> simp [Context.row, Row.context, htotal]

/-- Two contexts agree on the fields that the executor reads later on. -/
structure Context.Agrees (c c' : Context) : Prop where
  state : c'.state = c.state
  stateVersion : c'.stateVersion = c.stateVersion
  routeSnapshot : c'.routeSnapshot = c.routeSnapshot
  currentWaypointIndex : c'.currentWaypointIndex = c.currentWaypointIndex
  currentSegmentIndex : c'.currentSegmentIndex = c.currentSegmentIndex
  docking : c'.docking = c.docking
  roundNumber : c'.roundNumber = c.roundNumber
  loopBaseWaypoints : c'.loopBaseWaypoints = c.loopBaseWaypoints
  loopTotal : c'.loopTotal = c.loopTotal
  traceId : c'.traceId = c.traceId
  lastSafeHoldCode : c'.lastSafeHoldCode = c.lastSafeHoldCode
  lastSafeHoldMessage : c'.lastSafeHoldMessage = c.lastSafeHoldMessage

/-- The context that `prepare_task_start` installs for a docking task. -/
def dockingContext : Context where
  taskExecutionId := 1
  state := .accepted
  stateVersion := 2
  routeSnapshot := [("initial_waypoint_index", .num (.int 0))]
  currentWaypointIndex := 0
  startCommandId := 2
  docking := some [("enabled", .bool true), ("final_waypoint_index", .num (.int 1))]
  loopBaseWaypoints := some []
  traceId := "trace-1"

end ContextStore

end RoamerX
