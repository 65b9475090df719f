import RoamerX.Center.System

set_option autoImplicit false

/-! # The event log of an execution

Versions of an execution only grow. A milestone is recorded with `get_or_create` keyed by the
execution and its version, but rows of navigation stages may already stand at that version: they
are outside the uniqueness constraint and carry the version of the Edge, which is ahead of the
stored one. One such row makes `get_or_create` return it, two make it raise. -/

namespace RoamerX

namespace CenterSystem

/-- The milestone of a progress message that was not processed before and is newer than the stored
    version. -/
def newMilestone (db : CenterDb) (message x : Uuid) (p : ProgressPayload) : Option Milestone :=
  if message ∈ db.processedMessages then none
  else match db.execution? x with
    | none => none
    | some e => if e.stateVersion < p.stateVersion then p.milestone else none

/-- The events of the milestone `m` for the execution at this version. -/
def milestoneEvents (db : CenterDb) (x : Uuid) (version : ℤ) (m : Milestone) :
    List TaskExecutionEvent :=
  db.events.filter
    (fun ev => ev.taskExecution = x && ev.stateVersion = version && ev.eventType = .milestone m)

/-- A new milestone is handled without an error (its message counts as processed) and leaves
    exactly one event of it. -/
def MilestoneRecorded (s : CenterSystem) : CenterInput → Prop
  | .receive message (.progress x p) =>
    ∀ m, newMilestone s.db message x p = some m →
      message ∈ (s.db.receive message (.progress x p)).processedMessages ∧
        (milestoneEvents (s.db.receive message (.progress x p)) x p.stateVersion m).length = 1
  | _ => True

/-- No event of the execution stands at the version of a new milestone. -/
def MilestoneVersionFree (s : CenterSystem) : CenterInput → Prop
  | .receive message (.progress x p) =>
    ∀ m, newMilestone s.db message x p = some m →
      ∀ ev ∈ s.db.events, ev.taskExecution = x → ev.stateVersion ≠ p.stateVersion
  | _ => True

theorem newMilestone_eq_some {db : CenterDb} {message x : Uuid} {p : ProgressPayload}
    {m : Milestone} (h : newMilestone db message x p = some m) :
    message ∉ db.processedMessages ∧
      ∃ e, db.execution? x = some e ∧ e.stateVersion < p.stateVersion ∧ p.milestone = some m := by
  unfold newMilestone at h
  split at h
  · exact absurd h (by simp)
  · next hnew =>
    split at h
    · exact absurd h (by simp)
    · next e he =>
      split at h
      · next hversion => exact ⟨hnew, e, he, hversion, h⟩
      · exact absurd h (by simp)

/-- The event row a new milestone is recorded with. -/
def milestoneEvent (db : CenterDb) (message : Uuid) (e : TaskExecution) (p : ProgressPayload)
    (m : Milestone) : TaskExecutionEvent where
  taskExecution := e.id
  state := e.state
  stateVersion := p.stateVersion
  eventType := .milestone m
  occurredAt := p.occurredAt.getD db.now
  messageId := some message

/-- Newer progress with a milestone: the row is saved, then the event is looked up by the new
    version. -/
theorem handle_newMilestone (db : CenterDb) (message : Uuid) {x : Uuid} {p : ProgressPayload}
    {m : Milestone} {e : TaskExecution} (he : db.execution? x = some e)
    (hversion : e.stateVersion < p.stateVersion) (hm : p.milestone = some m) :
    db.handle message (.progress x p) =
      (db.saveExecution (e.progressed p db.now)).getOrCreateEvent
        (fun ev => ev.taskExecution = e.id && ev.stateVersion = p.stateVersion)
        (milestoneEvent db message e p m) := by
  have hprogress : db.applyProgress e p =
      (db.saveExecution (e.progressed p db.now), e.progressed p db.now) := by
    unfold CenterDb.applyProgress
    rw [if_neg (not_le.mpr hversion)]
  dsimp only [CenterDb.handle, CenterDb.withExecution]
  rw [he]
  dsimp only [CenterDb.handleProgress]
  rw [hprogress, hm]
  dsimp only
  rw [if_neg (not_not_intro (show (e.progressed p db.now).stateVersion = p.stateVersion from rfl))]
  rfl

theorem milestoneEvents_above {db : CenterDb} (hv : db.Valid) {x : Uuid} {e : TaskExecution}
    (he : db.execution? x = some e) {version : ℤ} (hversion : e.stateVersion < version)
    (m : Milestone) : milestoneEvents db x version m = [] := by
  rw [List.eq_nil_iff_forall_not_mem]
  intro ev hev
  simp only [milestoneEvents, List.mem_filter, Bool.and_eq_true, decide_eq_true_eq] at hev
  obtain ⟨hmem, ⟨hx, hver⟩, htype⟩ := hev
  have hexempt : ev.eventType.isExempt = false := by
    rw [htype]
    rfl
  have hle := hv.event_version ev hmem hexempt e (hx ▸ he)
  omega

/-- The rows at the version a milestone is looked up by. -/
def rowsAt (db : CenterDb) (e : TaskExecution) (p : ProgressPayload) : List TaskExecutionEvent :=
  db.events.filter (fun ev => ev.taskExecution = e.id && ev.stateVersion = p.stateVersion)

theorem handle_milestone_free {db : CenterDb} (hv : db.Valid) {message x : Uuid}
    {p : ProgressPayload} {m : Milestone} {e : TaskExecution} (he : db.execution? x = some e)
    (hnew : message ∉ db.processedMessages) (hversion : e.stateVersion < p.stateVersion)
    (hm : p.milestone = some m) (hrows : rowsAt db e p = []) :
    (db.recorded message).handle message (.progress x p) =
      .ok { (db.recorded message).saveExecution (e.progressed p db.now) with
        events := db.events ++ [milestoneEvent db message e p m] } := by
  have hhandle := handle_newMilestone (db.recorded message) message he hversion hm
  have hsame : db.events.any (fun old => old.sameVersion (milestoneEvent db message e p m)) =
      false := by
    rw [List.any_eq_false]
    intro old hold hc
    have hrow := List.filter_eq_nil_iff.mp hrows old hold
    simp only [TaskExecutionEvent.sameVersion, Bool.and_eq_true, decide_eq_true_eq] at hc
    exact hrow (by simpa [milestoneEvent] using hc.1.1)
  have hmessage : db.events.any (fun old => old.sameMessage (milestoneEvent db message e p m)) =
      false := by
    rw [List.any_eq_false]
    intro old hold hc
    simp only [TaskExecutionEvent.sameMessage, Bool.and_eq_true, decide_eq_true_eq] at hc
    exact hnew (hv.event_message old hold message hc.2)
  rw [hhandle]
  unfold CenterDb.getOrCreateEvent
  have hfilter : ((db.recorded message).saveExecution (e.progressed p db.now)).events.filter
      (fun ev => ev.taskExecution = e.id && ev.stateVersion = p.stateVersion) = [] := hrows
  rw [show (db.recorded message).now = db.now from rfl, hfilter]
  dsimp only
  unfold CenterDb.createEvent
  rw [if_neg (by
      show ¬ db.events.any (fun old => old.sameVersion (milestoneEvent db message e p m)) = true
      rw [hsame]
      decide),
    if_neg (by
      show ¬ db.events.any (fun old => old.sameMessage (milestoneEvent db message e p m)) = true
      rw [hmessage]
      decide)]
  rfl

theorem handle_milestone_taken {db : CenterDb} (message : Uuid) {x : Uuid} {p : ProgressPayload}
    {m : Milestone} {e : TaskExecution} (he : db.execution? x = some e)
    (hversion : e.stateVersion < p.stateVersion) (hm : p.milestone = some m)
    (hrows : rowsAt db e p ≠ []) :
    (∃ db', (db.recorded message).handle message (.progress x p) = .ok db' ∧
        db'.events = db.events) ∨
      (db.recorded message).handle message (.progress x p) = .error .multipleObjects := by
  have hhandle := handle_newMilestone (db.recorded message) message he hversion hm
  rw [hhandle]
  unfold CenterDb.getOrCreateEvent
  split
  · next hnone => exact absurd hnone hrows
  · exact .inl ⟨_, rfl, rfl⟩
  · exact .inr rfl

/-- **A new milestone is recorded exactly once iff no row stands at its version.** -/
theorem milestone_recorded_iff {s : CenterSystem} (hv : s.db.Valid) (i : CenterInput) :
    MilestoneRecorded s i ↔ MilestoneVersionFree s i := by
  unfold MilestoneRecorded MilestoneVersionFree
  split
  · next message x p =>
    refine forall_congr' fun m => forall_congr' fun hnew => ?_
    obtain ⟨hmessage, e, he, hversion, hm⟩ := newMilestone_eq_some hnew
    have hid := CenterDb.execution?_id he
    have hevents := milestoneEvents_above hv he hversion m
    have hfree : rowsAt s.db e p = [] ↔
        ∀ ev ∈ s.db.events, ev.taskExecution = x → ev.stateVersion ≠ p.stateVersion := by
      rw [rowsAt, List.filter_eq_nil_iff]
      simp only [hid, Bool.and_eq_true, decide_eq_true_eq, not_and, ne_eq]
    rw [← hfree]
    by_cases hrows : rowsAt s.db e p = []
    · refine iff_of_true ?_ hrows
      have hok := handle_milestone_free hv he hmessage hversion hm hrows
      rw [CenterDb.receive_handled hmessage hok]
      refine ⟨List.mem_append_right _ (List.mem_singleton.mpr rfl), ?_⟩
      have hone : milestoneEvents { (s.db.recorded message).saveExecution
            (e.progressed p s.db.now) with
          events := s.db.events ++ [milestoneEvent s.db message e p m] } x p.stateVersion m =
          milestoneEvents s.db x p.stateVersion m ++ [milestoneEvent s.db message e p m] := by
        unfold milestoneEvents
        rw [List.filter_append]
        simp [milestoneEvent, hid]
      rw [hone, hevents]
      rfl
    · refine iff_of_false ?_ hrows
      rintro ⟨hprocessed, hone⟩
      rcases handle_milestone_taken message he hversion hm hrows with
        ⟨db', hok, hsame⟩ | hraised
      · rw [CenterDb.receive_handled hmessage hok] at hone
        unfold milestoneEvents at hevents hone
        rw [hsame, hevents] at hone
        exact absurd hone (by simp)
      · rw [CenterDb.receive_raised hmessage hraised] at hprocessed
        exact hmessage hprocessed
  · exact Iff.rfl

/-! ## Runs -/

/-- **The event log of an execution.** In every run no version decreases, and a new milestone is
    recorded exactly once at each step exactly if no row stands at its version then. -/
theorem event_log (robot : Robot) (inputs : List CenterInput) :
    Run.Always step
      (fun s i => VersionsKept s.db (s.step i).db ∧
        (MilestoneRecorded s i ↔ MilestoneVersionFree s i)) (initial robot) inputs :=
  Run.always_of_invariant (fun s : CenterSystem => s.db.Valid) (fun _ i hv => (step_keeps hv i).1)
    (fun _ i hv => ⟨(step_keeps hv i).2, milestone_recorded_iff hv i⟩) (initial_valid robot) inputs

/-- A patrol in which the Edge reports two navigation stages of the next leg before the milestone
    that starts it, all three with the version the milestone has drawn. -/
def stagesBeforeMilestone : List CenterInput :=
  [.createExecution corridorTask none 1 none "",
   .request 0 .taskStart {},
   .receive 10 (.commandAck 1 { accepted := true, edgeStateVersion := some 2 }),
   .receive 11 (.taskState .started 0 { state := .known .running, stateVersion := 3 }),
   .receive 12 (.navigationStage 0 { stateVersion := some 4 }),
   .receive 13 (.navigationStage 0 { stateVersion := some 4 }),
   .receive 14 (.progress 0 { stateVersion := 4, milestone := some .targetDispatched })]

/-- The milestone of that patrol is lost: two rows match its version. -/
theorem not_event_log_stagesBeforeMilestone :
    ¬ Run.Always step (fun s i => VersionsKept s.db (s.step i).db ∧ MilestoneRecorded s i)
      (initial { id := 1 }) stagesBeforeMilestone := by
  rintro ⟨-, -, -, -, -, -, ⟨-, hrecorded⟩, -⟩
  obtain ⟨hprocessed, -⟩ := hrecorded .targetDispatched (by decide)
  revert hprocessed
  decide

end CenterSystem

end RoamerX
