import RoamerX.Lib.Run
import RoamerX.Lib.Sweep
import RoamerX.PatrolLoop.Runs

set_option autoImplicit false

/-! # The supervisor of the loops

`PatrolLoopService.process_due`: the due sessions, oldest first and up to a limit, are processed one by
one. The exceptions it expects put a session back by a second; any other ends the pass. Every robot has
its own session and its own rows. -/

namespace RoamerX

namespace LoopSupervisor

open LoopDb Sweep

variable {ι : Type*}

/-! ## A pass -/

/-- What `process` raises. -/
inductive LoopException
  | service (error : ServiceError)
  /-- Anything else, as of the database. -/
  | other
  deriving DecidableEq

/-- `except (IntegrityError, TaskStateError, PatrolLoopError)`. -/
def LoopException.caught : LoopException → Bool
  | .service (.integrity _) => true
  | .service (.taskState _) => true
  | .service (.patrolLoop _) => true
  | .service (.permissionDenied _) => false
  | .service .unsupportedCommand => false
  | .service .doesNotExist => false
  | .service .multipleObjects => false
  | .service (.protocol _) => false
  | .other => false

structure Fleet (ι : Type*) where
  robots : List ι
  robots_nodup : robots.Nodup
  session : ι → LoopDb

/-- A call of `process_due`: its time, its limit, and the exceptions that come from outside. -/
structure Pass (ι : Type*) where
  now : ℕ
  limit : ℕ := 50
  raised : ι → Option LoopException := fun _ => none

/-- The session with the clock of the pass. -/
def clocked (now : ℕ) (s : LoopDb) : LoopDb := s.withCenter { s.center with now := now }

/-- The session is in an active state and its time has come. -/
def Fleet.due (f : Fleet ι) (now : ℕ) (i : ι) : Bool :=
  (f.session i).session.state.isActive && decide ((f.session i).session.nextActionAt ≤ now)

/-- `ids`, in the order of `next_action_at`. -/
def Fleet.batch (f : Fleet ι) (p : Pass ι) : List ι :=
  ((f.robots.filter (f.due p.now)).mergeSort fun i j =>
    decide ((f.session i).session.nextActionAt ≤ (f.session j).session.nextActionAt)).take p.limit

/-- `process`, or what is raised from outside. -/
def poll (p : Pass ι) (i : ι) (s : LoopDb) : Except LoopException LoopDb :=
  match p.raised i with
  | some e => .error e
  | none =>
    match (clocked p.now s).process with
    | .ok s' => .ok s'
    | .error e => .error (.service e)

/-- The transaction of a session that raised is rolled back. -/
def rolledBack (p : Pass ι) (s : LoopDb) : LoopDb := (clocked p.now s).failedProcess

def postponed (p : Pass ι) (s : LoopDb) : LoopDb :=
  if (rolledBack p s).session.state.isActive then
    (rolledBack p s).withSession
      { (rolledBack p s).session with
        lastError := "循环监督处理失败"
        nextActionAt := p.now + seconds 1 }
  else rolledBack p s

/-- The body of the loop of `process_due`. -/
def work (p : Pass ι) (i : ι) (s : LoopDb) : Option LoopException × LoopDb :=
  match poll p i s with
  | .ok s' => (none, s')
  | .error e => if e.caught then (none, postponed p s) else (some e, rolledBack p s)

def Fleet.processDue [DecidableEq ι] (f : Fleet ι) (p : Pass ι) : Fleet ι :=
  { f with session := (sweep (work p) (f.batch p) f.session).2 }

/-! ## The batch -/

variable {f : Fleet ι} {p : Pass ι} {i j : ι}

theorem batch_nodup (f : Fleet ι) (p : Pass ι) : (f.batch p).Nodup :=
  List.Nodup.sublist (List.take_sublist _ _)
    ((List.mergeSort_perm _ _).nodup_iff.mpr (f.robots_nodup.filter _))

theorem due_of_mem_batch (h : i ∈ f.batch p) : i ∈ f.robots ∧ f.due p.now i = true :=
  List.mem_filter.mp (List.mem_mergeSort.mp (List.mem_of_mem_take h))

/-! ## Isolation -/

structure Isolated [DecidableEq ι] (f : Fleet ι) (p : Pass ι) : Prop where
  /-- Every session of the batch that does not raise is processed. -/
  processed : ∀ i ∈ f.batch p, ∀ s', poll p i (f.session i) = .ok s' → (f.processDue p).session i = s'
  /-- One that raises comes after every session that was due. -/
  behind : ∀ i ∈ f.batch p, ∀ e, poll p i (f.session i) = .error e →
    ((f.processDue p).session i).session.state.isActive = true →
    ∀ j ∈ f.robots, f.due p.now j = true →
      (f.session j).session.nextActionAt < ((f.processDue p).session i).session.nextActionAt

/-- Whatever a session of the batch raises is expected. -/
def Expected (f : Fleet ι) (p : Pass ι) : Prop :=
  ∀ i ∈ f.batch p, ∀ e, poll p i (f.session i) = .error e → e.caught = true

theorem rolledBack_session (p : Pass ι) (s : LoopDb) : (rolledBack p s).session = s.session := by
  unfold rolledBack failedProcess
  split
  · rfl
  · split
    · rfl
    · split <;> rfl

theorem work_of_caught {s : LoopDb} {e : LoopException} (h : poll p i s = .error e)
    (hcaught : e.caught = true) : work p i s = (none, postponed p s) := by
  unfold work
  rw [h]
  exact if_pos hcaught

theorem work_of_uncaught {s : LoopDb} {e : LoopException} (h : poll p i s = .error e)
    (huncaught : ¬e.caught = true) : work p i s = (some e, rolledBack p s) := by
  unfold work
  rw [h]
  exact if_neg huncaught

theorem work_of_ok {s s' : LoopDb} (h : poll p i s = .ok s') : work p i s = (none, s') := by
  unfold work
  rw [h]

theorem work_eq_some {s : LoopDb} {e : LoopException} (h : (work p i s).1 = some e) :
    poll p i s = .error e ∧ ¬e.caught = true := by
  cases hpoll : poll p i s with
  | ok s' =>
    rw [work_of_ok hpoll] at h
    exact nomatch h
  | error e' =>
    by_cases hcaught : e'.caught = true
    · rw [work_of_caught hpoll hcaught] at h
      exact nomatch h
    · rw [work_of_uncaught hpoll hcaught] at h
      obtain rfl := Option.some.inj h
      exact ⟨rfl, hcaught⟩

theorem postponed_nextActionAt {s : LoopDb} (hactive : (postponed p s).session.state.isActive = true) :
    (postponed p s).session.nextActionAt = p.now + seconds 1 := by
  unfold postponed at hactive ⊢
  by_cases hstill : (rolledBack p s).session.state.isActive = true
  · rw [if_pos hstill]
    rfl
  · rw [if_neg hstill] at hactive
    exact absurd hactive hstill

section Isolation

variable [DecidableEq ι]

theorem processDue_of_expected (h : Expected f p) (hi : i ∈ f.batch p) :
    (f.processDue p).session i = (work p i (f.session i)).2 := by
  refine sweep_of_visited (batch_nodup f p) ?_
  rw [visited_of_none]
  · exact hi
  · intro j hj
    cases hwork : (work p j (f.session j)).1 with
    | none => rfl
    | some e =>
      obtain ⟨hpoll, huncaught⟩ := work_eq_some hwork
      exact absurd (h j hj e hpoll) huncaught

theorem isolated_iff_expected : Isolated f p ↔ Expected f p := by
  constructor
  · intro hisolated i hi e hpoll
    by_contra huncaught
    have hraises : (work p i (f.session i)).1 = some e := by rw [work_of_uncaught hpoll huncaught]
    -- the session that ends the pass is due as before
    obtain ⟨j, hj, e', hwork⟩ := exists_visited_of_raises hi hraises
    obtain ⟨hpoll', huncaught'⟩ := work_eq_some hwork
    have hmem := visited_subset hj
    obtain ⟨hrobot, hdue⟩ := due_of_mem_batch hmem
    have hsame : ((f.processDue p).session j).session = (f.session j).session := by
      change ((sweep (work p) (f.batch p) f.session).2 j).session = _
      rw [sweep_of_visited (batch_nodup f p) hj, work_of_uncaught hpoll' huncaught', rolledBack_session]
    have hactive : (f.session j).session.state.isActive = true := (Bool.and_eq_true_iff.mp hdue).1
    have hlt := hisolated.behind j hmem e' hpoll' (hsame ▸ hactive) j hrobot hdue
    rw [hsame] at hlt
    exact lt_irrefl _ hlt
  · intro hexpected
    constructor
    case processed =>
      intro i hi s' hpoll
      rw [processDue_of_expected hexpected hi, work_of_ok hpoll]
    case behind =>
      intro i hi e hpoll hactive j _ hdue
      rw [processDue_of_expected hexpected hi, work_of_caught hpoll (hexpected i hi e hpoll)] at hactive ⊢
      have hnow := of_decide_eq_true (Bool.and_eq_true_iff.mp hdue).2
      rw [postponed_nextActionAt hactive]
      unfold seconds
      omega

/-! ## Runs -/

/-- A pass, or what others do to the sessions between two passes. -/
inductive FleetLabel (ι : Type*)
  | pass (p : Pass ι)
  | others (change : ι → LoopDb → LoopDb)

def Fleet.step (f : Fleet ι) : FleetLabel ι → Fleet ι
  | .pass p => f.processDue p
  | .others change => { f with session := fun i => change i (f.session i) }

def IsolatedStep (f : Fleet ι) : FleetLabel ι → Prop
  | .pass p => Isolated f p
  | .others _ => True

/-- A pass meets only exceptions that are expected. -/
def ExpectedStep (f : Fleet ι) : FleetLabel ι → Prop
  | .pass p => Expected f p
  | .others _ => True

/-- **The passes of a run isolate their sessions exactly where no session raises what is not expected.** -/
theorem run_isolated_iff_expected (f : Fleet ι) (labels : List (FleetLabel ι)) :
    Run.Always Fleet.step IsolatedStep f labels ↔ Run.Always Fleet.step ExpectedStep f labels := by
  refine Run.always_iff_of_invariant (fun _ => True) (fun _ _ _ => trivial) ?_ trivial labels
  intro f label _
  cases label with
  | pass p => exact isolated_iff_expected
  | others change => exact Iff.rfl

end Isolation

/-! ### A refused round -/

/-- A patrol that is to start while the robot's low-battery episode is still active. -/
def latchedPatrol : LoopDb :=
  let s := SessionStart.corridorPatrol.run []
  s.withCenter
    { s.center with
      lowBatteryEpisodes := [{ episodeKey := "edge-1", batteryPercent := 18, triggeredAt := 0 }] }

def stoppedPatrol : LoopDb :=
  let s := SessionStart.corridorPatrol.run []
  s.withSession { s.session with state := .stopping }

/-- Two robots, the first of them refused. -/
def twoRobots : Fleet Bool where
  robots := [false, true]
  robots_nodup := by decide
  session robot := if robot then stoppedPatrol else latchedPatrol

/-- The stopped patrol is not completed, because the other robot's round is refused. -/
theorem refused_round_ends_pass :
    ¬∀ (f : Fleet Bool) (labels : List (FleetLabel Bool)), Run.Always Fleet.step IsolatedStep f labels := by
  intro hall
  have hisolated : Isolated twoRobots { now := 0 } := (hall twoRobots [.pass { now := 0 }]).1
  have hbatch : twoRobots.batch { now := 0 } = [false, true] := by
    have hdue : twoRobots.robots.filter (twoRobots.due 0) = [false, true] := by decide
    unfold Fleet.batch
    rw [hdue, List.mergeSort_of_pairwise (by decide)]
    rfl
  have hmem : true ∈ twoRobots.batch { now := 0 } := by
    rw [hbatch]
    decide
  have hstays : ((twoRobots.processDue { now := 0 }).session true).session.state = .stopping := by
    change ((sweep (work _) (twoRobots.batch _) _).2 true).session.state = _
    rw [hbatch]
    decide +kernel
  have hdone : (poll { now := 0 } true (twoRobots.session true)).toOption.map
      (fun s => s.session.state) = some .completed := by
    decide
  cases hpoll : poll { now := 0 } true (twoRobots.session true) with
  | error e =>
    rw [hpoll] at hdone
    exact nomatch hdone
  | ok s' =>
    rw [hpoll] at hdone
    rw [hisolated.processed true hmem s' hpoll] at hstays
    rw [Except.toOption, Option.map_some, hstays] at hdone
    exact nomatch hdone

end LoopSupervisor

end RoamerX
