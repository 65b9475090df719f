import Mathlib.Algebra.Order.Ring.Rat
import Mathlib.Algebra.BigOperators.Group.List.Basic
import Mathlib.Tactic.Linarith
import RoamerX.Lib.Run

set_option autoImplicit false

/-! # Who may move the robot to recover it

`RecoveryArbiter` gives out one lease at a time, from a budget of attempts, of time and of distance.
Whoever talks to it keeps books of what it has answered: the leases that are out, and the distances
granted since the budget was last reset. The books are compared with the arbiter over whole runs. -/

namespace RoamerX

namespace RecoveryArbitration

/-! ## `recovery_arbiter.py` -/

structure RecoveryLease where
  owner : String
  generation : ℕ
  reason : String
  startedAt : ℚ
  deriving DecidableEq

structure RecoveryBudget where
  maxAttempts : ℕ := 10
  maxDurationSeconds : ℚ := 180
  maxDistanceM : ℚ := 6 / 5
  attempts : ℕ := 0
  startedAt : Option ℚ := none
  distanceM : ℚ := 0
  deriving DecidableEq

namespace RecoveryBudget

def beginEpisode (now : ℚ) (b : RecoveryBudget) : RecoveryBudget :=
  { b with startedAt := b.startedAt <|> some now }

/-- `record_attempt`; a negative distance counts as none. -/
def recordAttempt (now distance : ℚ) (b : RecoveryBudget) : RecoveryBudget :=
  { b.beginEpisode now with
    attempts := b.attempts + 1
    distanceM := b.distanceM + max 0 distance }

def exhausted (now : ℚ) (b : RecoveryBudget) : Bool :=
  decide (b.maxAttempts ≤ b.attempts) ||
    b.startedAt.any (fun startedAt => decide (b.maxDurationSeconds ≤ now - startedAt)) ||
    decide (b.maxDistanceM ≤ b.distanceM)

def reset (b : RecoveryBudget) : RecoveryBudget :=
  { b with
    attempts := 0
    startedAt := none
    distanceM := 0 }

end RecoveryBudget

structure RecoveryArbiter where
  generation : ℕ := 0
  lease : Option RecoveryLease := none
  budget : RecoveryBudget := {}
  deriving DecidableEq

/-- The readings of the clock in one call of `acquire`. -/
structure Readings where
  checked : ℚ
  begun : ℚ
  leased : ℚ
  deriving DecidableEq

namespace RecoveryArbiter

def acquire (t : Readings) (owner reason : String) (distance : ℚ) (s : RecoveryArbiter) :
    Option RecoveryLease × RecoveryArbiter :=
  if s.lease.isSome then (none, s)
  else if s.budget.exhausted t.checked then (none, s)
  else
    let lease : RecoveryLease :=
      { owner := owner
        generation := s.generation + 1
        reason := reason
        startedAt := t.leased }
    (some lease,
      { generation := s.generation + 1
        lease := some lease
        budget := s.budget.recordAttempt t.begun distance })

def release (lease : Option RecoveryLease) (s : RecoveryArbiter) : Bool × RecoveryArbiter :=
  match lease with
  | none => (false, s)
  | some lease => if s.lease ≠ some lease then (false, s) else (true, { s with lease := none })

def releaseGeneration (owner : String) (generation : ℤ) (s : RecoveryArbiter) : Bool × RecoveryArbiter :=
  match s.lease with
  | none => (false, s)
  | some lease =>
    if lease.owner ≠ owner ∨ (lease.generation : ℤ) ≠ generation then (false, s)
    else (true, { s with lease := none })

def forceRelease (s : RecoveryArbiter) : RecoveryArbiter := { s with lease := none }

def resetBudget (s : RecoveryArbiter) : RecoveryArbiter := { s with budget := s.budget.reset }

end RecoveryArbiter

/-! ## Calls and the books kept of them -/

inductive Call
  | acquire (t : Readings) (owner reason : String) (distance : ℚ)
  | release (lease : Option RecoveryLease)
  | releaseGeneration (owner : String) (generation : ℤ)
  | forceRelease
  | resetBudget

def Call.run (s : RecoveryArbiter) : Call → RecoveryArbiter
  | .acquire t owner reason distance => (s.acquire t owner reason distance).2
  | .release lease => (s.release lease).2
  | .releaseGeneration owner generation => (s.releaseGeneration owner generation).2
  | .forceRelease => s.forceRelease
  | .resetBudget => s.resetBudget

/-- The generation that a release names. -/
def Call.releases : Call → Option ℤ
  | .release lease => lease.map fun lease => (lease.generation : ℤ)
  | .releaseGeneration _ generation => some generation
  | _ => none

/-- What is known from the answers alone. -/
structure Books where
  /-- The leases that are out. -/
  held : List RecoveryLease := []
  /-- The distances granted from the budget. -/
  granted : List ℚ := []

def Books.enter (s : RecoveryArbiter) (b : Books) : Call → Books
  | .acquire t owner reason distance =>
    match (s.acquire t owner reason distance).1 with
    | none => b
    | some lease =>
      { held := lease :: b.held
        granted := max 0 distance :: b.granted }
  | .release lease =>
    if (s.release lease).1 then { b with held := b.held.filter fun l => some l ≠ lease } else b
  | .releaseGeneration owner generation =>
    if (s.releaseGeneration owner generation).1 then
      { b with held := b.held.filter fun l => ¬(l.owner = owner ∧ (l.generation : ℤ) = generation) }
    else b
  | .forceRelease => { b with held := [] }
  | .resetBudget => { b with granted := [] }

structure Audit where
  arbiter : RecoveryArbiter := {}
  books : Books := {}

def Audit.step (x : Audit) (call : Call) : Audit where
  arbiter := call.run x.arbiter
  books := x.books.enter x.arbiter call

/-! ## The books agree with the arbiter -/

structure Agree (x : Audit) : Prop where
  held : x.books.held = x.arbiter.lease.toList
  attempts : x.arbiter.budget.attempts = x.books.granted.length
  attemptsBound : x.arbiter.budget.attempts ≤ x.arbiter.budget.maxAttempts
  distance : x.arbiter.budget.distanceM = x.books.granted.sum
  maxAttempts : x.arbiter.budget.maxAttempts = 10
  maxDistance : x.arbiter.budget.maxDistanceM = 6 / 5

theorem agree_start : Agree {} :=
  ⟨rfl, rfl, by decide, rfl, rfl, rfl⟩

theorem acquire_cases (t : Readings) (owner reason : String) (distance : ℚ) (s : RecoveryArbiter) :
    (s.lease = none → s.budget.exhausted t.checked = true) ∧
        s.acquire t owner reason distance = (none, s) ∨
      s.lease = none ∧ s.budget.exhausted t.checked = false ∧
        ∃ lease, s.acquire t owner reason distance =
          (some lease,
            { generation := s.generation + 1
              lease := some lease
              budget := s.budget.recordAttempt t.begun distance }) := by
  unfold RecoveryArbiter.acquire
  split_ifs with hheld hexhausted
  · refine Or.inl ⟨fun hfree => ?_, rfl⟩
    rw [hfree] at hheld
    exact absurd hheld (by simp)
  · exact Or.inl ⟨fun _ => hexhausted, rfl⟩
  · exact Or.inr ⟨by simpa using hheld, by simpa using hexhausted, _, rfl⟩

theorem attempts_lt_of_not_exhausted {b : RecoveryBudget} {now : ℚ} (h : b.exhausted now = false) :
    b.attempts < b.maxAttempts := by
  unfold RecoveryBudget.exhausted at h
  simp only [Bool.or_eq_false_iff, decide_eq_false_iff_not, not_le] at h
  exact h.1.1

theorem release_cases (lease : Option RecoveryLease) (s : RecoveryArbiter) :
    s.release lease = (false, s) ∨
      ∃ l, lease = some l ∧ s.lease = some l ∧ s.release lease = (true, { s with lease := none }) := by
  cases lease with
  | none => exact Or.inl rfl
  | some l =>
    unfold RecoveryArbiter.release
    dsimp only
    split_ifs with hother
    · exact Or.inl rfl
    · exact Or.inr ⟨l, rfl, not_not.mp hother, rfl⟩

theorem releaseGeneration_cases (owner : String) (generation : ℤ) (s : RecoveryArbiter) :
    s.releaseGeneration owner generation = (false, s) ∨
      ∃ l, s.lease = some l ∧ l.owner = owner ∧ (l.generation : ℤ) = generation ∧
        s.releaseGeneration owner generation = (true, { s with lease := none }) := by
  unfold RecoveryArbiter.releaseGeneration
  cases hlease : s.lease with
  | none => exact Or.inl rfl
  | some l =>
    dsimp only
    split_ifs with hother
    · exact Or.inl rfl
    · rw [not_or, not_not, not_not] at hother
      exact Or.inr ⟨l, rfl, hother.1, hother.2, rfl⟩

theorem Agree.step {x : Audit} (h : Agree x) (call : Call) : Agree (x.step call) := by
  obtain ⟨s, books⟩ := x
  cases call with
  | acquire t owner reason distance =>
    rcases acquire_cases t owner reason distance s with ⟨_, hnone⟩ | ⟨hfree, hleft, lease, hgranted⟩
    · have hstep : Audit.step ⟨s, books⟩ (.acquire t owner reason distance) = ⟨s, books⟩ := by
        simp only [Audit.step, Call.run, Books.enter, hnone]
      rw [hstep]
      exact h
    · have hheld : books.held = [] := by
        have hout := h.held
        simp only [hfree, Option.toList_none] at hout
        exact hout
      have hbelow := attempts_lt_of_not_exhausted hleft
      have hattempts : s.budget.attempts = books.granted.length := h.attempts
      have hdistance : s.budget.distanceM = books.granted.sum := h.distance
      constructor
      case held => simp only [Audit.step, Call.run, Books.enter, hgranted, hheld, Option.toList_some]
      case attempts =>
        simp only [Audit.step, Call.run, Books.enter, hgranted, RecoveryBudget.recordAttempt,
          List.length_cons, hattempts]
      case attemptsBound =>
        simp only [Audit.step, Call.run, hgranted, RecoveryBudget.recordAttempt,
          RecoveryBudget.beginEpisode]
        omega
      case distance =>
        simp only [Audit.step, Call.run, Books.enter, hgranted, RecoveryBudget.recordAttempt,
          List.sum_cons, hdistance]
        exact add_comm _ _
      case maxAttempts =>
        simp only [Audit.step, Call.run, hgranted]
        exact h.maxAttempts
      case maxDistance =>
        simp only [Audit.step, Call.run, hgranted]
        exact h.maxDistance
  | release lease =>
    rcases release_cases lease s with hrefused | ⟨l, rfl, hout, hreleased⟩
    · have hstep : Audit.step ⟨s, books⟩ (.release lease) = ⟨s, books⟩ := by
        simp [Audit.step, Call.run, Books.enter, hrefused]
      rw [hstep]
      exact h
    · have hheld : books.held = [l] := by
        have hbooks := h.held
        simp only [hout, Option.toList_some] at hbooks
        exact hbooks
      refine ⟨?_, ?_, ?_, ?_, ?_, ?_⟩
      case refine_1 => simp [Audit.step, Call.run, Books.enter, hreleased, hheld]
      all_goals simp only [Audit.step, Call.run, Books.enter, hreleased, if_true]
      · exact h.attempts
      · exact h.attemptsBound
      · exact h.distance
      · exact h.maxAttempts
      · exact h.maxDistance
  | releaseGeneration owner generation =>
    rcases releaseGeneration_cases owner generation s with
      hrefused | ⟨l, hout, howner, hgeneration, hreleased⟩
    · have hstep : Audit.step ⟨s, books⟩ (.releaseGeneration owner generation) = ⟨s, books⟩ := by
        simp [Audit.step, Call.run, Books.enter, hrefused]
      rw [hstep]
      exact h
    · have hheld : books.held = [l] := by
        have hbooks := h.held
        simp only [hout, Option.toList_some] at hbooks
        exact hbooks
      refine ⟨?_, ?_, ?_, ?_, ?_, ?_⟩
      case refine_1 => simp [Audit.step, Call.run, Books.enter, hreleased, hheld, howner, hgeneration]
      all_goals simp only [Audit.step, Call.run, Books.enter, hreleased, if_true]
      · exact h.attempts
      · exact h.attemptsBound
      · exact h.distance
      · exact h.maxAttempts
      · exact h.maxDistance
  | forceRelease => exact ⟨rfl, h.attempts, h.attemptsBound, h.distance, h.maxAttempts, h.maxDistance⟩
  | resetBudget =>
    exact ⟨h.held, rfl, Nat.zero_le _, rfl, h.maxAttempts, h.maxDistance⟩

theorem Call.run_of_releases {s : RecoveryArbiter} {call : Call} {generation : ℤ}
    (hcall : call.releases = some generation)
    (hother : ∀ lease, s.lease = some lease → (lease.generation : ℤ) ≠ generation) : call.run s = s := by
  cases call with
  | acquire t owner reason distance => exact nomatch hcall
  | forceRelease => exact nomatch hcall
  | resetBudget => exact nomatch hcall
  | release lease =>
    rcases release_cases lease s with hrefused | ⟨l, rfl, hout, hreleased⟩
    · simp only [Call.run, hrefused]
    · simp only [Call.releases, Option.map_some, Option.some.injEq] at hcall
      exact absurd hcall (hother l hout)
  | releaseGeneration owner named =>
    rcases releaseGeneration_cases owner named s with hrefused | ⟨l, hout, _, hnamed, _⟩
    · simp only [Call.run, hrefused]
    · simp only [Call.releases, Option.some.injEq] at hcall
      exact absurd (hnamed.trans hcall) (hother l hout)

/-! ## Arbitration -/

structure Arbitrated (x : Audit) (call : Call) : Prop where
  oneOwner : (x.step call).books.held.length ≤ 1
  staleRelease : ∀ generation, call.releases = some generation →
    (∀ lease, x.arbiter.lease = some lease → (lease.generation : ℤ) ≠ generation) →
    (x.step call).arbiter = x.arbiter
  attempts : (x.step call).books.granted.length ≤ (x.step call).arbiter.budget.maxAttempts
  distance : (x.step call).books.granted.sum ≤ (x.step call).arbiter.budget.maxDistanceM

/-- Where a lease is free and the budget is not exhausted, no more is asked for than is left. -/
def Modest (x : Audit) : Call → Prop
  | .acquire t _ _ distance =>
    x.arbiter.lease = none → x.arbiter.budget.exhausted t.checked = false →
      x.arbiter.budget.distanceM + max 0 distance ≤ x.arbiter.budget.maxDistanceM
  | _ => True

theorem distance_step_iff {x : Audit} (h : Agree x)
    (hbefore : x.books.granted.sum ≤ x.arbiter.budget.maxDistanceM) (call : Call) :
    (x.step call).books.granted.sum ≤ (x.step call).arbiter.budget.maxDistanceM ↔ Modest x call := by
  have hbalance := h.distance
  have hafter := (h.step call).distance
  have hlimit : (x.step call).arbiter.budget.maxDistanceM = x.arbiter.budget.maxDistanceM :=
    (h.step call).maxDistance.trans h.maxDistance.symm
  rw [hlimit]
  obtain ⟨s, books⟩ := x
  cases call with
  | acquire t owner reason distance =>
    rcases acquire_cases t owner reason distance s with ⟨hrefused, hnone⟩ | ⟨hfree, hleft, lease, hgranted⟩
    · have hstep : Audit.step ⟨s, books⟩ (.acquire t owner reason distance) = ⟨s, books⟩ := by
        simp only [Audit.step, Call.run, Books.enter, hnone]
      rw [hstep]
      refine iff_of_true hbefore ?_
      intro hfree hleft
      exact absurd ((hrefused hfree).symm.trans hleft) (by simp)
    · rw [← hafter]
      have hdistance : (Audit.step ⟨s, books⟩ (.acquire t owner reason distance)).arbiter.budget.distanceM =
          s.budget.distanceM + max 0 distance := by
        simp only [Audit.step, Call.run, hgranted, RecoveryBudget.recordAttempt]
      rw [hdistance]
      exact ⟨fun hwithin _ _ => hwithin, fun hmodest => hmodest hfree hleft⟩
  | release lease =>
    refine iff_of_true ?_ trivial
    rw [← hafter]
    rw [← hbalance] at hbefore
    rcases release_cases lease s with hrefused | ⟨l, rfl, hout, hreleased⟩
    · simpa only [Audit.step, Call.run, hrefused] using hbefore
    · simpa only [Audit.step, Call.run, hreleased] using hbefore
  | releaseGeneration owner generation =>
    refine iff_of_true ?_ trivial
    rw [← hafter]
    rw [← hbalance] at hbefore
    rcases releaseGeneration_cases owner generation s with hrefused | ⟨l, hout, _, _, hreleased⟩
    · simpa only [Audit.step, Call.run, hrefused] using hbefore
    · simpa only [Audit.step, Call.run, hreleased] using hbefore
  | forceRelease => exact iff_of_true hbefore trivial
  | resetBudget =>
    refine iff_of_true ?_ trivial
    change (0 : ℚ) ≤ s.budget.maxDistanceM
    have hmax : s.budget.maxDistanceM = 6 / 5 := h.maxDistance
    rw [hmax]
    norm_num

theorem arbitrated_iff_modest {x : Audit} (h : Agree x)
    (hbefore : x.books.granted.sum ≤ x.arbiter.budget.maxDistanceM) (call : Call) :
    Arbitrated x call ↔ Modest x call := by
  rw [← distance_step_iff h hbefore call]
  have hagree := h.step call
  constructor
  · exact fun harbitrated => harbitrated.distance
  · intro hdistance
    refine ⟨?_, ?_, ?_, hdistance⟩
    · rw [hagree.held]
      cases (x.step call).arbiter.lease <;> simp
    · intro generation hcall hother
      exact Call.run_of_releases hcall hother
    · rw [← hagree.attempts]
      exact hagree.attemptsBound

/-- **A run is arbitrated exactly where every grant fits the distance that is left**: one owner at most,
    a stale release without effect, and the attempts and distances of a budget within its bounds. -/
theorem run_arbitrated_iff_modest (calls : List Call) :
    Run.Always Audit.step Arbitrated {} calls ↔ Run.Always Audit.step Modest {} calls := by
  have hstart : ({} : Audit).books.granted.sum ≤ ({} : Audit).arbiter.budget.maxDistanceM := by
    change (0 : ℚ) ≤ 6 / 5
    norm_num
  refine Run.always_iff_of_guarded
    (fun x => Agree x ∧ x.books.granted.sum ≤ x.arbiter.budget.maxDistanceM) ?_ ?_ ⟨agree_start, hstart⟩ calls
  · intro x call h harbitrated
    exact ⟨h.1.step call, harbitrated.distance⟩
  · intro x call h
    exact arbitrated_iff_modest h.1 h.2 call

/-- Three leases of half a metre each are given, where the budget holds one metre and a fifth. -/
theorem granted_beyond_budget :
    ¬ ∀ calls : List Call, Run.Always Audit.step Arbitrated {} calls := by
  intro hall
  have hrun := hall [.acquire ⟨0, 0, 0⟩ "EDGE" "obstacle" (1 / 2), .forceRelease,
    .acquire ⟨1, 1, 1⟩ "EDGE" "obstacle" (1 / 2), .forceRelease,
    .acquire ⟨2, 2, 2⟩ "EDGE" "obstacle" (1 / 2)]
  have hlast := hrun.2.2.2.2.1.distance
  revert hlast
  decide +kernel

end RecoveryArbitration

end RoamerX
