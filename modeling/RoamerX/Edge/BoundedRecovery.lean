import RoamerX.Edge.AttemptBudget
import RoamerX.Lib.Tickets

set_option autoImplicit false

/-! # How often, and how, the robot is moved to recover

Every attempt of `_evaluate_obstacle_progress` has a ticket, which is spent on at most one motion. The attempts at a
waypoint are bounded as long as its budget is kept; that a motion is bracketed, and that a recovery cleans up, holds in
every run. -/

namespace RoamerX

namespace ObstacleMonitor

open RecoveryArbitration

/-! ## What is asked of a run -/

/-- The waypoints of the motions that were executed. -/
def motionKeys (s : Executor) : List WaypointKey := s.motions.filterMap fun ticket => s.attempted[ticket]?

/-- No waypoint has more motions in a round than attempts are allowed. -/
def Bounded (settings : Settings) (s : Executor) : Prop :=
  ∀ key, (motionKeys s).count key ≤ settings.maxRecoveryAttempts.toNat

/-- A motion runs with its goal cancelled, the robot stopped, and the lease held. -/
def Bracketed (s : Executor) : Prop :=
  ∀ thread recovery, s.threads thread = .recovering recovery → recovery.phase = .moving →
    recovery.navigationGoalCancelled = true ∧ recovery.stopConfirmed = true ∧
      ∃ lease, recovery.lease = some lease ∧ s.recoveryArbiter.lease = some lease

/-- A recovery that ends has given its lease back, and is not active. -/
def Finished (settings : Settings) (hypot : ℚ → ℚ → ℚ) (s : Executor) : Event → Prop
  | .finishRecovery thread now pose => ∀ recovery, s.threads thread = .recovering recovery → recovery.phase = .ended →
      let s' := step settings hypot s (.finishRecovery thread now pose)
      s'.recoveryActive = false ∧ ∀ lease ∈ recovery.lease, s'.recoveryArbiter.lease ≠ some lease
  | _ => True

variable {settings : Settings} {hypot : ℚ → ℚ → ℚ} {s s' : Executor} {thread : ℕ} {now : ℚ}

/-! ## Tickets and leases -/

/-- The ticket that a thread has not spent yet. -/
def Activity.ticket : Activity → Option ℕ
  | .toRecover _ ticket => some ticket
  | .recovering recovery => if recovery.phase ∈ [.moving, .ended] then none else some recovery.ticket
  | _ => none

def Activity.lease : Activity → Option RecoveryLease
  | .recovering recovery => recovery.lease
  | _ => none

/-- A thread without a ticket and without a recovery. -/
def Activity.quiet : Activity → Bool
  | .toRecover .. | .recovering _ => false
  | _ => true

/-- How a recovery is bracketed so far. -/
def Braced (held : Option RecoveryLease) (recovery : Recovery) : Prop :=
  match recovery.phase with
  | .selected | .cancelling => recovery.lease = none
  | .stopping => recovery.navigationGoalCancelled = true ∧ recovery.lease = none
  | .acquiring => recovery.navigationGoalCancelled = true ∧ recovery.stopConfirmed = true ∧ recovery.lease = none
  | .moving => recovery.navigationGoalCancelled = true ∧ recovery.stopConfirmed = true ∧
      ∃ lease, recovery.lease = some lease ∧ held = some lease
  | .ended => True

/-- Leases are with one holder each, and none is newer than the arbiter. -/
structure Leased (s : Executor) : Prop where
  given : ∀ thread, ∀ lease ∈ (s.threads thread).lease,
    lease.generation ≤ s.recoveryArbiter.generation ∧ lease ∉ s.otherLeases
  givenOthers : ∀ lease ∈ s.otherLeases, lease.generation ≤ s.recoveryArbiter.generation
  oneHolder : Tickets.OneHolder fun thread => (s.threads thread).lease
  braced : ∀ thread recovery, s.threads thread = .recovering recovery → Braced s.recoveryArbiter.lease recovery

structure Fresh (s : Executor) (lease : RecoveryLease) : Prop where
  threads : ∀ thread, lease ∉ (s.threads thread).lease
  others : lease ∉ s.otherLeases
  generation : lease.generation ≤ s.recoveryArbiter.generation

/-- The tickets of the attempts, spent on motions. -/
def Ticketed (s : Executor) : Prop :=
  Tickets.Kept s.attempted.length (fun thread => (s.threads thread).ticket) s.motions

theorem ticket_setThread (s : Executor) (thread : ℕ) (activity : Activity) :
    (fun other => ((s.setThread thread activity).threads other).ticket) =
      Function.update (fun other => (s.threads other).ticket) thread activity.ticket :=
  funext fun other => Function.apply_update (fun _ => Activity.ticket) s.threads thread activity other

theorem lease_setThread (s : Executor) (thread : ℕ) (activity : Activity) :
    (fun other => ((s.setThread thread activity).threads other).lease) =
      Function.update (fun other => (s.threads other).lease) thread activity.lease :=
  funext fun other => Function.apply_update (fun _ => Activity.lease) s.threads thread activity other

namespace Leased

theorem congr (h : Leased s) (hthreads : s'.threads = s.threads) (hothers : s'.otherLeases = s.otherLeases)
    (hlease : s'.recoveryArbiter.lease = s.recoveryArbiter.lease)
    (hgeneration : s'.recoveryArbiter.generation = s.recoveryArbiter.generation) : Leased s' where
  given := by
    rw [hthreads, hothers, hgeneration]
    exact h.given
  givenOthers := by
    rw [hothers, hgeneration]
    exact h.givenOthers
  oneHolder := hthreads ▸ h.oneHolder
  braced := by
    rw [hthreads, hlease]
    exact h.braced

theorem setThread (h : Leased s) {activity : Activity}
    (hlease : ∀ lease ∈ activity.lease, lease ∈ (s.threads thread).lease ∨ Fresh s lease)
    (hbraced : ∀ recovery, activity = .recovering recovery → Braced s.recoveryArbiter.lease recovery) :
    Leased (s.setThread thread activity) where
  given other lease hother := by
    by_cases hne : other = thread
    · subst hne
      have hactivity : (s.setThread other activity).threads other = activity := Function.update_self _ _ _
      rw [hactivity] at hother
      rcases hlease lease hother with hhad | hfresh
      · exact h.given other lease hhad
      · exact ⟨hfresh.generation, hfresh.others⟩
    · rw [threads_setThread_of_ne s hne] at hother
      exact h.given other lease hother
  givenOthers := h.givenOthers
  oneHolder := by
    rw [lease_setThread]
    exact h.oneHolder.update fun lease hmem => (hlease lease hmem).imp id Fresh.threads
  braced other recovery hother := by
    by_cases hne : other = thread
    · subst hne
      have hactivity : (s.setThread other activity).threads other = activity := Function.update_self _ _ _
      exact hbraced recovery (hactivity.symm.trans hother)
    · rw [threads_setThread_of_ne s hne] at hother
      exact h.braced other recovery hother

theorem acquired (h : Leased s) {lease : RecoveryLease} (budget : RecoveryBudget)
    (hfree : s.recoveryArbiter.lease = none) (hgeneration : lease.generation = s.recoveryArbiter.generation + 1) :
    Leased { s with recoveryArbiter := ⟨s.recoveryArbiter.generation + 1, some lease, budget⟩ } ∧
      Fresh { s with recoveryArbiter := ⟨s.recoveryArbiter.generation + 1, some lease, budget⟩ } lease := by
  have hnewer : ∀ other : RecoveryLease, other.generation ≤ s.recoveryArbiter.generation → other ≠ lease := by
    rintro other hother rfl
    omega
  refine ⟨⟨fun thread other hother => ?_, fun other hother => ?_, h.oneHolder, fun thread recovery hthread => ?_⟩,
    fun thread hmem => ?_, fun hmem => ?_, hgeneration.le⟩
  · exact (h.given thread other hother).imp Nat.le_succ_of_le id
  · exact Nat.le_succ_of_le (h.givenOthers other hother)
  · have hbraced := h.braced thread recovery hthread
    rw [hfree] at hbraced
    revert hbraced
    unfold Braced
    cases recovery.phase with
    | moving => exact fun ⟨_, _, other, _, hheld⟩ => nomatch hheld
    | selected | cancelling | stopping | acquiring | ended => exact id
  · exact hnewer lease (h.given thread lease hmem).1 rfl
  · exact hnewer lease (h.givenOthers lease hmem) rfl

theorem released (h : Leased s) {lease : RecoveryLease}
    (hidle : ∀ thread recovery, s.threads thread = .recovering recovery → recovery.phase = .moving →
      recovery.lease ≠ some lease) : Leased (releaseRecovery s (some lease)) := by
  unfold releaseRecovery RecoveryArbiter.release
  dsimp only
  split
  · exact h.congr rfl rfl rfl rfl
  next hheld =>
  refine ⟨h.given, h.givenOthers, h.oneHolder, fun thread recovery hthread => ?_⟩
  have hbraced := h.braced thread recovery hthread
  have hother := hidle thread recovery hthread
  revert hbraced hother
  unfold Braced
  cases recovery.phase with
  | moving =>
    rintro ⟨-, -, other, hlease, harbiter⟩ hother
    have hsame : lease = other := Option.some.inj ((not_not.mp hheld).symm.trans harbiter)
    exact absurd (hsame ▸ hlease) (hother rfl)
  | selected | cancelling | stopping | acquiring | ended => exact fun hbraced _ => hbraced

end Leased

structure Held (s : Executor) : Prop where
  tickets : Ticketed s
  leases : Leased s

namespace Held

theorem initial (context : Context) : Held (initial context) where
  tickets := Tickets.Kept.initial
  leases :=
    { given := fun _ _ hlease => nomatch hlease
      givenOthers := fun _ hmem => nomatch hmem
      oneHolder := fun _ _ _ hlease => nomatch hlease
      braced := fun _ _ hthread => nomatch hthread }

theorem congr (h : Held s) (hthreads : s'.threads = s.threads) (hattempted : s'.attempted = s.attempted)
    (hmotions : s'.motions = s.motions) (hothers : s'.otherLeases = s.otherLeases)
    (hlease : s'.recoveryArbiter.lease = s.recoveryArbiter.lease)
    (hgeneration : s'.recoveryArbiter.generation = s.recoveryArbiter.generation) : Held s' where
  tickets := by
    unfold Ticketed
    rw [hthreads, hattempted, hmotions]
    exact h.tickets
  leases := h.leases.congr hthreads hothers hlease hgeneration

theorem setThread (h : Held s) {activity : Activity}
    (hticket : ∀ ticket ∈ activity.ticket, ticket ∈ (s.threads thread).ticket)
    (hlease : ∀ lease ∈ activity.lease, lease ∈ (s.threads thread).lease ∨ Fresh s lease)
    (hbraced : ∀ recovery, activity = .recovering recovery → Braced s.recoveryArbiter.lease recovery) :
    Held (s.setThread thread activity) where
  tickets := by
    unfold Ticketed
    rw [ticket_setThread]
    exact h.tickets.keep thread _ hticket
  leases := h.leases.setThread hlease hbraced

theorem quiet (h : Held s) {activity : Activity} (hquiet : activity.quiet = true) :
    Held (s.setThread thread activity) := by
  have hnone : activity.ticket = none ∧ activity.lease = none := by
    cases activity with
    | toRecover | recovering => exact Bool.noConfusion hquiet
    | idle | toResume | toObserve | announced | observing => exact ⟨rfl, rfl⟩
  refine h.setThread (fun ticket hmem => ?_) (fun lease hmem => ?_) fun recovery heq => ?_
  · rw [hnone.1] at hmem
    exact absurd hmem (Option.not_mem_none _)
  · rw [hnone.2] at hmem
    exact absurd hmem (Option.not_mem_none _)
  · subst heq
    exact Bool.noConfusion hquiet

theorem emitStage (h : Held s) (now : ℚ) (stage : Stage) (attempt : ℕ) (reason : String) :
    Held (s.emitStage now stage attempt reason) := by
  unfold Executor.emitStage
  split
  · exact h.congr rfl rfl rfl rfl rfl rfl
  · exact h

theorem syncBudget (h : Held s) : Held s.syncBudget := by
  unfold Executor.syncBudget
  split
  · exact h
  · exact h.congr rfl rfl rfl rfl rfl rfl

theorem attempt (h : Held s) {key : WaypointKey} (attempt : ℕ) (hthreads : s'.threads = s.threads)
    (hattempted : s'.attempted = s.attempted ++ [key]) (hmotions : s'.motions = s.motions)
    (hothers : s'.otherLeases = s.otherLeases) (hlease : s'.recoveryArbiter.lease = s.recoveryArbiter.lease)
    (hgeneration : s'.recoveryArbiter.generation = s.recoveryArbiter.generation) :
    Held (s'.setThread thread (.toRecover attempt s.attempted.length)) where
  tickets := by
    unfold Ticketed
    rw [ticket_setThread, hthreads]
    have hlength : (s'.setThread thread (.toRecover attempt s.attempted.length)).attempted.length =
        s.attempted.length + 1 := by
      show s'.attempted.length = _
      rw [hattempted, List.length_append, List.length_singleton]
    rw [hlength]
    exact hmotions ▸ h.tickets.issue thread
  leases := (h.leases.congr hthreads hothers hlease hgeneration).setThread
    (fun _ hmem => absurd hmem (Option.not_mem_none _)) fun _ heq => Activity.noConfusion heq

theorem move (h : Held s) {recovery recovery' : Recovery} (hthread : s.threads thread = .recovering recovery)
    (hphase : recovery.phase = .acquiring) (hphase' : recovery'.phase = .moving)
    (hlease : ∀ lease ∈ recovery'.lease, Fresh s lease) (hbraced : Braced s.recoveryArbiter.lease recovery') :
    Held ({ s with motions := s.motions ++ [recovery.ticket] }.setThread thread (.recovering recovery')) where
  tickets := by
    have hticket : recovery.ticket ∈ (s.threads thread).ticket := by
      rw [hthread]
      simp [Activity.ticket, hphase]
    have hspent : (Activity.recovering recovery').ticket = none := by
      simp [Activity.ticket, hphase']
    unfold Ticketed
    rw [ticket_setThread, hspent]
    exact h.tickets.spend thread hticket
  leases := by
    have hleased : Leased { s with motions := s.motions ++ [recovery.ticket] } := h.leases.congr rfl rfl rfl rfl
    refine hleased.setThread (fun lease hmem => Or.inr ?_) fun recovery heq => ?_
    · obtain ⟨hthreads, hothers, hgeneration⟩ := hlease lease hmem
      exact ⟨hthreads, hothers, hgeneration⟩
    · obtain rfl := Activity.recovering.inj heq
      exact hbraced

theorem evaluateBlocked (h : Held s) (hkey : s.waypointKey.isSome = true) (triggerReason : String) (pose : ℚ × ℚ)
    (episode : ℕ) : Held (evaluateBlocked settings hypot s thread now triggerReason pose episode) := by
  unfold ObstacleMonitor.evaluateBlocked
  extract_lets stopped seen detected ticket attempt counted
  split
  · have hseen : Held seen := h.congr rfl rfl rfl rfl rfl rfl
    have hdetected : Held detected := hseen.emitStage _ _ _ _
    split
    · exact hdetected.quiet rfl
    · exact hdetected.emitStage _ _ _ _
  split
  · exact h.congr rfl rfl rfl rfl rfl rfl
  have hstopped : Held stopped := h.congr rfl rfl rfl rfl rfl rfl
  split
  · split
    · exact hstopped.quiet rfl
    · obtain ⟨key, hkey⟩ := Option.isSome_iff_exists.mp hkey
      have hattempted : counted.attempted = s.attempted ++ [key] := by
        show s.attempted ++ s.waypointKey.toList = _
        rw [hkey]
        rfl
      obtain ⟨stage, emitted, hemitted⟩ := counted.emitStage_eq now .recoveryAttempt attempt ""
      rw [hemitted]
      exact h.attempt attempt rfl hattempted rfl rfl rfl rfl
  · exact hstopped

theorem evaluateClear (h : Held s) : Held (evaluateClear settings s now) := by
  unfold ObstacleMonitor.evaluateClear
  split
  · exact h
  split
  · exact h.congr rfl rfl rfl rfl rfl rfl
  split
  · exact ((h.emitStage _ _ _ _).emitStage _ _ _ _).congr rfl rfl rfl rfl rfl rfl
  · exact h

theorem evaluate (h : Held s) (observation : Observation) (pose : Option (ℚ × ℚ)) (episode : ℕ) :
    Held (evaluate settings hypot s thread now observation pose episode) := by
  unfold ObstacleMonitor.evaluate
  split
  · exact h.congr rfl rfl rfl rfl rfl rfl
  next hactive =>
  extract_lets synced
  have hrecord : Held (s.record now (obstacleIsClear settings observation)) := h.congr rfl rfl rfl rfl rfl rfl
  have hsynced : Held synced := hrecord.syncBudget
  have hkey : synced.waypointKey.isSome = true := by
    have hsame : synced.waypointKey = s.waypointKey := by
      unfold synced Executor.syncBudget
      split <;> rfl
    have hrunning : s.running = true := by
      simp only [Bool.or_eq_true, Bool.not_eq_eq_eq_not, Bool.not_true, not_or, Bool.not_eq_false] at hactive
      exact hactive.1
    rw [hsame]
    unfold Executor.running at hrunning
    unfold Executor.waypointKey
    cases hcontext : s.context with
    | none =>
      rw [hcontext] at hrunning
      exact nomatch hrunning
    | some context => rfl
  split
  · exact hsynced.congr rfl rfl rfl rfl rfl rfl
  split
  · split
    · exact hsynced.congr rfl rfl rfl rfl rfl rfl
    split
    · exact hsynced.congr rfl rfl rfl rfl rfl rfl
    split
    · exact (hsynced.emitStage _ _ _ _).quiet rfl
    · exact hsynced
  split
  · split
    · exact hsynced.evaluateBlocked hkey _ _ episode
    · exact hsynced.evaluateClear
  · exact hsynced.evaluateClear

theorem resumeAfterObstacle (h : Held s) (automatic : Bool) : Held (resumeAfterObstacle s thread now automatic) := by
  have hidle : Held (s.setThread thread .idle) := h.quiet rfl
  unfold ObstacleMonitor.resumeAfterObstacle
  dsimp only
  split
  · exact hidle
  · exact (hidle.emitStage _ _ _ _).congr rfl rfl rfl rfl rfl rfl

theorem resumeForward (h : Held s) (executionId : ℕ) (stopped : Bool) (observation : Observation) :
    Held (resumeForward settings s thread now executionId stopped observation).2 := by
  unfold ObstacleMonitor.resumeForward
  dsimp only
  split
  · exact h
  split
  · exact h
  split
  · exact h
  split
  · exact h
  split
  · exact h
  split
  · exact h
  split
  · exact h.congr rfl rfl rfl rfl rfl rfl
  split
  · exact h.congr rfl rfl rfl rfl rfl rfl
  · have hrecord : Held (s.record now (obstacleIsClear settings observation)) := h.congr rfl rfl rfl rfl rfl rfl
    exact (hrecord.emitStage _ _ _ _).quiet rfl

theorem enterSafeObserving (h : Held s) : Held (enterSafeObserving s thread now) := by
  unfold ObstacleMonitor.enterSafeObserving
  split
  · exact h.quiet rfl
  extract_lets attempts stopped announced
  have hstopped : Held stopped := h.congr rfl rfl rfl rfl rfl rfl
  have hannounced : Held announced := (hstopped.emitStage _ _ _ _).emitStage _ _ _ _
  have hexpected : Held { announced with expectedRecoveryCancels := announced.expectedRecoveryCancels + 1 } :=
    hannounced.congr rfl rfl rfl rfl rfl rfl
  exact hexpected.quiet rfl

theorem leaveSafeObserving (h : Held s) (cancelled : Bool) : Held (leaveSafeObserving s thread cancelled) := by
  unfold ObstacleMonitor.leaveSafeObserving
  extract_lets lowered
  have hlowered : Held lowered := by
    unfold lowered
    split
    · exact h
    · exact h.congr rfl rfl rfl rfl rfl rfl
  exact hlowered.quiet rfl

theorem beginRecovery (h : Held s) {attempt ticket : ℕ} (hthread : s.threads thread = .toRecover attempt ticket)
    (observation : Observation) (reverseClear leftClear rightClear : Bool) :
    Held (beginRecovery settings s thread attempt ticket observation reverseClear leftClear rightClear) := by
  unfold ObstacleMonitor.beginRecovery
  split
  · exact h.quiet rfl
  split
  · exact h.quiet rfl
  · have hactive : Held { s with recoveryActive := true } := h.congr rfl rfl rfl rfl rfl rfl
    refine hactive.setThread (fun unspent hunspent => ?_) (fun _ hmem => absurd hmem (Option.not_mem_none _))
      fun recovery heq => ?_
    · rw [hthread]
      exact hunspent
    · obtain rfl := Activity.recovering.inj heq
      rfl

theorem acquireRecovery (h : Held s) (clock : AcquireClock) (owner reason : String) (distance : ℚ) :
    Held (acquireRecovery s clock owner reason distance).2 ∧
      ∀ lease ∈ (acquireRecovery s clock owner reason distance).1,
        Fresh (acquireRecovery s clock owner reason distance).2 lease ∧
          (acquireRecovery s clock owner reason distance).2.recoveryArbiter.lease = some lease := by
  rcases acquireRecovery_cases s clock owner reason distance with
    ⟨context, -, heq⟩ | ⟨lease, budget, hfree, -, hgeneration, heq⟩
  · rw [heq]
    exact ⟨h.congr rfl rfl rfl rfl rfl rfl, fun _ hlease => nomatch hlease⟩
  · obtain ⟨hleased, hfresh⟩ := h.leases.acquired budget hfree hgeneration
    rw [heq]
    refine ⟨⟨h.tickets, hleased⟩, fun other hother => ?_⟩
    obtain rfl := Option.some.inj hother
    exact ⟨hfresh, rfl⟩

theorem recover (h : Held s) {recovery recovery' : Recovery} (hthread : s.threads thread = .recovering recovery)
    (hticket : ∀ ticket ∈ (Activity.recovering recovery').ticket, ticket ∈ (Activity.recovering recovery).ticket)
    (hlease : ∀ lease ∈ recovery'.lease, lease ∈ recovery.lease ∨ Fresh s lease)
    (hbraced : Braced s.recoveryArbiter.lease recovery') : Held (s.setThread thread (.recovering recovery')) := by
  refine h.setThread (fun ticket hmem => ?_) (fun lease hmem => ?_) fun other heq => ?_
  · rw [hthread]
    exact hticket ticket hmem
  · rw [hthread]
    exact hlease lease hmem
  · obtain rfl := Activity.recovering.inj heq
    exact hbraced

theorem continueRecovery (h : Held s) {recovery : Recovery} (hthread : s.threads thread = .recovering recovery)
    (answer : Answer) (clock : AcquireClock) : Held (continueRecovery settings s thread recovery answer clock) := by
  have hbraced := h.leases.braced thread recovery hthread
  unfold Braced at hbraced
  have hend : ∀ {s' : Executor} {recovery' : Recovery}, Held s' → s'.threads thread = .recovering recovery →
      recovery'.phase = .ended → (∀ lease ∈ recovery'.lease, lease ∈ recovery.lease ∨ Fresh s' lease) →
      Held (s'.setThread thread (.recovering recovery')) := by
    intro s' recovery' h' hthread' hended hlease
    refine h'.recover hthread' (fun ticket hmem => ?_) hlease ?_
    · simp [Activity.ticket, hended] at hmem
    · unfold Braced
      rw [hended]
      trivial
  unfold ObstacleMonitor.continueRecovery
  dsimp only
  split
  · next hphase =>
    rw [hphase] at hbraced
    split
    · exact hend h hthread rfl fun lease hmem => Or.inl hmem
    · have hrequested : Held (requestCancel { invalidateNavResults s with
          expectedRecoveryCancels := (invalidateNavResults s).expectedRecoveryCancels + 1 }) :=
        h.congr rfl rfl rfl rfl rfl rfl
      refine hrequested.recover hthread (fun ticket hmem => ?_) (fun lease hmem => Or.inl hmem) hbraced
      simpa [Activity.ticket, hphase] using hmem
  · next hphase =>
    rw [hphase] at hbraced
    split
    · refine h.recover hthread (fun ticket hmem => ?_) (fun lease hmem => Or.inl hmem) ⟨rfl, hbraced⟩
      simpa [Activity.ticket, hphase] using hmem
    · have hlowered : Held { s with expectedRecoveryCancels := s.expectedRecoveryCancels - 1 } :=
        h.congr rfl rfl rfl rfl rfl rfl
      exact hend hlowered hthread rfl fun lease hmem => Or.inl hmem
    · exact hend h hthread rfl fun lease hmem => Or.inl hmem
  · next hphase =>
    rw [hphase] at hbraced
    split
    · refine h.recover hthread (fun ticket hmem => ?_) (fun lease hmem => Or.inl hmem) ⟨hbraced.1, rfl, hbraced.2⟩
      simpa [Activity.ticket, hphase] using hmem
    · exact hend h hthread rfl fun lease hmem => Or.inl hmem
  · next hphase =>
    rw [hphase] at hbraced
    have hacquired := h.acquireRecovery clock "EDGE_OBSTACLE" ("physical_obstacle_attempt_" ++ toString recovery.attempt)
      (settings.reverseDistance + settings.lateralDistance)
    have hthreads := threads_acquireRecovery s clock "EDGE_OBSTACLE"
      ("physical_obstacle_attempt_" ++ toString recovery.attempt) (settings.reverseDistance + settings.lateralDistance)
    split
    · next s' heq =>
      rw [heq] at hacquired hthreads
      exact hend hacquired.1 ((congrFun hthreads thread).trans hthread) rfl fun lease hmem => Or.inl hmem
    · next lease s' heq =>
      rw [heq] at hacquired hthreads
      obtain ⟨hheld, hgiven⟩ := hacquired
      obtain ⟨hfresh, hout⟩ := hgiven lease rfl
      have hstays : s'.threads thread = .recovering recovery := (congrFun hthreads thread).trans hthread
      have hnew : ∀ other ∈ some lease, Fresh s' other := by
        rintro other hother
        obtain rfl := Option.some.inj hother
        exact hfresh
      split
      · exact hend hheld hstays rfl fun other hmem => Or.inr (hnew other hmem)
      · exact hheld.move hstays hphase rfl hnew ⟨hbraced.1, hbraced.2.1, lease, rfl, hout⟩
  · exact hend h hthread rfl fun lease hmem => Or.inl hmem
  · exact h

theorem finishRecovery (h : Held s) {recovery : Recovery} (hthread : s.threads thread = .recovering recovery)
    (hended : recovery.phase = .ended) (pose : Option (ℚ × ℚ)) :
    Held (finishRecovery hypot s thread recovery now pose) := by
  unfold ObstacleMonitor.finishRecovery
  extract_lets released inactive stillActive
  have hreleased : Held released := by
    unfold released
    split
    · next hlease =>
      obtain ⟨lease, hlease⟩ := Option.isSome_iff_exists.mp hlease
      rw [hlease]
      refine ⟨h.tickets, h.leases.released fun other moving hother hphase hsame => ?_⟩
      -- a lease with a motion is not the one that is given back, as a lease has one holder
      have hmine : lease ∈ (s.threads thread).lease := by
        rw [hthread]
        exact hlease
      have htheirs : lease ∈ (s.threads other).lease := by
        rw [hother]
        exact hsame
      obtain rfl := h.leases.oneHolder thread other lease hmine htheirs
      obtain rfl := Activity.recovering.inj (hthread.symm.trans hother)
      exact nomatch hended.symm.trans hphase
    · exact h
  have hinactive : Held inactive := hreleased.congr rfl rfl rfl rfl rfl rfl
  split
  · refine Held.quiet ?_ rfl
    have hemitted := hinactive.emitStage now .recoveryAttempt recovery.attempt ""
    unfold reportRecovery
    dsimp only
    split
    · exact hemitted.congr rfl rfl rfl rfl rfl rfl
    · exact hemitted.congr rfl rfl rfl rfl rfl rfl
  · exact hinactive.quiet rfl

theorem dispatch (h : Held s) (accepted : Bool) : Held (dispatch settings s accepted) := by
  unfold ObstacleMonitor.dispatch
  split
  · exact h
  extract_lets invalid sent
  split
  · exact h.congr rfl rfl rfl rfl rfl rfl
  have hsent : Held sent := h.congr rfl rfl rfl rfl rfl rfl
  split
  · exact hsent.syncBudget
  · exact hsent

theorem otherAcquire (h : Held s) (clock : AcquireClock) (owner reason : String) (distance : ℚ) :
    Held (ObstacleMonitor.step settings hypot s (.otherAcquire clock owner reason distance)) := by
  have hacquired := h.acquireRecovery clock owner reason distance
  simp only [ObstacleMonitor.step]
  split
  · next s' heq =>
    rw [heq] at hacquired
    exact hacquired.1
  · next lease s' heq =>
    rw [heq] at hacquired
    obtain ⟨⟨htickets, hleases⟩, hgiven⟩ := hacquired
    obtain ⟨⟨hthreads, -, hgeneration⟩, -⟩ := hgiven lease rfl
    refine ⟨htickets, fun thread other hother => ?_, fun other hother => ?_, hleases.oneHolder, hleases.braced⟩
    · obtain ⟨hnewest, hnone⟩ := hleases.given thread other hother
      refine ⟨hnewest, fun hmem => ?_⟩
      rcases List.mem_append.mp hmem with hbefore | hlast
      · exact hnone hbefore
      · exact hthreads thread (List.mem_singleton.mp hlast ▸ hother)
    · rcases List.mem_append.mp hother with hbefore | hlast
      · exact hleases.givenOthers other hbefore
      · exact List.mem_singleton.mp hlast ▸ hgeneration

theorem step (h : Held s) (event : Event) : Held (step settings hypot s event) := by
  cases event with
  | evaluate thread now observation pose episode =>
    simp only [ObstacleMonitor.step]
    split
    · exact h.evaluate observation pose episode
    · exact h
  | resumeForward thread now executionId stopped observation =>
    simp only [ObstacleMonitor.step]
    split
    · exact h.resumeForward executionId stopped observation
    · exact h
  | resumeAfter thread now =>
    simp only [ObstacleMonitor.step]
    split
    · exact h.resumeAfterObstacle _
    · exact h
  | enterSafeObserving thread now =>
    simp only [ObstacleMonitor.step]
    split
    · exact h.enterSafeObserving
    · exact h
  | requestObservingCancel thread =>
    simp only [ObstacleMonitor.step]
    split
    · have hrequested : Held (requestCancel s) := h.congr rfl rfl rfl rfl rfl rfl
      exact hrequested.quiet rfl
    · exact h
  | observingCancelled thread cancelled =>
    simp only [ObstacleMonitor.step]
    split
    · exact h.leaveSafeObserving cancelled
    · exact h
  | beginRecovery thread observation reverseClear leftClear rightClear =>
    simp only [ObstacleMonitor.step]
    split
    · next hthread => exact h.beginRecovery hthread observation reverseClear leftClear rightClear
    · exact h
  | continueRecovery thread answer clock =>
    simp only [ObstacleMonitor.step]
    split
    · next hthread => exact h.continueRecovery hthread answer clock
    · exact h
  | finishRecovery thread now pose =>
    simp only [ObstacleMonitor.step]
    split
    · next hthread =>
      split
      · next hended => exact h.finishRecovery hthread hended pose
      · exact h
    · exact h
  | navigationResult status generation postArrival =>
    simp only [ObstacleMonitor.step]
    rcases onNavigationResult_cases s status generation postArrival with heq | heq | heq
    · rw [heq]
      exact h
    · rw [heq]
      exact h.congr rfl rfl rfl rfl rfl rfl
    · rw [heq]
      exact h.congr rfl rfl rfl rfl rfl rfl
  | dispatch accepted => exact h.dispatch accepted
  | otherAcquire clock owner reason distance => exact h.otherAcquire clock owner reason distance
  | otherRelease lease =>
    simp only [ObstacleMonitor.step]
    split
    · next hother =>
      refine ⟨h.tickets, h.leases.released fun thread recovery hthread _ hsame => ?_⟩
      have hgiven : lease ∈ (s.threads thread).lease := by
        rw [hthread]
        exact hsame
      exact (h.leases.given thread lease hgiven).2 hother
    · exact h
  | taskState state | moveOn key target | stopMonitor | cancelNavigation | invalidateNavResults =>
    exact h.congr rfl rfl rfl rfl rfl rfl

end Held

/-! ## Every run -/

theorem Held.bracketed (h : Held s) : Bracketed s := by
  intro thread recovery hthread hphase
  have hbraced := h.leases.braced thread recovery hthread
  unfold Braced at hbraced
  rw [hphase] at hbraced
  exact hbraced

theorem Held.bounded (h : Held s) (hbudget : Budget settings s) : Bounded settings s := by
  intro key
  calc (motionKeys s).count key
      ≤ s.attempted.count key := h.tickets.count_spent_le rfl key
    _ ≤ settings.maxRecoveryAttempts.toNat := hbudget.bounded key

theorem finished (s : Executor) (event : Event) : Finished settings hypot s event := by
  cases event with
  | finishRecovery thread now pose =>
    intro recovery hthread hended
    simp only [step, hthread, hended, if_true]
    unfold finishRecovery
    extract_lets released inactive stillActive
    have hgone : ∀ lease ∈ recovery.lease, inactive.recoveryArbiter.lease ≠ some lease := by
      intro lease hlease
      show released.recoveryArbiter.lease ≠ some lease
      unfold released
      rw [Option.mem_def.mp hlease, if_pos (by rfl)]
      unfold releaseRecovery RecoveryArbiter.release
      dsimp only
      split
      · next hother => exact hother
      · intro hheld
        cases hheld
    split
    · have hreport : Apart thread inactive (reportRecovery hypot inactive recovery.attempt now pose) :=
        apart_reportRecovery inactive thread now recovery.attempt pose
      refine ⟨Bool.eq_false_iff.mpr fun hactive => Bool.noConfusion (hreport.active hactive), fun lease hlease => ?_⟩
      exact fun hheld => hgone lease hlease (hreport.lease.symm.trans hheld)
    · exact ⟨rfl, hgone⟩
  | _ => trivial

/-- In a run that keeps the budgets, the motions at a waypoint are bounded; they are bracketed, and recoveries clean
up. -/
theorem bounded_of_budgetKept (settings : Settings) (hypot : ℚ → ℚ → ℚ) (context : Context) (events : List Event)
    (hkept : Run.Always (step settings hypot) BudgetKept (initial context) events) :
    (∀ reached, reached <+: events → Bounded settings (Run.exec (step settings hypot) (initial context) reached) ∧
      Bracketed (Run.exec (step settings hypot) (initial context) reached)) ∧
      Run.Always (step settings hypot) (Finished settings hypot) (initial context) events := by
  refine ⟨?_, Run.always_of_invariant (fun _ => True) (fun _ _ => id) (fun s event _ => finished s event) trivial events⟩
  rintro reached ⟨rest, rfl⟩
  have hreached := ((Run.always_append _ _ _ reached rest).mp hkept).1
  have hheld : Held (Run.exec (step settings hypot) (initial context) reached) :=
    Run.exec_invariant Held (fun _ event h => h.step event) (Held.initial context) reached
  have hbudget := Run.exec_invariant_of_always (Budget settings) (fun _ event h => h.step event)
    (Budget.initial context) hreached
  exact ⟨hheld.bounded hbudget, hheld.bracketed⟩

/-- A recovery that moves is bracketed and alone, and no attempt is spent on two motions. -/
structure Exclusive (s : Executor) : Prop where
  bracketed : Bracketed s
  alone : ∀ thread other recovery recovery', s.threads thread = .recovering recovery →
    s.threads other = .recovering recovery' → recovery.phase = .moving → recovery'.phase = .moving → thread = other
  unshared : ∀ thread recovery, s.threads thread = .recovering recovery → ∀ lease ∈ recovery.lease,
    lease ∉ s.otherLeases
  once : s.motions.Nodup

theorem Held.exclusive (h : Held s) : Exclusive s where
  bracketed := h.bracketed
  alone thread other recovery recovery' hthread hother hmoving hmoving' := by
    obtain ⟨-, -, lease, hlease, hheld⟩ := h.bracketed thread recovery hthread hmoving
    obtain ⟨-, -, lease', hlease', hheld'⟩ := h.bracketed other recovery' hother hmoving'
    obtain rfl := Option.some.inj (hheld.symm.trans hheld')
    refine h.leases.oneHolder thread other lease ?_ ?_
    · show lease ∈ (s.threads thread).lease
      rw [hthread]
      exact hlease
    · show lease ∈ (s.threads other).lease
      rw [hother]
      exact hlease'
  unshared thread recovery hthread lease hlease := by
    refine (h.leases.given thread lease ?_).2
    rw [hthread]
    exact hlease
  once := h.tickets.spentOnce

/-- **One recovery moves at a time**, in every run, whether the budgets are kept or not. -/
theorem recoveries_exclusive (settings : Settings) (hypot : ℚ → ℚ → ℚ) (context : Context) (events : List Event) :
    Exclusive (Run.exec (step settings hypot) (initial context) events) :=
  (Run.exec_invariant Held (fun _ event h => h.step event) (Held.initial context) events).exclusive

instance : ∀ (s : Executor) (event : Event), Decidable (BudgetKept s event)
  | s, .stopMonitor => inferInstanceAs (Decidable (∀ key ∈ s.waypointKey, key ∉ s.attempted))
  | s, .moveOn key _ => inferInstanceAs (Decidable (s.obstacleWaypointKey = some key ∨ key ∉ s.attempted))
  | s, .navigationResult .cancelled _ _ => inferInstanceAs (Decidable (∀ context ∈ s.context,
      context.state ∈ [.accepted, .resuming, .interrupted] → context.key ∉ s.attempted))
  | _, .navigationResult .succeeded .. | _, .navigationResult .failed .. | _, .evaluate .. | _, .resumeForward ..
  | _, .resumeAfter .. | _, .enterSafeObserving .. | _, .requestObservingCancel .. | _, .observingCancelled ..
  | _, .beginRecovery .. | _, .continueRecovery .. | _, .finishRecovery .. | _, .dispatch .. | _, .taskState ..
  | _, .cancelNavigation | _, .invalidateNavResults | _, .otherAcquire .. | _, .otherRelease .. => isTrue trivial

def oneAttempt : Settings := { maxRecoveryAttempts := 1 }

/-- The obstacle stays after the only recovery, and the robot observes it. -/
def stillBlocked : List Event :=
  recoveryBegun ++ recoveryEnded ++
    [.evaluate 0 10 blockedScan (some (0, 0)) 8, .evaluate 0 16 blockedScan (some (0, 0)) 8, .enterSafeObserving 0 16]

theorem bounded_stillBlocked :
    (∀ reached, reached <+: stillBlocked →
      Bounded oneAttempt (Run.exec (step oneAttempt fun x y => |x| + |y|) (initial onItsWay) reached) ∧
        Bracketed (Run.exec (step oneAttempt fun x y => |x| + |y|) (initial onItsWay) reached)) ∧
      Run.Always (step oneAttempt fun x y => |x| + |y|) (Finished oneAttempt fun x y => |x| + |y|) (initial onItsWay)
        stillBlocked :=
  bounded_of_budgetKept oneAttempt (fun x y => |x| + |y|) onItsWay stillBlocked (by decide)

def laterClock : AcquireClock := ⟨26, ⟨26, 26, 26⟩, 26⟩

/-- After the only recovery Nav2 fails, and the task is held and resumed. -/
def heldAndResumed : List Event :=
  recoveryBegun ++ recoveryEnded ++
    [.navigationResult .failed (some 3) ⟨false, false⟩, .stopMonitor, .taskState .paused, .taskState .resuming,
      .dispatch true, .evaluate 0 20 blockedScan (some (0, 0)) 9, .evaluate 0 26 blockedScan (some (0, 0)) 9,
      .beginRecovery 0 blockedScan true true true, .continueRecovery 0 .yes laterClock,
      .continueRecovery 0 .yes laterClock, .continueRecovery 0 .yes laterClock, .continueRecovery 0 .yes laterClock]

theorem not_bounded_heldAndResumed :
    ¬ Bounded oneAttempt (Run.exec (step oneAttempt fun x y => |x| + |y|) (initial onItsWay) heldAndResumed) := by
  intro h
  have htwice := h ⟨1, 1, 0⟩
  revert htwice
  decide +kernel

end ObstacleMonitor

end RoamerX
