import RoamerX.Edge.ObstacleRecovery
import RoamerX.Lib.Run

set_option autoImplicit false

/-! # Whose cancel a cancelled result is

The executor counts the cancels that it expects, and takes the next cancelled result for one of them. This is right as
long as none is expected any more when a goal is dispatched. -/

namespace RoamerX

namespace ObstacleMonitor

/-- The cancel of a safe observation is expected and not requested yet. -/
def Activity.expects : Activity → Bool
  | .announced => true
  | _ => false

/-- A recovery has begun and not requested its cancel yet. -/
def Activity.begun : Activity → Bool
  | .recovering recovery => !recovery.cancelRequested
  | _ => false

/-- The goal of the current generation. -/
def CurrentGoal (s : Executor) (goal : ℕ) : Prop := s.goal = some goal ∧ goal = s.navGoalGeneration

/-- A cancelled result of the current goal of a running task is ignored only where the executor requested it. -/
def Accounted (s : Executor) : Event → Prop
  | .navigationResult .cancelled generation postArrival => ∀ goal, CurrentGoal s goal →
      (∀ g ∈ generation, g = goal) → s.running = true →
        let reaction := (onNavigationResult s .cancelled generation postArrival).1
        reaction = .ignored ∧ goal ∈ s.cancelRequests ∨ reaction = .redispatched ∨ reaction = .postArrivalResumed
  | _ => True

/-- What a step must not do: dispatch while a cancel is expected or a recovery active, or end a goal between the begin
of a recovery or of a safe observation and its request, or while a thread adjusts or turns the robot. -/
def Settled (s : Executor) : Event → Prop
  | .dispatch _ => s.expectedRecoveryCancels = 0 ∧ s.recoveryActive = false
  | .navigationResult .cancelled generation postArrival => (∀ g ∈ generation, g = s.navGoalGeneration) →
      s.running = true → (∀ thread, (s.threads thread).expects = false ∧ (s.threads thread).begun = false) ∧
        (postArrival.active = true → postArrival.threadAlive = false)
  | _ => True

/-- The cancel of the current goal is requested where one is expected or a recovery active, or is about to be. -/
structure Expected (s : Executor) : Prop where
  bound : ∀ goal, s.goal = some goal → goal ≤ s.navGoalGeneration
  counted : 0 < s.expectedRecoveryCancels → ∀ goal, CurrentGoal s goal →
    goal ∈ s.cancelRequests ∨ ∃ thread, (s.threads thread).expects = true
  active : s.recoveryActive = true → ∀ goal, CurrentGoal s goal →
    goal ∈ s.cancelRequests ∨ ∃ thread, (s.threads thread).begun = true

variable {settings : Settings} {hypot : ℚ → ℚ → ℚ} {s s' : Executor} {thread : ℕ} {now : ℚ}

namespace Expected

theorem initial (context : Context) : Expected (initial context) where
  bound _ hgoal := nomatch hgoal
  counted hpos := absurd hpos (Nat.lt_irrefl _)
  active hactive := nomatch hactive

theorem stale (h : ∀ goal, s.goal = some goal → goal < s.navGoalGeneration) : Expected s where
  bound goal hgoal := (h goal hgoal).le
  counted _ goal hcurrent := absurd hcurrent.2 (h goal hcurrent.1).ne
  active _ goal hcurrent := absurd hcurrent.2 (h goal hcurrent.1).ne

theorem mono (h : Expected s) (hgoal : s'.goal = s.goal) (hgeneration : s'.navGoalGeneration = s.navGoalGeneration)
    (hrequests : s'.cancelRequests = s.cancelRequests)
    (hexpected : s'.expectedRecoveryCancels ≤ s.expectedRecoveryCancels)
    (hactive : s'.recoveryActive = true → s.recoveryActive = true)
    (hthreads : ∀ thread, ((s.threads thread).expects = true → (s'.threads thread).expects = true) ∧
      (s'.recoveryActive = true → (s.threads thread).begun = true → (s'.threads thread).begun = true)) :
    Expected s' where
  bound := by
    rw [hgoal, hgeneration]
    exact h.bound
  counted hpos goal hcurrent := by
    unfold CurrentGoal at hcurrent
    rw [hgoal, hgeneration] at hcurrent
    rw [hrequests]
    exact (h.counted (hpos.trans_le hexpected) goal hcurrent).imp id fun ⟨thread, hthread⟩ =>
      ⟨thread, (hthreads thread).1 hthread⟩
  active hon goal hcurrent := by
    unfold CurrentGoal at hcurrent
    rw [hgoal, hgeneration] at hcurrent
    rw [hrequests]
    exact (h.active (hactive hon) goal hcurrent).imp id fun ⟨thread, hthread⟩ =>
      ⟨thread, (hthreads thread).2 hon hthread⟩

theorem apart (h : Expected s) (hapart : Apart thread s s') (hexpects : (s.threads thread).expects = false)
    (hbegun : s.recoveryActive = true → (s.threads thread).begun = false) : Expected s' := by
  refine h.mono hapart.goal hapart.generation hapart.requests hapart.expected.le hapart.active fun other => ?_
  by_cases hother : other = thread
  · subst hother
    exact ⟨fun hyes => Bool.noConfusion (hexpects.symm.trans hyes), fun hon hyes =>
      Bool.noConfusion ((hbegun (hapart.active hon)).symm.trans hyes)⟩
  · rw [hapart.threads other hother]
    exact ⟨id, fun _ => id⟩

theorem invalidated (h : Expected s) (hgoal : s'.goal = s.goal)
    (hgeneration : s'.navGoalGeneration = s.navGoalGeneration + 1) : Expected s' := by
  refine stale fun goal hgoal' => ?_
  rw [hgeneration]
  exact Nat.lt_succ_of_le (h.bound goal (hgoal ▸ hgoal'))

theorem acquireRecovery (h : Expected s) (clock : AcquireClock) (owner reason : String) (distance : ℚ) :
    Expected (acquireRecovery s clock owner reason distance).2 := by
  rcases acquireRecovery_cases s clock owner reason distance with ⟨context, -, heq⟩ | ⟨lease, budget, -, -, -, heq⟩
  · rw [heq]
    exact h.mono rfl rfl rfl (le_refl _) id fun _ => ⟨id, fun _ => id⟩
  · rw [heq]
    exact h.mono rfl rfl rfl (le_refl _) id fun _ => ⟨id, fun _ => id⟩

theorem setRecovering (h : Expected s) {recovery recovery' : Recovery}
    (hthread : s.threads thread = .recovering recovery)
    (hrequested : recovery'.cancelRequested = recovery.cancelRequested) :
    Expected (s.setThread thread (.recovering recovery')) := by
  refine h.mono rfl rfl rfl (le_refl _) id fun other => ?_
  by_cases hother : other = thread
  · subst hother
    rw [hthread]
    simp only [Executor.setThread, Function.update_self, Activity.begun, hrequested]
    exact ⟨id, fun _ => id⟩
  · simp only [Executor.setThread, Function.update_of_ne hother]
    exact ⟨id, fun _ => id⟩

theorem continueRecovery (h : Expected s) {recovery : Recovery} (hthread : s.threads thread = .recovering recovery)
    (answer : Answer) (clock : AcquireClock) :
    Expected (continueRecovery settings s thread recovery answer clock) := by
  have hacquired := h.acquireRecovery clock "EDGE_OBSTACLE" ("physical_obstacle_attempt_" ++ toString recovery.attempt)
    (settings.reverseDistance + settings.lateralDistance)
  have hthreads := threads_acquireRecovery s clock "EDGE_OBSTACLE"
    ("physical_obstacle_attempt_" ++ toString recovery.attempt) (settings.reverseDistance + settings.lateralDistance)
  unfold ObstacleMonitor.continueRecovery
  dsimp only
  split
  · split
    · exact h.setRecovering hthread rfl
    · -- the results are invalidated before the request
      exact h.invalidated rfl rfl
  · split
    · exact h.setRecovering hthread rfl
    · have hlowered : Expected { s with expectedRecoveryCancels := s.expectedRecoveryCancels - 1 } :=
        h.mono rfl rfl rfl (Nat.sub_le _ _) id fun _ => ⟨id, fun _ => id⟩
      exact hlowered.setRecovering hthread rfl
    · exact h.setRecovering hthread rfl
  · split
    · exact h.setRecovering hthread rfl
    · exact h.setRecovering hthread rfl
  · split
    · next s' heq =>
      rw [heq] at hacquired hthreads
      exact hacquired.setRecovering ((congrFun hthreads thread).trans hthread) rfl
    · next lease s' heq =>
      rw [heq] at hacquired hthreads
      split
      · exact hacquired.setRecovering ((congrFun hthreads thread).trans hthread) rfl
      · have hmoved : Expected { s' with motions := s'.motions ++ [recovery.ticket] } :=
          hacquired.mono rfl rfl rfl (le_refl _) id fun _ => ⟨id, fun _ => id⟩
        exact hmoved.setRecovering ((congrFun hthreads thread).trans hthread) rfl
  · exact h.setRecovering hthread rfl
  · exact h

theorem finishRecovery (h : Expected s) {recovery : Recovery} (hthread : s.threads thread = .recovering recovery)
    (pose : Option (ℚ × ℚ)) : Expected (finishRecovery hypot s thread recovery now pose) := by
  unfold ObstacleMonitor.finishRecovery
  extract_lets released inactive stillActive
  have hinactive : Expected inactive ∧ inactive.threads = s.threads := by
    unfold inactive released
    split
    · exact ⟨h.mono rfl rfl rfl (le_refl _) nofun fun _ => ⟨id, fun _ => id⟩, rfl⟩
    · exact ⟨h.mono rfl rfl rfl (le_refl _) nofun fun _ => ⟨id, fun _ => id⟩, rfl⟩
  have hexpects : (inactive.threads thread).expects = false := by
    rw [hinactive.2, hthread]
    rfl
  refine hinactive.1.apart (Apart.trans ?_ (apart_setThread _ thread .idle)) hexpects nofun
  split
  · exact apart_reportRecovery _ _ _ _ _
  · exact Apart.refl thread inactive

theorem beginRecovery (h : Expected s) {attempt ticket : ℕ} (hthread : s.threads thread = .toRecover attempt ticket)
    (observation : Observation) (reverseClear leftClear rightClear : Bool) :
    Expected (beginRecovery settings s thread attempt ticket observation reverseClear leftClear rightClear) := by
  have hidle : Expected (s.setThread thread .idle) :=
    h.apart (apart_setThread s thread .idle) (by rw [hthread]; rfl) fun _ => by rw [hthread]; rfl
  unfold ObstacleMonitor.beginRecovery
  split
  · exact hidle
  split
  · exact hidle
  · refine ⟨h.bound, fun hpos goal hcurrent => ?_, fun _ goal _ => Or.inr ⟨thread, ?_⟩⟩
    · refine (h.counted hpos goal hcurrent).imp id fun ⟨other, hother⟩ => ⟨other, ?_⟩
      have hne : other ≠ thread := by
        rintro rfl
        rw [hthread] at hother
        exact nomatch hother
      simpa only [Executor.setThread, Function.update_of_ne hne] using hother
    · simp only [Executor.setThread, Function.update_self, Activity.begun, Bool.not_false]

theorem enterSafeObserving (h : Expected s) (hthread : s.threads thread = .toObserve) :
    Expected (enterSafeObserving s thread now) := by
  unfold ObstacleMonitor.enterSafeObserving
  split
  · exact h.apart (apart_setThread s thread .idle) (by rw [hthread]; rfl) fun _ => by rw [hthread]; rfl
  extract_lets attempts stopped announced
  have happart : Apart thread s announced := by
    have hstopped : Apart thread s stopped := ⟨rfl, rfl, rfl, rfl, rfl, rfl, rfl, rfl, id, fun _ _ => rfl⟩
    exact (hstopped.trans (apart_emitStage _ _ _ _ _ _)).trans (apart_emitStage _ _ _ _ _ _)
  have hannounced : Expected announced :=
    h.apart happart (by rw [hthread]; rfl) fun _ => by rw [hthread]; rfl
  have hstays : announced.threads thread = .toObserve := by
    unfold announced
    simp only [Executor.threads_emitStage]
    exact hthread
  refine ⟨hannounced.bound, fun _ goal _ => Or.inr ⟨thread, ?_⟩, fun hon goal hcurrent => ?_⟩
  · simp only [Executor.setThread, Function.update_self, Activity.expects]
  · refine (hannounced.active hon goal hcurrent).imp id fun ⟨other, hother⟩ => ⟨other, ?_⟩
    have hne : other ≠ thread := by
      rintro rfl
      rw [hstays] at hother
      exact nomatch hother
    simpa only [Executor.setThread, Function.update_of_ne hne] using hother

theorem requestObservingCancel (h : Expected s) : Expected ((requestCancel s).setThread thread .observing) := by
  have hrequested : ∀ goal, CurrentGoal s goal → goal ∈ (requestCancel s).cancelRequests := by
    intro goal hcurrent
    unfold requestCancel
    rw [hcurrent.1]
    exact List.mem_append_right _ List.mem_cons_self
  exact ⟨h.bound, fun _ goal hcurrent => Or.inl (hrequested goal hcurrent), fun _ goal hcurrent =>
    Or.inl (hrequested goal hcurrent)⟩

theorem leaveSafeObserving (h : Expected s) (hthread : s.threads thread = .observing) (cancelled : Bool) :
    Expected (leaveSafeObserving s thread cancelled) := by
  unfold ObstacleMonitor.leaveSafeObserving
  extract_lets lowered
  have hlowered : Expected lowered ∧ lowered.threads = s.threads := by
    unfold lowered
    split
    · exact ⟨h, rfl⟩
    · exact ⟨h.mono rfl rfl rfl (Nat.sub_le _ _) id fun _ => ⟨id, fun _ => id⟩, rfl⟩
  have hstays : lowered.threads thread = .observing := (congrFun hlowered.2 thread).trans hthread
  exact hlowered.1.apart (apart_setThread lowered thread .idle) (by rw [hstays]; rfl) fun _ => by rw [hstays]; rfl

theorem syncBudget (h : Expected s) : Expected s.syncBudget := by
  unfold Executor.syncBudget
  split
  · exact h
  · exact h.mono rfl rfl rfl (le_refl _) nofun fun _ => ⟨id, fun _ => id⟩

theorem dispatch (h : Expected s) (hsettled : s.expectedRecoveryCancels = 0 ∧ s.recoveryActive = false)
    (accepted : Bool) : Expected (dispatch settings s accepted) := by
  unfold ObstacleMonitor.dispatch
  split
  · exact h
  extract_lets invalid sent
  split
  · exact h.invalidated rfl rfl
  have hsent : Expected sent := by
    refine ⟨fun goal hgoal => (Option.some.inj hgoal).ge, fun hpos => ?_, fun hon => ?_⟩
    · exact absurd hsettled.1 hpos.ne'
    · exact Bool.noConfusion (hsettled.2.symm.trans hon)
  split
  · exact hsent.syncBudget
  · exact hsent

theorem step (h : Expected s) (event : Event) (hsettled : Settled s event) :
    Expected (step settings hypot s event) := by
  cases event with
  | evaluate thread now observation pose episode =>
    simp only [ObstacleMonitor.step]
    split
    · next hidle =>
      exact h.apart (apart_evaluate s thread now observation pose episode) (by rw [hidle]; rfl) fun _ => by
        rw [hidle]; rfl
    · exact h
  | resumeForward thread now executionId stopped observation =>
    simp only [ObstacleMonitor.step]
    split
    · next hidle =>
      exact h.apart (apart_resumeForward s thread now executionId stopped observation) (by rw [hidle]; rfl) fun _ => by
        rw [hidle]; rfl
    · exact h
  | resumeAfter thread now =>
    simp only [ObstacleMonitor.step]
    split
    · next automatic hthread =>
      exact h.apart (apart_resumeAfterObstacle s thread now automatic) (by rw [hthread]; rfl) fun _ => by
        rw [hthread]; rfl
    · exact h
  | enterSafeObserving thread now =>
    simp only [ObstacleMonitor.step]
    split
    · next hthread => exact h.enterSafeObserving hthread
    · exact h
  | requestObservingCancel thread =>
    simp only [ObstacleMonitor.step]
    split
    · exact h.requestObservingCancel
    · exact h
  | observingCancelled thread cancelled =>
    simp only [ObstacleMonitor.step]
    split
    · next hthread => exact h.leaveSafeObserving hthread cancelled
    · exact h
  | beginRecovery thread observation reverseClear leftClear rightClear =>
    simp only [ObstacleMonitor.step]
    split
    · next hthread => exact h.beginRecovery hthread observation reverseClear leftClear rightClear
    · exact h
  | continueRecovery thread answer clock =>
    simp only [ObstacleMonitor.step]
    split
    · next hthread => exact h.continueRecovery hthread answer clock
    · exact h
  | finishRecovery thread now pose =>
    simp only [ObstacleMonitor.step]
    split
    · next hthread =>
      split
      · exact h.finishRecovery hthread pose
      · exact h
    · exact h
  | navigationResult status generation postArrival =>
    simp only [ObstacleMonitor.step]
    rcases onNavigationResult_cases s status generation postArrival with heq | heq | heq
    · rw [heq]
      exact h
    · rw [heq]
      exact h.mono rfl rfl rfl (Nat.sub_le _ _) id fun _ => ⟨id, fun _ => id⟩
    · rw [heq]
      exact h.mono rfl rfl rfl (le_refl _) (fun hon => Bool.noConfusion hon) fun _ => ⟨id, fun _ => id⟩
  | dispatch accepted => exact h.dispatch hsettled accepted
  | taskState state => exact h.mono rfl rfl rfl (le_refl _) id fun _ => ⟨id, fun _ => id⟩
  | moveOn key target => exact h.mono rfl rfl rfl (le_refl _) id fun _ => ⟨id, fun _ => id⟩
  | stopMonitor => exact h.mono rfl rfl rfl (le_refl _) (fun hon => Bool.noConfusion hon) fun _ => ⟨id, fun _ => id⟩
  | cancelNavigation => exact h.invalidated rfl rfl
  | invalidateNavResults => exact h.invalidated rfl rfl
  | otherAcquire clock owner reason distance =>
    have hacquired := h.acquireRecovery clock owner reason distance
    simp only [ObstacleMonitor.step]
    split
    · next s' heq =>
      rw [heq] at hacquired
      exact hacquired
    · next lease s' heq =>
      rw [heq] at hacquired
      exact hacquired.mono rfl rfl rfl (le_refl _) id fun _ => ⟨id, fun _ => id⟩
  | otherRelease lease =>
    simp only [ObstacleMonitor.step]
    split
    · exact h.mono rfl rfl rfl (le_refl _) id fun _ => ⟨id, fun _ => id⟩
    · exact h

end Expected

theorem Expected.accounted (h : Expected s) (event : Event) (hsettled : Settled s event) : Accounted s event := by
  match event with
  | .navigationResult .cancelled generation postArrival =>
    intro goal hcurrent hgeneration hrunning
    have hrecent : ∀ g ∈ generation, g = s.navGoalGeneration := fun g hg => (hgeneration g hg).trans hcurrent.2
    obtain ⟨hidle, harrived⟩ := hsettled hrecent hrunning
    have hstale : (generation.any fun generation => decide (generation ≠ s.navGoalGeneration)) = false := by
      cases generation with
      | none => rfl
      | some g => simp [hrecent g rfl]
    obtain ⟨context, hcontext, hstate⟩ : ∃ context, s.context = some context ∧ context.state = .running := by
      simpa [Executor.running, Option.any_eq_true] using hrunning
    have hrequested : 0 < s.expectedRecoveryCancels ∨ s.recoveryActive = true → goal ∈ s.cancelRequests := by
      rintro (hpos | hon)
      · refine (h.counted hpos goal hcurrent).resolve_right fun ⟨thread, hthread⟩ => ?_
        exact Bool.noConfusion ((hidle thread).1.symm.trans hthread)
      · refine (h.active hon goal hcurrent).resolve_right fun ⟨thread, hthread⟩ => ?_
        exact Bool.noConfusion ((hidle thread).2.symm.trans hthread)
    unfold onNavigationResult
    simp only [hstale, hcontext, hstate, TaskState.terminal]
    by_cases hpos : 0 < s.expectedRecoveryCancels
    · simp [hpos, hrequested (Or.inl hpos)]
    by_cases hon : s.recoveryActive = true
    · simp [hpos, hon, hrequested (Or.inr hon)]
    cases hactive : postArrival.active with
    | false => simp [hpos, hon]
    | true => simp [hpos, hon, harrived hactive]
  | .navigationResult .succeeded .. | .navigationResult .failed .. | .evaluate .. | .resumeForward .. | .resumeAfter ..
  | .enterSafeObserving .. | .requestObservingCancel .. | .observingCancelled .. | .beginRecovery ..
  | .continueRecovery .. | .finishRecovery .. | .dispatch .. | .taskState .. | .moveOn .. | .stopMonitor
  | .cancelNavigation | .invalidateNavResults | .otherAcquire .. | .otherRelease .. => trivial

/-! ## Every run -/

/-- In a run of such steps, a cancelled result of the current goal is ignored only where the executor requested it. -/
theorem accounted_of_settled (settings : Settings) (hypot : ℚ → ℚ → ℚ) (context : Context) (events : List Event)
    (hsettled : Run.Always (step settings hypot) Settled (initial context) events) :
    Run.Always (step settings hypot) Accounted (initial context) events :=
  Run.always_of_guarded Expected (fun _ event h => h.step event) (fun _ event h => h.accounted event)
    (Expected.initial context) hsettled

def cancelOf (generation : ℕ) : Event := .navigationResult .cancelled (some generation) ⟨false, false⟩

/-- The cancel that the recovery requested, and later one that nobody did. -/
theorem accounted_recovery : Run.Always (step {} fun x y => |x| + |y|) Accounted (initial onItsWay)
    (recoveryBegun ++ cancelOf 1 :: (recoveryEnded ++ [cancelOf 3])) := by
  refine accounted_of_settled {} (fun x y => |x| + |y|) onItsWay _ ?_
  refine (Run.always_append _ _ _ recoveryBegun _).mpr ⟨?_, ?_, (Run.always_append _ _ _ recoveryEnded _).mpr ⟨?_, ?_⟩⟩
  · exact ⟨⟨rfl, rfl⟩, trivial, trivial, trivial, trivial, trivial⟩
  · intro hrecent
    exact absurd (hrecent 1 rfl) (by decide +kernel)
  · exact ⟨trivial, trivial, trivial, trivial, trivial, ⟨by decide +kernel, by decide +kernel⟩, trivial⟩
  · refine ⟨fun _ _ => ⟨fun thread => ?_, nofun⟩, trivial⟩
    cases thread with
    | zero => decide +kernel
    | succ other =>
      have hothers : ∀ event ∈ recoveryBegun ++ cancelOf 1 :: recoveryEnded, event.thread ≠ some (other + 1) := by
        simp [recoveryBegun, recoveryEnded, cancelOf, Event.thread]
      have hidle : (Run.exec (step {} fun x y => |x| + |y|) (initial onItsWay)
          (recoveryBegun ++ cancelOf 1 :: recoveryEnded)).threads (other + 1) = (initial onItsWay).threads (other + 1) :=
        threads_exec (initial onItsWay) _ hothers
      rw [Run.exec_append, Run.exec_cons] at hidle
      rw [hidle]
      exact ⟨rfl, rfl⟩

/-- The goal succeeds where its cancel was requested, and the next goal is cancelled. -/
def succeededInstead : List Event :=
  recoveryBegun ++ .navigationResult .succeeded (some 1) ⟨false, false⟩ :: recoveryEnded

theorem not_accounted_succeededInstead : ¬ Run.Always (step {} fun x y => |x| + |y|) Accounted (initial onItsWay)
    (succeededInstead ++ [cancelOf 3]) := by
  intro h
  have hlast := ((Run.always_append _ _ _ succeededInstead _).mp h).2.1
  have hanswer := hlast 3 ⟨by decide +kernel, by decide +kernel⟩ (by simp) (by decide +kernel)
  revert hanswer
  decide +kernel

end ObstacleMonitor

end RoamerX
