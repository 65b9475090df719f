import RoamerX.Edge.ObstacleRecovery
import RoamerX.Lib.Run

set_option autoImplicit false

/-! # An obstacle is gone after a continuous clear window

The timer of the clear window stands at an evaluation since which every one saw a fresh scan without an obstacle, as
long as each evaluation that would not is one that restarts it. It is not restarted by an evaluation while the task
does not run, by one of a stale scan, or by one of an obstacle without a pose. -/

namespace RoamerX

namespace ObstacleMonitor

/-- The stages that say that an obstacle is gone. -/
def Stage.saysClear : Stage → Bool
  | .clearConfirmed | .resumed => true
  | _ => false

/-- From an evaluation on that is `seconds` back, every one was clear. -/
def ClearWindow (seconds : ℚ) (evaluations : List Sample) (now : ℚ) : Prop :=
  ∃ before sample after, evaluations = before ++ sample :: after ∧ sample.time ≤ now - seconds ∧
    ∀ other ∈ sample :: after, other.clear = true

section

variable (settings : Settings)

/-- Every obstacle that was said to be gone had been so for the clear window. -/
def Cleared (s : Executor) : Prop :=
  ∀ emission ∈ s.emitted, emission.stage.saysClear = true →
    ClearWindow settings.obstacleClearSeconds emission.evaluations emission.time

/-- What a step must not do: let the timer run through an evaluation that was not clear, or go on after it stopped. -/
def Continuous (s : Executor) : Event → Prop
  | .evaluate thread _ observation pose _ => s.threads thread = .idle →
    if s.running && settings.enabled then
      localizationAllows observation = true → s.waypointKey = s.obstacleWaypointKey → s.episodeId.isSome →
        s.stage ≠ some .safeObserving →
          (blocked settings observation = false → scanIsFresh observation = true) ∧
            (blocked settings observation = true → pose.isSome)
    else s.clearStartedAt = none
  | .resumeAfter thread now => ∀ automatic, s.threads thread = .toResume automatic → s.running = true →
      s.episodeId.isSome → ∃ since, s.clearStartedAt = some since ∧ settings.obstacleClearSeconds ≤ now - since
  | _ => True

/-- The timer stands at a clear evaluation, and every later one was clear. -/
structure Timed (s : Executor) : Prop where
  since : ∀ since, s.clearStartedAt = some since → ∃ before sample after, s.evaluations = before ++ sample :: after ∧
    sample.time = since ∧ ∀ other ∈ sample :: after, other.clear = true
  episode : s.clearStartedAt.isSome → s.episodeId.isSome
  cleared : Cleared settings s

end

variable {settings : Settings} {hypot : ℚ → ℚ → ℚ} {s s' : Executor} {now : ℚ} {thread : ℕ}

namespace Timed

theorem initial (context : Context) : Timed settings (initial context) where
  since _ hsince := nomatch hsince
  episode hsome := nomatch hsome
  cleared _ hemission := absurd hemission List.not_mem_nil

theorem congr (h : Timed settings s) (htimer : s'.clearStartedAt = s.clearStartedAt)
    (hepisode : s'.episodeId = s.episodeId) (hevaluations : s'.evaluations = s.evaluations)
    (hemitted : s'.emitted = s.emitted) : Timed settings s' where
  since := by
    rw [htimer, hevaluations]
    exact h.since
  episode := by
    rw [htimer, hepisode]
    exact h.episode
  cleared := by
    unfold Cleared
    rw [hemitted]
    exact h.cleared

theorem stopped (hcleared : Cleared settings s) (htimer : s.clearStartedAt = none) : Timed settings s where
  since _ hsince := nomatch htimer.symm.trans hsince
  episode hsome := by
    rw [htimer] at hsome
    exact nomatch hsome
  cleared := hcleared

theorem window (h : Timed settings s) {since : ℚ} (hsince : s.clearStartedAt = some since)
    (hlong : settings.obstacleClearSeconds ≤ now - since) :
    ClearWindow settings.obstacleClearSeconds s.evaluations now := by
  obtain ⟨before, sample, after, hevaluations, htime, hclear⟩ := h.since since hsince
  refine ⟨before, sample, after, hevaluations, ?_, hclear⟩
  rw [htime]
  linarith

end Timed

theorem Cleared.emitStage (h : Cleared settings s) (now : ℚ) (stage : Stage) (attempt : ℕ) (reason : String)
    (hstage : stage.saysClear = true → ClearWindow settings.obstacleClearSeconds s.evaluations now) :
    Cleared settings (s.emitStage now stage attempt reason) := by
  unfold Executor.emitStage
  split
  · intro emission hemission
    rcases List.mem_append.mp hemission with hemission | hemission
    · exact h emission hemission
    · rw [List.mem_singleton.mp hemission]
      exact hstage
  · exact h

theorem Timed.emitStage (h : Timed settings s) (now : ℚ) (stage : Stage) (attempt : ℕ) (reason : String)
    (hstage : stage.saysClear = true → ClearWindow settings.obstacleClearSeconds s.evaluations now) :
    Timed settings (s.emitStage now stage attempt reason) := by
  have hcleared : Cleared settings (s.emitStage now stage attempt reason) := h.cleared.emitStage now stage attempt reason hstage
  unfold Executor.emitStage at hcleared ⊢
  split
  · next hcontext hepisode =>
    rw [hcontext, hepisode] at hcleared
    exact ⟨h.since, fun hsome => hepisode ▸ h.episode hsome, hcleared⟩
  · exact h

theorem Timed.resetEpisode (h : Timed settings s) (resetWaypointBudget : Bool) :
    Timed settings (s.resetEpisode resetWaypointBudget) :=
  Timed.stopped h.cleared rfl

theorem Timed.syncBudget (h : Timed settings s) : Timed settings s.syncBudget := by
  unfold Executor.syncBudget
  split
  · exact h
  · exact Timed.stopped h.cleared rfl

theorem Timed.record (h : Timed settings s) : Timed settings (s.record now true) where
  since since hsince := by
    obtain ⟨before, sample, after, hevaluations, htime, hclear⟩ := h.since since hsince
    refine ⟨before, sample, after ++ [⟨now, true⟩], ?_, htime, ?_⟩
    · show s.evaluations ++ [⟨now, true⟩] = _
      rw [hevaluations, List.append_assoc, List.cons_append]
    · intro other hother
      rw [← List.cons_append] at hother
      rcases List.mem_append.mp hother with hother | hother
      · exact hclear other hother
      · rw [List.mem_singleton.mp hother]
  episode := h.episode
  cleared := h.cleared

theorem Timed.start (hcleared : Cleared settings s) (hepisode : s.episodeId.isSome)
    (hlast : ∃ before, s.evaluations = before ++ [⟨now, true⟩]) :
    Timed settings { s with clearStartedAt := some now } where
  since since hsince := by
    obtain rfl := Option.some.inj hsince
    obtain ⟨before, hevaluations⟩ := hlast
    refine ⟨before, ⟨now, true⟩, [], hevaluations, rfl, ?_⟩
    intro other hother
    rw [List.mem_singleton.mp hother]
  episode _ := hepisode
  cleared := hcleared

/-! ## Evaluations -/

theorem Cleared.congr (h : Cleared settings s) (hemitted : s'.emitted = s.emitted) : Cleared settings s' := by
  unfold Cleared
  rw [hemitted]
  exact h

theorem syncBudget_history (s : Executor) :
    s.syncBudget.emitted = s.emitted ∧ s.syncBudget.evaluations = s.evaluations := by
  unfold Executor.syncBudget
  split
  · exact ⟨rfl, rfl⟩
  · exact ⟨rfl, rfl⟩

theorem timed_evaluateBlocked (h : Cleared settings s) (triggerReason : String) (pose : ℚ × ℚ) (episode : ℕ) :
    Timed settings (evaluateBlocked settings hypot s thread now triggerReason pose episode) := by
  have hstopped : Timed settings { s with
      clearStartedAt := none
      lastObstacleSeenAt := some now } := Timed.stopped h rfl
  unfold evaluateBlocked
  dsimp only
  split
  · have hdetected := (Timed.stopped (s := { s with
      clearStartedAt := none
      lastObstacleSeenAt := some now
      episodeId := some episode
      progressAnchor := some pose
      progressAnchorAt := some now
      targetDistanceAnchor := distanceToCurrentWaypoint hypot s pose }) h rfl).emitStage now
      .detectedStop 0 triggerReason nofun
    split
    · exact hdetected.congr rfl rfl rfl rfl
    · exact hdetected.emitStage now .waitingProgress 0 triggerReason nofun
  · split
    · exact hstopped.congr rfl rfl rfl rfl
    split
    · split
      · exact hstopped.congr rfl rfl rfl rfl
      · refine Timed.congr (Timed.emitStage ?_ now .recoveryAttempt (s.recoveryAttempts + 1) "" nofun) rfl rfl rfl rfl
        exact hstopped.congr rfl rfl rfl rfl
    · exact hstopped

theorem timed_evaluateClear (h : Timed settings s) (hlast : ∃ before, s.evaluations = before ++ [⟨now, true⟩]) :
    Timed settings (evaluateClear settings s now) := by
  unfold evaluateClear
  split
  · exact h
  next hepisode =>
  split
  · exact Timed.start h.cleared (by simpa [Option.isSome_iff_ne_none] using hepisode) hlast
  next since hsince =>
  split
  · next hlong =>
    have hwindow := h.window hsince hlong
    have hconfirmed := h.emitStage now .clearConfirmed 0 "" fun _ => hwindow
    refine (hconfirmed.emitStage now .resumed 0 "" fun _ => ?_).resetEpisode false
    have hevaluations : (s.emitStage now .clearConfirmed 0 "").evaluations = s.evaluations := by
      unfold Executor.emitStage
      split <;> rfl
    rw [hevaluations]
    exact hwindow
  · exact h

theorem synced_cases (s : Executor) (now : ℚ) (clear : Bool) :
    ((s.record now clear).syncBudget = s.record now clear ∧ s.waypointKey = s.obstacleWaypointKey) ∨
      ((s.record now clear).syncBudget.episodeId = none ∧ (s.record now clear).syncBudget.clearStartedAt = none) := by
  unfold Executor.syncBudget
  split
  · next hsame => exact Or.inl ⟨rfl, hsame⟩
  · exact Or.inr ⟨rfl, rfl⟩

theorem Timed.synced_of_none (h : Timed settings s) {clear : Bool}
    (hepisode : (s.record now clear).syncBudget.episodeId = none) : Timed settings (s.record now clear).syncBudget := by
  refine Timed.stopped (h.cleared.congr (syncBudget_history _).1) ?_
  rcases synced_cases s now clear with ⟨hsame, -⟩ | ⟨-, hstopped⟩
  · rw [hsame] at hepisode ⊢
    refine Option.not_isSome_iff_eq_none.mp fun hsome => ?_
    have hepisode' := h.episode hsome
    rw [show s.episodeId = none from hepisode] at hepisode'
    exact nomatch hepisode'
  · exact hstopped

theorem Timed.evaluate (h : Timed settings s) {observation : Observation} {pose : Option (ℚ × ℚ)} {episode : ℕ}
    (hidle : s.threads thread = .idle)
    (hcontinuous : Continuous settings s (.evaluate thread now observation pose episode)) :
    Timed settings (evaluate settings hypot s thread now observation pose episode) := by
  replace hcontinuous := hcontinuous hidle
  unfold ObstacleMonitor.evaluate
  cases hon : s.running && settings.enabled with
  | false =>
    -- the task does not run, and so the timer must not either
    rw [hon] at hcontinuous
    rw [if_pos (by rw [← Bool.not_and, hon]; rfl)]
    exact Timed.stopped (h.cleared.congr rfl) hcontinuous
  | true =>
    rw [hon] at hcontinuous
    obtain ⟨hrunning, henabled⟩ := Bool.and_eq_true_iff.mp hon
    rw [if_neg (by rw [hrunning, henabled]; decide)]
    obtain ⟨hemitted, hevaluations⟩ := syncBudget_history (s.record now (obstacleIsClear settings observation))
    have hcleared : Cleared settings (s.record now (obstacleIsClear settings observation)).syncBudget :=
      h.cleared.congr hemitted
    -- where the scan is clear, the evaluation does not disturb the timer
    have htimed : obstacleIsClear settings observation = true →
        Timed settings (s.record now (obstacleIsClear settings observation)).syncBudget ∧
        ∃ before, (s.record now (obstacleIsClear settings observation)).syncBudget.evaluations =
          before ++ [⟨now, true⟩] := by
      intro hclear
      rw [hclear] at hevaluations ⊢
      exact ⟨h.record.syncBudget, s.evaluations, hevaluations⟩
    dsimp only
    split
    · exact Timed.stopped hcleared rfl
    next hlocalization =>
    split
    · next hobserving =>
      split
      · exact Timed.stopped hcleared rfl
      next hclear =>
      obtain ⟨htimed, hlast⟩ := htimed (by simpa using hclear)
      split
      · exact Timed.start hcleared (Bool.and_eq_true_iff.mp hobserving).1 hlast
      next since hsince =>
      split
      · next hlong =>
        exact (htimed.emitStage now .clearConfirmed 0 "" fun _ => htimed.window hsince hlong).congr rfl rfl rfl rfl
      · exact htimed
    next hobserving =>
    -- the obstacle is gone, or there is no pose
    have hgone : (blocked settings observation = true → pose = none) →
        Timed settings
          (evaluateClear settings (s.record now (obstacleIsClear settings observation)).syncBudget now) := by
      intro hgone
      cases hepisode : (s.record now (obstacleIsClear settings observation)).syncBudget.episodeId with
      | none =>
        unfold evaluateClear
        rw [hepisode]
        exact h.synced_of_none hepisode
      | some current =>
        have hclear : obstacleIsClear settings observation = true := by
          rcases synced_cases s now (obstacleIsClear settings observation) with ⟨hsame, hkey⟩ | ⟨hnone, -⟩
          · rw [hsame] at hepisode hobserving
            have hsome : s.episodeId.isSome = true := Option.isSome_iff_exists.mpr ⟨current, hepisode⟩
            have hstage : s.stage ≠ some .safeObserving := by
              intro hstage
              refine hobserving (Bool.and_eq_true_iff.mpr ⟨?_, decide_eq_true hstage⟩)
              exact hsome
            obtain ⟨hfresh, hpose⟩ := hcontinuous (by simpa using hlocalization) hkey hsome hstage
            have hfree : blocked settings observation = false := Bool.eq_false_iff.mpr fun hblocked => by
              have hsomePose := hpose hblocked
              rw [hgone hblocked] at hsomePose
              exact nomatch hsomePose
            rw [obstacleIsClear, hfresh hfree, hfree]
            rfl
          · exact nomatch hnone.symm.trans hepisode
        obtain ⟨htimed, hlast⟩ := htimed hclear
        exact timed_evaluateClear htimed hlast
    split
    · split
      · exact timed_evaluateBlocked hcleared _ _ _
      · next hfree => exact hgone fun hblocked => absurd hblocked hfree
    · exact hgone fun _ => rfl

/-! ## The other steps -/

theorem Timed.resumeForward (h : Timed settings s) (executionId : ℕ) (stopped : Bool) (observation : Observation) :
    Timed settings (resumeForward settings s thread now executionId stopped observation).2 := by
  unfold ObstacleMonitor.resumeForward
  dsimp only
  split
  · exact h
  split
  · exact h
  split
  · exact h
  split
  · exact h
  next hobserving =>
  split
  · exact h
  split
  · exact h
  split
  · exact Timed.stopped (h.cleared.congr rfl) rfl
  next hclear =>
  rw [show obstacleIsClear settings observation = true by simpa using hclear]
  have hrecorded : Timed settings (s.record now true) := h.record
  have hepisode : s.episodeId.isSome = true := by
    simp only [Bool.or_eq_true, not_or, Option.isNone_iff_eq_none] at hobserving
    exact Option.isSome_iff_ne_none.mpr hobserving.2
  have hstarted : Timed settings { s.record now true with clearStartedAt := some now } :=
    Timed.start (h.cleared.congr rfl) hepisode ⟨s.evaluations, rfl⟩
  split
  · -- the timer goes on, or is started
    cases hsince : s.clearStartedAt with
    | none =>
      refine hstarted.congr ?_ rfl rfl rfl
      show (s.clearStartedAt <|> some now) = some now
      rw [hsince]
      rfl
    | some since =>
      refine hrecorded.congr ?_ rfl rfl rfl
      show (s.clearStartedAt <|> some now) = s.clearStartedAt
      rw [hsince]
      rfl
  · next hlong =>
    have hwindow : ClearWindow settings.obstacleClearSeconds (s.record now true).evaluations now := by
      replace hlong := not_lt.mp hlong
      change settings.obstacleClearSeconds ≤ (s.clearStartedAt.map fun since => now - since).getD 0 at hlong
      cases hsince : s.clearStartedAt with
      | none =>
        rw [hsince] at hlong
        refine hstarted.window rfl (hlong.trans (le_of_eq ?_))
        exact (sub_self now).symm
      | some since =>
        rw [hsince] at hlong
        exact hrecorded.window hsince hlong
    exact (hrecorded.emitStage now .clearConfirmed s.recoveryAttempts "manual_continue_check" fun _ => hwindow).congr rfl rfl rfl rfl

theorem timed_resumeAfter (h : Timed settings s) {automatic : Bool} (hthread : s.threads thread = .toResume automatic)
    (hcontinuous : Continuous settings s (.resumeAfter thread now)) :
    Timed settings (resumeAfterObstacle s thread now automatic) := by
  unfold resumeAfterObstacle
  dsimp only
  split
  · exact h.congr rfl rfl rfl rfl
  · next hactive =>
    have hboth : s.running = true ∧ s.episodeId.isSome = true := by
      simp only [Bool.or_eq_true, not_or, Bool.not_eq_true', Bool.not_eq_false, Option.isNone_iff_eq_none] at hactive
      exact ⟨hactive.1, Option.isSome_iff_ne_none.mpr hactive.2⟩
    obtain ⟨since, hsince, hlong⟩ := hcontinuous automatic hthread hboth.1 hboth.2
    have hidle : Timed settings (s.setThread thread .idle) := h.congr rfl rfl rfl rfl
    exact (hidle.emitStage now .resumed _ _ fun _ => h.window hsince hlong).resetEpisode false

theorem timed_enterSafeObserving (h : Timed settings s) : Timed settings (enterSafeObserving s thread now) := by
  unfold enterSafeObserving
  split
  · exact h.congr rfl rfl rfl rfl
  · dsimp only
    have hstopped : Timed settings { s with
        leaveRouteAnnounced := true
        clearStartedAt := none } := Timed.stopped (h.cleared.congr rfl) rfl
    have hannounced := (hstopped.emitStage now .dissuasion s.recoveryAttempts "" nofun).emitStage now .safeObserving
      s.recoveryAttempts "" nofun
    exact hannounced.congr rfl rfl rfl rfl

theorem timed_acquireRecovery (h : Timed settings s) (clock : AcquireClock) (owner reason : String) (distance : ℚ) :
    Timed settings (acquireRecovery s clock owner reason distance).2 := by
  have hhold : ∀ s' : Executor, Timed settings s' → Timed settings (emitSafeHold s') := by
    intro s' h'
    unfold emitSafeHold
    split
    · exact h'
    · split
      · exact h'
      · exact h'.congr rfl rfl rfl rfl
  unfold acquireRecovery
  split
  · exact h
  split
  · exact hhold s h
  · dsimp only
    split
    · exact hhold _ (h.congr rfl rfl rfl rfl)
    · exact h.congr rfl rfl rfl rfl

theorem timed_continueRecovery (h : Timed settings s) (recovery : Recovery) (answer : Answer) (clock : AcquireClock) :
    Timed settings (continueRecovery settings s thread recovery answer clock) := by
  have hacquired := timed_acquireRecovery h clock "EDGE_OBSTACLE"
    ("physical_obstacle_attempt_" ++ toString recovery.attempt) (settings.reverseDistance + settings.lateralDistance)
  unfold continueRecovery
  dsimp only
  split
  · split
    · exact h.congr rfl rfl rfl rfl
    · exact h.congr rfl rfl rfl rfl
  · split
    · exact h.congr rfl rfl rfl rfl
    · exact h.congr rfl rfl rfl rfl
    · exact h.congr rfl rfl rfl rfl
  · split
    · exact h.congr rfl rfl rfl rfl
    · exact h.congr rfl rfl rfl rfl
  · split
    · next s' heq =>
      rw [heq] at hacquired
      exact hacquired.congr rfl rfl rfl rfl
    · next lease s' heq =>
      rw [heq] at hacquired
      split
      · exact hacquired.congr rfl rfl rfl rfl
      · exact hacquired.congr rfl rfl rfl rfl
  · exact h.congr rfl rfl rfl rfl
  · exact h

theorem timed_reportRecovery (h : Timed settings s) (attempt : ℕ) (pose : Option (ℚ × ℚ)) :
    Timed settings (reportRecovery hypot s attempt now pose) := by
  have hemitted := h.emitStage now .recoveryAttempt attempt "" nofun
  unfold reportRecovery
  dsimp only
  split
  · exact hemitted.congr rfl rfl rfl rfl
  · exact hemitted.congr rfl rfl rfl rfl

theorem timed_finishRecovery (h : Timed settings s) (recovery : Recovery) (pose : Option (ℚ × ℚ)) :
    Timed settings (finishRecovery hypot s thread recovery now pose) := by
  unfold finishRecovery
  extract_lets released inactive stillActive
  have hinactive : Timed settings inactive := by
    have hreleased : Timed settings released := by
      unfold released
      split
      · exact h.congr rfl rfl rfl rfl
      · exact h
    exact hreleased.congr rfl rfl rfl rfl
  split
  · exact (timed_reportRecovery hinactive recovery.attempt pose).congr rfl rfl rfl rfl
  · exact hinactive.congr rfl rfl rfl rfl

theorem Timed.step (h : Timed settings s) (event : Event) (hcontinuous : Continuous settings s event) :
    Timed settings (step settings hypot s event) := by
  cases event with
  | evaluate thread now observation pose episode =>
    simp only [ObstacleMonitor.step]
    split
    · next hidle => exact h.evaluate hidle hcontinuous
    · exact h
  | resumeForward thread now executionId stopped observation =>
    simp only [ObstacleMonitor.step]
    split
    · exact h.resumeForward executionId stopped observation
    · exact h
  | resumeAfter thread now =>
    simp only [ObstacleMonitor.step]
    split
    · next automatic hthread => exact timed_resumeAfter h hthread hcontinuous
    · exact h
  | enterSafeObserving thread now =>
    simp only [ObstacleMonitor.step]
    split
    · exact timed_enterSafeObserving h
    · exact h
  | requestObservingCancel thread =>
    simp only [ObstacleMonitor.step]
    split
    · exact h.congr rfl rfl rfl rfl
    · exact h
  | observingCancelled thread cancelled =>
    simp only [ObstacleMonitor.step]
    split
    · unfold leaveSafeObserving
      dsimp only
      split
      · exact h.congr rfl rfl rfl rfl
      · exact h.congr rfl rfl rfl rfl
    · exact h
  | beginRecovery thread observation reverseClear leftClear rightClear =>
    simp only [ObstacleMonitor.step]
    split
    · unfold beginRecovery
      split
      · exact h.congr rfl rfl rfl rfl
      · split
        · exact h.congr rfl rfl rfl rfl
        · exact h.congr rfl rfl rfl rfl
    · exact h
  | continueRecovery thread answer clock =>
    simp only [ObstacleMonitor.step]
    split
    · exact timed_continueRecovery h _ answer clock
    · exact h
  | finishRecovery thread now pose =>
    simp only [ObstacleMonitor.step]
    split
    · split
      · exact timed_finishRecovery h _ pose
      · exact h
    · exact h
  | navigationResult status generation postArrival =>
    simp only [ObstacleMonitor.step]
    rcases onNavigationResult_cases s status generation postArrival with heq | heq | heq
    · rw [heq]
      exact h
    · rw [heq]
      exact h.congr rfl rfl rfl rfl
    · rw [heq]
      exact h.resetEpisode true
  | dispatch accepted =>
    simp only [ObstacleMonitor.step]
    unfold dispatch
    split
    · exact h
    · dsimp only
      split
      · exact h.congr rfl rfl rfl rfl
      · split
        · exact Timed.syncBudget (h.congr rfl rfl rfl rfl)
        · exact h.congr rfl rfl rfl rfl
  | taskState state => exact h.congr rfl rfl rfl rfl
  | moveOn key target => exact h.congr rfl rfl rfl rfl
  | stopMonitor => exact h.resetEpisode true
  | cancelNavigation => exact h.congr rfl rfl rfl rfl
  | invalidateNavResults => exact h.congr rfl rfl rfl rfl
  | otherAcquire clock owner reason distance =>
    have hacquired := timed_acquireRecovery h clock owner reason distance
    simp only [ObstacleMonitor.step]
    split
    · next s' heq =>
      rw [heq] at hacquired
      exact hacquired
    · next lease s' heq =>
      rw [heq] at hacquired
      exact hacquired.congr rfl rfl rfl rfl
  | otherRelease lease =>
    simp only [ObstacleMonitor.step]
    split
    · exact h.congr rfl rfl rfl rfl
    · exact h

/-! ## Every run -/

/-- In a run of such steps, an obstacle that is said to be gone was gone for the clear window. -/
theorem cleared_of_continuous (settings : Settings) (hypot : ℚ → ℚ → ℚ) (context : Context) (events : List Event)
    (hcontinuous : Run.Always (step settings hypot) (Continuous settings) (initial context) events) :
    ∀ reached, reached <+: events → Cleared settings (Run.exec (step settings hypot) (initial context) reached) := by
  rintro reached ⟨rest, rfl⟩
  have hreached := ((Run.always_append _ _ _ reached rest).mp hcontinuous).1
  exact (Run.exec_invariant_of_always (Timed settings) (fun _ event h => h.step event) (Timed.initial context)
    hreached).cleared

instance (settings : Settings) : ∀ (s : Executor) (event : Event), Decidable (Continuous settings s event)
  | s, .evaluate thread now observation pose episode => by
    dsimp only [Continuous]
    infer_instance
  | s, .resumeAfter thread now =>
    match hthread : s.threads thread with
    | .toResume automatic => decidable_of_iff (s.running = true → s.episodeId.isSome →
        ∃ since ∈ s.clearStartedAt.toList, settings.obstacleClearSeconds ≤ now - since) <| by
      simp [Continuous, hthread]
    | .idle | .toObserve | .announced | .observing | .toRecover _ _ | .recovering _ => isTrue (by
      intro automatic h
      rw [hthread] at h
      exact nomatch h)
  | _, .resumeForward .. | _, .enterSafeObserving .. | _, .requestObservingCancel .. | _, .observingCancelled ..
  | _, .beginRecovery .. | _, .continueRecovery .. | _, .finishRecovery .. | _, .navigationResult .. | _, .dispatch ..
  | _, .taskState .. | _, .moveOn .. | _, .stopMonitor | _, .cancelNavigation | _, .invalidateNavResults
  | _, .otherAcquire .. | _, .otherRelease .. => isTrue trivial

/-- A scan with nothing in the way, and one with an obstacle in the zone. -/
def freeScan : Observation where
  localizationNormal := some true
  localizationStatus := ""
  collisionMonitor := ⟨some 0, "CLEAR", "clear", false⟩
  frontObstacleDistance := none
  requestedPlanarSpeed := 0
  actualPlanarSpeed := 0
  requestedTurnSpeed := 0
  actualTurnSpeed := 0
  stale := false
  rearClearance := none
  leftClearance := none
  rightClearance := none

def obstacleScan : Observation := { freeScan with collisionMonitor := ⟨some 0, "STOP", "polygon", true⟩ }

/-- A task on its way to its first waypoint. -/
def firstWaypoint : Context where
  key := ⟨1, 1, 0⟩
  state := .accepted
  target := some (4, 0)

/-- An obstacle is seen at second 0 and gone at seconds 1, 2 and 4. -/
def goneAfterThreeSeconds : List Event :=
  [.dispatch true, .evaluate 0 0 obstacleScan (some (0, 0)) 7, .evaluate 0 1 freeScan (some (0, 0)) 8,
    .evaluate 0 2 freeScan (some (0, 0)) 8, .evaluate 0 4 freeScan (some (0, 0)) 8]

theorem cleared_goneAfterThreeSeconds :
    Cleared {} (Run.exec (step {} fun x y => |x| + |y|) (initial firstWaypoint) goneAfterThreeSeconds) :=
  cleared_of_continuous {} (fun x y => |x| + |y|) firstWaypoint goneAfterThreeSeconds (by decide +kernel)
    goneAfterThreeSeconds (List.prefix_refl _)

/-- The pose is lost at second 1 and the obstacle stays. -/
def obstacleWithoutPose : List Event :=
  [.dispatch true, .evaluate 0 0 obstacleScan (some (0, 0)) 7, .evaluate 0 1 obstacleScan none 8,
    .evaluate 0 4 obstacleScan none 8]

theorem not_cleared_obstacleWithoutPose :
    ¬ Cleared {} (Run.exec (step {} fun x y => |x| + |y|) (initial firstWaypoint) obstacleWithoutPose) := by
  intro h
  have hblind : ∃ emission ∈
      (Run.exec (step {} fun x y => |x| + |y|) (initial firstWaypoint) obstacleWithoutPose).emitted,
      emission.stage.saysClear = true ∧ ∀ sample ∈ emission.evaluations, sample.clear = false := by decide +kernel
  obtain ⟨emission, hemission, hsays, hnever⟩ := hblind
  obtain ⟨before, sample, after, hevaluations, -, hclear⟩ := h emission hemission hsays
  have hsample : sample ∈ emission.evaluations := by
    rw [hevaluations]
    exact List.mem_append_right _ List.mem_cons_self
  exact Bool.noConfusion ((hnever sample hsample).symm.trans (hclear sample List.mem_cons_self))

end ObstacleMonitor

end RoamerX
