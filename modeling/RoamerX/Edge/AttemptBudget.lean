import RoamerX.Edge.ObstacleRecovery

set_option autoImplicit false

/-! # The budget of recovery attempts at a waypoint

`_recovery_attempts` counts the attempts at the waypoint whose key is stored. The count is right as long as no step
resets it at a waypoint that was attempted. -/

namespace RoamerX

namespace ObstacleMonitor

/-- What a step must not do: reset the budget of a waypoint that was attempted, or come back to such a waypoint. -/
def BudgetKept (s : Executor) : Event → Prop
  | .stopMonitor => ∀ key ∈ s.waypointKey, key ∉ s.attempted
  | .moveOn key _ => s.obstacleWaypointKey = some key ∨ key ∉ s.attempted
  | .navigationResult .cancelled _ _ => ∀ context ∈ s.context,
      context.state ∈ [.accepted, .resuming, .interrupted] → context.key ∉ s.attempted
  | _ => True

variable {settings : Settings} {hypot : ℚ → ℚ → ℚ} {s s' s'' : Executor} {thread : ℕ} {now : ℚ}

/-! ## The budget of a waypoint -/

/-- The attempts are those that the budget knows of. -/
structure Budget (settings : Settings) (s : Executor) : Prop where
  bounded : ∀ key, s.attempted.count key ≤ settings.maxRecoveryAttempts.toNat
  stored : ∀ key ∈ s.obstacleWaypointKey, s.attempted.count key ≤ s.recoveryAttempts
  current : ∀ key ∈ s.waypointKey, s.obstacleWaypointKey = some key ∨ key ∉ s.attempted

/-- Neither the attempts nor the budget change. -/
structure SameBudget (s s' : Executor) : Prop where
  attempted : s'.attempted = s.attempted
  stored : s'.obstacleWaypointKey = s.obstacleWaypointKey
  attempts : s'.recoveryAttempts = s.recoveryAttempts
  current : s'.waypointKey = s.waypointKey

theorem SameBudget.refl (s : Executor) : SameBudget s s := ⟨rfl, rfl, rfl, rfl⟩

theorem SameBudget.trans (h : SameBudget s s') (h' : SameBudget s' s'') : SameBudget s s'' :=
  ⟨h'.attempted.trans h.attempted, h'.stored.trans h.stored, h'.attempts.trans h.attempts, h'.current.trans h.current⟩

theorem sameBudget_emitStage (s : Executor) (now : ℚ) (stage : Stage) (attempt : ℕ) (reason : String) :
    SameBudget s (s.emitStage now stage attempt reason) := by
  unfold Executor.emitStage
  split
  · exact ⟨rfl, rfl, rfl, rfl⟩
  · exact SameBudget.refl s

theorem sameBudget_acquireRecovery (s : Executor) (clock : AcquireClock) (owner reason : String) (distance : ℚ) :
    SameBudget s (acquireRecovery s clock owner reason distance).2 := by
  rcases acquireRecovery_cases s clock owner reason distance with ⟨context, hkey, heq⟩ | ⟨lease, budget, -, -, -, heq⟩
  · rw [heq]
    exact ⟨rfl, rfl, rfl, hkey⟩
  · rw [heq]
    exact ⟨rfl, rfl, rfl, rfl⟩

theorem sameBudget_beginRecovery (s : Executor) (attempt ticket : ℕ) (observation : Observation)
    (reverseClear leftClear rightClear : Bool) : SameBudget s
      (beginRecovery settings s thread attempt ticket observation reverseClear leftClear rightClear) := by
  unfold beginRecovery
  split
  · exact ⟨rfl, rfl, rfl, rfl⟩
  split
  · exact ⟨rfl, rfl, rfl, rfl⟩
  · exact ⟨rfl, rfl, rfl, rfl⟩

theorem sameBudget_continueRecovery (s : Executor) (recovery : Recovery) (answer : Answer) (clock : AcquireClock) :
    SameBudget s (continueRecovery settings s thread recovery answer clock) := by
  have hacquired := sameBudget_acquireRecovery s clock "EDGE_OBSTACLE"
    ("physical_obstacle_attempt_" ++ toString recovery.attempt) (settings.reverseDistance + settings.lateralDistance)
  unfold continueRecovery
  dsimp only
  split
  · split
    · exact ⟨rfl, rfl, rfl, rfl⟩
    · exact ⟨rfl, rfl, rfl, rfl⟩
  · split
    · exact ⟨rfl, rfl, rfl, rfl⟩
    · exact ⟨rfl, rfl, rfl, rfl⟩
    · exact ⟨rfl, rfl, rfl, rfl⟩
  · split
    · exact ⟨rfl, rfl, rfl, rfl⟩
    · exact ⟨rfl, rfl, rfl, rfl⟩
  · split
    · next s' heq =>
      rw [heq] at hacquired
      exact hacquired.trans ⟨rfl, rfl, rfl, rfl⟩
    · next lease s' heq =>
      rw [heq] at hacquired
      split
      · exact hacquired.trans ⟨rfl, rfl, rfl, rfl⟩
      · exact hacquired.trans ⟨rfl, rfl, rfl, rfl⟩
  · exact ⟨rfl, rfl, rfl, rfl⟩
  · exact SameBudget.refl s

theorem sameBudget_reportRecovery (s : Executor) (attempt : ℕ) (pose : Option (ℚ × ℚ)) :
    SameBudget s (reportRecovery hypot s attempt now pose) := by
  have hemitted := sameBudget_emitStage s now .recoveryAttempt attempt ""
  unfold reportRecovery
  dsimp only
  split
  · exact hemitted.trans ⟨rfl, rfl, rfl, rfl⟩
  · exact hemitted.trans ⟨rfl, rfl, rfl, rfl⟩

theorem sameBudget_finishRecovery (s : Executor) (recovery : Recovery) (pose : Option (ℚ × ℚ)) :
    SameBudget s (finishRecovery hypot s thread recovery now pose) := by
  unfold finishRecovery
  extract_lets released inactive stillActive
  have hinactive : SameBudget s inactive := by
    unfold inactive released
    split
    · exact ⟨rfl, rfl, rfl, rfl⟩
    · exact ⟨rfl, rfl, rfl, rfl⟩
  split
  · exact (hinactive.trans (sameBudget_reportRecovery inactive recovery.attempt pose)).trans ⟨rfl, rfl, rfl, rfl⟩
  · exact hinactive.trans ⟨rfl, rfl, rfl, rfl⟩

theorem sameBudget_enterSafeObserving (s : Executor) : SameBudget s (enterSafeObserving s thread now) := by
  unfold enterSafeObserving
  split
  · exact ⟨rfl, rfl, rfl, rfl⟩
  extract_lets attempts stopped announced
  have hstopped : SameBudget s stopped := ⟨rfl, rfl, rfl, rfl⟩
  have hannounced : SameBudget stopped announced :=
    (sameBudget_emitStage _ _ _ _ _).trans (sameBudget_emitStage _ _ _ _ _)
  exact (hstopped.trans hannounced).trans ⟨rfl, rfl, rfl, rfl⟩

theorem sameBudget_leaveSafeObserving (s : Executor) (cancelled : Bool) :
    SameBudget s (leaveSafeObserving s thread cancelled) := by
  unfold leaveSafeObserving
  dsimp only
  split
  · exact ⟨rfl, rfl, rfl, rfl⟩
  · exact ⟨rfl, rfl, rfl, rfl⟩

theorem sameBudget_resumeAfterObstacle (s : Executor) (automatic : Bool) :
    SameBudget s (resumeAfterObstacle s thread now automatic) := by
  unfold resumeAfterObstacle
  extract_lets idle reason
  split
  · exact ⟨rfl, rfl, rfl, rfl⟩
  · have hidle : SameBudget s idle := ⟨rfl, rfl, rfl, rfl⟩
    exact (hidle.trans (sameBudget_emitStage _ _ _ _ _)).trans ⟨rfl, rfl, rfl, rfl⟩

theorem sameBudget_resumeForward (s : Executor) (executionId : ℕ) (stopped : Bool) (observation : Observation) :
    SameBudget s (resumeForward settings s thread now executionId stopped observation).2 := by
  unfold resumeForward
  dsimp only
  split
  · exact SameBudget.refl s
  split
  · exact SameBudget.refl s
  split
  · exact SameBudget.refl s
  split
  · exact SameBudget.refl s
  split
  · exact SameBudget.refl s
  split
  · exact SameBudget.refl s
  split
  · exact ⟨rfl, rfl, rfl, rfl⟩
  split
  · exact ⟨rfl, rfl, rfl, rfl⟩
  · have hrecord : SameBudget s (s.record now (obstacleIsClear settings observation)) := ⟨rfl, rfl, rfl, rfl⟩
    exact (hrecord.trans (sameBudget_emitStage _ _ _ _ _)).trans ⟨rfl, rfl, rfl, rfl⟩

namespace Budget

theorem initial (context : Context) : Budget settings (initial context) where
  bounded _ := Nat.zero_le _
  stored _ hkey := nomatch hkey
  current _ _ := Or.inr List.not_mem_nil

theorem same (h : Budget settings s) (hsame : SameBudget s s') : Budget settings s' where
  bounded key := by
    rw [hsame.attempted]
    exact h.bounded key
  stored key hkey := by
    rw [hsame.attempted, hsame.attempts]
    exact h.stored key (hsame.stored ▸ hkey)
  current key hkey := by
    rw [hsame.attempted, hsame.stored]
    exact h.current key (hsame.current ▸ hkey)

theorem resetEpisode (h : Budget settings s) (hnew : ∀ key ∈ s.waypointKey, key ∉ s.attempted) :
    Budget settings (s.resetEpisode true) where
  bounded := h.bounded
  stored _ hkey := nomatch hkey
  current key hkey := Or.inr (hnew key hkey)

theorem syncBudget (h : Budget settings s) :
    Budget settings s.syncBudget ∧ s.syncBudget.obstacleWaypointKey = s.syncBudget.waypointKey := by
  unfold Executor.syncBudget
  split
  · next hsame => exact ⟨h, hsame.symm⟩
  next hother =>
  refine ⟨⟨h.bounded, fun key hkey => ?_, fun key hkey => Or.inl hkey⟩, rfl⟩
  -- the budget of another waypoint was stored, so that this one has no attempts
  have hnew : key ∉ s.attempted := (h.current key hkey).resolve_left fun hstored => hother (hkey.trans hstored.symm)
  exact (List.count_eq_zero.mpr hnew).le

theorem attempt (h : Budget settings s) (hsynced : s.obstacleWaypointKey = s.waypointKey)
    (hleft : ¬ settings.maxRecoveryAttempts ≤ s.recoveryAttempts)
    (hattempted : s'.attempted = s.attempted ++ s.waypointKey.toList) (hstored : s'.obstacleWaypointKey = s.waypointKey)
    (hattempts : s'.recoveryAttempts = s.recoveryAttempts + 1) (hcurrent : s'.waypointKey = s.waypointKey) :
    Budget settings s' := by
  have hcount : ∀ key ∈ s.waypointKey, s'.attempted.count key ≤ s.recoveryAttempts + 1 := by
    intro key hkey
    have hbefore := h.stored key (hsynced.trans hkey)
    rw [hattempted, hkey, List.count_append]
    simp only [Option.toList_some, List.count_singleton_self]
    omega
  refine ⟨fun key => ?_, fun key hkey => ?_, fun key hkey => Or.inl (hstored.trans (hcurrent.symm.trans hkey))⟩
  · by_cases hkey : s.waypointKey = some key
    · have hafter := hcount key hkey
      omega
    · have hother : s.waypointKey.toList.count key = 0 := by
        refine List.count_eq_zero.mpr fun hmem => hkey ?_
        exact Option.mem_toList.mp hmem
      rw [hattempted, List.count_append, hother]
      exact h.bounded key
  · rw [hattempts]
    exact hcount key (hstored.symm.trans hkey)

theorem evaluateBlocked (h : Budget settings s) (hsynced : s.obstacleWaypointKey = s.waypointKey)
    (triggerReason : String) (pose : ℚ × ℚ) (episode : ℕ) :
    Budget settings (evaluateBlocked settings hypot s thread now triggerReason pose episode) := by
  unfold ObstacleMonitor.evaluateBlocked
  extract_lets stopped seen detected ticket attempt counted
  have hstopped : SameBudget s stopped := ⟨rfl, rfl, rfl, rfl⟩
  split
  · have hseen : SameBudget s seen := ⟨rfl, rfl, rfl, rfl⟩
    have hdetected : SameBudget s detected := hseen.trans (sameBudget_emitStage _ _ _ _ _)
    split
    · exact h.same (hdetected.trans ⟨rfl, rfl, rfl, rfl⟩)
    · exact h.same (hdetected.trans (sameBudget_emitStage _ _ _ _ _))
  split
  · exact h.same ⟨rfl, rfl, rfl, rfl⟩
  split
  · split
    · exact h.same (hstopped.trans ⟨rfl, rfl, rfl, rfl⟩)
    · next hleft =>
      have hcounted : Budget settings counted := h.attempt hsynced hleft rfl hsynced rfl rfl
      exact hcounted.same ((sameBudget_emitStage _ _ _ _ _).trans ⟨rfl, rfl, rfl, rfl⟩)
  · exact h.same hstopped

theorem evaluateClear (h : Budget settings s) : Budget settings (evaluateClear settings s now) := by
  unfold ObstacleMonitor.evaluateClear
  split
  · exact h
  split
  · exact h.same ⟨rfl, rfl, rfl, rfl⟩
  split
  · exact h.same (((sameBudget_emitStage _ _ _ _ _).trans (sameBudget_emitStage _ _ _ _ _)).trans ⟨rfl, rfl, rfl, rfl⟩)
  · exact h

theorem evaluate (h : Budget settings s) (observation : Observation) (pose : Option (ℚ × ℚ)) (episode : ℕ) :
    Budget settings (evaluate settings hypot s thread now observation pose episode) := by
  unfold ObstacleMonitor.evaluate
  split
  · exact h.same ⟨rfl, rfl, rfl, rfl⟩
  extract_lets synced
  have hrecord : Budget settings (s.record now (obstacleIsClear settings observation)) :=
    h.same ⟨rfl, rfl, rfl, rfl⟩
  obtain ⟨hsynced, hkey⟩ : Budget settings synced ∧ synced.obstacleWaypointKey = synced.waypointKey :=
    hrecord.syncBudget
  split
  · exact hsynced.same ⟨rfl, rfl, rfl, rfl⟩
  split
  · split
    · exact hsynced.same ⟨rfl, rfl, rfl, rfl⟩
    split
    · exact hsynced.same ⟨rfl, rfl, rfl, rfl⟩
    split
    · exact hsynced.same ((sameBudget_emitStage _ _ _ _ _).trans ⟨rfl, rfl, rfl, rfl⟩)
    · exact hsynced
  split
  · split
    · exact hsynced.evaluateBlocked hkey _ _ episode
    · exact hsynced.evaluateClear
  · exact hsynced.evaluateClear

theorem dispatch (h : Budget settings s) (accepted : Bool) : Budget settings (dispatch settings s accepted) := by
  unfold ObstacleMonitor.dispatch
  split
  · exact h
  next context hcontext =>
  extract_lets invalid sent
  split
  · exact h.same ⟨rfl, rfl, rfl, rfl⟩
  have hkey : sent.waypointKey = s.waypointKey := by
    unfold Executor.waypointKey
    rw [hcontext]
    rfl
  have hsent : Budget settings sent := h.same ⟨rfl, rfl, rfl, hkey⟩
  split
  · exact hsent.syncBudget.1
  · exact hsent

theorem navigationResult (h : Budget settings s) (status : NavStatus) (generation : Option ℕ)
    (postArrival : PostArrival) (hkept : BudgetKept s (.navigationResult status generation postArrival)) :
    Budget settings (onNavigationResult s status generation postArrival).2 := by
  unfold onNavigationResult
  dsimp only
  split
  · split
    · exact h.same ⟨rfl, rfl, rfl, rfl⟩
    · exact h
  split
  · exact h
  next context hcontext =>
  split
  · exact h
  next halive =>
  split
  · exact h
  · exact h
  split
  · exact h.same ⟨rfl, rfl, rfl, rfl⟩
  split
  · exact h
  split
  · split
    · split
      · exact h
      · exact h
    · exact h
  next hrunning =>
  refine h.resetEpisode fun key hkey => ?_
  have hcurrent : context.key = key := by
    unfold Executor.waypointKey at hkey
    rw [hcontext] at hkey
    exact Option.some.inj hkey
  have hstate : context.state ∈ [TaskState.accepted, .resuming, .interrupted] := by
    revert halive hrunning
    cases context.state <;> simp [TaskState.terminal]
  exact hcurrent ▸ hkept context hcontext hstate

theorem step (h : Budget settings s) (event : Event) (hkept : BudgetKept s event) :
    Budget settings (step settings hypot s event) := by
  cases event with
  | evaluate thread now observation pose episode =>
    simp only [ObstacleMonitor.step]
    split
    · exact h.evaluate observation pose episode
    · exact h
  | resumeForward thread now executionId stopped observation =>
    simp only [ObstacleMonitor.step]
    split
    · exact h.same (sameBudget_resumeForward s executionId stopped observation)
    · exact h
  | resumeAfter thread now =>
    simp only [ObstacleMonitor.step]
    split
    · exact h.same (sameBudget_resumeAfterObstacle s _)
    · exact h
  | enterSafeObserving thread now =>
    simp only [ObstacleMonitor.step]
    split
    · exact h.same (sameBudget_enterSafeObserving s)
    · exact h
  | requestObservingCancel thread =>
    simp only [ObstacleMonitor.step]
    split
    · exact h.same ⟨rfl, rfl, rfl, rfl⟩
    · exact h
  | observingCancelled thread cancelled =>
    simp only [ObstacleMonitor.step]
    split
    · exact h.same (sameBudget_leaveSafeObserving s cancelled)
    · exact h
  | beginRecovery thread observation reverseClear leftClear rightClear =>
    simp only [ObstacleMonitor.step]
    split
    · exact h.same (sameBudget_beginRecovery s _ _ observation reverseClear leftClear rightClear)
    · exact h
  | continueRecovery thread answer clock =>
    simp only [ObstacleMonitor.step]
    split
    · exact h.same (sameBudget_continueRecovery s _ answer clock)
    · exact h
  | finishRecovery thread now pose =>
    simp only [ObstacleMonitor.step]
    split
    · split
      · exact h.same (sameBudget_finishRecovery s _ pose)
      · exact h
    · exact h
  | navigationResult status generation postArrival => exact h.navigationResult status generation postArrival hkept
  | dispatch accepted => exact h.dispatch accepted
  | taskState state =>
    have hkey : (s.context.map fun context => { context with state := state }).map Context.key = s.waypointKey := by
      rw [Option.map_map]
      rfl
    exact h.same ⟨rfl, rfl, rfl, hkey⟩
  | moveOn key target =>
    refine ⟨h.bounded, h.stored, fun current hcurrent => ?_⟩
    have hmoved : key = current := by
      revert hcurrent
      simp only [ObstacleMonitor.step, Executor.waypointKey]
      cases s.context with
      | none =>
        intro hkey
        cases hkey
      | some context => exact Option.some.inj
    exact hmoved ▸ hkept
  | stopMonitor => exact h.resetEpisode hkept
  | cancelNavigation => exact h.same ⟨rfl, rfl, rfl, rfl⟩
  | invalidateNavResults => exact h.same ⟨rfl, rfl, rfl, rfl⟩
  | otherAcquire clock owner reason distance =>
    have hacquired := sameBudget_acquireRecovery s clock owner reason distance
    simp only [ObstacleMonitor.step]
    split
    · next s' heq =>
      rw [heq] at hacquired
      exact h.same hacquired
    · next lease s' heq =>
      rw [heq] at hacquired
      exact h.same (hacquired.trans ⟨rfl, rfl, rfl, rfl⟩)
  | otherRelease lease =>
    simp only [ObstacleMonitor.step]
    split
    · exact h.same ⟨rfl, rfl, rfl, rfl⟩
    · exact h

end Budget

end ObstacleMonitor

end RoamerX
