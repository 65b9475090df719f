import RoamerX.PatrolLoop.Runs

set_option autoImplicit false

/-! # No recovery motion before a full safe window

Every recovery command is dispatched by a poll that closes a window of safe polls: the window was
opened by a poll at least `OBSERVATION_SECONDS` earlier, the session has not left that observation
since, and every poll from the opening one to the dispatching one found the robot safe.

The window start is a stored timestamp, so the history has to be read off it: `window_history`
follows the timestamp back through the run, one step at a time. -/

namespace RoamerX

open CenterDb (Extends)

/-- The step creates a recovery command. -/
def LoopDb.dispatchesRecovery (s : LoopDb) (a : LoopLabel) : Bool :=
  (s.step a).center.commands.any (fun c =>
    c.commandType = .taskRecover && c.taskExecution.isSome &&
      !s.center.commands.any (fun c' => c'.id = c.id))

/-- The session is in the observation with state version `v`, and if it is polled now, the robot
    is safe. -/
def SteadyWindow (v : ℤ) (s : LoopDb) (a : LoopLabel) : Prop :=
  s.session.state = .observing ∧ s.session.stateVersion = v ∧
    (a = .process → (observationSafety s.center).safe = true)

namespace LoopDb

/-! ## One step -/

/-- A session that observes with an open window after a step was observing before it, under the
    same state version: either the step is the safe poll that opened the window, or the window was
    open already and the step, if it is a poll, found the robot safe. -/
theorem window_step {s : LoopDb} (hi : s.Inv) {a : LoopLabel} {opened : ℕ}
    (hobs : (s.step a).view.state = .observing)
    (hopen : (s.step a).view.observationStartedAt = some opened) :
    s.view.state = .observing ∧ (s.step a).view.stateVersion = s.view.stateVersion ∧
      (a = .process ∧ (observationSafety s.center).safe = true ∧ s.center.now = opened ∨
        s.view.observationStartedAt = some opened ∧
          (a = .process → (observationSafety s.center).safe = true)) := by
  cases ha : a.isCall with
  | false =>
    obtain ⟨hsession, -⟩ := step_outside s ha
    have hview : (s.step a).view = s.view := by
      unfold view
      rw [hsession]
    rw [hview] at hobs hopen ⊢
    refine ⟨hobs, rfl, .inr ⟨hopen, fun h => ?_⟩⟩
    rw [h] at ha
    exact absurd ha (by simp [LoopLabel.isCall])
  | true =>
    cases (step_result hi ha).effect with
    | poll hstate hview _ =>
      rw [hview] at hobs hopen ⊢
      exact ⟨hobs, rfl, .inr ⟨hopen, fun h => absurd hobs (hstate h)⟩⟩
    | window start _ hstate hview hsafe _ =>
      rw [hview] at hopen ⊢
      have hstart : start = some opened := hopen
      refine ⟨hstate, rfl, ?_⟩
      rcases hsafe with hnone | ⟨hsafe, hkept | hnow⟩
      · exact absurd (hnone.symm.trans hstart) (by simp)
      · exact .inr ⟨hkept.symm.trans hstart, fun _ => hsafe⟩
      · exact .inl ⟨‹_›, hsafe, Option.some.inj (hnow.symm.trans hstart)⟩
    | observe _ _ _ _ _ hview _ =>
      rw [hview] at hopen
      exact absurd hopen (by simp)
    | finish st _ hterminal _ _ hview _ =>
      rw [hview] at hobs
      rw [show st = .observing from hobs] at hterminal
      exact absurd hterminal (by simp [LoopState.isTerminal])
    | recover _ _ _ _ _ _ _ _ _ hview _ _ => rw [hview] at hobs; exact absurd hobs (by simp)
    | settle _ hview _ => rw [hview] at hobs; exact absurd hobs (by simp)
    | dispatch _ _ _ _ _ _ _ hview _ => rw [hview] at hobs; exact absurd hobs (by simp)
    | rest _ _ _ _ hview _ => rw [hview] at hobs; exact absurd hobs (by simp)
    | hold _ _ hview _ => rw [hview] at hobs; exact absurd hobs (by simp)
    | stopping _ _ hview _ => rw [hview] at hobs; exact absurd hobs (by simp)

theorem dispatchesRecovery_changes {s : LoopDb} {a : LoopLabel}
    (h : s.dispatchesRecovery a = true) :
    ∃ x, (s.step a).center.commandsOf x .taskRecover ≠ s.center.commandsOf x .taskRecover := by
  unfold dispatchesRecovery at h
  rw [List.any_eq_true] at h
  obtain ⟨c, hc, hnew⟩ := h
  simp only [Bool.and_eq_true, decide_eq_true_eq, Bool.not_eq_true', List.any_eq_false] at hnew
  obtain ⟨⟨htype, hexec⟩, hnew⟩ := hnew
  obtain ⟨x, hx⟩ := Option.isSome_iff_exists.mp hexec
  refine ⟨x, fun hsame => ?_⟩
  have hmem : c ∈ (s.step a).center.commandsOf x .taskRecover := by
    simp [CenterDb.commandsOf, CenterDb.commandsOfType, hc, htype, hx]
  rw [hsame] at hmem
  exact hnew c (mem_of_mem_commandsOf hmem).1 rfl

theorem dispatch_step {s : LoopDb} (hi : s.Inv) {a : LoopLabel}
    (h : s.dispatchesRecovery a = true) :
    a = .process ∧ s.view.state = .observing ∧ (observationSafety s.center).safe = true ∧
      ∃ opened, s.view.observationStartedAt = some opened ∧
        opened + seconds observationSeconds ≤ s.center.now := by
  cases ha : a.isCall with
  | false =>
    obtain ⟨-, hout⟩ := step_outside s ha
    obtain ⟨f, hf, hsame⟩ := hout.commands
    unfold dispatchesRecovery at h
    rw [hf, List.any_map, List.any_eq_true] at h
    obtain ⟨c, hc, hnew⟩ := h
    simp only [Function.comp_apply, Bool.and_eq_true, Bool.not_eq_true', List.any_eq_false] at hnew
    exact absurd (by simp [(hsame c).1]) (hnew.2 c hc)
  | true =>
    have hr := step_result hi ha
    obtain ⟨x, hx⟩ := dispatchesRecovery_changes h
    have hquiet : ∀ k, ¬ quiet s.view k .taskRecover := fun k => by simp [quiet]
    have hending : ∀ k, ¬ ending k .taskRecover := fun k => by simp [ending]
    have hsame : ∀ T : Uuid → CommandType → Prop, ¬ T x .taskRecover →
        Extends T s.center (s.step a).center → False :=
      fun T hT hext => hx (hext.commands_eq x .taskRecover (by simp) hT)
    cases hr.effect with
    | recover _ opened ha hstate hsafe hstarted hlong _ _ _ _ _ =>
      exact ⟨ha, hstate, hsafe, opened, hstarted, hlong⟩
    | poll _ _ hext => exact (hsame _ (hquiet x) hext).elim
    | window _ _ _ _ _ hext => exact (hsame _ (hquiet x) hext).elim
    | observe _ _ _ _ _ _ hext => exact (hsame _ (hquiet x) hext).elim
    | settle _ _ hext => exact (hsame _ (hquiet x) hext).elim
    | dispatch _ _ _ _ _ _ _ _ hext =>
      exact (hsame _ (fun hk => hk.elim (hquiet x) (fun h => absurd h.2 (by simp))) hext).elim
    | rest _ _ _ _ _ hext => exact (hsame _ (hquiet x) hext).elim
    | hold _ _ _ hext => exact (hsame _ (hquiet x) hext).elim
    | stopping _ _ _ hext => exact (hsame _ (hending x) hext).elim
    | finish _ _ _ _ _ _ hext => exact (hsame _ (hending x) hext).elim

end LoopDb

/-! ## Runs -/

namespace SessionStart

/-- **The history of a window.** In a session that observes with a window opened at `opened`, that
    time is the time of a poll, and from that poll on the window has been steady. -/
theorem window_history (st : SessionStart) (as : List LoopLabel) (opened : ℕ)
    (hobs : (st.run as).view.state = .observing)
    (hopen : (st.run as).view.observationStartedAt = some opened) :
    ∃ pre window, as = pre ++ .process :: window ∧ (st.run pre).center.now = opened ∧
      Run.Always LoopDb.step (SteadyWindow (st.run as).session.stateVersion) (st.run pre)
        (.process :: window) := by
  induction as using List.reverseRecOn with
  | nil =>
    have hview : (st.run []).view.state = .starting := by
      show st.session.view.state = .starting
      rw [st.session_eq.2]
    exact absurd (hview.symm.trans hobs) (by simp)
  | append_singleton as a ih =>
    have hstep : st.run (as ++ [a]) = (st.run as).step a := Run.exec_concat _ _ _ _
    rw [hstep] at hobs hopen ⊢
    obtain ⟨hobs', hversion, hcase⟩ := LoopDb.window_step (st.run_inv as) hobs hopen
    have hv : ((st.run as).step a).session.stateVersion = (st.run as).session.stateVersion :=
      hversion
    rw [hv]
    rcases hcase with ⟨rfl, hsafe, hnow⟩ | ⟨hopen', hsafe⟩
    · -- the poll that opens the window
      exact ⟨as, [], rfl, hnow, ⟨hobs', rfl, fun _ => hsafe⟩, trivial⟩
    · obtain ⟨pre, window, rfl, hnow, halways⟩ := ih hobs' hopen'
      refine ⟨pre, window ++ [a], by simp, hnow, ?_⟩
      rw [← List.cons_append, Run.always_append]
      refine ⟨halways, ⟨?_, ?_, ?_⟩, trivial⟩
      · rw [run, ← Run.exec_append]
        exact hobs'
      · rw [run, ← Run.exec_append]
        rfl
      · rw [run, ← Run.exec_append]
        exact hsafe

/-- **No recovery motion before a full safe observation window.** A step that creates a recovery
    command is a poll, and the run up to it ends in a window: it starts with a poll at least
    `OBSERVATION_SECONDS` earlier, and from there on, the dispatching poll included, the session is
    in one uninterrupted observation and every poll finds the robot safe. -/
theorem recovery_after_safe_window (st : SessionStart) (as : List LoopLabel) (a : LoopLabel)
    (h : (st.run as).dispatchesRecovery a = true) :
    ∃ pre window, as = pre ++ .process :: window ∧
      (st.run pre).center.now + seconds observationSeconds ≤ (st.run as).center.now ∧
      Run.Always LoopDb.step (SteadyWindow (st.run as).session.stateVersion) (st.run pre)
        (.process :: window ++ [a]) := by
  obtain ⟨rfl, hobs, hsafe, opened, hopen, hlong⟩ := LoopDb.dispatch_step (st.run_inv as) h
  obtain ⟨pre, window, rfl, hnow, halways⟩ := st.window_history as opened hobs hopen
  refine ⟨pre, window, rfl, by rw [hnow]; exact hlong, ?_⟩
  rw [Run.always_append]
  refine ⟨halways, ⟨?_, ?_, ?_⟩, trivial⟩
  · rw [run, ← Run.exec_append]
    exact hobs
  · rw [run, ← Run.exec_append]
    rfl
  · rw [run, ← Run.exec_append]
    exact fun _ => hsafe

/-- The run in which the first round is interrupted, and the session polled while the robot stands
    still. -/
def interruptedRound : List LoopLabel :=
  [.process, .executionState 1 .paused 1 "" "", .advance (seconds 1), .process, .process,
    .advance (seconds observationSeconds)]

theorem recovery_after_safe_window_interruptedRound :
    (corridorPatrol.run interruptedRound).dispatchesRecovery .process = true ∧
      ∃ pre window, interruptedRound = pre ++ .process :: window ∧
        (corridorPatrol.run pre).center.now + seconds observationSeconds ≤
          (corridorPatrol.run interruptedRound).center.now ∧
        Run.Always LoopDb.step
          (SteadyWindow (corridorPatrol.run interruptedRound).session.stateVersion)
          (corridorPatrol.run pre) (.process :: window ++ [.process]) := by
  have h : (corridorPatrol.run interruptedRound).dispatchesRecovery .process = true := by
    decide +kernel
  exact ⟨h, corridorPatrol.recovery_after_safe_window interruptedRound .process h⟩

end SessionStart

end RoamerX
