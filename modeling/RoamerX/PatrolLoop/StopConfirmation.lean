import RoamerX.PatrolLoop.Runs

set_option autoImplicit false

/-! # Stop confirmation

A round that is stopped by a force-exit should only be left for `completed` or `resting` once that
command has succeeded and its result says that the robot has stopped. The branch for `stopping`
checks this; the invariant below is that outside `stopping` there is nothing left to confirm.

A pause is accepted in `stopping` too and moves the session out of it, with the force-exit still in
flight; so is a later outcome that takes a confirmation back. `KeepsStop` excludes both. -/

namespace RoamerX

open CenterDb (Extends)

/-- The step moves the session to `completed` or `resting`. -/
def LoopDb.concludes (s : LoopDb) (a : LoopLabel) : Bool :=
  (s.step a).session.state ≠ s.session.state &&
    ((s.step a).session.state = .completed || (s.step a).session.state = .resting)

/-- If the step concludes the round or the loop, the force-exit of the round, if there is one, is
    confirmed. -/
def ConcludesStopped (s : LoopDb) (a : LoopLabel) : Prop :=
  s.concludes a = true → s.stopIsConfirmed = true ∧ (s.step a).stopIsConfirmed = true

instance : ∀ s a, Decidable (ConcludesStopped s a) :=
  fun s a => inferInstanceAs (Decidable (s.concludes a = true → _))

/-- No pause while an unconfirmed stop is under way, and outside `stopping` no outcome that takes
    the confirmation of the round's force-exit back. -/
def KeepsStop (s : LoopDb) : LoopLabel → Prop
  | .pause => s.session.state = .stopping → s.stopIsConfirmed = true
  | .commandOutcome command status result _ _ =>
    s.session.state ≠ .stopping → s.session.state.isTerminal = false →
      s.currentForceExit.map RemoteCommand.id = some command →
        status = .succeeded ∧ result.robotStopped = some true
  | _ => True

instance : ∀ s a, Decidable (KeepsStop s a)
  | s, .pause => inferInstanceAs (Decidable (s.session.state = .stopping → _))
  | s, .commandOutcome .. => inferInstanceAs (Decidable (s.session.state ≠ .stopping → _))
  | _, .process | _, .resume | _, .continueRecovery | _, .stop | _, .lowBattery .. | _, .advance _
  | _, .telemetry .. | _, .executionState .. => inferInstanceAs (Decidable True)

/-- Outside `stopping` and the terminal states there is no unconfirmed force-exit. -/
def LoopDb.StopSettled (s : LoopDb) : Prop :=
  s.view.state ≠ .stopping → s.view.state.isTerminal = false → s.stopIsConfirmed = true

namespace LoopDb

/-! ## One step -/

/-- A step that leaves the current execution and its force-exits alone leaves their confirmation
    alone. -/
theorem stopIsConfirmed_of_quiet {s s' : LoopDb} (hstate : s.view.state.isTerminal = false)
    (hcur : s'.view.currentExecution = s.view.currentExecution)
    (hext : Extends (quiet s.view) s.center s'.center) :
    s'.stopIsConfirmed = s.stopIsConfirmed := by
  have hcur' : s'.session.currentExecution = s.session.currentExecution := hcur
  unfold stopIsConfirmed currentForceExit
  rw [hcur']
  cases hx : s.session.currentExecution with
  | none => rfl
  | some x =>
    have hnot : ¬ quiet s.view x .taskForceExit := by
      rintro (h | ⟨-, hterm | hne⟩)
      · exact absurd h (by simp)
      · rw [hstate] at hterm
        exact absurd hterm (by simp)
      · exact hne hx
    simp only [Option.bind_some, latestForceExit]
    rw [hext.commands_eq x .taskForceExit (by simp) hnot]

theorem stopIsConfirmed_of_unstopped {s : LoopDb} {x : Uuid}
    (hcur : s.view.currentExecution = some x)
    (hunstopped : s.center.commandsOf x .taskForceExit = []) : s.stopIsConfirmed = true := by
  have hcur' : s.session.currentExecution = some x := hcur
  simp [stopIsConfirmed, currentForceExit, hcur', latestForceExit, hunstopped]

/-- **Step lemma for calls.** A call leaves the stop settled, and if it concludes the round, the
    stop is confirmed. -/
theorem stopSettled_of_effect {a : LoopLabel} {s s' : LoopDb} (hi : s.StopSettled)
    (hpause : a = .pause → s.view.state = .stopping → s.stopIsConfirmed = true)
    (h : CallEffect a s s') :
    s'.StopSettled ∧
      (s'.view.state ≠ s.view.state → s'.view.state = .completed ∨ s'.view.state = .resting →
        s.stopIsConfirmed = true ∧ s'.stopIsConfirmed = true) := by
  have hkeep : s.view.state.isTerminal = false → s.stopIsConfirmed = true →
      s'.view.currentExecution = s.view.currentExecution →
      Extends (quiet s.view) s.center s'.center → s'.stopIsConfirmed = true :=
    fun hstate hconf hcur hext => by rw [stopIsConfirmed_of_quiet hstate hcur hext]; exact hconf
  cases h with
  | poll _ hview hext =>
    refine ⟨fun hne hterm => ?_, fun hne => absurd (by rw [hview]) hne⟩
    rw [hview] at hne hterm
    exact hkeep hterm (hi hne hterm) (by rw [hview]) hext
  | window opened _ hobs hview _ hext =>
    refine ⟨fun _ _ => ?_, fun hne => absurd (by rw [hview]) hne⟩
    have hterm : s.view.state.isTerminal = false := by rw [hobs]; rfl
    exact hkeep hterm (hi (by rw [hobs]; simp) hterm) (by rw [hview]) hext
  | recover x _ _ hobs _ _ _ _ _ hview _ hext =>
    have hterm : s.view.state.isTerminal = false := by rw [hobs]; rfl
    have hconf := hi (by rw [hobs]; simp) hterm
    refine ⟨fun _ _ => ?_, fun _ hst => absurd hst (by rw [hview]; simp)⟩
    -- the recovery command is no force-exit
    have hcur : s'.session.currentExecution = s.session.currentExecution :=
      congrArg LoopView.currentExecution hview
    unfold stopIsConfirmed currentForceExit at hconf ⊢
    rw [hcur]
    cases hx : s.session.currentExecution with
    | none => rfl
    | some y =>
      rw [hx] at hconf
      simp only [Option.bind_some, latestForceExit] at hconf ⊢
      rw [hext.commands_eq y .taskForceExit (by simp)]
      · exact hconf
      · rintro ((h | ⟨-, hdone | hne⟩) | ⟨-, h, -⟩)
        · exact absurd h (by simp)
        · rw [hterm] at hdone
          exact absurd hdone (by simp)
        · exact hne hx
        · exact absurd h (by simp)
  | observe _ _ hterm hstop _ hview hext =>
    refine ⟨fun _ _ => hkeep hterm (hi hstop hterm) (by rw [hview]) hext, fun _ hst => ?_⟩
    rw [hview] at hst
    exact absurd hst (by simp)
  | settle hwhere hview hext =>
    have hterm : s.view.state.isTerminal = false := by
      rcases hwhere with h | h <;> rw [h] <;> rfl
    have hstop : s.view.state ≠ .stopping := by
      rcases hwhere with h | h <;> rw [h] <;> simp
    refine ⟨fun _ _ => hkeep hterm (hi hstop hterm) (by rw [hview]) hext, fun _ hst => ?_⟩
    rw [hview] at hst
    exact absurd hst (by simp)
  | dispatch x _ _ _ _ hunstopped _ hview _ =>
    refine ⟨fun _ _ => stopIsConfirmed_of_unstopped (by rw [hview]) hunstopped, fun _ hst => ?_⟩
    rw [hview] at hst
    exact absurd hst (by simp)
  | rest _ _ _ hwhere hview hext =>
    have hterm : s.view.state.isTerminal = false := by
      rcases hwhere with ⟨h, -⟩ | ⟨h, -⟩ | ⟨h, -⟩ <;> rw [h] <;> rfl
    have hconf : s.stopIsConfirmed = true := by
      rcases hwhere with ⟨h, -⟩ | ⟨h, -⟩ | ⟨-, h, -⟩
      · exact hi (by rw [h]; simp) hterm
      · exact hi (by rw [h]; simp) hterm
      · exact h
    have hconf' := hkeep hterm hconf (by rw [hview]) hext
    exact ⟨fun _ _ => hconf', fun _ _ => ⟨hconf, hconf'⟩⟩
  | hold hterm hstop hview hext =>
    have hconf : s.stopIsConfirmed = true := by
      by_cases h : s.view.state = .stopping
      · exact hpause (hstop h) h
      · exact hi h hterm
    refine ⟨fun _ _ => hkeep hterm hconf (by rw [hview]) hext, fun _ hst => ?_⟩
    rw [hview] at hst
    exact absurd hst (by simp)
  | stopping _ _ hview _ =>
    refine ⟨fun hne _ => absurd (by rw [hview]) hne, fun _ hst => ?_⟩
    rw [hview] at hst
    exact absurd hst (by simp)
  | finish st _ hdone hterm hcompleted hview _ =>
    refine ⟨fun _ hst => ?_, fun _ hst => ?_⟩
    · rw [hview] at hst
      exact absurd (hdone.symm.trans hst) (by simp)
    · rw [hview] at hst
      rcases hst with hst | hst
      · obtain ⟨hext, hstopping⟩ := hcompleted hst
        have hconf : s.stopIsConfirmed = true := by
          by_cases h : s.view.state = .stopping
          · exact hstopping h
          · exact hi h hterm
        exact ⟨hconf, hkeep hterm hconf (by rw [hview]) hext⟩
      · rw [show st = .resting from hst] at hdone
        exact absurd hdone (by simp [LoopState.isTerminal])

/-- An outcome of another command than the round's force-exit, or one that confirms it, leaves the
    stop confirmed. -/
theorem stopIsConfirmed_setCommandOutcome {s : LoopDb} {command : Uuid}
    {status : CommandStatus} {result : ResultPayload} {code message : String}
    (hconf : s.stopIsConfirmed = true)
    (h : s.currentForceExit.map RemoteCommand.id = some command →
      status = .succeeded ∧ result.robotStopped = some true) :
    (s.step (.commandOutcome command status result code message)).stopIsConfirmed = true := by
  show ((s.withCenter (setCommandOutcome ..)).session.currentExecution.bind
    (latestForceExit (s.withCenter (setCommandOutcome ..)).center)).all stopConfirmed = true
  rw [session_withCenter, center_withCenter]
  unfold stopIsConfirmed currentForceExit at hconf
  unfold currentForceExit at h
  cases hx : s.session.currentExecution with
  | none => rfl
  | some x =>
    rw [hx] at hconf h
    simp only [Option.bind_some] at hconf h ⊢
    unfold latestForceExit at hconf h ⊢
    have hrows : (setCommandOutcome s.center command status result code message).commands =
        s.center.commands.map _ := rfl
    rw [CenterDb.commandsOf_rewrite hrows (fun c => by dsimp only; split <;> exact ⟨rfl, rfl⟩),
      List.getLast?_map]
    cases hlast : (s.center.commandsOf x .taskForceExit).getLast? with
    | none => rfl
    | some c =>
      rw [hlast] at hconf h
      simp only [Option.map_some, Option.all_some] at hconf h ⊢
      split
      · next hid =>
        obtain ⟨rfl, hstopped⟩ := h (by rw [hid])
        simp [stopConfirmed, hstopped]
      · exact hconf

/-- **Step lemma.** A step that meets `KeepsStop` keeps the stop settled and concludes nothing
    without a confirmation. -/
theorem stopSettled_step {s : LoopDb} (hw : s.Inv) (hi : s.StopSettled) {a : LoopLabel}
    (hkeeps : KeepsStop s a) : (s.step a).StopSettled ∧ ConcludesStopped s a := by
  cases ha : a.isCall with
  | true =>
    obtain ⟨hsettled, hconcludes⟩ := stopSettled_of_effect hi
      (fun hp hst => by subst hp; exact hkeeps hst) (step_result hw ha).effect
    refine ⟨hsettled, fun hc => ?_⟩
    simp only [concludes, Bool.and_eq_true, decide_eq_true_eq, Bool.or_eq_true] at hc
    exact hconcludes hc.1 hc.2
  | false =>
    obtain ⟨hsession, -⟩ := step_outside s ha
    refine ⟨fun hne hterm => ?_, fun hc => ?_⟩
    · have hview : (s.step a).view = s.view := by
        unfold view
        rw [hsession]
      rw [hview] at hne hterm
      have hconf := hi hne hterm
      have hsame : ∀ center : CenterDb, center.commands = s.center.commands →
          (s.withCenter center).stopIsConfirmed = true := by
        intro center hcommands
        unfold stopIsConfirmed currentForceExit latestForceExit CenterDb.commandsOf
          CenterDb.commandsOfType at hconf ⊢
        rw [session_withCenter, center_withCenter, hcommands]
        exact hconf
      cases a with
      | advance d => exact hsame _ rfl
      | telemetry latest robot => exact hsame _ rfl
      | executionState x st n code message =>
        refine hsame _ ?_
        unfold setExecutionState
        split <;> rfl
      | commandOutcome command status result code message =>
        exact stopIsConfirmed_setCommandOutcome hconf (hkeeps hne hterm)
      | process => exact absurd ha (by simp [LoopLabel.isCall])
      | pause => exact absurd ha (by simp [LoopLabel.isCall])
      | resume => exact absurd ha (by simp [LoopLabel.isCall])
      | continueRecovery => exact absurd ha (by simp [LoopLabel.isCall])
      | stop => exact absurd ha (by simp [LoopLabel.isCall])
      | lowBattery key percent source => exact absurd ha (by simp [LoopLabel.isCall])
    · unfold concludes at hc
      rw [hsession] at hc
      simp at hc

end LoopDb

/-! ## Runs -/

namespace SessionStart

theorem stopSettled_start (st : SessionStart) : st.session.StopSettled := by
  obtain ⟨-, hview⟩ := st.session_eq
  have hcur : st.session.session.currentExecution = none :=
    congrArg LoopView.currentExecution hview
  intro _ _
  simp [LoopDb.stopIsConfirmed, LoopDb.currentForceExit, hcur]

/-- **Stop confirmation.** In every run whose steps meet `KeepsStop`, the session moves to
    `completed` or `resting` only when the latest force-exit of its round, if one was dispatched,
    has succeeded with the robot stopped. -/
theorem concludes_stopped (st : SessionStart) (as : List LoopLabel)
    (h : Run.Always LoopDb.step KeepsStop st.session as) :
    Run.Always LoopDb.step ConcludesStopped st.session as :=
  Run.always_of_guarded (fun s => s.Inv ∧ s.StopSettled)
    (fun _ a hi hk => ⟨LoopDb.step_inv hi.1 a, (LoopDb.stopSettled_step hi.1 hi.2 hk).1⟩)
    (fun _ _ hi hk => (LoopDb.stopSettled_step hi.1 hi.2 hk).2)
    ⟨st.inv_start, st.stopSettled_start⟩ h

/-- The run in which the deadline stops the round and the Edge confirms the stop. -/
def confirmedStop : List LoopLabel :=
  [.process, .executionState 1 .running 1 "" "", .advance (seconds 60), .process, .process,
    .commandOutcome 3 .succeeded { robotStopped := some true } "" "", .process]

theorem concludes_stopped_confirmedStop :
    (corridorPatrol.run confirmedStop).session.state = .completed ∧
      Run.Always LoopDb.step ConcludesStopped corridorPatrol.session confirmedStop :=
  ⟨by decide +kernel, corridorPatrol.concludes_stopped confirmedStop (by decide +kernel)⟩

/-- The run in which the operator pauses while the force-exit of the deadline is still waiting to
    be published: the next poll takes the paused session past its deadline, finds the execution
    closed and completes the loop. -/
def pausedStop : List LoopLabel :=
  [.process, .executionState 1 .running 1 "" "", .advance (seconds 60), .process, .pause, .process]

theorem not_concludes_stopped_pausedStop :
    (corridorPatrol.run pausedStop).session.state = .completed ∧
      ((corridorPatrol.run pausedStop).currentForceExit.map RemoteCommand.status) =
        some .created ∧
      ¬ Run.Always LoopDb.step ConcludesStopped corridorPatrol.session pausedStop :=
  ⟨by decide +kernel, by decide +kernel, by decide +kernel⟩

end SessionStart

end RoamerX
