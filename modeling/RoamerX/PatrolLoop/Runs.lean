import RoamerX.Lib.Run
import RoamerX.PatrolLoop.Outcomes

set_option autoImplicit false

/-! # Runs of a patrol-loop session

The session as a state machine (`LoopDb.step`) over any order of calls and of what the rest of the
system writes: one lemma for a step, and the invariant every run keeps. -/

namespace RoamerX

open CenterDb (Extends Valid)

/-- The label is a call of the service, not something another writer does. -/
def LoopLabel.isCall : LoopLabel → Bool
  | .process | .pause | .resume | .continueRecovery | .stop | .lowBattery _ _ _ => true
  | .advance _ | .telemetry _ _ | .commandOutcome _ _ _ _ _ | .executionState _ _ _ _ _ => false

namespace LoopDb

/-- Well formed, and a session under observation is not held for the operator. -/
structure Inv (s : LoopDb) : Prop extends s.Wf where
  held : s.view.state = .observing → s.view.manualPaused = false

/-! ## One step -/

theorem failedProcess_view (s : LoopDb) : s.failedProcess.view = s.view := by
  unfold failedProcess
  split
  · rfl
  · split
    · rfl
    · split <;> rfl

theorem failedProcess_center (s : LoopDb) : s.failedProcess.center = s.center := by
  unfold failedProcess
  split
  · rfl
  · split
    · rfl
    · split <;> rfl

theorem commit_result {a : LoopLabel} {s base : LoopDb} {result : Except ServiceError LoopDb}
    (hw : s.Wf) (hview : base.view = s.view) (hcenter : base.center = s.center)
    (hfail : ∀ err, result = .error err → a = .process → s.view.state ≠ .observing)
    (hok : ∀ s', result = .ok s' → CallResult a s s') : CallResult a s (base.commit result) := by
  cases hr : result with
  | ok s' => exact hok s' hr
  | error err =>
    show CallResult a s base
    refine ⟨hcenter ▸ hw.valid, .poll (hfail err hr) hview ?_⟩
    rw [hcenter]
    exact Extends.refl _ _

/-- **Step lemma for calls.** Whatever the state, a call has one of the listed outcomes. -/
theorem step_result {s : LoopDb} (hi : s.Inv) {a : LoopLabel} (ha : a.isCall = true) :
    CallResult a s (s.step a) := by
  have hw := hi.toWf
  cases a with
  | process =>
    refine commit_result hw (failedProcess_view s) (failedProcess_center s)
      (fun err herr _ hobs => ?_) (fun s' hs' => process_result hw hi.held hs')
    obtain ⟨s', hs'⟩ := process_observing_succeeds hw hobs (hi.held hobs)
    rw [hs'] at herr
    exact absurd herr (by simp)
  | pause =>
    exact commit_result hw rfl rfl (fun _ _ h => absurd h (by simp))
      (fun s' hs' => pause_result hw hs')
  | resume =>
    exact commit_result hw rfl rfl (fun _ _ h => absurd h (by simp))
      (fun s' hs' => continueRecovery_result hw hs')
  | continueRecovery =>
    exact commit_result hw rfl rfl (fun _ _ h => absurd h (by simp))
      (fun s' hs' => continueRecovery_result hw hs')
  | stop =>
    exact commit_result hw rfl rfl (fun _ _ h => absurd h (by simp))
      (fun s' hs' => stop_result (by simp) hw hs')
  | lowBattery key percent source =>
    exact commit_result hw rfl rfl (fun _ _ h => absurd h (by simp))
      (fun s' hs' => terminateLowBattery_result (fun h => absurd h (by simp)) hw hs')
  | advance d => exact absurd ha (by simp [LoopLabel.isCall])
  | telemetry latest robot => exact absurd ha (by simp [LoopLabel.isCall])
  | commandOutcome c st r code message => exact absurd ha (by simp [LoopLabel.isCall])
  | executionState x st n code message => exact absurd ha (by simp [LoopLabel.isCall])

/-- What the other writers do to the tables: no row is lost and no command changes what it is. -/
structure OutsideStep (db db' : CenterDb) : Prop where
  valid : db.Valid → db'.Valid
  uuid_eq : db'.nextUuid = db.nextUuid
  found : ∀ id e, db.execution? id = some e → ∃ e', db'.execution? id = some e'
  keys : ∀ e' ∈ db'.executions, ∃ e ∈ db.executions, e.loopDispatchKey = e'.loopDispatchKey
  commands : ∃ f : RemoteCommand → RemoteCommand, db'.commands = db.commands.map f ∧
    ∀ c, (f c).id = c.id ∧ (f c).taskExecution = c.taskExecution ∧
      (f c).commandType = c.commandType ∧ (f c).payload = c.payload

theorem OutsideStep.of_eq {db db' : CenterDb} (huuid : db'.nextUuid = db.nextUuid)
    (hexec : db'.executions = db.executions) (hevents : db'.events = db.events)
    (hcommands : db'.commands = db.commands)
    (hmessages : db'.processedMessages = db.processedMessages) : OutsideStep db db' where
  valid hv := by
    constructor
    · rw [hexec]; exact hv.execution_nodup
    · rw [hexec, huuid]; exact hv.execution_fresh
    · rw [hcommands]; exact hv.command_nodup
    · rw [hcommands, huuid]; exact hv.command_fresh
    · rw [hcommands, huuid]; exact hv.command_execution
    · rw [hevents, huuid]; exact hv.event_execution
    · unfold CenterDb.execution?
      rw [hevents, hexec]
      exact hv.event_version
    · rw [hevents, hmessages]; exact hv.event_message
  uuid_eq := huuid
  found id e he := ⟨e, by rw [CenterDb.execution?, hexec]; exact he⟩
  keys e he := ⟨e, hexec ▸ he, rfl⟩
  commands := ⟨id, by simp [hcommands], fun _ => ⟨rfl, rfl, rfl, rfl⟩⟩

theorem outsideStep_setCommandOutcome (db : CenterDb) (command : Uuid) (status : CommandStatus)
    (result : ResultPayload) (code message : String) :
    OutsideStep db (setCommandOutcome db command status result code message) := by
  have hf : ∀ c : RemoteCommand, ∀ g : RemoteCommand → RemoteCommand,
      (∀ c, (g c).id = c.id ∧ (g c).taskExecution = c.taskExecution ∧
        (g c).commandType = c.commandType ∧ (g c).payload = c.payload) →
      let c' := if c.id = command then g c else c
      c'.id = c.id ∧ c'.taskExecution = c.taskExecution ∧ c'.commandType = c.commandType ∧
        c'.payload = c.payload := by
    intro c g hg
    dsimp only
    split
    · exact hg c
    · exact ⟨rfl, rfl, rfl, rfl⟩
  have hkeep := fun c => hf c
    (fun c =>
      { c with
        status := status
        resultPayload := result
        errorCode := code
        errorMessage := message })
    (fun _ => ⟨rfl, rfl, rfl, rfl⟩)
  refine ⟨fun hv => ?_, rfl, fun id e he => ⟨e, he⟩, fun e he => ⟨e, he, rfl⟩, _, rfl, hkeep⟩
  obtain ⟨hnodup, hfresh, hexec⟩ := hv.map_commands (fun c => ⟨(hkeep c).1, (hkeep c).2.1⟩)
  exact ⟨hv.execution_nodup, hv.execution_fresh, hnodup, hfresh, hexec, hv.event_execution,
    hv.event_version, hv.event_message⟩

theorem outsideStep_setExecutionState (db : CenterDb) (execution : Uuid) (state : ExecutionState)
    (versions : ℕ) (code message : String) :
    OutsideStep db (setExecutionState db execution state versions code message) := by
  unfold setExecutionState
  cases he : db.execution? execution with
  | none => exact .of_eq rfl rfl rfl rfl rfl
  | some e =>
    dsimp only
    have hid := CenterDb.execution?_id he
    refine ⟨fun hv => ?_, rfl, fun id x hx => ?_, fun x hx => ?_, id, by simp,
      fun _ => ⟨rfl, rfl, rfl, rfl⟩⟩
    · refine hv.save (e := e)
        { e with
          state := state
          stateVersion := e.stateVersion + versions
          failureCode := code
          failureMessage := message } ?_ ?_ rfl rfl ⟨id, by simp, fun _ => ⟨rfl, rfl⟩⟩
        (fun ev hev => .inl hev) (fun m hm => hm)
      · show db.execution? e.id = some e
        rw [hid]
        exact he
      · show e.stateVersion ≤ e.stateVersion + versions
        omega
    · rw [CenterDb.execution?_saveExecution]
      split
      · exact ⟨_, by rw [hx]; rfl⟩
      · exact ⟨x, hx⟩
    · rcases Rows.mem_put _ hx with rfl | ⟨hold, -⟩
      · exact ⟨e, CenterDb.execution?_mem he, rfl⟩
      · exact ⟨x, hold, rfl⟩

/-- **Step lemma for other writers.** They leave the session row alone, and the tables as
    `OutsideStep` says. -/
theorem step_outside (s : LoopDb) {a : LoopLabel} (ha : a.isCall = false) :
    (s.step a).session = s.session ∧ OutsideStep s.center (s.step a).center := by
  cases a with
  | advance d => exact ⟨rfl, .of_eq rfl rfl rfl rfl rfl⟩
  | telemetry latest robot => exact ⟨rfl, .of_eq rfl rfl rfl rfl rfl⟩
  | commandOutcome c st r code message => exact ⟨rfl, outsideStep_setCommandOutcome ..⟩
  | executionState x st n code message => exact ⟨rfl, outsideStep_setExecutionState ..⟩
  | process => exact absurd ha (by simp [LoopLabel.isCall])
  | pause => exact absurd ha (by simp [LoopLabel.isCall])
  | resume => exact absurd ha (by simp [LoopLabel.isCall])
  | continueRecovery => exact absurd ha (by simp [LoopLabel.isCall])
  | stop => exact absurd ha (by simp [LoopLabel.isCall])
  | lowBattery key percent source => exact absurd ha (by simp [LoopLabel.isCall])

/-! ## The invariant of every run -/

theorem wf_of_result {a : LoopLabel} {s s' : LoopDb} (hw : s.Wf) (h : CallResult a s s') :
    s'.Wf := by
  obtain ⟨hv, heff⟩ := h
  -- every outcome but a dispatch keeps the current execution, the round and all executions
  have hkeep : ∀ T : Uuid → CommandType → Prop, (∀ k, ¬ T k .taskStart) →
      Extends T s.center s'.center → s'.view.id = s.view.id →
      s'.view.currentExecution = s.view.currentExecution →
      s'.view.currentRound = s.view.currentRound → s'.Wf := by
    intro T hT hext hid hcur hround
    refine ⟨hv, fun x hx => ?_, fun e' he' n hn => ?_⟩
    · have hcur' : s'.session.currentExecution = s.session.currentExecution := hcur
      obtain ⟨e, he⟩ := hw.current x (hcur' ▸ hx)
      obtain ⟨e', he', -⟩ := hext.execution_grows x e he
      exact ⟨e', he'⟩
    · rcases hext.executions_new e' he' with hk | ⟨e, he, -, hkey⟩
      · exact absurd hk (hT _)
      · have hid' : s'.session.id = s.session.id := hid
        have hround' : s'.session.currentRound = s.session.currentRound := hround
        rw [hround']
        exact hw.rounds e he n (by rw [hkey, hn, hid'])
  have hquiet : ∀ k, ¬ quiet s.view k .taskStart := fun k => by simp [quiet]
  have hending : ∀ k, ¬ ending k .taskStart := fun k => by simp [ending]
  cases heff with
  | poll _ hview hext => exact hkeep _ hquiet hext (by rw [hview]) (by rw [hview]) (by rw [hview])
  | window _ _ _ hview _ hext =>
    exact hkeep _ hquiet hext (by rw [hview]) (by rw [hview]) (by rw [hview])
  | recover x _ _ _ _ _ _ _ _ hview _ hext =>
    refine hkeep _ (fun k hk => ?_) hext (by rw [hview]) (by rw [hview]) (by rw [hview])
    rcases hk with hk | ⟨-, -, hne⟩
    · exact hquiet k hk
    · exact hne rfl
  | observe _ _ _ _ _ hview hext =>
    exact hkeep _ hquiet hext (by rw [hview]) (by rw [hview]) (by rw [hview])
  | settle _ hview hext =>
    exact hkeep _ hquiet hext (by rw [hview]) (by rw [hview]) (by rw [hview])
  | dispatch x _ _ hfound hkey _ _ hview hext =>
    have hcur : s'.session.currentExecution = some x := congrArg LoopView.currentExecution hview
    have hround : s'.session.currentRound = s.session.currentRound + 1 :=
      congrArg LoopView.currentRound hview
    have hid : s'.session.id = s.session.id := congrArg LoopView.id hview
    refine ⟨hv, fun y hy => ?_, fun e' he' n hn => ?_⟩
    · rw [hcur] at hy
      rw [← Option.some.inj hy]
      exact hfound
    · rw [hround]
      rcases hext.executions_new e' he' with (hq | ⟨hx, -⟩) | ⟨e, he, -, hkey'⟩
      · exact absurd hq (hquiet _)
      · have := (hkey e' he' hx).symm.trans hn
        simp only [Option.some.injEq, Prod.mk.injEq] at this
        rw [← this.2]
        exact le_refl _
      · exact Nat.le_succ_of_le (hw.rounds e he n (by rw [hkey', hn, hid]))
  | rest _ _ _ _ hview hext =>
    exact hkeep _ hquiet hext (by rw [hview]) (by rw [hview]) (by rw [hview])
  | hold _ _ hview hext => exact hkeep _ hquiet hext (by rw [hview]) (by rw [hview]) (by rw [hview])
  | stopping _ _ hview hext =>
    exact hkeep _ hending hext (by rw [hview]) (by rw [hview]) (by rw [hview])
  | finish _ _ _ _ _ hview hext =>
    exact hkeep _ hending hext (by rw [hview]) (by rw [hview]) (by rw [hview])

theorem held_of_result {a : LoopLabel} {s s' : LoopDb} (hi : s.Inv) (h : CallResult a s s') :
    s'.view.state = .observing → s'.view.manualPaused = false := by
  intro hobs
  cases h.effect with
  | poll _ hview _ =>
    rw [hview] at hobs ⊢
    exact hi.held hobs
  | window _ _ hstate hview _ _ =>
    rw [hview]
    exact hi.held hstate
  | observe _ _ _ _ _ hview _ => rw [hview]
  | finish st _ hterminal _ _ hview _ =>
    rw [hview] at hobs
    rw [show st = .observing from hobs] at hterminal
    exact absurd hterminal (by simp [LoopState.isTerminal])
  | recover _ _ _ _ _ _ _ _ _ hview _ _ => rw [hview] at hobs; exact absurd hobs (by simp)
  | settle _ hview _ => rw [hview] at hobs; exact absurd hobs (by simp)
  | dispatch _ _ _ _ _ _ _ hview _ => rw [hview] at hobs; exact absurd hobs (by simp)
  | rest _ _ _ _ hview _ => rw [hview] at hobs; exact absurd hobs (by simp)
  | hold _ _ hview _ => rw [hview] at hobs; exact absurd hobs (by simp)
  | stopping _ _ hview _ => rw [hview] at hobs; exact absurd hobs (by simp)

theorem step_inv {s : LoopDb} (hi : s.Inv) (a : LoopLabel) : (s.step a).Inv := by
  cases ha : a.isCall with
  | true =>
    have hr := step_result hi ha
    exact { wf_of_result hi.toWf hr with held := held_of_result hi hr }
  | false =>
    obtain ⟨hsession, hout⟩ := step_outside s ha
    have hview : (s.step a).view = s.view := by
      unfold view
      rw [hsession]
    refine ⟨⟨hout.valid hi.valid, fun x hx => ?_, fun e' he' n hn => ?_⟩, ?_⟩
    · rw [hsession] at hx
      obtain ⟨e, he⟩ := hi.current x hx
      exact hout.found x e he
    · obtain ⟨e, he, hkey⟩ := hout.keys e' he'
      rw [hsession] at hn ⊢
      exact hi.rounds e he n (hkey.trans hn)
    · rw [hview]
      exact hi.held

end LoopDb

/-! ## Sessions from their start -/

/-- A session as `create_session` starts it, on valid tables. -/
structure SessionStart where
  db : CenterDb
  valid : db.Valid
  /-- Dispatch keys are made of ids of sessions that exist. -/
  keys : ∀ e ∈ db.executions, ∀ k, e.loopDispatchKey = some k → k.1 < db.nextUuid
  task : PatrolTask
  durationSeconds : ℕ
  restSeconds : ℕ
  session : LoopDb
  created : LoopDb.createSession db task durationSeconds restSeconds true = .ok session

namespace SessionStart

def run (st : SessionStart) (as : List LoopLabel) : LoopDb := Run.exec LoopDb.step st.session as

theorem session_eq (st : SessionStart) :
    st.session.center = { st.db with nextUuid := st.db.nextUuid + 1 } ∧
      st.session.view =
        { id := st.db.nextUuid
          routeSnapshot := st.session.session.routeSnapshot
          state := .starting
          stateVersion := 0
          endsAt := st.db.now + seconds st.durationSeconds
          currentRound := 0
          currentExecution := none
          observationStartedAt := none
          recoveryEpisodeId := none
          recoveryAttempt := 0
          recoveryMaxAttempts := maxRecoveryAttempts
          manualPaused := false } := by
  have h := st.created
  unfold LoopDb.createSession at h
  repeat' split at h
  all_goals first
    | (rw [← Except.ok.inj h]; exact ⟨rfl, rfl⟩)
    | exact absurd h (by simp)

theorem inv_start (st : SessionStart) : st.session.Inv := by
  obtain ⟨hcenter, hview⟩ := st.session_eq
  have hcur : st.session.session.currentExecution = none :=
    congrArg LoopView.currentExecution hview
  have hid : st.session.session.id = st.db.nextUuid := congrArg LoopView.id hview
  refine ⟨⟨?_, fun x hx => ?_, fun e he n hn => ?_⟩, fun _ => by rw [hview]⟩
  · rw [hcenter]
    exact LoopDb.valid_drawUuid st.valid
  · rw [hcur] at hx
    exact absurd hx (by simp)
  · rw [hcenter] at he
    rw [hid] at hn
    exact absurd (st.keys e he _ hn) (Nat.lt_irrefl _)

/-- **The invariant of every run.** -/
theorem run_inv (st : SessionStart) (as : List LoopLabel) : (st.run as).Inv := by
  exact Run.exec_invariant LoopDb.Inv (fun _ a h => LoopDb.step_inv h a) st.inv_start as

/-! ### A session to start from -/

/-- The tables of a robot that stands ready and has done nothing yet. -/
def standingRobot : CenterDb where
  robot :=
    { id := 1, connectionStatus := .online, localizationStatus := .normal, navReady := true,
      lastSeenAt := some 0 }
  latest := some
    { receivedAt := 0
      localizationStatus := .normal
      rosReady := true
      navReady := true
      navigation :=
        { observationSchema := "roamerx.navigation-observation.v1"
          actualPlanarSpeedMps := .number 0
          actualTurnSpeedRps := .number 0
          actualVelocitySampleAgeSeconds := .number 0 } }

/-- A patrol of one minute along the corridor. -/
def corridorPatrol : SessionStart where
  db := standingRobot
  valid := by constructor <;> simp [standingRobot, CenterDb.execution?]
  keys := by simp [standingRobot]
  task := corridorTask
  durationSeconds := 60
  restSeconds := 5
  session := _
  created := rfl

end SessionStart

end RoamerX
