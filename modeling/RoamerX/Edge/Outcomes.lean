import RoamerX.Edge.CommandProcessor

set_option autoImplicit false

/-! # What the operations of the executor keep

Whatever an operation of the executor does, it installs no task: the context it leaves is the one
it found, in another state or not, and it is active only if it was. And where an operation names a
terminal state, in an event or a result, it leaves no active task behind. -/

namespace RoamerX

open CenterDb

namespace TaskExecutor

/-- The task in the context afterwards was there before, and was active if it is. -/
def Carries (context context' : Option TaskContext) : Prop :=
  ∀ c', context' = some c' → ∃ c, context = some c ∧ c.taskExecutionId = c'.taskExecutionId ∧
    c.startCommandId = c'.startCommandId ∧ (c'.state.isActive = true → c.state.isActive = true)

theorem Carries.refl (context : Option TaskContext) : Carries context context :=
  fun c' hc' => ⟨c', hc', rfl, rfl, id⟩

theorem Carries.none (context : Option TaskContext) : Carries context none :=
  fun _ h => absurd h (by simp)

theorem Carries.trans {a b c : Option TaskContext} (hab : Carries a b) (hbc : Carries b c) :
    Carries a c := by
  intro c₃ h₃
  obtain ⟨c₂, h₂, hid₂, hstart₂, hactive₂⟩ := hbc c₃ h₃
  obtain ⟨c₁, h₁, hid₁, hstart₁, hactive₁⟩ := hab c₂ h₂
  exact ⟨c₁, h₁, hid₁.trans hid₂, hstart₁.trans hstart₂, fun h => hactive₁ (hactive₂ h)⟩

theorem Carries.moved {c : TaskContext} {state : ExecutionState}
    (h : state.isActive = true → c.state.isActive = true) :
    Carries (some c) (some (c.moved state)) := by
  intro c' hc'
  obtain rfl := Option.some.inj hc'
  exact ⟨c, rfl, rfl, rfl, h⟩

theorem Carries.inactive {context context' : Option TaskContext} (h : Carries context context')
    (hidle : hasActiveTask context = false) : hasActiveTask context' = false := by
  cases context' with
  | none => rfl
  | some c' =>
    obtain ⟨c, hc, -, -, hactive⟩ := h c' rfl
    rw [hc] at hidle
    by_contra hbusy
    have hc' : c'.state.isActive = true := by simpa [hasActiveTask] using hbusy
    simp [hasActiveTask, hactive hc'] at hidle

theorem inactive_of_terminal {c : TaskContext} (h : c.state.isTerminal = true) :
    hasActiveTask (some c) = false := by
  simpa [hasActiveTask, ExecutionState.isTerminal] using h

/-- What an operation on `context` may leave behind and publish. -/
structure Keeps (context : Option TaskContext) (o : ExecutorOutcome) : Prop where
  carries : Carries context o.context
  /-- An event is about the task in the context, and a terminal one is the end of it. -/
  events : ∀ m ∈ o.events, ∃ c kind p state, context = some c ∧
    m = .taskState kind c.taskExecutionId p ∧ p.state = .known state ∧
    (state.isTerminal = true → hasActiveTask o.context = false)
  /-- The result of the start command is the end of its task. -/
  startResult : ∀ command result, o.startResult = some (command, result) →
    (∃ c, context = some c ∧ c.startCommandId = command) ∧ hasActiveTask o.context = false
  result : ∀ r, o.result = .ok r → ∀ word, r.finalTaskState = some word → ∃ state,
    word = .known state ∧ (state.isTerminal = true → hasActiveTask o.context = false)

theorem Keeps.of_carries {context mid : Option TaskContext} {o : ExecutorOutcome}
    (hc : Carries context mid) (h : Keeps mid o) : Keeps context o where
  carries := hc.trans h.carries
  events := by
    intro m hm
    obtain ⟨c, kind, p, state, hmid, rfl, hstate⟩ := h.events m hm
    obtain ⟨c₀, hc₀, hid, -⟩ := hc c hmid
    exact ⟨c₀, kind, p, state, hc₀, by rw [hid], hstate⟩
  startResult := by
    intro command result hresult
    obtain ⟨⟨c, hmid, hcommand⟩, hidle⟩ := h.startResult command result hresult
    obtain ⟨c₀, hc₀, -, hstart, -⟩ := hc c hmid
    exact ⟨⟨c₀, hc₀, hstart.trans hcommand⟩, hidle⟩
  result := h.result

theorem Keeps.quiet {context : Option TaskContext} {o : ExecutorOutcome}
    (hcarries : Carries context o.context) (hevents : o.events = [])
    (hstart : o.startResult = none)
    (hresult : ∀ r, o.result = .ok r → r.finalTaskState = none) : Keeps context o where
  carries := hcarries
  events := by simp [hevents]
  startResult := by simp [hstart]
  result := by
    intro r hr word hword
    rw [hresult r hr] at hword
    exact absurd hword (by simp)

theorem refused_keeps (context : Option TaskContext) (code : String) :
    Keeps context (refused context code) :=
  .quiet (.refl _) rfl rfl (fun _ h => absurd h (by simp [refused]))

theorem onExecution_keeps {context : Option TaskContext} {execution : Option Uuid}
    {f : TaskContext → ExecutorOutcome} (hf : ∀ c, context = some c → Keeps context (f c)) :
    Keeps context (onExecution context execution f) := by
  unfold onExecution
  split
  · exact refused_keeps none _
  · next c =>
    split
    · exact hf c rfl
    · exact refused_keeps (some c) _

theorem onExecution_other {c : TaskContext} {execution : Option Uuid}
    (h : execution ≠ some c.taskExecutionId) (f : TaskContext → ExecutorOutcome) :
    (onExecution (some c) execution f).context = some c := by
  unfold onExecution
  dsimp only
  rw [if_neg (fun h' => h h'.symm)]
  rfl

theorem stateResult_final {c c' : TaskContext} {robotStopped : Option Bool} {r : ResultPayload}
    (hstate : c.state = c'.state) (h : Except.ok (c.stateResult robotStopped) = (.ok r : Except ServiceError _))
    {word : StateWord} (hword : r.finalTaskState = some word) :
    ∃ state, word = .known state ∧
      (state.isTerminal = true → hasActiveTask (some c') = false) := by
  obtain rfl := Except.ok.inj h
  obtain rfl := Option.some.inj hword
  exact ⟨c.state, rfl, fun hterm => inactive_of_terminal (hstate ▸ hterm)⟩

theorem held_keeps {c : TaskContext} (hactive : c.state.isActive = true) {state : ExecutionState}
    (hstate : state.isTerminal = false) (kind : StateMessage) (code : String) :
    Keeps (some c)
      { context := some (c.moved state)
        result := .error (.protocol code)
        events := [(c.moved state).stateEvent kind] } where
  carries := .moved (fun _ => hactive)
  events := by
    intro m hm
    obtain rfl := List.mem_singleton.mp hm
    refine ⟨c, kind, _, state, rfl, rfl, rfl, fun hterm => ?_⟩
    rw [hstate] at hterm
    exact absurd hterm (by decide)
  startResult := by simp
  result := by simp

theorem cancelTask_keeps (context : Option TaskContext) (execution : Option Uuid)
    (stop : StopOutcome) : Keeps context (cancelTask context execution stop) := by
  refine onExecution_keeps (fun c hc => ?_)
  subst hc
  dsimp only
  split
  · exact
      { carries := .refl _
        events := by simp
        startResult := by simp
        result := fun _ h _ hword => stateResult_final rfl h hword }
  · next hterm =>
    have hactive : c.state.isActive = true := by simpa [ExecutionState.isTerminal] using hterm
    split
    · exact refused_keeps _ _
    · split
      · exact held_keeps hactive rfl .cancelling _
      · split
        · exact held_keeps hactive rfl .cancelling _
        · refine ⟨?_, ?_, ?_, ?_⟩
          · exact (Carries.moved (fun _ => hactive)).trans (.moved (fun h => absurd h (by decide)))
          · intro m hm
            rcases List.mem_cons.mp hm with rfl | hm
            · exact ⟨c, .cancelling, _, .cancelling, rfl, rfl, rfl, fun h => absurd h (by decide)⟩
            · obtain rfl := List.mem_singleton.mp hm
              exact ⟨c, .cancelled, _, .cancelled, rfl, rfl, rfl, fun _ => rfl⟩
          · intro command result h
            obtain ⟨rfl, -⟩ := Prod.mk.inj (Option.some.inj h)
            exact ⟨⟨c, rfl, rfl⟩, rfl⟩
          · exact fun _ h _ hword => stateResult_final rfl h hword

theorem pauseTask_keeps (context : Option TaskContext) (execution : Option Uuid)
    (stop : StopOutcome) : Keeps context (pauseTask context execution stop) := by
  refine onExecution_keeps (fun c hc => ?_)
  subst hc
  dsimp only
  split
  · exact
      { carries := .refl _
        events := by simp
        startResult := by simp
        result := fun _ h _ hword => stateResult_final rfl h hword }
  · split
    · exact refused_keeps _ _
    · next hpausable =>
      have hactive : c.state.isActive = true := by
        have hmem : c.state ∈ pausable := by simpa using hpausable
        revert hmem
        cases c.state <;> decide
      split
      · exact held_keeps hactive rfl .pausing _
      · split
        · exact held_keeps hactive rfl .pausing _
        · refine ⟨?_, ?_, by simp, ?_⟩
          · exact (Carries.moved (fun _ => hactive)).trans (.moved (fun _ => rfl))
          · intro m hm
            rcases List.mem_cons.mp hm with rfl | hm
            · exact ⟨c, .pausing, _, .pausing, rfl, rfl, rfl, fun h => absurd h (by decide)⟩
            · obtain rfl := List.mem_singleton.mp hm
              exact ⟨c, .paused, _, .paused, rfl, rfl, rfl, fun h => absurd h (by decide)⟩
          · exact fun _ h _ hword => stateResult_final rfl h hword

theorem forceExit_keeps (context : Option TaskContext) (code text : String) (report : Bool)
    (stop : StopOutcome) : Keeps context (forceExit context code text report stop) := by
  unfold forceExit
  split
  · refine ⟨.refl _, by simp, by simp, ?_⟩
    intro r h word hword
    obtain rfl := Except.ok.inj h
    obtain rfl := Option.some.inj hword
    exact ⟨.cancelled, rfl, fun _ => rfl⟩
  · next c =>
    refine ⟨.none _, by simp, ?_, ?_⟩
    · intro command result h
      dsimp only at h
      split at h
      · obtain ⟨rfl, -⟩ := Prod.mk.inj (Option.some.inj h)
        exact ⟨⟨c, rfl, rfl⟩, rfl⟩
      · exact absurd h (by simp)
    · intro r h word hword
      obtain rfl := Except.ok.inj h
      obtain rfl := Option.some.inj hword
      exact ⟨.cancelled, rfl, fun _ => rfl⟩

theorem forceExit_context (context : Option TaskContext) (code text : String) (report : Bool)
    (stop : StopOutcome) : (forceExit context code text report stop).context = none := by
  cases context <;> rfl

theorem resumeForward_keeps (context : Option TaskContext) (execution : Option Uuid)
    (refusal : Option String) : Keeps context (resumeForward context execution refusal) := by
  refine onExecution_keeps (fun c hc => ?_)
  subst hc
  split
  · exact refused_keeps _ _
  · split
    · exact refused_keeps _ _
    · refine ⟨.refl _, by simp, by simp, ?_⟩
      intro r h word hword
      obtain rfl := Except.ok.inj h
      obtain rfl := Option.some.inj hword
      exact ⟨.running, rfl, fun h => absurd h (by decide)⟩

theorem finish_keeps (context : Option TaskContext) (failure : Option (String × String)) :
    Keeps context (finish context failure) := by
  unfold finish
  split
  · exact .quiet (.refl _) rfl rfl (by simp)
  · next c =>
    split
    · exact .quiet (.refl _) rfl rfl (by simp)
    · have hended : ∀ (state : ExecutionState) (kind : StateMessage) (status : ResultStatus),
          state.isTerminal = true → Keeps (some c)
            { context := some (c.moved state)
              result := .ok ((c.moved state).stateResult none)
              events := [(c.moved state).stateEvent kind]
              startResult := some (c.startCommandId,
                { status := status, result := (c.moved state).stateResult none,
                  errorCode := (failure.getD ("", "")).1,
                  errorMessage := (failure.getD ("", "")).2 }) } := by
        intro state kind status hterm
        have hidle : hasActiveTask (some (c.moved state)) = false := inactive_of_terminal hterm
        refine ⟨.moved (fun hactive => ?_), ?_, ?_, ?_⟩
        · rw [ExecutionState.isTerminal, hactive] at hterm
          exact absurd hterm (by decide)
        · intro m hm
          obtain rfl := List.mem_singleton.mp hm
          exact ⟨c, kind, _, state, rfl, rfl, rfl, fun _ => hidle⟩
        · intro command result h
          obtain ⟨rfl, -⟩ := Prod.mk.inj (Option.some.inj h)
          exact ⟨⟨c, rfl, rfl⟩, hidle⟩
        · exact fun _ h _ hword => stateResult_final rfl h hword
      cases failure with
      | none => exact hended .completed .completed .succeeded rfl
      | some _ => exact hended .failed .failed .failed rfl

theorem left_carries {c : TaskContext} (hactive : c.state.isActive = true)
    (state : Option ExecutionState) : Carries (some c) (some (left c state)) := by
  unfold left
  split
  · exact .refl _
  · exact .moved (fun _ => hactive)

theorem continueTask_keeps (context : Option TaskContext) (execution : Option Uuid)
    (how : Continuation) : Keeps context (continueTask context execution how) := by
  refine onExecution_keeps (fun c hc => ?_)
  subst hc
  split
  · exact refused_keeps _ _
  · next hterm =>
    have hactive : c.state.isActive = true := by simpa [ExecutionState.isTerminal] using hterm
    cases how with
    | raised code state => exact .quiet (left_carries hactive state) rfl rfl (by simp)
    | continued state reported =>
      refine ⟨left_carries hactive state, by simp, by simp, ?_⟩
      intro r h word hword
      obtain rfl := Except.ok.inj h
      obtain rfl := Option.some.inj hword
      refine ⟨_, rfl, fun hended => ?_⟩
      split at hended
      · next hreported =>
        rw [ExecutionState.isTerminal, hreported] at hended
        exact absurd hended (by decide)
      · exact inactive_of_terminal hended
    | ended failure reportsRunning =>
      have hk := finish_keeps (some c) failure
      refine ⟨hk.carries, hk.events, hk.startResult, ?_⟩
      intro r h word hword
      obtain rfl := Except.ok.inj h
      dsimp only at hword
      split at hword
      · obtain rfl := Option.some.inj hword
        exact ⟨.running, rfl, fun h => absurd h (by decide)⟩
      · obtain ⟨c', hc', rfl⟩ := Option.map_eq_some_iff.mp hword
        refine ⟨c'.state, rfl, fun hended => ?_⟩
        show hasActiveTask (finish (some c) failure).context = false
        rw [hc']
        exact inactive_of_terminal hended

theorem reconcileCenterStateVersion_carries (context : Option TaskContext)
    (execution : Option Uuid) (state : Option ExecutionState) (version : ℤ) :
    Carries context (reconcileCenterStateVersion context execution state version) := by
  intro c' hc'
  obtain ⟨c, hc, rfl⟩ := Option.map_eq_some_iff.mp hc'
  refine ⟨c, hc, ?_⟩
  split <;> exact ⟨rfl, rfl, id⟩

theorem handleSyncResponse_keeps (context : Option TaskContext) (response : SyncResponse)
    (stop : StopOutcome) : Keeps context (handleSyncResponse context response stop) := by
  have hadopted := reconcileCenterStateVersion_carries context response.taskExecutionId
    response.expectedTaskState response.expectedStateVersion
  unfold handleSyncResponse
  dsimp only
  split
  · exact .of_carries hadopted (cancelTask_keeps ..)
  · refine .quiet (hadopted.trans ?_) rfl rfl (by simp)
    unfold reconcileCenterState
    split
    · exact .none _
    · exact .refl _
  · exact .quiet hadopted rfl rfl (by simp)
  · exact .quiet hadopted rfl rfl (by simp)

end TaskExecutor

namespace Handler

open TaskExecutor

/-- **What the effect of a command of a task or a loop keeps.** -/
theorem execute_keeps {m : CommandMessage} {type : CommandType}
    (htype : m.messageType = .known type) (context : Option TaskContext)
    (env : ExecuteEnvironment) : Keeps context (execute m context env) := by
  unfold execute
  split
  · exact refused_keeps ..
  · rw [htype]
    cases type with
    | navRosbagStop => exact .quiet (.refl _) rfl rfl (by simp)
    | taskForceExit => exact forceExit_keeps ..
    | taskPause => exact pauseTask_keeps ..
    | taskResume => exact continueTask_keeps ..
    | taskRecover => exact continueTask_keeps ..
    | taskResumeForward => exact resumeForward_keeps ..
    | taskCancel => exact cancelTask_keeps ..
    | taskStart => exact refused_keeps ..

theorem execute_carries (m : CommandMessage) (context : Option TaskContext)
    (env : ExecuteEnvironment) : Carries context (execute m context env).context := by
  cases htype : m.messageType with
  | known type => exact (execute_keeps htype context env).carries
  | other text =>
    unfold execute
    rw [htype]
    split <;> exact .refl _

end Handler

end RoamerX
