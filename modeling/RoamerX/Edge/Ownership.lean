import RoamerX.Lib.Run
import RoamerX.Edge.AtMostOnce
import RoamerX.Edge.Outcomes

set_option autoImplicit false

/-! # The active task of the Edge and its owner

A start is admitted when it sees no active task, and installs its own context some time later. As
long as no second start is admitted in between, no start replaces an active task. A cancel of
another execution does not touch it; a force exit ends whatever task there is. -/

namespace RoamerX

open TaskExecutor

/-! ## What a step of a handler does to the context -/

namespace Handler

variable {h : Handler} {record : Option CommandRecord} {context : Option TaskContext}
  {o : HandlerStep}

@[simp] theorem rejected_context (context : Option TaskContext) (code : String) :
    (rejected context code).context = context := rfl

theorem prepare_context (m : CommandMessage) (context : Option TaskContext)
    (env : StartEnvironment) :
    ((prepare m context env).phase = .done ∧ (prepare m context env).context = context) ∨
      ∃ c, prepare m context env = { phase := .prepared, context := some c, executes := true } ∧
        some c.taskExecutionId = m.taskExecutionId ∧ c.startCommandId = m.commandId ∧
        c.state = .accepted := by
  unfold prepare
  dsimp only
  split
  · next x p hx hp =>
    split
    · next c hc =>
      obtain ⟨hid, hcommand, hstate, -⟩ := prepareTaskStart_ok hc
      exact .inr ⟨c, rfl, by rw [hid, hx], hcommand, hstate⟩
    · exact .inl ⟨rfl, rfl⟩
    · exact .inl ⟨rfl, rfl⟩
  · exact .inl ⟨rfl, rfl⟩

theorem step_context {input : HandlerInput} (hstep : h.step record context input = some o) :
    o.context = context ∨
      (∃ env, input = .execute env ∧ h.phase = .accepted ∧ h.isStart = false ∧
        o.context = (execute h.message context env).context) ∨
      (∃ env, input = .prepare env ∧ h.phase = .admitted ∧ h.isStart = true ∧
        o = prepare h.message context env) ∨
      ∃ stop, input = .cleanUp stop ∧ h.isStart = true ∧ o.context = none := by
  cases input with
  | check =>
    dsimp only [step] at hstep
    split at hstep
    · split at hstep <;>
      · obtain rfl := Option.some.inj hstep
        exact .inl rfl
    · exact absurd hstep (by simp)
  | reject code | crash recorded | accept | progress | launchFailed code =>
    obtain ⟨-, hsome⟩ := Option.ite_none_right_eq_some.mp hstep
    obtain rfl := Option.some.inj hsome
    exact .inl rfl
  | validateStart | launch =>
    obtain ⟨-, hsome⟩ := Option.ite_none_right_eq_some.mp hstep
    split at hsome <;>
    · obtain rfl := Option.some.inj hsome
      exact .inl rfl
  | prepare env =>
    obtain ⟨⟨hphase, hstart⟩, hsome⟩ := Option.ite_none_right_eq_some.mp hstep
    exact .inr (.inr (.inl ⟨env, rfl, hphase, hstart, (Option.some.inj hsome).symm⟩))
  | execute env =>
    obtain ⟨⟨hphase, hstart⟩, hsome⟩ := Option.ite_none_right_eq_some.mp hstep
    obtain rfl := Option.some.inj hsome
    exact .inr (.inl ⟨env, rfl, hphase, hstart, rfl⟩)
  | cleanUp stop =>
    dsimp only [step] at hstep
    split at hstep
    · obtain ⟨hstart, hsome⟩ := Option.ite_none_right_eq_some.mp hstep
      obtain rfl := Option.some.inj hsome
      exact .inr (.inr (.inr ⟨stop, rfl, hstart, forceExit_context ..⟩))
    · exact absurd hstep (by simp)
  | cleanUpRaised =>
    dsimp only [step] at hstep
    split at hstep
    · obtain ⟨-, hsome⟩ := Option.ite_none_right_eq_some.mp hstep
      obtain rfl := Option.some.inj hsome
      exact .inl rfl
    · exact absurd hstep (by simp)
  | save =>
    dsimp only [step] at hstep
    split at hstep
    · split at hstep
      · exact absurd hstep (by simp)
      · obtain rfl := Option.some.inj hstep
        exact .inl rfl
    · obtain rfl := Option.some.inj hstep
      exact .inl rfl
    · exact absurd hstep (by simp)

theorem executed_ne_admitted (result : Except ServiceError ResultPayload) :
    executed result ≠ .admitted := by
  unfold executed
  split <;> simp

theorem step_admitted {input : HandlerInput} (hstep : h.step record context input = some o)
    (hphase : o.phase = .admitted) :
    input = .validateStart ∧ h.phase = .checked ∧ h.isStart = true ∧ hasActiveTask context = false := by
  cases input with
  | validateStart =>
    obtain ⟨⟨hchecked, hstart⟩, hsome⟩ := Option.ite_none_right_eq_some.mp hstep
    split at hsome
    · obtain rfl := Option.some.inj hsome
      exact absurd hphase (by simp [rejected])
    · next hidle =>
      exact ⟨rfl, hchecked, hstart, by simpa using hidle⟩
  | check =>
    dsimp only [step] at hstep
    split at hstep
    · split at hstep <;>
      · obtain rfl := Option.some.inj hstep
        exact absurd hphase (by simp)
    · exact absurd hstep (by simp)
  | reject code | crash recorded | accept | progress | launchFailed code =>
    obtain ⟨-, hsome⟩ := Option.ite_none_right_eq_some.mp hstep
    obtain rfl := Option.some.inj hsome
    exact absurd hphase (by simp [rejected, accepted])
  | launch =>
    obtain ⟨-, hsome⟩ := Option.ite_none_right_eq_some.mp hstep
    split at hsome <;>
    · obtain rfl := Option.some.inj hsome
      exact absurd hphase (by simp)
  | prepare env =>
    obtain ⟨-, hsome⟩ := Option.ite_none_right_eq_some.mp hstep
    obtain rfl := Option.some.inj hsome
    rcases prepare_context h.message context env with ⟨hdone, -⟩ | ⟨c, hprepared, -⟩
    · rw [hdone] at hphase
      exact absurd hphase (by decide)
    · rw [hprepared] at hphase
      exact absurd hphase (by simp)
  | execute env =>
    obtain ⟨-, hsome⟩ := Option.ite_none_right_eq_some.mp hstep
    obtain rfl := Option.some.inj hsome
    exact absurd hphase (executed_ne_admitted _)
  | cleanUp stop =>
    dsimp only [step] at hstep
    split at hstep
    · obtain ⟨-, hsome⟩ := Option.ite_none_right_eq_some.mp hstep
      obtain rfl := Option.some.inj hsome
      exact absurd hphase (by simp)
    · exact absurd hstep (by simp)
  | cleanUpRaised =>
    dsimp only [step] at hstep
    split at hstep
    · obtain ⟨-, hsome⟩ := Option.ite_none_right_eq_some.mp hstep
      obtain rfl := Option.some.inj hsome
      exact absurd hphase (by simp)
    · exact absurd hstep (by simp)
  | save =>
    dsimp only [step] at hstep
    split at hstep
    · split at hstep
      · exact absurd hstep (by simp)
      · obtain rfl := Option.some.inj hstep
        exact absurd hphase (by simp)
    · obtain rfl := Option.some.inj hstep
      exact absurd hphase (by simp)
    · exact absurd hstep (by simp)

end Handler

/-! ## Steps of the Edge -/

namespace EdgeSystem

section SaveRecord

variable (s : EdgeSystem) (command : Uuid) (ack : Option AckPayload)
  (result : Option CommandResultPayload)

@[simp] theorem saveRecord_context : (s.saveRecord command ack result).context = s.context := by
  unfold saveRecord
  split <;> rfl

@[simp] theorem saveRecord_handlers : (s.saveRecord command ack result).handlers = s.handlers := by
  unfold saveRecord
  split <;> rfl

end SaveRecord

@[simp] theorem afterHandler_context (s : EdgeSystem) (i : ℕ) (h : Handler) (o : HandlerStep) :
    (s.afterHandler i h o).context = o.context := by
  simp [afterHandler]

@[simp] theorem afterHandler_handlers (s : EdgeSystem) (i : ℕ) (h : Handler) (o : HandlerStep) :
    (s.afterHandler i h o).handlers = s.handlers.set i { h with phase := o.phase } := by
  simp [afterHandler]

theorem step_handler {s : EdgeSystem} {i : ℕ} {h : Handler} (hi : s.handlers[i]? = some h)
    (input : HandlerInput) :
    s.step (.handler i input) = s ∨
      ∃ o, h.step (s.records h.message.commandId) s.context input = some o ∧
        s.step (.handler i input) = s.afterHandler i h o := by
  dsimp only [step]
  rw [hi]
  dsimp only
  cases h.step (s.records h.message.commandId) s.context input with
  | none => exact .inl rfl
  | some o => exact .inr ⟨o, rfl, rfl⟩

theorem restored_carries (context : Option TaskContext) : Carries context (restored context) := by
  unfold restored
  split
  · exact .none _
  · next c =>
    split
    · exact .none _
    · next hterm =>
      split
      · exact .refl _
      · exact .moved (fun _ => by simpa [ExecutionState.isTerminal] using hterm)

theorem step_carries {s : EdgeSystem} {i : EdgeInput}
    (hother : ∀ k input, i ≠ .handler k input) : Carries s.context (s.step i).context := by
  cases i with
  | handler k input => exact absurd rfl (hother k input)
  | deliver _ | requestSync _ _ => exact .refl _
  | saveStartResult =>
    dsimp only [step]
    split
    · exact .refl _
    · rw [saveRecord_context]
      exact .refl _
  | navigate state event =>
    dsimp only [step]
    split
    · exact .refl _
    · next c hc =>
      split
      · next hactive =>
        rw [hc]
        exact .moved (fun _ => hactive.1)
      · exact .refl _
  | finish failure => exact (finish_keeps ..).carries
  | report m =>
    dsimp only [step]
    split <;> exact .refl _
  | syncResponse response stop => exact (handleSyncResponse_keeps ..).carries
  | lowBattery stop => exact (forceExit_keeps ..).carries
  | restart => exact restored_carries s.context

/-! ## Admission -/

/-- No start is admitted while another one is that has not installed its context yet. -/
def admitsAlone (s : EdgeSystem) : EdgeInput → Bool
  | .handler i .validateStart =>
    (s.handlers[i]?).all fun h => h.phase ≠ .checked || !h.isStart ||
      s.handlers.all fun h' => h'.phase ≠ .admitted
  | _ => true

/-- At most one start is admitted, and only while no task is active. -/
structure Admission (s : EdgeSystem) : Prop where
  single : ∀ (i j : ℕ) (h h' : Handler), s.handlers[i]? = some h → s.handlers[j]? = some h' → h.phase = .admitted →
    h'.phase = .admitted → i = j
  idle : ∀ h ∈ s.handlers, h.phase = .admitted → hasActiveTask s.context = false

theorem Admission.carried {s s' : EdgeSystem} (ha : Admission s)
    (hhandlers : ∀ (i : ℕ) (h : Handler), s'.handlers[i]? = some h → h.phase = .admitted → s.handlers[i]? = some h)
    (hcarries : Carries s.context s'.context) : Admission s' where
  single := by
    intro i j h h' hi hj hadmitted hadmitted'
    exact ha.single i j h h' (hhandlers i h hi hadmitted) (hhandlers j h' hj hadmitted') hadmitted
      hadmitted'
  idle := by
    intro h hmem hadmitted
    obtain ⟨i, hi⟩ := List.mem_iff_getElem?.mp hmem
    exact hcarries.inactive
      (ha.idle h (List.mem_of_getElem? (hhandlers i h hi hadmitted)) hadmitted)

theorem Admission.afterHandler {s : EdgeSystem} (ha : Admission s) {i : ℕ} {h : Handler}
    {input : HandlerInput} {o : HandlerStep} (hi : s.handlers[i]? = some h)
    (hstep : h.step (s.records h.message.commandId) s.context input = some o)
    (halone : s.admitsAlone (.handler i input) = true) : Admission (s.afterHandler i h o) := by
  by_cases hadmitted : o.phase = .admitted
  · -- the admission itself: nobody else is admitted, and the executor is idle
    obtain ⟨rfl, hchecked, hstart, hidle⟩ := Handler.step_admitted hstep hadmitted
    have hnone : ∀ h' ∈ s.handlers, h'.phase ≠ .admitted := by
      rw [admitsAlone, hi] at halone
      simpa [hchecked, hstart] using halone
    have hcontext : (s.afterHandler i h o).context = s.context := by
      rw [afterHandler_context]
      rcases Handler.step_context hstep with hsame | ⟨_, hno, -⟩ | ⟨_, hno, -⟩ | ⟨_, hno, -⟩
      · exact hsame
      all_goals exact absurd hno (by simp)
    refine ⟨?_, ?_⟩
    · intro j j' h₁ h₂ hj hj' h₁admitted h₂admitted
      rw [afterHandler_handlers] at hj hj'
      rcases CheckThenAct.getElem?_set_cases hj with ⟨hji, -⟩ | ⟨-, hold⟩
      · rcases CheckThenAct.getElem?_set_cases hj' with ⟨hji', -⟩ | ⟨-, hold'⟩
        · exact hji.trans hji'.symm
        · exact absurd h₂admitted (hnone h₂ (List.mem_of_getElem? hold'))
      · exact absurd h₁admitted (hnone h₁ (List.mem_of_getElem? hold))
    · intro _ _ _
      rw [hcontext]
      exact hidle
  · have hhandlers : ∀ j h', (s.afterHandler i h o).handlers[j]? = some h' →
        h'.phase = .admitted → j ≠ i ∧ s.handlers[j]? = some h' := by
      intro j h' hj hadmitted'
      rw [afterHandler_handlers] at hj
      rcases CheckThenAct.getElem?_set_cases hj with ⟨-, rfl⟩ | hold
      · exact absurd hadmitted' hadmitted
      · exact hold
    rcases Handler.step_context hstep with hsame | ⟨env, -, -, -, hcontext⟩ |
      ⟨env, -, hphase, -, rfl⟩ | ⟨stop, -, -, hcontext⟩
    · refine ha.carried (fun j h' hj hadm => (hhandlers j h' hj hadm).2) ?_
      rw [afterHandler_context, hsame]
      exact .refl _
    · refine ha.carried (fun j h' hj hadm => (hhandlers j h' hj hadm).2) ?_
      rw [afterHandler_context, hcontext]
      exact Handler.execute_carries _ _ _
    · -- the one admitted start has installed its context
      have hnone : ∀ (j : ℕ) (h' : Handler),
          (s.afterHandler i h (Handler.prepare h.message s.context env)).handlers[j]? = some h' →
          h'.phase ≠ .admitted := by
        intro j h' hj hadmitted'
        obtain ⟨hne, hold⟩ := hhandlers j h' hj hadmitted'
        exact hne (ha.single j i h' h hold hi hadmitted' hphase)
      refine ⟨?_, ?_⟩
      · intro j j' h₁ h₂ hj _ h₁admitted _
        exact absurd h₁admitted (hnone j h₁ hj)
      · intro h₁ hmem h₁admitted
        obtain ⟨j, hj⟩ := List.mem_iff_getElem?.mp hmem
        exact absurd h₁admitted (hnone j h₁ hj)
    · refine ha.carried (fun j h' hj hadm => (hhandlers j h' hj hadm).2) ?_
      rw [afterHandler_context, hcontext]
      exact .none _

theorem Admission.step {s : EdgeSystem} (ha : Admission s) {i : EdgeInput}
    (halone : s.admitsAlone i = true) : Admission (s.step i) := by
  have hsame : ∀ {s' : EdgeSystem}, s'.handlers = s.handlers → Carries s.context s'.context →
      Admission s' := by
    intro s' hhandlers hcarries
    refine ha.carried (fun j h hj _ => ?_) hcarries
    rw [← hhandlers]
    exact hj
  cases i with
  | handler i input =>
    cases hi : s.handlers[i]? with
    | none =>
      dsimp only [EdgeSystem.step]
      rw [hi]
      exact ha
    | some h =>
      rcases step_handler hi input with hnothing | ⟨o, hstep, hafter⟩
      · rw [hnothing]
        exact ha
      · rw [hafter]
        exact ha.afterHandler hi hstep halone
  | deliver m =>
    refine ha.carried (fun j h hj hadmitted => ?_) (step_carries (by simp))
    dsimp only [EdgeSystem.step] at hj
    rw [List.getElem?_append] at hj
    split at hj
    · exact hj
    · obtain rfl := List.mem_singleton.mp (List.mem_of_getElem? hj)
      exact absurd hadmitted (by simp)
  | restart =>
    refine ha.carried (fun j h hj _ => ?_) (step_carries (by simp))
    exact absurd hj (by simp [EdgeSystem.step])
  | saveStartResult =>
    refine hsame ?_ (step_carries (by simp))
    dsimp only [EdgeSystem.step]
    split
    · rfl
    · rw [saveRecord_handlers]
  | navigate state event =>
    refine hsame ?_ (step_carries (by simp))
    dsimp only [EdgeSystem.step]
    split
    · rfl
    · split <;> rfl
  | report m =>
    refine hsame ?_ (step_carries (by simp))
    dsimp only [EdgeSystem.step]
    split <;> rfl
  | finish _ | requestSync _ _ | syncResponse _ _ | lowBattery _ =>
    exact hsame rfl (step_carries (by simp))

/-! ## The owner of the active task -/

/-- What the handlers of starts, cancels and force exits do to an active task. What the clean-up of
    a failed start does is left open. -/
structure Owned (s : EdgeSystem) (i : EdgeInput) : Prop where
  /-- A start that finds an active task is rejected. -/
  busy : ∀ k h, i = .handler k .validateStart → s.handlers[k]? = some h → h.phase = .checked →
    h.isStart = true → hasActiveTask s.context = true →
    (s.step i).handlers[k]? = some { h with phase := .done } ∧
      ((s.step i).records h.message.commandId).bind CommandRecord.ack =
        some { accepted := false, edgeStateVersion := stateVersion s.context,
               reasonCode := "ROBOT_BUSY" }
  /-- No start replaces an active task. -/
  start : ∀ k input h, i = .handler k input → s.handlers[k]? = some h → h.isStart = true →
    (∀ stop, input ≠ .cleanUp stop) → hasActiveTask s.context = true →
    (s.step i).context = s.context
  /-- A cancel of another execution leaves the task alone. -/
  cancel : ∀ k input h c, i = .handler k input → s.handlers[k]? = some h →
    h.message.messageType = .known .taskCancel → s.context = some c →
    h.message.taskExecutionId ≠ some c.taskExecutionId → (s.step i).context = some c
  /-- A force exit ends whatever task there is. -/
  forceExit : ∀ k env h, i = .handler k (.execute env) → s.handlers[k]? = some h →
    h.message.messageType = .known .taskForceExit → h.phase = .accepted → env.raises = none →
    (s.step i).context = none

theorem isStart_of_type {h : Handler} {type : CommandType}
    (htype : h.message.messageType = .known type) (hne : type ≠ .taskStart) :
    h.isStart = false := by
  simp [Handler.isStart, htype, hne]

theorem busy_of_active {s : EdgeSystem} {k : ℕ} {h : Handler} (hk : s.handlers[k]? = some h)
    (hphase : h.phase = .checked) (hstart : h.isStart = true)
    (hactive : hasActiveTask s.context = true) :
    s.step (.handler k .validateStart) =
      s.afterHandler k h (Handler.rejected s.context "ROBOT_BUSY") := by
  have hstep : h.step (s.records h.message.commandId) s.context .validateStart =
      some (Handler.rejected s.context "ROBOT_BUSY") := by
    simp [Handler.step, hphase, hstart, hactive]
  dsimp only [step]
  rw [hk]
  dsimp only
  rw [hstep]

theorem execute_cancel_other {m : CommandMessage} {c : TaskContext}
    (htype : m.messageType = .known .taskCancel) (hother : m.taskExecutionId ≠ some c.taskExecutionId)
    (env : ExecuteEnvironment) : (Handler.execute m (some c) env).context = some c := by
  unfold Handler.execute
  split
  · rfl
  · rw [htype]
    exact onExecution_other hother _

theorem owned_of_admission {s : EdgeSystem} (ha : Admission s) (i : EdgeInput) : Owned s i where
  busy := by
    rintro k h rfl hk hphase hstart hactive
    have hlen := (List.getElem?_eq_some_iff.mp hk).1
    rw [busy_of_active hk hphase hstart hactive]
    refine ⟨?_, ?_⟩
    · rw [afterHandler_handlers]
      exact List.getElem?_set_self hlen
    · simp [afterHandler, saveRecord, Handler.rejected]
  start := by
    rintro k input h rfl hk hstart hcleanUp hactive
    rcases step_handler hk input with hnothing | ⟨o, hstep, hafter⟩
    · rw [hnothing]
    · rw [hafter, afterHandler_context]
      rcases Handler.step_context hstep with hsame | ⟨env, -, -, hno, -⟩ | ⟨env, -, hphase, -⟩ |
        ⟨stop, rfl, -, -⟩
      · exact hsame
      · rw [hstart] at hno
        exact absurd hno (by decide)
      · -- an admitted start means that no task is active
        rw [ha.idle h (List.mem_of_getElem? hk) hphase] at hactive
        exact absurd hactive (by decide)
      · exact absurd rfl (hcleanUp stop)
  cancel := by
    rintro k input h c rfl hk htype hc hother
    have hstart := isStart_of_type htype (by decide)
    rcases step_handler hk input with hnothing | ⟨o, hstep, hafter⟩
    · rw [hnothing, hc]
    · rw [hafter, afterHandler_context]
      rcases Handler.step_context hstep with hsame | ⟨env, -, -, -, hcontext⟩ |
        ⟨env, -, -, hno, -⟩ | ⟨stop, -, hno, -⟩
      · rw [hsame, hc]
      · rw [hcontext, hc]
        exact execute_cancel_other htype hother env
      all_goals
        rw [hstart] at hno
        exact absurd hno (by decide)
  forceExit := by
    rintro k env h rfl hk htype hphase hraises
    have hstart := isStart_of_type htype (by decide)
    have hexecute : (Handler.execute h.message s.context env).context = none := by
      unfold Handler.execute
      rw [hraises, htype]
      exact forceExit_context ..
    dsimp only [step]
    rw [hk]
    dsimp only
    rw [Handler.step, if_pos ⟨hphase, hstart⟩]
    dsimp only
    rw [afterHandler_context]
    exact hexecute

def strayCommand (type : CommandType) : CommandMessage where
  commandId := 9
  taskExecutionId := some 5
  messageType := .known type
  command := .reason "operator_request"

/-- The patrol of execution 0 is started, and a command about execution 5 is accepted. -/
def strayAccepted (type : CommandType) : List EdgeInput :=
  [.deliver corridorStart, .handler 0 .check, .handler 0 .validateStart, .handler 0 (.prepare blindStart),
   .handler 0 .accept, .deliver (strayCommand type), .handler 1 .check, .handler 1 .accept]

/-- No handler of a start, a cancel or a force exit touches an active task of another execution. -/
def NeverDisowned (s : EdgeSystem) (i : EdgeInput) : Prop :=
  ∀ k input h c, i = .handler k input → s.handlers[k]? = some h → s.context = some c →
    c.state.isActive = true → h.message.taskExecutionId ≠ some c.taskExecutionId →
    (s.step i).context = some c

end EdgeSystem

end RoamerX
