import RoamerX.Lib.CheckThenAct
import RoamerX.Lib.Run
import RoamerX.Edge.CommandProcessor

set_option autoImplicit false

/-! # Command effects are executed at most once

`handle_command` looks its command up in the store, executes it and stores the answer as separate
accesses on separate threads. Seen this way the Edge is a check-then-act system, and as long as no
two deliveries of a command overlap between the look-up and the answer, each command is executed at
most once and every later delivery only publishes the stored answer again. -/

namespace RoamerX

open CheckThenAct

/-! ## Handlers as threads that check, then act -/

namespace Handler

/-- A `task.start` acts before it stores its acceptance, any other command after. -/
def stage (h : Handler) : Stage :=
  match h.phase with
  | .received => .waiting
  | .checked | .admitted => .opened false false
  | .prepared => .opened true false
  | .accepted => .opened h.isStart true
  | .failing _ | .finished _ => .opened true true
  | .done => .closed

end Handler

def HandlerStep.stores (o : HandlerStep) : Bool := o.ack.isSome || o.result.isSome

/-- What a step of a handler is in these terms. -/
inductive StageStep (h : Handler) (record : Option CommandRecord) (o : HandlerStep) : Prop
  | known (r : CommandRecord) (hphase : h.phase = .received) (hrecord : record = some r)
      (hafter : ({ h with phase := o.phase } : Handler).stage = .closed)
      (hexecutes : o.executes = false) (hstores : o.stores = false)
  | fresh (hphase : h.phase = .received) (hrecord : record = none)
      (hafter : ({ h with phase := o.phase } : Handler).stage = .opened false false)
      (hexecutes : o.executes = false) (hstores : o.stores = false)
  | stays (acted stored : Bool) (hbefore : h.stage = .opened acted stored)
      (hafter : ({ h with phase := o.phase } : Handler).stage = .opened acted stored)
      (hexecutes : o.executes = false) (hstores : o.stores = false)
  | acts (stored : Bool) (hbefore : h.stage = .opened false stored)
      (hafter : ({ h with phase := o.phase } : Handler).stage = .opened true stored)
      (hexecutes : o.executes = true) (hstores : o.stores = false)
  | answers (acted stored : Bool) (hbefore : h.stage = .opened acted stored)
      (hafter : ({ h with phase := o.phase } : Handler).stage = .opened acted true)
      (hexecutes : o.executes = false) (hstores : o.stores = true)
  | ends (acted stored : Bool) (hbefore : h.stage = .opened acted stored)
      (hafter : ({ h with phase := o.phase } : Handler).stage = .closed)
      (hexecutes : o.executes = false)
      (hdone : o.stores = true ∨ (o.stores = false ∧ (acted = true → stored = true)))

namespace Handler

variable {h : Handler} {record : Option CommandRecord} {context : Option TaskContext}
  {o : HandlerStep}

theorem stage_of_open (hphase : h.phase = .checked ∨ h.phase = .admitted) :
    h.stage = .opened false false := by
  rcases hphase with hphase | hphase <;> simp [stage, hphase]

theorem prepare_stage (hphase : h.phase = .admitted) (env : StartEnvironment) :
    StageStep h record (prepare h.message context env) := by
  have hbefore : h.stage = .opened false false := stage_of_open (.inr hphase)
  unfold prepare
  dsimp only
  split
  · split
    · exact .acts false hbefore rfl rfl rfl
    · exact .ends false false hbefore rfl rfl (.inl rfl)
    · exact .ends false false hbefore rfl rfl (.inl rfl)
  · exact .ends false false hbefore rfl rfl (.inl rfl)

theorem stage_executed (result : Except ServiceError ResultPayload) :
    ({ h with phase := executed result } : Handler).stage = .opened true true := by
  unfold executed
  split <;> rfl

/-- **What a step of a handler does to its stage.** -/
theorem step_stage {input : HandlerInput} (hstep : h.step record context input = some o) :
    StageStep h record o := by
  cases input with
  | check =>
    dsimp only [step] at hstep
    split at hstep
    · next hphase =>
      cases hrecord : record with
      | some r =>
        rw [hrecord] at hstep
        obtain rfl := Option.some.inj hstep
        exact .known r hphase rfl rfl rfl rfl
      | none =>
        rw [hrecord] at hstep
        obtain rfl := Option.some.inj hstep
        exact .fresh hphase rfl rfl rfl rfl
    · exact absurd hstep (by simp)
  | reject code =>
    dsimp only [step] at hstep
    split at hstep
    · next hphase =>
      obtain rfl := Option.some.inj hstep
      exact .ends false false (stage_of_open hphase) rfl rfl (.inl rfl)
    · exact absurd hstep (by simp)
  | crash recorded =>
    dsimp only [step] at hstep
    split at hstep
    · next hphase =>
      obtain rfl := Option.some.inj hstep
      refine .ends false false (stage_of_open hphase) rfl rfl ?_
      cases recorded with
      | true => exact .inl rfl
      | false => exact .inr ⟨rfl, by simp⟩
    · exact absurd hstep (by simp)
  | validateStart =>
    dsimp only [step] at hstep
    split at hstep
    · next hphase =>
      have hbefore := stage_of_open (h := h) (.inl hphase.1)
      split at hstep
      · obtain rfl := Option.some.inj hstep
        exact .ends false false hbefore rfl rfl (.inl rfl)
      · obtain rfl := Option.some.inj hstep
        exact .stays false false hbefore rfl rfl rfl
    · exact absurd hstep (by simp)
  | prepare env =>
    dsimp only [step] at hstep
    split at hstep
    · next hphase =>
      obtain rfl := Option.some.inj hstep
      exact prepare_stage hphase.1 env
    · exact absurd hstep (by simp)
  | accept =>
    obtain ⟨hphase, haccepted⟩ := Option.ite_none_right_eq_some.mp hstep
    obtain rfl := Option.some.inj haccepted
    cases hstart : h.isStart with
    | true =>
      rw [hstart] at hphase
      exact .answers true false (by simp [stage, hphase]) (congrArg (Stage.opened · true) hstart)
        rfl rfl
    | false =>
      rw [hstart] at hphase
      exact .answers false false (by simp [stage, hphase]) (congrArg (Stage.opened · true) hstart)
        rfl rfl
  | execute env =>
    dsimp only [step] at hstep
    split at hstep
    · next hphase =>
      obtain rfl := Option.some.inj hstep
      refine .acts true ?_ (stage_executed _) rfl rfl
      simp [stage, hphase.1, hphase.2]
    · exact absurd hstep (by simp)
  | progress =>
    dsimp only [step] at hstep
    split at hstep
    · next hphase =>
      obtain rfl := Option.some.inj hstep
      refine .stays h.isStart true ?_ rfl rfl rfl
      simp [stage, hphase]
    · exact absurd hstep (by simp)
  | launch =>
    dsimp only [step] at hstep
    split at hstep
    · next hphase =>
      have hbefore : h.stage = .opened true true := by simp [stage, hphase.1, hphase.2]
      split at hstep
      · obtain rfl := Option.some.inj hstep
        exact .ends true true hbefore rfl rfl (.inr ⟨rfl, fun _ => rfl⟩)
      · obtain rfl := Option.some.inj hstep
        exact .stays true true hbefore rfl rfl rfl
    · exact absurd hstep (by simp)
  | launchFailed code =>
    dsimp only [step] at hstep
    split at hstep
    · next hphase =>
      obtain rfl := Option.some.inj hstep
      exact .stays true true (by simp [stage, hphase.1, hphase.2]) rfl rfl rfl
    · exact absurd hstep (by simp)
  | cleanUp stop =>
    dsimp only [step] at hstep
    split at hstep
    · next code hphase =>
      split at hstep
      · obtain rfl := Option.some.inj hstep
        exact .stays true true (by simp [stage, hphase]) rfl rfl rfl
      · exact absurd hstep (by simp)
    · exact absurd hstep (by simp)
  | cleanUpRaised =>
    dsimp only [step] at hstep
    split at hstep
    · next code hphase =>
      split at hstep
      · obtain rfl := Option.some.inj hstep
        exact .stays true true (by simp [stage, hphase]) rfl rfl rfl
      · exact absurd hstep (by simp)
    · exact absurd hstep (by simp)
  | save =>
    dsimp only [step] at hstep
    split at hstep
    · next code hphase =>
      split at hstep
      · exact absurd hstep (by simp)
      · obtain rfl := Option.some.inj hstep
        exact .ends true true (by simp [stage, hphase]) rfl rfl (.inl rfl)
    · next result hphase =>
      obtain rfl := Option.some.inj hstep
      exact .ends true true (by simp [stage, hphase]) rfl rfl (.inl rfl)
    · exact absurd hstep (by simp)

theorem step_received {input : HandlerInput} (hphase : h.phase = .received)
    (hstep : h.step record context input = some o) : input = .check := by
  cases input with
  | check => rfl
  | accept =>
    have hno : h.phase ≠ (if h.isStart then .prepared else .checked) := by
      rw [hphase]
      cases h.isStart <;> decide
    simp [step, hno] at hstep
  | _ => simp [step, hphase] at hstep

end Handler

/-! ## The Edge as a check-then-act system -/

/-- The handler is between its look-up and its answer. -/
def HandlerPhase.unanswered : HandlerPhase → Bool
  | .checked | .admitted | .prepared => true
  | .received | .accepted | .failing _ | .finished _ | .done => false

theorem Handler.unanswered_of_stage {h : Handler} {acted stored : Bool}
    (hstage : h.stage = .opened acted stored) : h.phase.unanswered = !stored := by
  unfold Handler.stage at hstage
  cases hphase : h.phase with
  | received | done =>
    rw [hphase] at hstage
    exact absurd hstage (by simp)
  | checked | admitted | prepared | accepted | failing _ | finished _ =>
    rw [hphase] at hstage
    obtain ⟨-, rfl⟩ := Stage.opened.inj hstage
    rfl

namespace EdgeSystem

/-- The threads, the rows and the effects. -/
def view (s : EdgeSystem) : CheckThenAct.State Uuid where
  threads := s.handlers.map (fun h => (h.message.commandId, h.stage))
  stored := fun c => (s.records c).isSome
  acts := s.effects

theorem view_threads {s : EdgeSystem} {i : ℕ} {h : Handler} (hi : s.handlers[i]? = some h) :
    s.view.threads[i]? = some (h.message.commandId, h.stage) := by
  show (s.handlers.map _)[i]? = _
  rw [List.getElem?_map, hi]
  rfl

theorem view_saveRecord_none {s : EdgeSystem} (c : Uuid) {ack : Option AckPayload}
    {result : Option CommandResultPayload} (h : (ack.isSome || result.isSome) = false) :
    (s.saveRecord c ack result).view = s.view := by
  have hnone : ack.isNone ∧ result.isNone := by
    rw [Bool.or_eq_false_iff] at h
    exact ⟨by simpa using h.1, by simpa using h.2⟩
  unfold saveRecord
  rw [if_pos hnone]

theorem view_saveRecord {s : EdgeSystem} (c : Uuid) {ack : Option AckPayload}
    {result : Option CommandResultPayload} (h : (ack.isSome || result.isSome) = true) :
    (s.saveRecord c ack result).view =
      { s.view with stored := Function.update s.view.stored c true } := by
  have hsome : ¬ (ack.isNone ∧ result.isNone) := by
    rintro ⟨hack, hresult⟩
    rw [Option.isNone_iff_eq_none] at hack hresult
    rw [hack, hresult] at h
    exact absurd h (by decide)
  have hstored : (fun c' => (Function.update s.records c
      (some { ack := ack.or ((s.records c).getD {}).ack
              result := result.or ((s.records c).getD {}).result }) c').isSome) =
      Function.update (fun c' => (s.records c').isSome) c true := by
    funext c'
    by_cases hc : c' = c
    · rw [hc, Function.update_self, Function.update_self]
      rfl
    · rw [Function.update_of_ne hc, Function.update_of_ne hc]
  unfold saveRecord
  rw [if_neg hsome]
  exact congrArg (fun stored => { s.view with stored := stored }) hstored

section AfterHandler

variable {s : EdgeSystem} {i : ℕ} {h : Handler} {o : HandlerStep}

theorem view_afterHandler (s : EdgeSystem) (i : ℕ) (h : Handler) (o : HandlerStep) :
    (s.afterHandler i h o).view =
      { threads := s.view.threads.set i
          (h.message.commandId, ({ h with phase := o.phase } : Handler).stage)
        stored :=
          if o.stores then Function.update s.view.stored h.message.commandId true
          else s.view.stored
        acts := if o.executes then h.message.commandId :: s.effects else s.effects } := by
  have hthreads : (s.handlers.set i { h with phase := o.phase }).map
      (fun h => (h.message.commandId, h.stage)) = s.view.threads.set i
        (h.message.commandId, ({ h with phase := o.phase } : Handler).stage) := List.map_set
  rw [← hthreads]
  unfold afterHandler
  cases hstores : o.stores with
  | true =>
    rw [view_saveRecord _ hstores]
    rfl
  | false =>
    rw [view_saveRecord_none _ hstores]
    rfl

theorem afterHandler_simulates (hi : s.handlers[i]? = some h)
    (hstep : StageStep h (s.records h.message.commandId) o)
    (hexclusive : h.phase = .received → s.records h.message.commandId = none →
      Exclusive s.view h.message.commandId) :
    Relation.ReflTransGen Step s.view (s.afterHandler i h o).view := by
  have hthread := view_threads hi
  rw [view_afterHandler]
  cases hstep with
  | known r hphase hrecord hafter hexecutes hstores =>
    have hstage : h.stage = .waiting := by simp [Handler.stage, hphase]
    rw [hafter, hexecutes, hstores]
    refine .single (.known i _ (hstage ▸ hthread) ?_)
    show (s.records h.message.commandId).isSome = true
    rw [hrecord]
    rfl
  | fresh hphase hrecord hafter hexecutes hstores =>
    have hstage : h.stage = .waiting := by simp [Handler.stage, hphase]
    rw [hafter, hexecutes, hstores]
    refine .single (.fresh i _ (hstage ▸ hthread) ?_ (hexclusive hphase hrecord))
    show (s.records h.message.commandId).isSome = false
    rw [hrecord]
    rfl
  | stays acted stored hbefore hafter hexecutes hstores =>
    rw [hafter, hexecutes, hstores, ← hbefore]
    have hsame : s.view.threads.set i (h.message.commandId, h.stage) = s.view.threads := by
      obtain ⟨hlen, hget⟩ := List.getElem?_eq_some_iff.mp hthread
      rw [← hget]
      exact List.set_getElem_self hlen
    rw [hsame]
    exact .refl
  | acts stored hbefore hafter hexecutes hstores =>
    rw [hafter, hexecutes, hstores]
    exact .single (.act i _ stored (hbefore ▸ hthread))
  | answers acted stored hbefore hafter hexecutes hstores =>
    rw [hafter, hexecutes, hstores]
    exact .single (.store i _ acted stored (hbefore ▸ hthread))
  | ends acted stored hbefore hafter hexecutes hdone =>
    rw [hafter, hexecutes]
    rcases hdone with hstores | ⟨hstores, hsafe⟩
    · -- it stores its answer, and ends
      rw [hstores]
      have hlen := (List.getElem?_eq_some_iff.mp hthread).1
      refine .tail (.single (.store i _ acted stored (hbefore ▸ hthread))) ?_
      have hclose := Step.close (s := { s.view with
          threads := s.view.threads.set i (h.message.commandId, .opened acted true)
          stored := Function.update s.view.stored h.message.commandId true })
        i h.message.commandId acted true (List.getElem?_set_self hlen) (fun _ => rfl)
      simp only [List.set_set] at hclose
      exact hclose
    · rw [hstores]
      exact .single (.close i _ acted stored (hbefore ▸ hthread) hsafe)

end AfterHandler

/-! ## Runs -/

/-- The input does not break a window between the look-up of a command and its answer: no look-up
    while another delivery of the command is in its own, and no restart while a start that is
    prepared has not stored its acceptance. -/
def exclusive (s : EdgeSystem) : EdgeInput → Bool
  | .handler i .check =>
    (s.handlers[i]?).all fun h => h.phase ≠ .received ||
      s.handlers.all fun h' =>
        h'.message.commandId ≠ h.message.commandId || !h'.phase.unanswered
  | .restart => s.handlers.all fun h => h.phase ≠ .prepared
  | _ => true

theorem exclusive_check {s : EdgeSystem} {i : ℕ} {h : Handler}
    (hex : s.exclusive (.handler i .check) = true) (hi : s.handlers[i]? = some h)
    (hphase : h.phase = .received) : Exclusive s.view h.message.commandId := by
  intro j acted stored hj
  have hall : ∀ h' ∈ s.handlers, h'.message.commandId = h.message.commandId →
      h'.phase.unanswered = false := by
    intro h' hmem hsame
    rw [exclusive, hi] at hex
    simp only [Option.all_some, hphase, ne_eq, not_true_eq_false, decide_false, Bool.false_or,
      List.all_eq_true] at hex
    have hone := hex h' hmem
    simpa [hsame] using hone
  have hmap : (s.handlers[j]?).map (fun h => (h.message.commandId, h.stage)) =
      some (h.message.commandId, .opened acted stored) := by
    rw [← List.getElem?_map]
    exact hj
  obtain ⟨h', hj', heq⟩ := Option.map_eq_some_iff.mp hmap
  obtain ⟨hid, hstage⟩ := Prod.mk.inj heq
  have hanswered := hall h' (List.mem_of_getElem? hj') hid
  rw [Handler.unanswered_of_stage hstage] at hanswered
  simpa using hanswered

theorem step_simulates {s : EdgeSystem} {i : EdgeInput} (hex : s.exclusive i = true) :
    Relation.ReflTransGen Step s.view (s.step i).view := by
  cases i with
  | deliver m =>
    have hview : (s.step (.deliver m)).view =
        { s.view with threads := s.view.threads ++ [(m.commandId, .waiting)] } := by
      unfold step view
      simp [Handler.stage]
    rw [hview]
    exact .single (.start m.commandId)
  | handler i input =>
    dsimp only [step]
    split
    · exact .refl
    · next h hi =>
      split
      · exact .refl
      · next o hstep =>
        refine afterHandler_simulates hi (Handler.step_stage hstep) ?_
        intro hphase hrecord
        obtain rfl := Handler.step_received hphase hstep
        exact exclusive_check hex hi hphase
  | saveStartResult =>
    dsimp only [step]
    split
    · exact .refl
    · next command result rest hrest =>
      rw [view_saveRecord _ rfl]
      exact .single (.record command)
  | navigate state event =>
    have hview : (s.step (.navigate state event)).view = s.view := by
      dsimp only [step]
      split
      · rfl
      · split <;> rfl
    rw [hview]
  | report m =>
    have hview : (s.step (.report m)).view = s.view := by
      dsimp only [step]
      split <;> rfl
    rw [hview]
  | finish _ | requestSync _ _ | syncResponse _ _ | lowBattery _ => exact .refl
  | restart =>
    refine .single (.crash ?_)
    intro p hp hacted
    obtain ⟨h, hmem, rfl⟩ := List.mem_map.mp hp
    have hunanswered := Handler.unanswered_of_stage hacted
    have hnot : h.phase ≠ .prepared := by
      simp only [exclusive, List.all_eq_true, decide_eq_true_eq] at hex
      exact hex h hmem
    cases hphase : h.phase <;> simp_all [Handler.stage]

/-- Every row of the store holds an answer. -/
def Answered (s : EdgeSystem) : Prop :=
  ∀ c r, s.records c = some r → r.messages c ≠ []

theorem Answered.saveRecord {s : EdgeSystem} (ha : Answered s) (command : Uuid)
    (ack : Option AckPayload) (result : Option CommandResultPayload) :
    Answered (s.saveRecord command ack result) := by
  unfold EdgeSystem.saveRecord
  split
  · exact ha
  · next hsome =>
    intro c r hr
    by_cases hc : c = command
    · subst hc
      dsimp only at hr
      rw [Function.update_self] at hr
      obtain rfl := Option.some.inj hr
      cases ack with
      | some a => simp [CommandRecord.messages]
      | none =>
        cases result with
        | some r => simp [CommandRecord.messages]
        | none => exact absurd ⟨rfl, rfl⟩ hsome
    · dsimp only at hr
      rw [Function.update_of_ne hc] at hr
      exact ha c r hr

theorem Answered.step {s : EdgeSystem} (ha : Answered s) (i : EdgeInput) : Answered (s.step i) := by
  have hsame : ∀ s' : EdgeSystem, s'.records = s.records → Answered s' := by
    intro s' hrecords c r hr
    exact ha c r (hrecords ▸ hr)
  cases i with
  | handler i input =>
    dsimp only [EdgeSystem.step]
    split
    · exact ha
    · split
      · exact ha
      · refine Answered.saveRecord ?_ _ _ _
        exact ha
  | saveStartResult =>
    dsimp only [EdgeSystem.step]
    split
    · exact ha
    · refine Answered.saveRecord ?_ _ _ _
      exact ha
  | navigate state event =>
    dsimp only [EdgeSystem.step]
    split
    · exact ha
    · split
      · exact hsame _ rfl
      · exact ha
  | report m =>
    dsimp only [EdgeSystem.step]
    split
    · exact hsame _ rfl
    · exact ha
  | deliver _ | finish _ | requestSync _ _ | syncResponse _ _ | lowBattery _ | restart =>
    exact hsame _ rfl

/-- The look-up of a command that was executed, or answered, publishes the stored answer again and
    does nothing else. -/
def Republishes (s : EdgeSystem) (i : EdgeInput) : Prop :=
  ∀ k h, i = .handler k .check → s.handlers[k]? = some h → h.phase = .received →
    h.message.commandId ∈ s.effects ∨ s.records h.message.commandId ≠ none →
    ∃ r, s.records h.message.commandId = some r ∧ r.messages h.message.commandId ≠ [] ∧
      s.step i =
        { s with
          handlers := s.handlers.set k { h with phase := .done }
          sent := s.sent ++ r.messages h.message.commandId }

/-- No command has been executed twice, and later deliveries publish its answer again. -/
def ExecutesOnce (s : EdgeSystem) (i : EdgeInput) : Prop :=
  (∀ c, (s.step i).effects.count c ≤ 1) ∧ Republishes s i

theorem step_check_known {s : EdgeSystem} {k : ℕ} {h : Handler} {r : CommandRecord}
    (hk : s.handlers[k]? = some h) (hphase : h.phase = .received)
    (hr : s.records h.message.commandId = some r) :
    s.step (.handler k .check) =
      { s with
        handlers := s.handlers.set k { h with phase := .done }
        sent := s.sent ++ r.messages h.message.commandId } := by
  dsimp only [step]
  rw [hk]
  simp [Handler.step, hphase, hr, afterHandler, saveRecord]

theorem republishes_of_once {s : EdgeSystem} (hone : CheckThenAct.Once s.view) (ha : Answered s)
    {i : EdgeInput} (hex : s.exclusive i = true) : Republishes s i := by
  rintro k h rfl hk hphase hknown
  have hstored : s.view.stored h.message.commandId = true := by
    rcases hknown with hexecuted | hrow
    · exact hone.stored_of_mem hexecuted (exclusive_check hex hk hphase)
    · exact Option.isSome_iff_ne_none.mpr hrow
  obtain ⟨r, hr⟩ := Option.isSome_iff_exists.mp hstored
  exact ⟨r, hr, ha _ r hr, step_check_known hk hphase hr⟩

/-- **Command effects are executed at most once**, in every run whose steps break no window between
    the look-up of a command and its answer. -/
theorem effects_at_most_once {inputs : List EdgeInput}
    (h : Run.Always step (fun s i => s.exclusive i = true) {} inputs) :
    Run.Always step ExecutesOnce {} inputs := by
  refine Run.always_of_guarded (fun s : EdgeSystem => CheckThenAct.Once s.view ∧ Answered s)
    ?_ ?_ ?_ h
  · rintro s i ⟨hone, ha⟩ hex
    exact ⟨once_of_steps (step_simulates hex) hone, ha.step i⟩
  · rintro s i ⟨hone, ha⟩ hex
    exact ⟨(once_of_steps (step_simulates hex) hone).count_le_one, republishes_of_once hone ha hex⟩
  · refine ⟨?_, ?_⟩
    · exact Once.initial
    · intro c r hr
      exact absurd hr (by simp)

/-- The command that starts the patrol of the corridor. -/
def corridorStart : CommandMessage where
  commandId := 1
  taskExecutionId := some 0
  messageType := .known .taskStart
  command := .start
    { taskId := 1
      taskName := "corridor"
      map := corridor.map
      routeSnapshot := corridor
      maxDurationSeconds := 7200
      recordRosbag := false
      continuousRosbag := false
      loopExecution := false
      loopSessionId := none
      roundNumber := 1
      loopTotal := 1
      smartInitialize := true
      docking := {} }

def blindStart : StartEnvironment where
  distance := fun _ _ => .nonfinite
  pose := none

/-- The start is delivered again after it was acknowledged. -/
def redelivered : List EdgeInput :=
  [.deliver corridorStart, .handler 0 .check, .handler 0 .validateStart, .handler 0 (.prepare blindStart),
   .handler 0 .accept, .deliver corridorStart, .handler 1 .check, .handler 0 .launch]

theorem effects_at_most_once_redelivered : Run.Always step ExecutesOnce {} redelivered :=
  effects_at_most_once (by decide)

/-- The start is delivered again while the first delivery still prepares the navigation stack. -/
def overlapping : List EdgeInput :=
  [.deliver corridorStart, .handler 0 .check, .deliver corridorStart, .handler 1 .check,
   .handler 0 .validateStart, .handler 1 .validateStart, .handler 0 (.prepare blindStart)]

theorem not_effects_at_most_once_overlapping :
    ¬ Run.Always step ExecutesOnce {} (overlapping ++ [.handler 1 (.prepare blindStart)]) := by
  rw [Run.always_append]
  rintro ⟨-, ⟨hcount, -⟩, -⟩
  have htwice : ((Run.exec step {} overlapping).step
      (.handler 1 (.prepare blindStart))).effects.count 1 = 2 := by decide
  have hle := hcount 1
  omega

end EdgeSystem

end RoamerX
