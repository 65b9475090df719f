import RoamerX.Edge.HandleCommand

set_option autoImplicit false

/-! # How a command ends

Every command that the Edge decodes is answered: refused, or given a result, or taken over by the task or
the skill that it started. And a start that is refused has left the Edge as it was, up to what the way
to its refusal does by design. -/

namespace RoamerX

open Effects Effect

namespace HandleCommand

variable {W : Type} {calls : Calls W} {e : EdgeProtocol.MessageEnvelope}

/-! ## Steps -/

section Steps

variable {P : EdgeState W → Prop} {α : Type} {Q : α → EdgeState W → Prop}
  {R : Thrown → EdgeState W → Prop}

theorem triple_onWorld {call : AdapterCall W α}
    (h : ∀ s w, P s → P { s with device := { s.device with world := w } }) :
    Triple P (onWorld call) (fun _ => P) (fun _ => P) :=
  triple_within fun s w hs => h s w hs

theorem triple_setSafety {f : SafetyState → SafetyState} {Q : Unit → EdgeState W → Prop}
    (h : ∀ s, P s → Q () { s with device := { s.device with safety := f s.device.safety } }) :
    Triple P (setSafety f) Q R := triple_modify h

theorem triple_protocolError {code message : String}
    (h : ∀ s, P s → R (.protocol code message none) s) :
    Triple P (protocolError code message : Handling W α) Q R := triple_raise h

end Steps

/-! ## Before the acceptance -/

/-- What the way to a refusal leaves alone: the context, the map but for a docking task, and the
    readiness unless it was taken back. -/
structure LeftAlone (e : EdgeProtocol.MessageEnvelope) (d₀ d : Device W) : Prop where
  context : d.context = d₀.context
  navReady : d.safety.navReady = d₀.safety.navReady ∨ d.safety.navReady = false
  map : (∀ docking, members? (Json.get? (commandObject e) "docking") = some docking →
      ((Json.get? docking "enabled").getD .null).truthy = false) →
    d.safety.currentMapId = d₀.safety.currentMapId ∧
      d.safety.currentMapVersion = d₀.safety.currentMapVersion

/-- Neither the operator's mode nor the trusted poses have changed. -/
structure Undisturbed (d₀ d : Device W) : Prop where
  controlMode : d.safety.controlMode = d₀.safety.controlMode
  trustedPoses : d.trustedPoses = d₀.trustedPoses
  latestTrusted : d.latestTrusted = d₀.latestTrusted

/-- A start that is not yet accepted has written no row. -/
structure Spared (e : EdgeProtocol.MessageEnvelope) (s₀ s : EdgeState W) : Prop extends
    LeftAlone e s₀.device s.device where
  record : s.record = s₀.record
  locals : s.locals = s₀.locals

/-- What holds until the manual control is released. -/
def Untouched (e : EdgeProtocol.MessageEnvelope) (s₀ s : EdgeState W) : Prop :=
  Spared e s₀ s ∧ Undisturbed s₀.device s.device

theorem untouched_refl (e : EdgeProtocol.MessageEnvelope) (s : EdgeState W) : Untouched e s s :=
  ⟨⟨⟨rfl, Or.inl rfl, fun _ => ⟨rfl, rfl⟩⟩, rfl, rfl⟩, ⟨rfl, rfl, rfl⟩⟩

theorem Spared.world {s₀ s : EdgeState W} (h : Spared e s₀ s) (w : W) :
    Spared e s₀ { s with device := { s.device with world := w } } :=
  ⟨⟨h.context, h.navReady, h.map⟩, h.record, h.locals⟩

theorem Untouched.world {s₀ s : EdgeState W} (h : Untouched e s₀ s) (w : W) :
    Untouched e s₀ { s with device := { s.device with world := w } } :=
  ⟨h.1.world w, ⟨h.2.controlMode, h.2.trustedPoses, h.2.latestTrusted⟩⟩

section Admission

variable {s₀ : EdgeState W}

theorem untouched_onWorld {α : Type} {call : AdapterCall W α} :
    Triple (Untouched e s₀) (onWorld call) (fun _ => Untouched e s₀) (fun _ => Untouched e s₀) :=
  triple_onWorld fun _ w h => h.world w

theorem untouched_protocolError {α : Type} {code message : String} :
    Triple (Untouched e s₀) (protocolError code message : Handling W α) (fun _ => Untouched e s₀)
      (fun _ => Untouched e s₀) :=
  triple_protocolError fun _ h => h

theorem untouched_raise {α : Type} {thrown : Thrown} :
    Triple (Untouched e s₀) (raise thrown : Handling W α) (fun _ => Untouched e s₀)
      (fun _ => Untouched e s₀) :=
  triple_raise fun _ h => h

theorem untouched_pure {α : Type} {a : α} :
    Triple (Untouched e s₀) (pure a : Handling W α) (fun _ => Untouched e s₀)
      (fun _ => Untouched e s₀) :=
  triple_pure fun _ h => h

theorem untouched_safety :
    Triple (Untouched e s₀) (safety : Handling W SafetyState) (fun _ => Untouched e s₀)
      (fun _ => Untouched e s₀) :=
  triple_get fun _ h => h

theorem untouched_runIf {condition : Bool} {x : Handling W Unit}
    (h : condition = true →
      Triple (Untouched e s₀) x (fun _ => Untouched e s₀) (fun _ => Untouched e s₀)) :
    Triple (Untouched e s₀) (runIf condition x) (fun _ => Untouched e s₀) (fun _ => Untouched e s₀) :=
  triple_runIf h fun _ _ hs => hs

theorem untouched_structured :
    Triple (Untouched e s₀) (structured calls e) (fun _ => Untouched e s₀) (fun _ => Untouched e s₀) := by
  unfold structured
  split_ifs
  · exact untouched_raise
  · exact untouched_pure

theorem untouched_ensureNavigationStack :
    Triple (Untouched e s₀) (ensureNavigationStack calls) (fun _ => Untouched e s₀)
      (fun _ => Untouched e s₀) := by
  unfold ensureNavigationStack
  split_ifs
  · refine triple_bind untouched_safety fun state => ?_
    refine triple_bind untouched_onWorld fun _ => ?_
    refine triple_bind untouched_onWorld fun prepared => ?_
    split_ifs
    · refine triple_setSafety ?_
      rintro s ⟨hspared, hundisturbed⟩
      exact ⟨⟨⟨hspared.context, Or.inr rfl, hspared.map⟩, hspared.record, hspared.locals⟩,
        ⟨hundisturbed.controlMode, hundisturbed.trustedPoses, hundisturbed.latestTrusted⟩⟩
    · exact untouched_protocolError
  · exact untouched_pure

theorem untouched_prepareDockingMap {command docking : List (String × Json)}
    (hdocking : members? (Json.get? (commandObject e) "docking") = some docking)
    (henabled : ((Json.get? docking "enabled").getD .null).truthy = true) :
    Triple (Untouched e s₀) (prepareDockingMap calls command) (fun _ => Untouched e s₀)
      (fun _ => Untouched e s₀) := by
  have hactivate : ∀ payload, Triple (Untouched e s₀) (activateMap calls payload)
      (fun _ => Untouched e s₀) (fun _ => Untouched e s₀) := by
    intro payload
    have hmap : ¬ ∀ docking, members? (Json.get? (commandObject e) "docking") = some docking →
        ((Json.get? docking "enabled").getD .null).truthy = false := by
      intro h
      rw [h docking hdocking] at henabled
      exact absurd henabled (by simp)
    rintro s ⟨hspared, hundisturbed⟩
    unfold activateMap
    rcases calls.activateMap payload s.device.world with ⟨a | thrown, w⟩ <;>
      cases calls.activatedMap payload s.device.world with
      | none => exact Untouched.world ⟨hspared, hundisturbed⟩ w
      | some named =>
        exact ⟨⟨⟨hspared.context, hspared.navReady, fun h => absurd h hmap⟩, hspared.record,
          hspared.locals⟩, ⟨hundisturbed.controlMode, hundisturbed.trustedPoses,
          hundisturbed.latestTrusted⟩⟩
  unfold prepareDockingMap
  split_ifs
  · cases calls.dict? (orElse (Json.get? command "map") (.obj [])) with
    | none => exact untouched_raise
    | some payload =>
      dsimp only
      split_ifs
      · refine triple_bind (hactivate payload) fun _ => ?_
        refine triple_bind (untouched_runIf fun _ => untouched_onWorld) fun _ => ?_
        refine triple_bind untouched_onWorld fun _ => ?_
        refine triple_bind untouched_onWorld fun ready => ?_
        split_ifs
        · exact untouched_pure
        · exact untouched_protocolError
      · exact untouched_protocolError
  · exact untouched_protocolError

theorem untouched_dockingEnabled {command : List (String × Json)} :
    Triple (Untouched e s₀) (dockingEnabled command)
      (fun enabled s => Untouched e s₀ s ∧ ∃ docking,
        members? (Json.get? command "docking") = some docking ∧
          ((Json.get? docking "enabled").getD .null).truthy = enabled)
      (fun _ => Untouched e s₀) := by
  unfold dockingEnabled
  cases hdocking : members? (Json.get? command "docking") with
  | none => exact triple_raise fun _ h => h
  | some docking => exact triple_pure fun s h => ⟨h, docking, rfl, rfl⟩

theorem untouched_validateMap {command : List (String × Json)} {state : SafetyState} :
    Triple (Untouched e s₀) (validateMap command state) (fun _ => Untouched e s₀)
      (fun _ => Untouched e s₀) := by
  unfold validateMap
  split
  · exact untouched_raise
  · by_cases happlied : state.currentMapLocalState ∉ ["applied", ""]
    · rw [if_pos happlied]
      exact untouched_protocolError
    · rw [if_neg happlied]
      split
      · exact untouched_raise
      · split_ifs
        · exact untouched_pure
        · exact untouched_raise
      · split
        · exact untouched_raise
        · split_ifs
          · exact untouched_pure
          · exact untouched_protocolError

theorem untouched_validateTaskStart {command : List (String × Json)} :
    Triple (Untouched e s₀) (validateTaskStart calls command) (fun _ => Untouched e s₀)
      (fun _ => Untouched e s₀) := by
  unfold validateTaskStart
  refine triple_bind untouched_safety fun state => ?_
  refine triple_bind (M := fun _ => Untouched e s₀) (triple_get fun _ h => h) fun busy => ?_
  dsimp only
  split_ifs
  · exact untouched_protocolError
  · exact untouched_protocolError
  · exact untouched_protocolError
  · exact untouched_protocolError
  · exact untouched_protocolError
  · refine triple_bind untouched_dockingEnabled fun docking => ?_
    refine Triple.mono (P := Untouched e s₀) ?_ (fun s h => h.1) (fun _ _ h => h) fun _ _ h => h
    split_ifs
    · exact untouched_validateMap
    · exact untouched_protocolError
  · exact untouched_validateMap

theorem spared_releaseManualControl :
    Triple (Untouched e s₀) (releaseManualControl calls) (fun _ => Spared e s₀)
      (fun _ => Untouched e s₀) := by
  unfold releaseManualControl
  refine triple_bind untouched_safety fun state => ?_
  by_cases hmode : state.controlMode ∈ ["manual_assist", "manual_takeover"]
  · rw [if_pos hmode]
    by_cases hadapter : calls.localization = true
    · rw [if_pos hadapter]
      refine triple_bind untouched_onWorld fun _ => ?_
      refine triple_setSafety ?_
      rintro s ⟨h, -⟩
      exact ⟨⟨h.context, h.navReady, h.map⟩, h.record, h.locals⟩
    · rw [if_neg hadapter]
      exact triple_protocolError fun _ h => h
  · rw [if_neg hmode]
    exact triple_pure fun _ h => h.1

/-- A start that is refused before the executor is given it has touched nothing but the map of a docking
    task and the readiness. -/
theorem spared_admitTaskStart :
    Triple (Untouched e s₀) (admitTaskStart calls e) (fun _ => Spared e s₀) (fun _ => Untouched e s₀) := by
  unfold admitTaskStart
  refine triple_bind untouched_ensureNavigationStack fun _ => ?_
  refine triple_bind untouched_dockingEnabled fun docking => ?_
  refine triple_bind (M := fun _ => Untouched e s₀) ?_ fun _ => ?_
  · refine triple_runIf ?_ fun _ s hs => hs.1
    rintro rfl s ⟨hs, found, hfound, henabled⟩
    exact untouched_prepareDockingMap hfound henabled s hs
  refine triple_bind (untouched_runIf fun _ => untouched_onWorld) fun _ => ?_
  refine triple_bind untouched_structured fun _ => ?_
  refine triple_bind untouched_validateTaskStart fun _ => ?_
  exact spared_releaseManualControl

end Admission

/-! ## The preparation -/

section Preparation

variable {s₀ : EdgeState W}

theorem spared_onWorld {α : Type} {call : AdapterCall W α} :
    Triple (Spared e s₀) (onWorld call) (fun _ => Spared e s₀) (fun _ => Spared e s₀) :=
  triple_onWorld fun _ w h => h.world w

theorem spared_checkPreparedWaypoint {waypoint : List (String × Json)} :
    Triple (Spared e s₀) (checkPreparedWaypoint calls waypoint) (fun _ => Spared e s₀)
      (fun _ => Spared e s₀) := by
  unfold checkPreparedWaypoint
  split
  · exact triple_raise fun _ h => h
  · split
    · exact triple_protocolError fun _ h => h
    · dsimp only
      split_ifs
      · exact triple_pure fun _ h => h
      · exact triple_protocolError fun _ h => h

theorem spared_checkPreparedWaypoints {waypoints : List (List (String × Json))} :
    Triple (Spared e s₀) (checkPreparedWaypoints calls waypoints) (fun _ => Spared e s₀)
      (fun _ => Spared e s₀) := by
  induction waypoints with
  | nil => exact triple_pure fun _ h => h
  | cons waypoint rest ih => exact triple_bind spared_checkPreparedWaypoint fun _ => ih

theorem spared_prepareTaskStart :
    Triple (Spared e s₀) (prepareTaskStart calls e)
      (fun _ s => s.record = s₀.record ∧ s.locals = s₀.locals) (fun _ => Spared e s₀) := by
  unfold prepareTaskStart
  refine triple_bind spared_onWorld fun busy => ?_
  split_ifs
  · exact triple_protocolError fun _ h => h
  · split
    · refine triple_bind spared_onWorld fun _ => ?_
      dsimp only
      refine triple_bind (M := fun _ => Spared e s₀) (triple_modify ?_) fun _ => ?_
      · intro s h
        exact ⟨⟨h.context, h.navReady, h.map⟩, h.record, h.locals⟩
      split
      · exact triple_raise fun _ h => h
      · split_ifs
        · exact triple_protocolError fun _ h => h
        · refine triple_bind spared_checkPreparedWaypoints fun _ => ?_
          refine triple_bind spared_onWorld fun context => ?_
          exact triple_modify fun s h => ⟨h.record, h.locals⟩
    · exact triple_raise fun _ h => h

end Preparation

/-! ## After the acceptance -/

/-- The command is accepted, in the row and in the variables of the handler. -/
structure Accepted (s : EdgeState W) : Prop where
  record : ∃ r ack, s.record = some r ∧ r.ack = some ack ∧ ack.accepted = true
  ack : ∃ ack, s.locals.ack = some ack
  bound : ∃ start, s.locals.preparedTaskStart = some start

theorem Accepted.saveResult {s : EdgeState W} (h : Accepted s) (result : Option CommandResultPayload) :
    Accepted (s.saveResult result) := by
  cases result with
  | none => exact h
  | some result =>
    obtain ⟨r, ack, hrecord, hack, haccepted⟩ := h.record
    refine ⟨⟨{ r with result := some result }, ack, ?_, hack, haccepted⟩, h.ack, h.bound⟩
    rw [EdgeState.saveResult, hrecord]
    rfl

theorem accepted_onExecutor {α : Type} {call : ExecutorCall W α} :
    Triple Accepted (onExecutor call) (fun _ => Accepted) (fun _ => Accepted) := by
  refine triple_within fun s t h => ?_
  have hdevice : Accepted { s with device := t.1 } := ⟨h.record, h.ack, h.bound⟩
  exact hdevice.saveResult t.2

/-- The task or the skill runs: the last call of the executor has returned. -/
def Running (calls : Calls W) (e : EdgeProtocol.MessageEnvelope) (d : Device W) : Prop :=
  (e.messageType = "task.start" ∧ ∃ t t', calls.launch t = (.ok (), t') ∧ d = t'.1) ∨
  (e.messageType = "teleop.skill" ∧ ∃ t t' result, calls.perform e t = (.ok result, t') ∧ d = t'.1)

theorem device_saveResult (s : EdgeState W) (result : Option CommandResultPayload) :
    (s.saveResult result).device = s.device := by
  cases result <;> rfl

theorem triple_onExecutor_returned {α : Type} {call : ExecutorCall W α} :
    Triple Accepted (onExecutor call)
      (fun a s => Accepted s ∧ ∃ t t', call t = (.ok a, t') ∧ s.device = t'.1)
      (fun _ => Accepted) := by
  refine triple_intro ?_ ?_
  · intro s a s' hs hreturned
    refine ⟨accepted_onExecutor.returned hs hreturned, (s.device, none), ?_⟩
    unfold onExecutor within at hreturned
    match hcall : call (s.device, none) with
    | (.ok b, t) =>
      rw [hcall] at hreturned
      obtain ⟨⟨⟩, ⟨⟩⟩ := Prod.mk.inj hreturned
      exact ⟨t, rfl, device_saveResult _ _⟩
    | (.error thrown, t) =>
      rw [hcall] at hreturned
      exact absurd (Prod.mk.inj hreturned).1 (by simp)
  · intro s thrown s' hs hraised
    exact accepted_onExecutor.raised hs hraised

theorem accepted_startTask :
    Triple Accepted (startTask calls e)
      (fun _ s => Accepted s ∧ ∃ t t', calls.launch t = (.ok (), t') ∧ s.device = t'.1)
      (fun _ => Accepted) := by
  unfold startTask
  refine triple_bind (M := fun _ => Accepted) (triple_finish ?_ accepted_onExecutor) fun _ =>
    triple_onExecutor_returned
  refine triple_bind accepted_onExecutor fun _ => ?_
  refine triple_bind (triple_runIf (fun _ => accepted_onExecutor) fun _ _ h => h) fun _ => ?_
  refine triple_bind accepted_onExecutor fun _ => ?_
  exact accepted_onExecutor

theorem accepted_runAccepted :
    Triple Accepted (runAccepted calls e)
      (fun result s => Accepted s ∧ (result = none → Running calls e s.device)) (fun _ => Accepted) := by
  unfold runAccepted
  by_cases hstart : e.messageType = "task.start"
  · rw [if_pos hstart]
    refine triple_bind accepted_startTask fun _ => ?_
    exact triple_pure fun s h => ⟨h.1, fun _ => Or.inl ⟨hstart, h.2⟩⟩
  · rw [if_neg hstart, execute, if_neg hstart]
    refine triple_bind triple_onExecutor_returned fun result => ?_
    split_ifs with hskill
    · refine triple_pure fun s h => ⟨h.1, fun _ => Or.inr ⟨hskill, ?_⟩⟩
      obtain ⟨t, t', hcall, hdevice⟩ := h.2
      exact ⟨t, t', result, hcall, hdevice⟩
    · exact triple_pure fun s h => ⟨h.1, nofun⟩

/-! ## The whole handler -/

/-- The row tells the center how the command ended. -/
def Answered (record : Option CommandRecord) : Prop :=
  ∃ r, record = some r ∧ ((∃ ack, r.ack = some ack ∧ ack.accepted = false) ∨ ∃ result,
    r.result = some result)

def Rejected (record : Option CommandRecord) : Prop :=
  ∃ r ack, record = some r ∧ r.ack = some ack ∧ ack.accepted = false

/-- A command is answered, or accepted and its task or skill runs. -/
def Concluded (calls : Calls W) (e : EdgeProtocol.MessageEnvelope) (s : EdgeState W) : Prop :=
  Answered s.record ∨
    (∃ r ack, s.record = some r ∧ r.ack = some ack ∧ ack.accepted = true) ∧ Running calls e s.device

/-- The version that the command expects reads as an integer where it is looked at. -/
def ReadsVersion (texts : Texts) (e : EdgeProtocol.MessageEnvelope) : Prop :=
  e.messageType ∉ ["task.pause", "task.resume", "task.force_exit", "task.recover.v1"] →
    ∀ expected, Filled e.payload "expected_robot_state_version" expected →
      ∃ version, texts.int? expected = some version

/-- What is read of a command before it is taken up can be read. -/
structure Readable (calls : Calls W) (e : EdgeProtocol.MessageEnvelope) : Prop where
  logs : calls.structuredLogs = true → readsLogContext (commandObject e) = true
  expiry : ∃ expires, EdgeProtocol.IsInstant calls.texts e.payload "expires_at" expires
  version : ReadsVersion calls.texts e

/-- The handler has come to the start of a task. -/
def starting (s : EdgeState W) : EdgeState W :=
  { s with locals := { preparedTaskStart := some true } }

/-- The start is let through to the executor. -/
def Admitted (calls : Calls W) (e : EdgeProtocol.MessageEnvelope) (s : EdgeState W) : Prop :=
  ∃ s', admitTaskStart calls e (starting s) = (.ok (), s')

/-- A refusal left the Edge as it was, up to what was let through to the executor. -/
def Kept (calls : Calls W) (e : EdgeProtocol.MessageEnvelope) (s₀ : EdgeState W) (d : Device W) : Prop :=
  LeftAlone e s₀.device d ∧ (Admitted calls e s₀ ∨ Undisturbed s₀.device d)

theorem kept_refl (calls : Calls W) (e : EdgeProtocol.MessageEnvelope) (s : EdgeState W) :
    Kept calls e s s.device :=
  ⟨⟨rfl, Or.inl rfl, fun _ => ⟨rfl, rfl⟩⟩, Or.inr ⟨rfl, rfl, rfl⟩⟩

/-- Where the body of the `try` may raise. -/
inductive Broken (calls : Calls W) (e : EdgeProtocol.MessageEnvelope) (s₀ : EdgeState W) :
    Thrown → EdgeState W → Prop
  /-- Before `prepared_task_start` is bound only a check raises, if the command can be read. -/
  | early {thrown : Thrown} (checked : Readable calls e →
      ∃ code message details, thrown = .protocol code message details) : Broken calls e s₀ thrown s₀
  | start {thrown : Thrown} {s : EdgeState W} (record : s.record = none)
      (locals : s.locals = { preparedTaskStart := some true }) (kept : Kept calls e s₀ s.device) :
      Broken calls e s₀ thrown s
  | accepted {thrown : Thrown} {s : EdgeState W} (accepted : Accepted s) : Broken calls e s₀ thrown s

/-- What a command leaves when it is handled to the end. -/
def Settled (calls : Calls W) (e : EdgeProtocol.MessageEnvelope) (s₀ s : EdgeState W) : Prop :=
  Concluded calls e s ∧ (Rejected s.record → Kept calls e s₀ s.device)

/-- What a command leaves that the handler could not read. -/
def Escaped (calls : Calls W) (e : EdgeProtocol.MessageEnvelope) (s : EdgeState W) : Prop :=
  ¬ Readable calls e ∧ ¬ Rejected s.record

theorem not_rejected_of_record {s : EdgeState W} (h : s.record = none) : ¬ Rejected s.record := by
  rintro ⟨r, ack, hrecord, -⟩
  rw [h] at hrecord
  exact nomatch hrecord

theorem Accepted.not_rejected {s : EdgeState W} (h : Accepted s) : ¬ Rejected s.record := by
  rintro ⟨r, ack, hrecord, hack, hrejected⟩
  obtain ⟨r', ack', hrecord', hack', haccepted⟩ := h.record
  rw [hrecord] at hrecord'
  obtain rfl := Option.some.inj hrecord'
  rw [hack] at hack'
  obtain rfl := Option.some.inj hack'
  rw [hrejected] at haccepted
  exact absurd haccepted (by simp)

theorem Broken.not_rejected {thrown : Thrown} {s₀ s : EdgeState W} (hnew : s₀.record = none)
    (h : Broken calls e s₀ thrown s) : ¬ Rejected s.record := by
  cases h with
  | early checked => exact not_rejected_of_record hnew
  | start record locals kept => exact not_rejected_of_record record
  | accepted accepted => exact accepted.not_rejected

theorem triple_structured {P : EdgeState W → Prop} {R : Thrown → EdgeState W → Prop}
    (h : ∀ thrown s, ¬ Readable calls e → P s → R thrown s) :
    Triple P (structured calls e) (fun _ => P) R := by
  unfold structured
  split_ifs with hunread
  · refine triple_raise fun s hs => h _ s ?_ hs
    intro hreadable
    obtain ⟨hemits, hunread⟩ := (Bool.and_eq_true _ _).mp hunread
    rw [hreadable.logs hemits] at hunread
    exact absurd hunread (by simp)
  · exact triple_pure fun _ hs => hs

/-! ### The body -/

section Body

variable {s₀ : EdgeState W}

theorem early_protocolError {α : Type} {code message : String} {Q : α → EdgeState W → Prop} :
    Triple (fun s => s = s₀) (protocolError code message : Handling W α) Q (Broken calls e s₀) := by
  refine triple_protocolError ?_
  rintro s rfl
  exact .early fun _ => ⟨code, message, none, rfl⟩

theorem early_raise {α : Type} {thrown : Thrown} {Q : α → EdgeState W → Prop}
    (h : ¬ Readable calls e) :
    Triple (fun s => s = s₀) (raise thrown : Handling W α) Q (Broken calls e s₀) := by
  refine triple_raise ?_
  rintro s rfl
  exact .early fun hreadable => absurd hreadable h

theorem early_checkExpiry :
    Triple (fun s => s = s₀) (checkExpiry calls e) (fun _ s => s = s₀) (Broken calls e s₀) := by
  unfold checkExpiry
  split
  · split_ifs
    · exact early_protocolError
    · exact triple_pure fun _ h => h
  · rename_i hunread
    refine early_raise fun hreadable => ?_
    obtain ⟨expires, value, hvalue, hinstant⟩ := hreadable.expiry
    apply hunread expires
    rw [hvalue.1, Option.getD_some, hinstant]

theorem early_validateExpectedState :
    Triple (fun s => s = s₀) (validateExpectedState calls e) (fun _ s => s = s₀)
      (Broken calls e s₀) := by
  unfold validateExpectedState
  split_ifs with hexempt
  · exact triple_pure fun _ h => h
  · split
    · exact triple_pure fun _ h => h
    · exact triple_pure fun _ h => h
    · rename_i expected hnull hexpected
      split
      · rename_i hunread
        refine early_raise fun hreadable => ?_
        have hfilled : Filled e.payload "expected_robot_state_version" expected := by
          refine ⟨hexpected, ?_⟩
          cases expected with
          | null => exact absurd rfl hnull
          | _ => rfl
        obtain ⟨version, hread⟩ := hreadable.version hexempt expected hfilled
        rw [hunread] at hread
        exact nomatch hread
      · refine triple_bind (M := fun _ s => s = s₀) (triple_get fun _ h => h) fun current => ?_
        split_ifs
        · exact early_protocolError
        · exact triple_pure fun _ h => h

theorem started_prepare (hnew : s₀.record = none) :
    Triple (fun s => s = starting s₀) (do
        admitTaskStart calls e
        prepareTaskStart calls e)
      (fun _ s => s.record = none ∧ s.locals = { preparedTaskStart := some true })
      (Broken calls e s₀) := by
  refine triple_bind
    (M := fun _ s => Spared e (starting s₀) s ∧ Admitted calls e s₀) (triple_intro ?_ ?_) fun _ => ?_
  · rintro _ ⟨⟩ s' rfl hreturned
    exact ⟨spared_admitTaskStart.returned (untouched_refl e _) hreturned, s', hreturned⟩
  · rintro _ thrown s' rfl hraised
    obtain ⟨hspared, hundisturbed⟩ := spared_admitTaskStart.raised (untouched_refl e _) hraised
    exact .start (hspared.record.trans hnew) hspared.locals ⟨hspared.toLeftAlone, Or.inr hundisturbed⟩
  · refine triple_intro ?_ ?_
    · rintro s ⟨⟩ s' ⟨hspared, -⟩ hreturned
      obtain ⟨hrecord, hlocals⟩ := spared_prepareTaskStart.returned hspared hreturned
      exact ⟨hrecord.trans hnew, hlocals⟩
    · rintro s thrown s' ⟨hspared, hadmitted⟩ hraised
      have hspared' := spared_prepareTaskStart.raised hspared hraised
      exact .start (hspared'.record.trans hnew) hspared'.locals
        ⟨hspared'.toLeftAlone, Or.inl hadmitted⟩

theorem accepted_saveResult {result : CommandResultPayload} {R : Thrown → EdgeState W → Prop} :
    Triple Accepted (saveResult result) (fun _ s => Accepted s ∧ Answered s.record) R := by
  refine triple_modify fun s h => ?_
  have hsaved := h.saveResult (some result)
  exact ⟨⟨hsaved.record, hsaved.ack, hsaved.bound⟩, _, rfl, Or.inr ⟨result, rfl⟩⟩

/-- **The body of the `try`**: it concludes the command, or breaks off where a handler goes on. -/
theorem concluded_body (hnew : s₀.record = none) (hlocals : s₀.locals = {}) :
    Triple (fun s => s = s₀) (body calls e)
      (fun _ s => Accepted s ∧ Concluded calls e s) (Broken calls e s₀) := by
  have hbroken : ∀ thrown s, Accepted s → Broken calls e s₀ thrown s := fun _ _ h => .accepted h
  unfold body
  refine triple_bind (M := fun _ s => s = s₀) (triple_structured ?_) fun _ => ?_
  · rintro thrown s hunread rfl
    exact .early fun hreadable => absurd hreadable hunread
  refine triple_bind early_checkExpiry fun _ => ?_
  refine triple_bind early_validateExpectedState fun _ => ?_
  dsimp only
  refine triple_bind (M := fun _ s => s = { s₀ with
      locals := { preparedTaskStart := some (decide (e.messageType = "task.start")) } })
    (triple_modify ?_) fun _ => ?_
  · rintro s rfl
    rw [hlocals]
  refine triple_bind (M := fun _ s => s.record = none ∧
    s.locals = { preparedTaskStart := some (decide (e.messageType = "task.start")) })
    (triple_runIf ?_ ?_) fun _ => ?_
  · intro hstart
    rw [hstart]
    exact started_prepare hnew
  · rintro - s rfl
    exact ⟨hnew, rfl⟩
  refine triple_bind (M := fun _ s => s.record = none ∧
    s.locals = { preparedTaskStart := some (decide (e.messageType = "task.start")) })
    (triple_get fun _ h => h) fun version => ?_
  refine triple_bind (M := fun _ s => s.record = none ∧ s.locals = {
      ack := some { accepted := true, edgeStateVersion := some version }
      preparedTaskStart := some (decide (e.messageType = "task.start")) }) (triple_modify ?_) fun _ => ?_
  · rintro s ⟨hrecord, hbound⟩
    refine ⟨hrecord, ?_⟩
    rw [hbound]
  refine triple_bind (M := fun _ => Accepted) (triple_modify ?_) fun _ => ?_
  · rintro s ⟨hrecord, hbound⟩
    exact ⟨⟨_, _, rfl, rfl, rfl⟩, ⟨_, congrArg Locals.ack hbound⟩,
      ⟨_, congrArg Locals.preparedTaskStart hbound⟩⟩
  refine triple_bind (accepted_runAccepted.mono (fun _ h => h) (fun _ _ h => h) hbroken) fun result => ?_
  cases result with
  | some result =>
    dsimp only
    refine triple_bind (M := fun _ s => Accepted s ∧ Answered s.record) ?_ fun _ => ?_
    · exact accepted_saveResult.mono (fun _ h => h.1) (fun _ _ h => h) fun _ _ h => h
    · exact triple_pure fun s h => ⟨h.1, Or.inl h.2⟩
  | none => exact triple_pure fun s h => ⟨h.1, Or.inr ⟨h.1.record, h.2 rfl⟩⟩

end Body

/-! ### The handlers -/

section Handlers

variable {s₀ : EdgeState W}

theorem accepted_clearFailedStart {R : Thrown → EdgeState W → Prop} :
    Triple Accepted (clearFailedStart calls) (fun _ => Accepted) R :=
  triple_handle accepted_onExecutor fun _ => triple_pure fun _ h => h

theorem clearIfStarted_apply (calls : Calls W) (known : Bool) (s : EdgeState W) :
    clearIfStarted calls known s =
      (match s.locals.preparedTaskStart with
        | none => raise (.other "UnboundLocalError")
        | some start => runIf (start && known) (clearFailedStart calls) : Handling W Unit) s := rfl

theorem accepted_clearIfStarted {known : Bool} {R : Thrown → EdgeState W → Prop} :
    Triple Accepted (clearIfStarted calls known) (fun _ => Accepted) R := by
  intro s haccepted
  obtain ⟨start, hstart⟩ := haccepted.bound
  rw [clearIfStarted_apply, hstart]
  exact triple_runIf (fun _ => accepted_clearFailedStart) (fun _ _ h => h) s haccepted

theorem settled_saveResult {result : CommandResultPayload} {R : Thrown → EdgeState W → Prop} :
    Triple Accepted (saveResult result) (fun _ => Settled calls e s₀) R :=
  accepted_saveResult.mono (fun _ h => h)
    (fun _ _ h => ⟨Or.inl h.2, fun hrejected => absurd hrejected h.1.not_rejected⟩) fun _ _ h => h

theorem settled_onProtocolError (hnew : s₀.record = none) (hlocals : s₀.locals = {})
    {code message : String} {details : Option ResultPayload} :
    Triple (Broken calls e s₀ (.protocol code message details))
      (onProtocolError calls e code message details) (fun _ => Settled calls e s₀)
      (fun _ => Escaped calls e) := by
  unfold onProtocolError
  refine triple_bind (triple_structured fun thrown s hunread h => ⟨hunread, h.not_rejected hnew⟩)
    fun _ => ?_
  refine triple_bind (M := fun locals s =>
      Broken calls e s₀ (.protocol code message details) s ∧ locals = s.locals)
    (triple_get fun _ h => ⟨h, rfl⟩) fun locals => ?_
  cases hack : locals.ack with
  | none =>
    dsimp only
    refine triple_bind (M := fun _ s => s.record = none ∧ Kept calls e s₀ s.device)
      (triple_get ?_) fun version => ?_
    · rintro s ⟨hbroken, rfl⟩
      cases hbroken with
      | early checked => exact ⟨hnew, kept_refl calls e s₀⟩
      | start record locals kept => exact ⟨record, kept⟩
      | accepted accepted =>
        obtain ⟨ack, hbound⟩ := accepted.ack
        rw [hack] at hbound
        exact nomatch hbound
    · refine triple_bind (M := fun _ => Settled calls e s₀) (triple_modify ?_) fun _ =>
        triple_pure fun _ h => h
      rintro s ⟨hrecord, hkept⟩
      exact ⟨Or.inl ⟨_, rfl, Or.inl ⟨_, rfl, rfl⟩⟩, fun _ => hkept⟩
  | some ack =>
    dsimp only
    refine triple_bind (M := fun _ => Accepted) ?_ fun _ =>
      triple_bind settled_saveResult fun _ => triple_pure fun _ h => h
    refine accepted_clearIfStarted.mono ?_ (fun _ _ h => h) fun _ _ h => h
    rintro s ⟨hbroken, rfl⟩
    cases hbroken with
    | early checked =>
      rw [hlocals] at hack
      exact nomatch hack
    | start record locals kept =>
      rw [locals] at hack
      exact nomatch hack
    | accepted accepted => exact accepted

theorem settled_onException (hnew : s₀.record = none) (hlocals : s₀.locals = {}) {message : String} :
    Triple (Broken calls e s₀ (.other message)) (onException calls e message)
      (fun _ => Settled calls e s₀) (fun _ => Escaped calls e) := by
  unfold onException
  refine triple_bind (triple_structured fun thrown s hunread h => ⟨hunread, h.not_rejected hnew⟩)
    fun _ => ?_
  refine triple_bind (M := fun locals s => Broken calls e s₀ (.other message) s ∧ locals = s.locals)
    (triple_get fun _ h => ⟨h, rfl⟩) fun locals => ?_
  refine triple_bind (M := fun _ s => s.record = none ∨ Accepted s) ?_ fun _ => ?_
  · rintro s ⟨hbroken, rfl⟩
    cases hbroken with
    | early checked =>
      -- the handler reads a variable that the body had not come to
      have hunread : ¬ Readable calls e := by
        intro hreadable
        obtain ⟨code, text, details, hthrown⟩ := checked hreadable
        exact nomatch hthrown
      have hraised : clearIfStarted calls s₀.locals.ack.isSome s₀ =
          (.error (.other "UnboundLocalError"), s₀) := by
        rw [clearIfStarted_apply, hlocals]
        rfl
      rw [hraised]
      exact ⟨hunread, not_rejected_of_record hnew⟩
    | start record locals kept =>
      have hskipped : clearIfStarted calls s.locals.ack.isSome s = (.ok (), s) := by
        rw [clearIfStarted_apply, locals]
        rfl
      rw [hskipped]
      exact Or.inl record
    | accepted accepted =>
      exact (accepted_clearIfStarted.mono (fun _ h => h) (fun _ _ h => Or.inr h) fun _ _ h => h) s accepted
  · refine triple_bind (M := fun _ => Settled calls e s₀) ?_ fun _ => triple_pure fun _ h => h
    rintro s (hrecord | haccepted)
    · refine ⟨Or.inl ⟨_, rfl, Or.inr ⟨_, rfl⟩⟩, ?_⟩
      rintro ⟨r, ack, hsaved, hack, -⟩
      obtain rfl := Option.some.inj hsaved
      rw [hrecord] at hack
      exact nomatch hack
    · exact settled_saveResult (R := fun _ => Escaped calls e) s haccepted

theorem settled_guarded (hnew : s₀.record = none) (hlocals : s₀.locals = {}) :
    Triple (fun s => s = s₀) (guarded calls e) (fun _ => Settled calls e s₀)
      (fun _ => Escaped calls e) := by
  unfold guarded
  refine triple_handle ((concluded_body hnew hlocals).mono (fun _ h => h) ?_ fun _ _ h => h) ?_
  · rintro - s ⟨haccepted, hconcluded⟩
    exact ⟨hconcluded, fun hrejected => absurd hrejected haccepted.not_rejected⟩
  · rintro (⟨code, message, details⟩ | message)
    · exact settled_onProtocolError hnew hlocals
    · exact settled_onException hnew hlocals

theorem handle_of_new {s : EdgeState W} (haddressed : e.robotId = calls.robotId)
    (hnew : s.record = none) : handle calls e s = guarded calls e { s with locals := {} } := by
  obtain ⟨device, record, acks, results, locals⟩ := s
  obtain rfl : record = none := hnew
  unfold handle
  rw [if_neg (not_not.2 haddressed)]
  rfl

theorem handle_of_other {s s' : EdgeState W}
    {reply : Except Thrown (Option AckPayload × Option CommandResultPayload)}
    (hother : e.robotId ≠ calls.robotId) (hended : handle calls e s = (reply, s')) : s' = s := by
  unfold handle at hended
  rw [if_pos hother] at hended
  exact (Prod.mk.inj hended).2.symm

theorem device_handle_of_record {s s' : EdgeState W} {r : CommandRecord}
    {reply : Except Thrown (Option AckPayload × Option CommandResultPayload)}
    (haddressed : e.robotId = calls.robotId) (hrecord : s.record = some r)
    (hended : handle calls e s = (reply, s')) : s'.device = s.device := by
  obtain ⟨device, record, acks, results, locals⟩ := s
  obtain rfl : record = some r := hrecord
  unfold handle at hended
  rw [if_neg (not_not.2 haddressed)] at hended
  rw [← (Prod.mk.inj hended).2]

end Handlers

/-! ## A start on a ready robot -/

/-- The payload of a start on the map "yard". -/
def startPayload : List (String × Json) :=
  [("command_id", .str "i"), ("task_execution_id", .str "i"), ("issued_at", .str ""),
    ("expires_at", .str "i"),
    ("command", .obj [
      ("route_snapshot", .obj [("waypoints", .arr [
        .obj [("sequence", .num (.int 0)), ("x", .num (.int 0)), ("y", .num (.int 0)),
          ("yaw", .num (.int 0))]])]),
      ("map", .obj [("map_id", .str "yard"), ("map_version", .str "1")])])]

def startMessage : List (String × Json) :=
  [("protocol_version", .str "1.0"), ("message_id", .str "i"), ("message_type", .str "task.start"),
    ("robot_id", .str "xg-1"), ("session_id", .str ""), ("sent_at", .str ""), ("trace_id", .str "i"),
    ("payload", .obj startPayload)]

def startEnvelope : EdgeProtocol.MessageEnvelope where
  messageId := 0
  messageType := "task.start"
  robotId := "xg-1"
  sessionId := ""
  sentAt := 0
  traceId := 0
  sequence := none
  payload := startPayload

theorem decode_startMessage :
    EdgeProtocol.decode default (fun _ => .invalid) (.value (.obj startMessage)) =
      .ok startEnvelope := rfl

/-- Adapters and an executor that return at once. -/
def quietCalls (navigationStack : Bool) : Calls Unit where
  robotId := "xg-1"
  texts := default
  now := 0
  stableFor := 0
  localizationStableSeconds := 0
  lowBatteryPercent := 20
  dict? := fun value => match value with
    | .obj members => some members
    | _ => none
  structuredLogs := true
  navigationStack := navigationStack
  mapActivation := false
  navigationBoundary := false
  localization := false
  prepareStack := fun _ => pure ()
  waitUntilPrepared := pure true
  waitUntilReady := pure true
  activateMap := fun _ => pure ()
  activatedMap := fun _ _ => none
  activateBoundary := fun _ => pure ()
  switchMap := pure ()
  validateRoute := fun _ => pure ()
  assistStop := pure ()
  takeoverStop := pure ()
  localizationOperationActive := pure false
  assertMapConstraints := fun _ => pure ()
  invalidatesTrusted := true
  unsupportedActions := fun _ => none
  buildContext := fun _ => pure {
    taskExecutionId := 0
    route := { waypoints := [], initialWaypointIndex := 0 }
    currentWaypointIndex := 0
    startCommandId := 0
    loopExecution := false
    loopSessionId := none
    docking := {}
    roundNumber := 1
    loopTotal := 1
    loopBaseWaypoints := [] }
  perform := fun _ => pure {}
  setProgress := pure ()
  initializeBeforeNavigation := pure ()
  activateExecution := pure ()
  validateAdmission := pure ()
  launch := pure ()
  forceExit := pure ()

/-- A robot on a map that is ready to navigate. -/
def readyRobot (emergencyStop : Bool) : EdgeState Unit where
  device := {
    safety := {
      localizationStatus := "normal"
      navReady := true
      emergencyStop := emergencyStop
      controlMode := "autonomous"
      powerAvailable := false
      batteryPercent := none
      currentMapId := "yard"
      currentMapVersion := "1"
      currentMapLocalState := ""
      currentMapError := "" }
    context := none
    trustedPoses := fun _ _ => none
    latestTrusted := none
    world := () }

/-! ## What is left of a command -/

/-- **Every command is concluded**: one that is new and can be read is refused, answered with a result, or
    accepted and its task or skill runs. -/
theorem command_concluded (calls : Calls W) (loads : String → LoadedText) (raw : RawMessage)
    (s : EdgeState W) (hdecoded : EdgeProtocol.decode calls.texts loads raw = .ok e)
    (hcommand : e.messageType ∈ EdgeProtocol.commandTypes) (haddressed : e.robotId = calls.robotId)
    (hnew : s.record = none)
    (hlogs : calls.structuredLogs = true → readsLogContext (commandObject e) = true)
    (hversion : ReadsVersion calls.texts e) :
    ∃ reply s', handle calls e s = (.ok reply, s') ∧
      ((∃ r ack, s'.record = some r ∧ r.ack = some ack ∧ ack.accepted = false) ∨
        (∃ r result, s'.record = some r ∧ r.result = some result) ∨
        ((∃ r ack, s'.record = some r ∧ r.ack = some ack ∧ ack.accepted = true) ∧
          Running calls e s'.device)) := by
  obtain ⟨command, hfields, -⟩ := EdgeProtocol.commandForm_of_decode hdecoded hcommand
  obtain ⟨-, expires, -, hexpires, -⟩ := hfields.expiry
  have hreadable : Readable calls e := ⟨hlogs, ⟨expires, hexpires⟩, hversion⟩
  have hsettled : Triple (fun t => t = { s with locals := {} }) (guarded calls e)
      (fun _ => Settled calls e { s with locals := {} }) (fun _ => Escaped calls e) :=
    settled_guarded hnew rfl
  rw [handle_of_new haddressed hnew]
  match hended : guarded calls e { s with locals := {} } with
  | (.ok reply, s') =>
    refine ⟨reply, s', rfl, ?_⟩
    rcases (hsettled.returned rfl hended).1 with ⟨r, hrecord, hrejected | hresult⟩ | hrunning
    · obtain ⟨ack, hack, hrejected⟩ := hrejected
      exact Or.inl ⟨r, ack, hrecord, hack, hrejected⟩
    · obtain ⟨result, hresult⟩ := hresult
      exact Or.inr (Or.inl ⟨r, result, hrecord, hresult⟩)
    · exact Or.inr (Or.inr hrunning)
  | (.error thrown, s') => exact absurd hreadable (hsettled.raised rfl hended).1

theorem command_concluded_startEnvelope :
    ∃ reply s', handle (quietCalls false) startEnvelope (readyRobot false) = (.ok reply, s') ∧
      ((∃ r ack, s'.record = some r ∧ r.ack = some ack ∧ ack.accepted = false) ∨
        (∃ r result, s'.record = some r ∧ r.result = some result) ∨
        ((∃ r ack, s'.record = some r ∧ r.ack = some ack ∧ ack.accepted = true) ∧
          Running (quietCalls false) startEnvelope s'.device)) := by
  refine command_concluded (quietCalls false) (fun _ => .invalid) (.value (.obj startMessage))
    (readyRobot false) decode_startMessage (by decide) rfl rfl (fun _ => rfl) ?_
  rintro - expected ⟨hexpected, -⟩
  exact nomatch hexpected

/-- A start that goes through is accepted and has no result yet. -/
theorem started_unanswered :
    EdgeProtocol.decode (quietCalls false).texts (fun _ => .invalid) (.value (.obj startMessage)) =
      .ok startEnvelope ∧
    ∃ reply s', handle (quietCalls false) startEnvelope (readyRobot false) = (.ok reply, s') ∧
      ∃ ack, ack.accepted = true ∧ s'.record = some { ack := some ack, result := none } :=
  ⟨decode_startMessage, _, _, rfl, _, rfl, rfl⟩

/-- **A refused start**: the context is what it was, the map too but for a docking task, the readiness is
    kept or taken back; and unless the checks let the start through to the executor, so are the operator's
    mode and the trusted poses. -/
theorem rejected_start_leaves (calls : Calls W) (e : EdgeProtocol.MessageEnvelope) (s s' : EdgeState W)
    (reply : Except Thrown (Option AckPayload × Option CommandResultPayload))
    (hended : handle calls e s = (reply, s')) (hrejected : Rejected s'.record) :
    LeftAlone e s.device s'.device ∧ (Admitted calls e s ∨ Undisturbed s.device s'.device) := by
  by_cases haddressed : e.robotId = calls.robotId
  · match hrecord : s.record with
    | none =>
      have hsettled : Triple (fun t => t = { s with locals := {} }) (guarded calls e)
          (fun _ => Settled calls e { s with locals := {} }) (fun _ => Escaped calls e) :=
        settled_guarded hrecord rfl
      rw [handle_of_new haddressed hrecord] at hended
      match reply with
      | .ok reply => exact (hsettled.returned rfl hended).2 hrejected
      | .error thrown => exact absurd hrejected (hsettled.raised rfl hended).2
    | some r =>
      have hdevice : s'.device = s.device := device_handle_of_record haddressed hrecord hended
      rw [hdevice]
      exact kept_refl calls e s
  · have hdevice : s' = s := handle_of_other haddressed hended
    rw [hdevice]
    exact kept_refl calls e s

theorem rejected_start_leaves_startEnvelope :
    ∃ reply s', handle (quietCalls true) startEnvelope (readyRobot true) = (reply, s') ∧
      LeftAlone startEnvelope (readyRobot true).device s'.device ∧
      (Admitted (quietCalls true) startEnvelope (readyRobot true) ∨
        Undisturbed (readyRobot true).device s'.device) :=
  ⟨_, _, rfl, rejected_start_leaves (quietCalls true) startEnvelope (readyRobot true) _ _ rfl
    ⟨_, _, rfl, rfl, rfl⟩⟩

/-- An emergency stop refuses a start, but by then the readiness was taken back. -/
theorem refused_start_unready :
    EdgeProtocol.decode (quietCalls true).texts (fun _ => .invalid) (.value (.obj startMessage)) =
      .ok startEnvelope ∧
    ∃ reply s', handle (quietCalls true) startEnvelope (readyRobot true) = (reply, s') ∧
      Rejected s'.record ∧ (readyRobot true).device.safety.navReady = true ∧
      s'.device.safety.navReady = false :=
  ⟨decode_startMessage, _, _, rfl, ⟨_, _, rfl, rfl, rfl⟩, rfl, rfl⟩

end HandleCommand

end RoamerX
