import RoamerX.DevTasks.AgentInvariant
import RoamerX.DevTasks.System

set_option autoImplicit false

/-! # When the ends agree

The steps that can part the two ends are few: the saves of the center on a row that was read a while
ago, a restart that the center learns of late, an order sent or kept for a task that the agent knows
no longer, two copies of an order past the look-up, and a copy rejected beside another one. In a run
without them the ends agree. -/

namespace RoamerX

namespace DevSystem

variable {config : DevAgentConfig} {s : DevSystem}

/-- The tasks that are terminal, or will be once the results have arrived. -/
def Closed (s : DevSystem) (id : Uuid) : Prop :=
  s.IsTerminal id ∨ ∃ r : DevResult, .result r ∈ s.toCenter ∧ r.taskId = id

/-- The agent is engaged on no task that is active. -/
def Idle (config : DevAgentConfig) (s : DevSystem) : Prop :=
  ∀ id t, s.center.task? id = some t → t.status.isActive = true →
    ¬ s.agent.Engaged config s.toAgent id

/-- An order of `t` that is published, or outlives a restart of the agent, is for a task that is
    neither closed nor run. -/
def FreshOrder (config : DevAgentConfig) (s : DevSystem) (t : DevelopmentTask) : Prop :=
  IsStartable config t → ¬ s.Closed t.id ∧ .first t.id ∉ s.agent.runs

/-- The step does not take one of the windows. -/
def Careful (config : DevAgentConfig) (s : DevSystem) : DevStep → Prop
  | .publishTask => s.center.published = none →
      ∀ t ∈ s.center.publishing.head?, t.id ∈ s.agent.known ∨ s.FreshOrder config t
  | .savePublished => ∀ t ∈ s.center.published, ¬ s.IsTerminal t.id
  | .saveCancel i _ => ∀ read ∈ s.center.cancels[i]?,
      (read.status = .created → ¬ s.agent.Engaged config s.toAgent read.id) ∧
        (read.status ≠ .created → ¬ s.IsTerminal read.id)
  | .report i _ _ => s.toCenter[i]? = some (.presence true) → s.Idle config
  | .centerConnects _ => s.retained = some true → s.Idle config
  | .thread i _ .advance => ∀ th ∈ s.agent.threads[i]?, s.agent.CarefulThread config s.toAgent i th
  | .agentRestarts => ∀ t, DevOrder.task t ∈ s.toAgent → s.FreshOrder config t
  | _ => True

/-- What holds in every state of a careful run. -/
structure Inv (config : DevAgentConfig) (s : DevSystem) : Prop where
  agent : s.agent.Inv config s.toAgent s.Closed
  fresh : ∀ t ∈ s.center.tasks, t.id < s.center.nextUuid

theorem Inv.initial : Inv config {} where
  agent := by
    apply DevAgent.Inv.initial
    rintro id (⟨t, ht, -⟩ | ⟨r, hr, -⟩)
    · exact absurd ht (by simp [DevCenter.task?])
    · exact absurd hr (by simp)
  fresh := by simp

/-! ## Steps of the center -/

section Center

variable {c : DevCenter} {id : Uuid} {g : DevelopmentTask → DevelopmentTask}

theorem terminal_update (hg : ∀ x, (g x).id = x.id) {k : Uuid} {t : DevelopmentTask}
    (ht : (c.update k g).task? id = some t) :
    (id = k ∧ ∃ row, c.task? id = some row ∧ g row = t) ∨ c.task? id = some t := by
  rw [DevCenter.task?_update hg] at ht
  split_ifs at ht with hk
  · obtain ⟨row, hrow, rfl⟩ := Option.map_eq_some_iff.1 ht
    exact .inl ⟨hk, row, hrow, rfl⟩
  · exact .inr ht

theorem fresh_update (hg : ∀ x, (g x).id = x.id) (k : Uuid)
    (h : ∀ t ∈ c.tasks, t.id < c.nextUuid) : ∀ t ∈ (c.update k g).tasks, t.id < c.nextUuid := by
  intro t ht
  obtain ⟨x, hx, rfl⟩ := List.mem_map.1 ht
  split_ifs
  · rw [hg]
    exact h x hx
  · exact h x hx

/-- A step of the center, which leaves the agent as it is: what it closes the agent is not engaged
    on. -/
theorem Inv.center (h : Inv config s) {s' : DevSystem} (hagent : s'.agent = s.agent)
    (horders : ∀ m ∈ s'.toAgent, m ∈ s.toAgent) (hreports : ∀ m ∈ s'.toCenter, m ∈ s.toCenter)
    (hterminal : ∀ id, s'.IsTerminal id → s.Closed id ∨ ¬ s.agent.Engaged config s.toAgent id)
    (hfresh : ∀ t ∈ s'.center.tasks, t.id < s'.center.nextUuid) : Inv config s' := by
  refine ⟨?_, hfresh⟩
  rw [hagent]
  refine h.agent.weaken horders ?_
  rintro id (hid | ⟨r, hr, hid⟩)
  · rcases hterminal id hid with hold | hnot
    · exact .inl hold
    · refine .inr fun hengaged => hnot ?_
      rcases hengaged with (⟨hknown, t, ht, hstart⟩ | hthread) | hp
      · exact .inl (.inl ⟨hknown, t, horders _ ht, hstart⟩)
      · exact .inl (.inr hthread)
      · exact .inr hp
  · exact .inl (.inr ⟨r, hreports _ hr, hid⟩)

theorem Inv.reads (h : Inv config s) {c : DevCenter} (htasks : c.tasks = s.center.tasks)
    (hnext : c.nextUuid = s.center.nextUuid) : Inv config { s with center := c } := by
  refine h.center rfl (fun _ hm => hm) (fun _ hm => hm) ?_ (by rw [htasks, hnext]; exact h.fresh)
  rintro id ⟨t, ht, hterm⟩
  rw [DevCenter.task?, htasks] at ht
  exact .inl (.inl ⟨t, ht, hterm⟩)

theorem Inv.writes (h : Inv config s) {k : Uuid} (hg : ∀ x, (g x).id = x.id) {c : DevCenter}
    {reports : List DevReport} (hreports : ∀ m ∈ reports, m ∈ s.toCenter)
    (htasks : c.tasks = (s.center.update k g).tasks) (hnext : c.nextUuid = s.center.nextUuid)
    (hwrite : ∀ t, s.center.task? k = some t → (g t).status.isTerminal = true →
      t.status.isTerminal = true ∨ s.Closed k ∨ ¬ s.agent.Engaged config s.toAgent k) :
    Inv config { s with center := c, toCenter := reports } := by
  refine h.center rfl (fun _ hm => hm) hreports ?_ ?_
  · rintro id ⟨t, ht, hterm⟩
    rw [DevCenter.task?, htasks] at ht
    rcases terminal_update hg ht with ⟨rfl, row, hrow, rfl⟩ | hold
    · rcases hwrite row hrow hterm with hwas | hclosed | hnot
      · exact .inl (.inl ⟨row, hrow, hwas⟩)
      · exact .inl hclosed
      · exact .inr hnot
    · exact .inl (.inl ⟨t, hold, hterm⟩)
  · rw [htasks, hnext]
    exact fresh_update hg k h.fresh

theorem Inv.create (h : Inv config s) (t : DevelopmentTask) :
    Inv config { s with center := s.center.create t } := by
  refine h.center rfl (fun _ hm => hm) (fun _ hm => hm) ?_ ?_
  · rintro id ⟨row, hrow, hterm⟩
    rw [DevCenter.task?, DevCenter.create, Rows.get?_cons] at hrow
    split_ifs at hrow with hid
    · obtain rfl := Option.some.inj hrow
      exact absurd hterm (by simp [DevTaskStatus.isTerminal])
    · exact .inl (.inl ⟨row, hrow, hterm⟩)
  · intro row hrow
    rcases List.mem_cons.1 hrow with rfl | hold
    · exact Nat.lt_succ_self _
    · exact Nat.lt_succ_of_lt (h.fresh row hold)

theorem Inv.savePublished (h : Inv config s) : Inv config s.savePublished := by
  rw [DevSystem.savePublished]
  cases hpublished : s.center.published with
  | none => exact h
  | some t =>
    refine h.writes (fun _ => DevCenter.id_markPublished) (fun _ hm => hm) rfl rfl ?_
    intro row _ hterm
    exact absurd hterm (by simp [DevCenter.markPublished, DevTaskStatus.isTerminal])

theorem Inv.saveControlled (h : Inv config s) : Inv config s.saveControlled := by
  rw [DevSystem.saveControlled]
  cases hcontrolled : s.center.controlled with
  | none => exact h
  | some t =>
    refine h.writes (k := t.id)
      (g := fun row => { row with cancelPublishedAt := some s.center.controlsQueriedAt })
      (fun _ => rfl) (fun _ hm => hm) rfl rfl ?_
    intro row _ hterm
    exact .inl hterm

theorem Inv.readCancel (h : Inv config s) (id : Uuid) :
    Inv config { s with center := s.center.readCancel id } := by
  have htasks : (s.center.readCancel id).tasks = s.center.tasks ∧
      (s.center.readCancel id).nextUuid = s.center.nextUuid := by
    rw [DevCenter.readCancel]
    split
    · split_ifs
      · exact ⟨rfl, rfl⟩
      · exact ⟨rfl, rfl⟩
    · exact ⟨rfl, rfl⟩
  exact h.reads htasks.1 htasks.2

theorem Inv.saveCancel (h : Inv config s) (i now : ℕ)
    (hcareful : s.Careful config (.saveCancel i now)) :
    Inv config { s with center := s.center.writeCancel i now } := by
  rw [DevCenter.writeCancel]
  cases hread : s.center.cancels[i]? with
  | none => exact h.reads rfl rfl
  | some read =>
    refine h.writes (k := read.id) (g := DevCenter.markCancelled read.status now)
      (fun _ => DevCenter.id_markCancelled read.status) (fun _ hm => hm) rfl rfl ?_
    intro row hrow hterm
    rw [DevCenter.markCancelled] at hterm
    split_ifs at hterm with hcreated
    · exact .inr (.inr ((hcareful read hread).1 hcreated))
    · exact absurd hterm (by simp [DevTaskStatus.isTerminal])

theorem Inv.presence (h : Inv config s) (agentRestarted : Bool) (now : ℕ) {reports : List DevReport}
    (hreports : ∀ m ∈ reports, m ∈ s.toCenter) (hidle : agentRestarted = true → s.Idle config) :
    Inv config { s with center := s.center.handlePresence agentRestarted now, toCenter := reports } := by
  rw [DevCenter.handlePresence]
  cases agentRestarted with
  | false =>
    rw [if_neg (by decide)]
    refine h.center rfl (fun _ hm => hm) hreports ?_ h.fresh
    intro id hterm
    exact .inl (.inl hterm)
  | true =>
    rw [if_pos rfl]
    refine h.center rfl (fun _ hm => hm) hreports ?_ ?_
    · rintro id ⟨t, ht, hterm⟩
      rw [DevCenter.task?, Rows.get?_map DevelopmentTask.id (fun _ => DevCenter.id_markInterrupted)] at ht
      obtain ⟨row, hrow, rfl⟩ := Option.map_eq_some_iff.1 ht
      by_cases hactive : row.status.isActive = true
      · exact .inr (hidle rfl id row hrow hactive)
      · rw [DevCenter.markInterrupted, if_neg hactive] at hterm
        exact .inl (.inl ⟨row, hrow, hterm⟩)
    · intro t ht
      obtain ⟨row, hrow, rfl⟩ := List.mem_map.1 ht
      rw [DevCenter.id_markInterrupted]
      exact h.fresh row hrow

theorem mem_left {α : Type} {messages : List α} {i : ℕ} {again : Bool} {m : α}
    (h : m ∈ left messages i again) : m ∈ messages := by
  rw [left] at h
  split_ifs at h
  · exact h
  · exact List.mem_of_mem_eraseIdx h

theorem Inv.report (h : Inv config s) (i : ℕ) (again : Bool) (now : ℕ)
    (hcareful : s.Careful config (.report i again now)) : Inv config (s.report i again now) := by
  rw [DevSystem.report]
  cases hmessage : s.toCenter[i]? with
  | none => exact h
  | some message =>
    cases message with
    | presence agentRestarted =>
      refine h.presence agentRestarted now (fun _ hm => mem_left hm) ?_
      rintro rfl
      exact hcareful hmessage
    | event id status timestamp =>
      refine h.writes (k := id) (g := DevCenter.markEvent status timestamp)
        (fun _ => DevCenter.id_markEvent status timestamp) (fun _ hm => mem_left hm) rfl rfl ?_
      intro row _ hterm
      rw [DevCenter.isTerminal_markEvent] at hterm
      exact .inl hterm
    | result r =>
      refine h.writes (k := r.taskId) (g := DevCenter.markResult r)
        (fun _ => DevCenter.id_markResult r) (fun _ hm => mem_left hm) rfl rfl ?_
      intro row _ _
      exact .inr (.inl (.inr ⟨r, List.mem_of_getElem? hmessage, rfl⟩))

end Center

/-! ## Steps of the agent and of the broker -/

theorem Inv.of_agent (h : Inv config s) {s' : DevSystem} (htasks : s'.center.tasks = s.center.tasks)
    (hnext : s'.center.nextUuid = s.center.nextUuid)
    (hagent : s'.agent.Inv config s'.toAgent s'.Closed) : Inv config s' :=
  ⟨hagent, by rw [htasks, hnext]; exact h.fresh⟩

theorem closed_of_results {s' : DevSystem} {id : Uuid} (h : s'.Closed id)
    (htasks : s'.center.tasks = s.center.tasks)
    (hresults : ∀ r : DevResult, .result r ∈ s'.toCenter → .result r ∈ s.toCenter) : s.Closed id := by
  rcases h with ⟨t, ht, hterm⟩ | ⟨r, hr, hid⟩
  · rw [DevCenter.task?, htasks] at ht
    exact .inl ⟨t, ht, hterm⟩
  · exact .inr ⟨r, hresults r hr, hid⟩

theorem Inv.publishTask (h : Inv config s) (hcareful : s.Careful config .publishTask) :
    Inv config s.publishTask := by
  rw [DevSystem.publishTask]
  split
  · next t rest hpublishing hpublished =>
    refine h.of_agent rfl rfl (h.agent.send ?_)
    intro hstartable
    rcases hcareful hpublished t (by rw [hpublishing]; rfl) with hknown | hfresh
    · exact .inl hknown
    · exact .inr (hfresh hstartable)
  · exact h

theorem Inv.publishControl (h : Inv config s) : Inv config s.publishControl := by
  rw [DevSystem.publishControl]
  split
  · next t rest _ _ => exact h.of_agent rfl rfl (h.agent.sendCancel t.id)
  · exact h

theorem Inv.order (h : Inv config s) (i : ℕ) (again : Bool) (now : ℕ) :
    Inv config (s.order i again now) := by
  rw [DevSystem.order]
  cases hmessage : s.toAgent[i]? with
  | none => exact h
  | some message =>
    cases message with
    | task t =>
      refine h.of_agent rfl rfl ?_
      refine (h.agent.receive (List.mem_of_getElem? hmessage)).weaken (fun _ hm => mem_left hm) ?_
      intro id hid
      exact .inl (closed_of_results hid rfl (fun r hr => by simpa [publish, DevAgent.receive] using hr))
    | cancel id =>
      -- a control is answered by an event, which closes nothing
      have hevents : ∀ r : DevResult, .result r ∉ (s.agent.receive now (.cancel id)).2 := by
        intro r
        rw [DevAgent.receive]
        split_ifs
        · simp
        · simp
      have hagent : (s.agent.receive now (.cancel id)).1.Inv config s.toAgent s.Closed := by
        rw [DevAgent.receive]
        split_ifs
        · exact h.agent.of_flags true s.agent.startupPresencePending
        · exact h.agent
      refine h.of_agent rfl rfl (hagent.weaken (fun _ hm => mem_left hm) ?_)
      intro k hk
      refine .inl (closed_of_results hk rfl (fun r hr => ?_))
      exact (List.mem_append.1 hr).resolve_right (hevents r)

theorem Inv.thread (h : Inv config s) (i now : ℕ) (move : DevAgent.Move)
    (hcareful : s.Careful config (.thread i now move)) : Inv config (s.thread config i now move) := by
  rw [DevSystem.thread]
  cases hi : s.agent.threads[i]? with
  | none => exact h
  | some th =>
    have hthread : move = .advance → s.agent.CarefulThread config s.toAgent i th := by
      rintro rfl
      exact hcareful th hi
    have hagent := h.agent.stepThread hi now hthread
    refine h.of_agent rfl rfl (hagent.weaken (fun _ hm => hm) ?_)
    rintro id (hterm | ⟨r, hr, hid⟩)
    · exact .inl (.inl (.inl hterm))
    · rcases List.mem_append.1 hr with hold | hnew
      · exact .inl (.inl (.inr ⟨r, hold, hid⟩))
      · exact .inl (.inr ⟨r, hnew, hid⟩)

theorem Inv.publishPresence (h : Inv config s) (agentRestarted : Bool) :
    Inv config (s.publishPresence agentRestarted) := by
  refine h.of_agent rfl rfl (h.agent.weaken (fun _ hm => hm) ?_)
  intro id hid
  exact .inl (closed_of_results hid rfl (fun r hr => by simpa [DevSystem.publishPresence] using hr))

theorem Inv.lose (h : Inv config s) {orders : List DevOrder} {reports : List DevReport}
    (horders : ∀ m ∈ orders, m ∈ s.toAgent) (hreports : ∀ m ∈ reports, m ∈ s.toCenter) :
    Inv config { s with toAgent := orders, toCenter := reports } := by
  refine h.of_agent rfl rfl (h.agent.weaken horders ?_)
  intro id hid
  exact .inl (closed_of_results hid rfl (fun r hr => hreports _ hr))

/-- **A careful step keeps the invariant.** -/
theorem Inv.step (h : Inv config s) (a : DevStep) (hcareful : s.Careful config a) :
    Inv config (s.step config a) := by
  cases a with
  | create t => exact h.create t
  | readPending now => exact h.reads rfl rfl
  | publishTask => exact h.publishTask hcareful
  | publishFails => exact h.reads rfl rfl
  | savePublished => exact h.savePublished
  | readControls now => exact h.reads rfl rfl
  | publishControl => exact h.publishControl
  | saveControlled => exact h.saveControlled
  | readCancel id => exact h.readCancel id
  | saveCancel i now => exact h.saveCancel i now hcareful
  | report i again now => exact h.report i again now hcareful
  | centerConnects now =>
    refine h.presence _ now (fun _ hm => hm) ?_
    intro hrestarted
    cases hretained : s.retained with
    | none =>
      rw [hretained] at hrestarted
      exact absurd hrestarted (by decide)
    | some agentRestarted =>
      rw [hretained, Option.getD_some] at hrestarted
      exact hcareful (hretained.trans (congrArg some hrestarted))
  | order i again now => exact h.order i again now
  | loseOrder i => exact h.lose (fun _ hm => List.mem_of_mem_eraseIdx hm) (fun _ hm => hm)
  | loseReport i => exact h.lose (fun _ hm => hm) (fun _ hm => List.mem_of_mem_eraseIdx hm)
  | thread i now move => exact h.thread i now move hcareful
  | agentRestarts => exact h.of_agent rfl rfl (h.agent.restart hcareful)
  | agentConnects =>
    have hflags : Inv config { s with agent := { s.agent with startupPresencePending := false } } :=
      h.of_agent rfl rfl (h.agent.of_flags s.agent.cancelRequested false)
    exact hflags.publishPresence s.agent.startupPresencePending
  | heartbeat => exact h.publishPresence false

/-! ## What a careful step does -/

theorem isTerminal_update {c : DevCenter} {id k : Uuid} {g : DevelopmentTask → DevelopmentTask}
    (hg : ∀ x, (g x).id = x.id) {t : DevelopmentTask} (ht : c.task? id = some t)
    (hterm : t.status.isTerminal = true) (hkeeps : id = k → (g t).status.isTerminal = true) :
    ∃ t', (c.update k g).task? id = some t' ∧ t'.status.isTerminal = true := by
  rw [DevCenter.task?_update hg]
  by_cases hk : id = k
  · rw [if_pos hk, ht]
    exact ⟨g t, rfl, hkeeps hk⟩
  · rw [if_neg hk]
    exact ⟨t, ht, hterm⟩

theorem isTerminal_presence {c : DevCenter} {id : Uuid} {t : DevelopmentTask}
    (ht : c.task? id = some t) (hterm : t.status.isTerminal = true) (agentRestarted : Bool) (now : ℕ) :
    ∃ t', (c.handlePresence agentRestarted now).task? id = some t' ∧ t'.status.isTerminal = true := by
  rw [DevCenter.handlePresence]
  split_ifs
  · refine ⟨t, ?_, hterm⟩
    have hrow : Rows.get? DevelopmentTask.id c.tasks id = some t := ht
    rw [DevCenter.task?, Rows.get?_map DevelopmentTask.id (fun _ => DevCenter.id_markInterrupted), hrow,
      Option.map_some, DevCenter.markInterrupted_of_terminal hterm]
  · exact ⟨t, ht, hterm⟩

/-- **What is terminal stays terminal**, in a careful step. -/
theorem Inv.terminal (h : Inv config s) (a : DevStep) (hcareful : s.Careful config a) {id : Uuid}
    (hterminal : s.IsTerminal id) : (s.step config a).IsTerminal id := by
  have hkept := hterminal
  obtain ⟨t, ht, hterm⟩ := hterminal
  cases a with
  | create new =>
    refine ⟨t, ?_, hterm⟩
    have hid : id ≠ s.center.nextUuid := by
      have hlt := h.fresh t (Rows.get?_mem DevelopmentTask.id ht)
      rw [Rows.get?_key DevelopmentTask.id ht] at hlt
      exact Nat.ne_of_lt hlt
    rw [DevSystem.step, DevCenter.task?, DevCenter.create, Rows.get?_cons, if_neg (Ne.symm hid)]
    exact ht
  | readPending now => exact ⟨t, ht, hterm⟩
  | publishTask =>
    rw [DevSystem.step, DevSystem.publishTask]
    split
    · exact ⟨t, ht, hterm⟩
    · exact ⟨t, ht, hterm⟩
  | publishFails => exact ⟨t, ht, hterm⟩
  | savePublished =>
    rw [DevSystem.step, DevSystem.savePublished]
    cases hpublished : s.center.published with
    | none => exact ⟨t, ht, hterm⟩
    | some sent =>
      refine isTerminal_update (fun _ => DevCenter.id_markPublished) ht hterm ?_
      rintro rfl
      exact absurd hkept (hcareful sent hpublished)
  | readControls now => exact ⟨t, ht, hterm⟩
  | publishControl =>
    rw [DevSystem.step, DevSystem.publishControl]
    split
    · exact ⟨t, ht, hterm⟩
    · exact ⟨t, ht, hterm⟩
  | saveControlled =>
    rw [DevSystem.step, DevSystem.saveControlled]
    cases hcontrolled : s.center.controlled with
    | none => exact ⟨t, ht, hterm⟩
    | some sent => exact isTerminal_update (fun _ => rfl) ht hterm (fun _ => hterm)
  | readCancel k =>
    rw [DevSystem.step, DevCenter.readCancel]
    split
    · split_ifs
      · exact ⟨t, ht, hterm⟩
      · exact ⟨t, ht, hterm⟩
    · exact ⟨t, ht, hterm⟩
  | saveCancel i now =>
    rw [DevSystem.step, DevCenter.writeCancel]
    cases hread : s.center.cancels[i]? with
    | none => exact ⟨t, ht, hterm⟩
    | some read =>
      refine isTerminal_update (fun _ => DevCenter.id_markCancelled read.status) ht hterm ?_
      rintro rfl
      rw [DevCenter.markCancelled]
      split_ifs with hcreated
      · rfl
      · exact absurd hkept ((hcareful read hread).2 hcreated)
  | report i again now =>
    rw [DevSystem.step, DevSystem.report]
    cases hmessage : s.toCenter[i]? with
    | none => exact ⟨t, ht, hterm⟩
    | some message =>
      cases message with
      | presence agentRestarted => exact isTerminal_presence ht hterm agentRestarted now
      | event k status timestamp =>
        refine isTerminal_update (fun _ => DevCenter.id_markEvent status timestamp) ht hterm ?_
        intro _
        rw [DevCenter.isTerminal_markEvent]
        exact hterm
      | result r =>
        refine isTerminal_update (fun _ => DevCenter.id_markResult r) ht hterm ?_
        intro _
        rw [DevCenter.markResult_of_terminal r hterm]
        exact hterm
  | centerConnects now => exact isTerminal_presence ht hterm _ now
  | order i again now =>
    rw [DevSystem.step, DevSystem.order]
    split
    · exact ⟨t, ht, hterm⟩
    · exact ⟨t, ht, hterm⟩
  | loseOrder i => exact ⟨t, ht, hterm⟩
  | loseReport i => exact ⟨t, ht, hterm⟩
  | thread i now move =>
    rw [DevSystem.step, DevSystem.thread]
    split
    · exact ⟨t, ht, hterm⟩
    · exact ⟨t, ht, hterm⟩
  | agentRestarts => exact ⟨t, ht, hterm⟩
  | agentConnects => exact ⟨t, ht, hterm⟩
  | heartbeat => exact ⟨t, ht, hterm⟩

theorem Inv.runs_step (h : Inv config s) (a : DevStep) :
    (s.step config a).agent.runs = s.agent.runs ∨
      ∃ r : CodexRun, (s.step config a).agent.runs = r :: s.agent.runs ∧
        s.agent.Engaged config s.toAgent r.taskId := by
  cases a with
  | thread i now move =>
    rw [DevSystem.step, DevSystem.thread]
    split
    · next th hi => exact h.agent.runs_stepThread hi now move
    · exact .inl rfl
  | order i again now =>
    left
    rw [DevSystem.step, DevSystem.order]
    split
    · next message _ =>
      cases message with
      | task t => rfl
      | cancel id =>
        simp only [DevAgent.receive, DevSystem.publish]
        split_ifs
        · rfl
        · rfl
    · rfl
  | publishTask =>
    left
    rw [DevSystem.step, DevSystem.publishTask]
    split
    · rfl
    · rfl
  | savePublished =>
    left
    rw [DevSystem.step, DevSystem.savePublished]
    split
    · rfl
    · rfl
  | publishControl =>
    left
    rw [DevSystem.step, DevSystem.publishControl]
    split
    · rfl
    · rfl
  | saveControlled =>
    left
    rw [DevSystem.step, DevSystem.saveControlled]
    split
    · rfl
    · rfl
  | report i again now =>
    left
    rw [DevSystem.step, DevSystem.report]
    split
    · rfl
    · rfl
  | _ => exact .inl rfl

theorem step_one_end (s : DevSystem) (a : DevStep) :
    (s.step config a).center.tasks = s.center.tasks ∨ (s.step config a).agent = s.agent := by
  cases a with
  | thread i now move =>
    left
    rw [DevSystem.step, DevSystem.thread]
    split
    · rfl
    · rfl
  | order i again now =>
    left
    rw [DevSystem.step, DevSystem.order]
    split
    · rfl
    · rfl
  | publishTask =>
    right
    rw [DevSystem.step, DevSystem.publishTask]
    split
    · rfl
    · rfl
  | savePublished =>
    right
    rw [DevSystem.step, DevSystem.savePublished]
    split
    · rfl
    · rfl
  | publishControl =>
    right
    rw [DevSystem.step, DevSystem.publishControl]
    split
    · rfl
    · rfl
  | saveControlled =>
    right
    rw [DevSystem.step, DevSystem.saveControlled]
    split
    · rfl
    · rfl
  | report i again now =>
    right
    rw [DevSystem.step, DevSystem.report]
    split
    · rfl
    · rfl
  | agentRestarts => exact .inl rfl
  | agentConnects => exact .inl rfl
  | _ => exact .inr rfl

/-- **A careful step agrees.** -/
theorem Inv.agrees (h : Inv config s) (a : DevStep) (hcareful : s.Careful config a) :
    s.Agrees config a where
  terminal := fun _ hterminal => h.terminal a hcareful hterminal
  started := by
    intro r hr hterminal
    rcases h.runs_step a with hsame | ⟨r', hr', hengaged⟩
    · rw [hsame] at hr
      exact absurd hr.symm (List.cons_ne_self r s.agent.runs)
    · rw [hr'] at hr
      obtain rfl := (List.cons.inj hr).1
      exact h.agent.closed _ (.inl hterminal) hengaged
  once := (h.step a hcareful).agent.once
  marked := by
    intro id hbefore hafter
    have hterminal : (s.step config a).IsTerminal id := by
      obtain ⟨t, ht, hstatus⟩ := hafter
      refine ⟨t, ht, ?_⟩
      rcases hstatus with hstatus | hstatus
      · rw [hstatus]
        rfl
      · rw [hstatus]
        rfl
    have hidle : (s.step config a).agent.process ≠ some id :=
      fun hp => (h.step a hcareful).agent.closed id (.inl hterminal) (.inr hp)
    have hone : (s.step config a).center.tasks = s.center.tasks ∨ (s.step config a).agent = s.agent :=
      step_one_end s a
    rcases hone with htasks | hagent
    · -- the table is the one before
      obtain ⟨t, ht, hstatus⟩ := hafter
      rw [DevCenter.task?, htasks] at ht
      exact absurd ⟨t, ht, hstatus⟩ hbefore
    · refine ⟨?_, hidle⟩
      rw [hagent] at hidle
      exact hidle

/-- **The center and the dev agent agree** in every step of a run none of whose steps takes one of
    the windows. -/
theorem agrees_of_careful (config : DevAgentConfig) (steps : List DevStep)
    (h : Run.Always (fun s a => DevSystem.step s config a) (Careful config) {} steps) :
    Run.Always (fun s a => DevSystem.step s config a) (fun s a => s.Agrees config a) {} steps :=
  Run.always_of_guarded (Inv config) (fun _ a hs hcareful => hs.step a hcareful)
    (fun _ a hs hcareful => hs.agrees a hcareful) Inv.initial h

/-! ## A run of either kind -/

/-- A thread without others, and with no order left: nothing can go wrong with its look-up, nor with
    its rejection before a task is known. -/
theorem carefulThread_only {a : DevAgent} {orders : List DevOrder} (hthreads : a.threads.length ≤ 1)
    (horders : orders.isEmpty = true)
    (hknown : (a.known.isEmpty || a.threads[0]?.all (fun th =>
      decide (th.phase ≠ .received) && decide (th.phase ≠ .checked))) = true) :
    ∀ th ∈ a.threads[0]?, a.CarefulThread config orders 0 th := by
  have hother : ∀ j, j ≠ 0 → a.threads[j]? = none := by
    intro j hj
    apply List.getElem?_eq_none
    omega
  have hnone : orders = [] := List.isEmpty_iff.1 horders
  intro th hth
  refine ⟨?_, ?_⟩
  · intro _ _ j th' hj hth'
    rw [hother j hj] at hth'
    exact absurd hth' (by simp)
  · intro hrejects
    have hempty : a.known = [] := by
      rcases Bool.or_eq_true_iff.1 hknown with hempty | hphase
      · exact List.isEmpty_iff.1 hempty
      · rw [Option.mem_def.1 hth, Option.all_some, Bool.and_eq_true, decide_eq_true_eq,
          decide_eq_true_eq] at hphase
        rcases hrejects with ⟨hreceived, -⟩ | ⟨hchecked, -⟩
        · exact absurd hreceived hphase.1
        · exact absurd hchecked hphase.2
    refine ⟨by simp [hempty], ?_, ?_⟩
    · rintro ⟨-, t, ht, -⟩
      rw [hnone] at ht
      exact absurd ht (by simp)
    · rintro j hj ⟨th', hth', -⟩
      rw [hother j hj] at hth'
      exact absurd hth' (by simp)

theorem not_isTerminal_of_all {id : Uuid}
    (h : s.center.tasks.all (fun t => !t.status.isTerminal) = true) : ¬ s.IsTerminal id := by
  rintro ⟨t, ht, hterminal⟩
  have hnot := List.all_eq_true.1 h t (Rows.get?_mem DevelopmentTask.id ht)
  rw [hterminal] at hnot
  exact absurd hnot (by decide)

theorem not_mem_of_isEmpty {α : Type} {l : List α} (h : l.isEmpty = true) (x : α) : x ∉ l := by
  rw [List.isEmpty_iff.1 h]
  exact List.not_mem_nil

def oneWorkspace : DevAgentConfig where
  texts := default
  workspaces := [("robot-main", "/work")]

/-- The order `检查导航`. -/
def inspection : DevelopmentTask where
  id := 0
  robot := "R1"
  workspace := "robot-main"
  prompt := "检查导航"
  createdAt := 0

/-- The inspection is published, run and reported. -/
def inspected : List DevStep :=
  [.create inspection, .readPending 0, .publishTask, .savePublished, .order 0 false 0,
    .thread 0 0 .advance, .thread 0 0 .advance, .thread 0 0 .advance, .thread 0 0 .advance,
    .thread 0 0 .advance, .thread 0 0 (.finish (.exited 0) "" ""), .thread 0 0 .advance,
    .report 0 false 0, .report 0 false 0, .report 0 false 0]

theorem agrees_inspected :
    Run.Always (fun s a => DevSystem.step s oneWorkspace a) (fun s a => s.Agrees oneWorkspace a) {}
        inspected ∧
      (DevSystem.run {} oneWorkspace inspected).agent.runs = [.first 0] := by
  refine ⟨agrees_of_careful oneWorkspace inspected ?_, by decide⟩
  refine ⟨trivial, trivial, ?_, ?_, trivial, ?_, ?_, ?_, ?_, ?_, trivial, ?_, ?_, ?_, ?_, trivial⟩
  · rintro - t -
    refine .inr fun _ => ⟨?_, fun hrun => ?_⟩
    · rintro (hterminal | ⟨r, hr, -⟩)
      · exact not_isTerminal_of_all (by decide) hterminal
      · exact absurd hr (not_mem_of_isEmpty (by decide) _)
    · exact absurd hrun (not_mem_of_isEmpty (by decide) _)
  · intro t _
    exact not_isTerminal_of_all (by decide)
  · exact carefulThread_only (by decide) (by decide) (by decide)
  · exact carefulThread_only (by decide) (by decide) (by decide)
  · exact carefulThread_only (by decide) (by decide) (by decide)
  · exact carefulThread_only (by decide) (by decide) (by decide)
  · exact carefulThread_only (by decide) (by decide) (by decide)
  · exact carefulThread_only (by decide) (by decide) (by decide)
  · intro h
    exact absurd h (by decide)
  · intro h
    exact absurd h (by decide)
  · intro h
    exact absurd h (by decide)

/-- The housekeeping thread reads a row as created; the operator cancels it; then the message goes out
    and the row is saved as published. -/
def publishedAfterCancel : List DevStep :=
  [.create inspection, .readPending 0, .readCancel 0, .saveCancel 0 1, .publishTask, .savePublished]

/-- The cancelled task becomes active again. -/
theorem not_agrees_publishedAfterCancel :
    ¬ Run.Always (fun s a => DevSystem.step s oneWorkspace a) (fun s a => s.Agrees oneWorkspace a) {}
      publishedAfterCancel := by
  rintro ⟨-, -, -, -, -, hsave, -⟩
  obtain ⟨t, ht, hterminal⟩ := hsave.terminal 0 ⟨_, rfl, rfl⟩
  obtain rfl := Option.some.inj ht
  exact absurd hterminal (by decide)

end DevSystem

end RoamerX
