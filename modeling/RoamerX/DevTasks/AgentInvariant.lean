import RoamerX.DevTasks.Agent

set_option autoImplicit false

/-! # Orders that may start

An order *may start* while a copy of it can still get past the agent's look-up of the known tasks, or
has got past it and its process is not yet started. The invariant: no order of a closed task may
start, nor does its process run, and no order of a task that has been run may start. A thread keeps it
unless it gets past the look-up, or is rejected, beside another copy of its order. -/

namespace RoamerX

variable {config : DevAgentConfig}

/-! ## Orders that may start -/

/-- The agent can parse the message of the row, and has its workspace. -/
def IsStartable (config : DevAgentConfig) (t : DevelopmentTask) : Prop :=
  ∃ request, DevTaskRequest.parse config.texts (devTaskMessage config.texts t) = .ok request ∧
    (config.workspaces.lookup request.workspace).isNone = false

namespace DevAgent

/-- A copy of the order of `id` on its way to the agent, which does not know the task. -/
def OrderMayStart (config : DevAgentConfig) (a : DevAgent) (orders : List DevOrder) (id : Uuid) : Prop :=
  id ∉ a.known ∧ ∃ t, DevOrder.task t ∈ orders ∧ t.id = id ∧ IsStartable config t

/-- The thread at `i` can still start a process for `id`. -/
def ThreadMayStart (config : DevAgentConfig) (a : DevAgent) (i : ℕ) (id : Uuid) : Prop :=
  ∃ th, a.threads[i]? = some th ∧ th.task.id = id ∧
    (th.phase.isOpen = true ∨ (th.phase = .received ∧ IsStartable config th.task ∧ id ∉ a.known))

def MayStart (config : DevAgentConfig) (a : DevAgent) (orders : List DevOrder) (id : Uuid) : Prop :=
  a.OrderMayStart config orders id ∨ ∃ i, a.ThreadMayStart config i id

/-- An order of `id` may start, or its process runs. -/
def Engaged (config : DevAgentConfig) (a : DevAgent) (orders : List DevOrder) (id : Uuid) : Prop :=
  a.MayStart config orders id ∨ a.process = some id

/-- No thread but the one at `i` is past the look-up for the task `id`. -/
def AloneOpen (a : DevAgent) (i : ℕ) (id : Uuid) : Prop :=
  ∀ (j : ℕ) (th : DevThread), j ≠ i → a.threads[j]? = some th → th.task.id = id →
    th.phase.isOpen = false

/-- The phases in which the process of the thread runs. -/
def IsRunning (phase : DevPhase) : Prop := phase = .running ∨ phase = .retrying

/-- What holds at the agent, where `closed` are the tasks that the center has closed or is told to
    close. -/
structure Inv (config : DevAgentConfig) (orders : List DevOrder) (closed : Uuid → Prop)
    (a : DevAgent) : Prop where
  closed : ∀ id, closed id → ¬ a.Engaged config orders id
  run : ∀ id, .first id ∈ a.runs → ¬ a.MayStart config orders id
  once : ∀ id, a.runs.count (.first id) ≤ 1
  process : ∀ id, a.process = some id → .first id ∈ a.runs ∧ id ∈ a.known
  running : ∀ (i : ℕ) (th : DevThread), a.threads[i]? = some th → IsRunning th.phase →
    a.process = some th.task.id
  oneRunning : ∀ (i j : ℕ) (th th' : DevThread), a.threads[i]? = some th → a.threads[j]? = some th' →
    IsRunning th.phase → IsRunning th'.phase → i = j
  known : ∀ (i : ℕ) (th : DevThread), a.threads[i]? = some th →
    th.phase = .stored ∨ th.phase = .announced → th.task.id ∈ a.known
  single : ∀ (i : ℕ) (th : DevThread), a.threads[i]? = some th → th.phase.isOpen = true →
    a.AloneOpen i th.task.id

variable {a : DevAgent} {orders orders' : List DevOrder} {closed closed' : Uuid → Prop}

theorem Inv.initial (hclosed : ∀ id, ¬ closed id) : Inv config [] closed {} where
  closed := fun id h => absurd h (hclosed id)
  run := by simp
  once := by simp
  process := by simp
  running := by simp
  oneRunning := by simp
  known := by simp
  single := by simp

/-! ## What the broker and the center do -/

theorem Inv.weaken (h : Inv config orders closed a) (horders : ∀ m ∈ orders', m ∈ orders)
    (hclosed : ∀ id, closed' id → closed id ∨ ¬ a.Engaged config orders' id) :
    Inv config orders' closed' a := by
  have hmay : ∀ id, a.MayStart config orders' id → a.MayStart config orders id := by
    rintro id (⟨hknown, t, ht, hid, hstartable⟩ | hthread)
    · exact .inl ⟨hknown, t, horders _ ht, hid, hstartable⟩
    · exact .inr hthread
  refine ⟨?_, fun id hid hid' => h.run id hid (hmay id hid'), h.once, h.process, h.running,
    h.oneRunning, h.known, h.single⟩
  intro id hid hengaged
  rcases hclosed id hid with hold | hnot
  · refine h.closed id hold ?_
    rcases hengaged with hm | hp
    · exact .inl (hmay id hm)
    · exact .inr hp
  · exact hnot hengaged

theorem Inv.send (h : Inv config orders closed a) {t : DevelopmentTask}
    (hcareful : IsStartable config t → t.id ∈ a.known ∨ (¬ closed t.id ∧ .first t.id ∉ a.runs)) :
    Inv config (orders ++ [.task t]) closed a := by
  -- a copy that was not there before is one of `t`
  have hmay : ∀ id, a.MayStart config (orders ++ [.task t]) id →
      a.MayStart config orders id ∨ (id = t.id ∧ ¬ closed id ∧ .first id ∉ a.runs) := by
    rintro id (⟨hknown, t', ht', hid, hstartable⟩ | hthread)
    · rcases List.mem_append.1 ht' with hold | hnew
      · exact .inl (.inl ⟨hknown, t', hold, hid, hstartable⟩)
      · obtain rfl : t' = t := by simpa using hnew
        subst hid
        exact .inr ⟨rfl, (hcareful hstartable).resolve_left hknown⟩
    · exact .inl (.inr hthread)
  refine ⟨?_, ?_, h.once, h.process, h.running, h.oneRunning, h.known, h.single⟩
  · rintro id hid (hm | hp)
    · rcases hmay id hm with hold | ⟨-, hnot, -⟩
      · exact h.closed id hid (.inl hold)
      · exact hnot hid
    · exact h.closed id hid (.inr hp)
  · intro id hid hm
    rcases hmay id hm with hold | ⟨-, -, hnot⟩
    · exact h.run id hid hold
    · exact hnot hid

theorem Inv.sendCancel (h : Inv config orders closed a) (id : Uuid) :
    Inv config (orders ++ [.cancel id]) closed a := by
  have hmay : ∀ k, a.MayStart config (orders ++ [.cancel id]) k → a.MayStart config orders k := by
    rintro k (⟨hknown, t, ht, hid, hstartable⟩ | hthread)
    · have hold : DevOrder.task t ∈ orders := by simpa using ht
      exact .inl ⟨hknown, t, hold, hid, hstartable⟩
    · exact .inr hthread
  refine ⟨?_, fun k hk hm => h.run k hk (hmay k hm), h.once, h.process, h.running, h.oneRunning,
    h.known, h.single⟩
  rintro k hk (hm | hp)
  · exact h.closed k hk (.inl (hmay k hm))
  · exact h.closed k hk (.inr hp)

theorem Inv.receive (h : Inv config orders closed a) {t : DevelopmentTask}
    (ht : DevOrder.task t ∈ orders) :
    Inv config orders closed { a with threads := a.threads ++ [{ task := t }] } := by
  have hold : ∀ (j : ℕ) th, (a.threads ++ [{ task := t }])[j]? = some th →
      th.phase ≠ .received → a.threads[j]? = some th := by
    intro j th hj hphase
    rw [List.getElem?_append] at hj
    split at hj
    · exact hj
    · have hmem := List.mem_of_getElem? hj
      obtain rfl : th = { task := t } := by simpa using hmem
      exact absurd rfl hphase
  have hmay : ∀ id, DevAgent.MayStart config { a with threads := a.threads ++ [{ task := t }] } orders id →
      a.MayStart config orders id := by
    rintro id (hnet | ⟨j, th, hj, hid, hcan⟩)
    · exact .inl hnet
    · dsimp only at hj hcan
      rw [List.getElem?_append] at hj
      split at hj
      · exact .inr ⟨j, th, hj, hid, hcan⟩
      · have hmem := List.mem_of_getElem? hj
        obtain rfl : th = { task := t } := by simpa using hmem
        rcases hcan with hopen | ⟨-, hstartable, hknown⟩
        · exact absurd hopen (by simp [DevPhase.isOpen])
        · exact .inl ⟨hknown, t, ht, hid, hstartable⟩
  have hopen : ∀ phase : DevPhase, phase.isOpen = true → phase ≠ .received := by
    rintro phase h rfl
    exact absurd h (by decide)
  have hrunning : ∀ phase : DevPhase, IsRunning phase → phase ≠ .received := by
    rintro phase (rfl | rfl)
    · decide
    · decide
  refine ⟨?_, fun id hid hm => h.run id hid (hmay id hm), h.once, h.process, ?_, ?_, ?_, ?_⟩
  · rintro id hid (hm | hp)
    · exact h.closed id hid (.inl (hmay id hm))
    · exact h.closed id hid (.inr hp)
  · intro i th hi hrun
    exact h.running i th (hold i th hi (hrunning _ hrun)) hrun
  · intro i j th th' hi hj hrun hrun'
    exact h.oneRunning i j th th' (hold i th hi (hrunning _ hrun)) (hold j th' hj (hrunning _ hrun'))
      hrun hrun'
  · intro i th hi hphase
    refine h.known i th (hold i th hi ?_) hphase
    rintro hreceived
    rw [hreceived] at hphase
    exact absurd hphase (by decide)
  · intro i th hi hopen' j th' hj hj' hid
    by_cases hphase : th'.phase.isOpen = true
    · have hopenj := hold j th' hj' (hopen _ hphase)
      rw [h.single i th (hold i th hi (hopen _ hopen')) hopen' j th' hj hopenj hid] at hphase
      exact absurd hphase (by decide)
    · exact Bool.eq_false_iff.2 hphase

theorem Inv.of_flags (h : Inv config orders closed a) (cancelRequested startupPresencePending : Bool) :
    Inv config orders closed
      { a with
        cancelRequested := cancelRequested
        startupPresencePending := startupPresencePending } :=
  ⟨h.closed, h.run, h.once, h.process, h.running, h.oneRunning, h.known, h.single⟩

theorem Inv.restart (h : Inv config orders closed a)
    (hcareful : ∀ t, DevOrder.task t ∈ orders → IsStartable config t →
      ¬ closed t.id ∧ .first t.id ∉ a.runs) :
    Inv config orders closed a.restart := by
  have hmay : ∀ id, a.restart.MayStart config orders id → ¬ closed id ∧ .first id ∉ a.runs := by
    rintro id (⟨-, t, ht, rfl, hstartable⟩ | ⟨j, th, hj, -⟩)
    · exact hcareful t ht hstartable
    · exact absurd hj (by simp [DevAgent.restart])
  refine ⟨?_, fun id hid hm => (hmay id hm).2 hid, h.once, ?_, ?_, ?_, ?_, ?_⟩
  · rintro id hid (hm | hp)
    · exact (hmay id hm).1 hid
    · exact absurd hp (by simp [DevAgent.restart])
  · simp [DevAgent.restart]
  · simp [DevAgent.restart]
  · simp [DevAgent.restart]
  · simp [DevAgent.restart]
  · simp [DevAgent.restart]

/-! ## What a thread does -/

section Moves

variable {i : ℕ} {th : DevThread} {phase : DevPhase} {a' : DevAgent}

theorem threads_setPhase {j : ℕ} {th' : DevThread} (h : (a.setPhase i th phase).threads[j]? = some th') :
    (j = i ∧ th' = { th with phase := phase }) ∨ (j ≠ i ∧ a.threads[j]? = some th') := by
  rw [setPhase, List.getElem?_set] at h
  split_ifs at h with hij hlt
  · exact .inl ⟨hij.symm, (Option.some.inj h).symm⟩
  · exact .inr ⟨fun h' => hij h'.symm, h⟩

/-- A thread went to a phase; what is known is kept, and the thread is past the look-up only if it
    could come to be. -/
structure Moved (config : DevAgentConfig) (a : DevAgent) (i : ℕ) (th : DevThread) (phase : DevPhase)
    (a' : DevAgent) : Prop where
  at_ : a.threads[i]? = some th
  threads : a'.threads = (a.setPhase i th phase).threads
  known : ∀ id ∈ a.known, id ∈ a'.known
  started : phase ≠ .received
  opened : phase.isOpen = true → a.ThreadMayStart config i th.task.id

theorem Moved.cases (hm : Moved config a i th phase a') {j : ℕ} {th' : DevThread}
    (h : a'.threads[j]? = some th') :
    (j = i ∧ th' = { th with phase := phase }) ∨ (j ≠ i ∧ a.threads[j]? = some th') := by
  rw [hm.threads] at h
  exact threads_setPhase h

theorem Moved.mayStart (hm : Moved config a i th phase a') {id : Uuid}
    (h : a'.MayStart config orders id) : a.MayStart config orders id := by
  rcases h with ⟨hknown, t, ht, hid, hstartable⟩ | ⟨j, th', hj, rfl, hcan⟩
  · exact .inl ⟨fun hk => hknown (hm.known id hk), t, ht, hid, hstartable⟩
  · rcases hm.cases hj with ⟨rfl, rfl⟩ | ⟨-, hjs⟩
    · rcases hcan with hopen | ⟨hreceived, -, -⟩
      · exact .inr ⟨j, hm.opened hopen⟩
      · exact absurd hreceived hm.started
    · refine .inr ⟨j, th', hjs, rfl, ?_⟩
      rcases hcan with hopen | ⟨hreceived, hstartable, hknown⟩
      · exact .inl hopen
      · exact .inr ⟨hreceived, hstartable, fun hk => hknown (hm.known _ hk)⟩

/-- A thread that is alone past the look-up, and leaves for a task that is known, leaves no order of
    it that may start. -/
theorem Moved.not_mayStart (hm : Moved config a i th phase a') (hphase : phase.isOpen = false)
    (halone : a.AloneOpen i th.task.id) (hknown : th.task.id ∈ a'.known) :
    ¬ a'.MayStart config orders th.task.id := by
  rintro (⟨hnot, -⟩ | ⟨j, th', hj, hid, hcan⟩)
  · exact hnot hknown
  · rcases hcan with hopen | ⟨-, -, hnot⟩
    · rcases hm.cases hj with ⟨rfl, rfl⟩ | ⟨hne, hjs⟩
      · rw [hphase] at hopen
        exact absurd hopen (by decide)
      · rw [halone j th' hne hjs hid] at hopen
        exact absurd hopen (by decide)
    · exact hnot hknown

theorem Moved.single (hm : Moved config a i th phase a')
    (hsingle : ∀ (j : ℕ) (th' : DevThread), a.threads[j]? = some th' → th'.phase.isOpen = true →
      a.AloneOpen j th'.task.id)
    (halone : phase.isOpen = true → a.AloneOpen i th.task.id) {j : ℕ} {th' : DevThread}
    (hj : a'.threads[j]? = some th') (hopen : th'.phase.isOpen = true) :
    a'.AloneOpen j th'.task.id := by
  intro k th'' hkj hk hid
  rcases hm.cases hj with ⟨rfl, rfl⟩ | ⟨hne, hjs⟩
  · rcases hm.cases hk with ⟨rfl, -⟩ | ⟨-, hks⟩
    · exact absurd rfl hkj
    · exact halone hopen k th'' hkj hks hid
  · rcases hm.cases hk with ⟨rfl, rfl⟩ | ⟨-, hks⟩
    · by_contra hopen'
      have halone' := halone (by simpa using hopen') j th' hne hjs hid.symm
      rw [halone'] at hopen
      exact absurd hopen (by decide)
    · exact hsingle j th' hjs hopen k th'' hkj hks hid

/-- **A move that starts and ends no process.** The task it closes, if any, is one no order of which
    may start. -/
theorem Inv.move (h : Inv config orders closed a) (hm : Moved config a i th phase a')
    (hruns : a'.runs = a.runs) (hprocess : a'.process = a.process) (hphase : ¬ IsRunning phase)
    (hknown : phase = .stored ∨ phase = .announced → th.task.id ∈ a'.known)
    (halone : phase.isOpen = true → a.AloneOpen i th.task.id)
    (hclosed : ∀ id, closed' id → closed id ∨
      (id = th.task.id ∧ ¬ a'.MayStart config orders id ∧ a.process ≠ some id)) :
    Inv config orders closed' a' := by
  refine ⟨?_, ?_, ?_, ?_, ?_, ?_, ?_, fun j th' hj hopen => hm.single h.single halone hj hopen⟩
  · rintro id hid hengaged
    rcases hclosed id hid with hold | ⟨-, hmay, hp⟩
    · apply h.closed id hold
      rcases hengaged with hm' | hp
      · exact .inl (hm.mayStart hm')
      · exact .inr (hprocess ▸ hp)
    · rcases hengaged with hm' | hp'
      · exact hmay hm'
      · exact hp (hprocess ▸ hp')
  · intro id hid hm'
    rw [hruns] at hid
    exact h.run id hid (hm.mayStart hm')
  · intro id
    rw [hruns]
    exact h.once id
  · intro id hid
    rw [hprocess] at hid
    rw [hruns]
    exact ⟨(h.process id hid).1, hm.known id (h.process id hid).2⟩
  · intro j th' hj hrun
    rw [hprocess]
    rcases hm.cases hj with ⟨-, rfl⟩ | ⟨-, hjs⟩
    · exact absurd hrun hphase
    · exact h.running j th' hjs hrun
  · intro j k th' th'' hj hk hrun hrun'
    rcases hm.cases hj with ⟨-, rfl⟩ | ⟨-, hjs⟩
    · exact absurd hrun hphase
    · rcases hm.cases hk with ⟨-, rfl⟩ | ⟨-, hks⟩
      · exact absurd hrun' hphase
      · exact h.oneRunning j k th' th'' hjs hks hrun hrun'
  · intro j th' hj hstored
    rcases hm.cases hj with ⟨-, rfl⟩ | ⟨-, hjs⟩
    · exact hknown hstored
    · exact hm.known _ (h.known j th' hjs hstored)

end Moves

/-- The tasks that are closed once the reports have arrived as well. -/
def ClosedBy (closed : Uuid → Prop) (reports : List DevReport) (id : Uuid) : Prop :=
  closed id ∨ ∃ r : DevResult, .result r ∈ reports ∧ r.taskId = id

/-- The thread is about to publish `rejected`. -/
def Rejects (config : DevAgentConfig) (a : DevAgent) (th : DevThread) : Prop :=
  (th.phase = .received ∧ ¬ IsStartable config th.task) ∨ (th.phase = .checked ∧ a.lock = true)

/-- The thread at `i` handles the only order of its task that may start: what makes its look-up of
    the known tasks, or its rejection, safe. -/
structure CarefulThread (config : DevAgentConfig) (a : DevAgent) (orders : List DevOrder) (i : ℕ)
    (th : DevThread) : Prop where
  /-- No other thread of the task is past the look-up. -/
  check : th.phase = .received → th.task.id ∉ a.known → a.AloneOpen i th.task.id
  /-- What is rejected is not known, and no other copy of it may start. -/
  reject : a.Rejects config th → th.task.id ∉ a.known ∧ ¬ a.OrderMayStart config orders th.task.id ∧
    ∀ j, j ≠ i → ¬ a.ThreadMayStart config j th.task.id

section Thread

variable {i : ℕ} {th : DevThread}

theorem closedBy_nil {id : Uuid} (h : ClosedBy closed [] id) : closed id := by
  rcases h with h | ⟨r, hr, -⟩
  · exact h
  · exact absurd hr (by simp)

theorem Inv.of_open (h : Inv config orders closed a) (hi : a.threads[i]? = some th)
    (hopen : th.phase.isOpen = true) :
    .first th.task.id ∉ a.runs ∧ a.process ≠ some th.task.id := by
  have hmay : a.MayStart config orders th.task.id := .inr ⟨i, th, hi, rfl, .inl hopen⟩
  refine ⟨fun hrun => h.run _ hrun hmay, fun hp => ?_⟩
  exact h.run _ (h.process _ hp).1 hmay

theorem Moved.of_open (hi : a.threads[i]? = some th) (hopen : th.phase.isOpen = true) {phase : DevPhase}
    (hphase : phase ≠ .received) {a' : DevAgent} (hthreads : a'.threads = (a.setPhase i th phase).threads)
    (hknown : ∀ id ∈ a.known, id ∈ a'.known) : Moved config a i th phase a' :=
  ⟨hi, hthreads, hknown, hphase, fun _ => ⟨th, hi, rfl, .inl hopen⟩⟩

theorem Inv.reject (h : Inv config orders closed a) (hi : a.threads[i]? = some th) (now : ℕ)
    (error : String) (hcareful : th.task.id ∉ a.known ∧ ¬ a.OrderMayStart config orders th.task.id ∧
      ∀ j, j ≠ i → ¬ a.ThreadMayStart config j th.task.id) :
    Inv config orders (ClosedBy closed (a.reject i th now error).2) (a.reject i th now error).1 := by
  obtain ⟨hknown, horder, hother⟩ := hcareful
  have hm : Moved config a i th .ended (a.setPhase i th .ended) :=
    ⟨hi, rfl, fun _ hid => hid, by decide, fun hopen => absurd hopen (by decide)⟩
  refine h.move hm rfl rfl (by simp [IsRunning]) (by simp) (by simp [DevPhase.isOpen]) ?_
  rintro id (hid | ⟨r, hr, rfl⟩)
  · exact .inl hid
  · obtain rfl : r = _ := by simpa [DevAgent.reject, resultOf] using hr
    refine .inr ⟨rfl, ?_, fun hp => hknown (h.process _ hp).2⟩
    rintro (hnet | ⟨j, th', hj, hid, hcan⟩)
    · exact horder hnet
    · rcases hm.cases hj with ⟨rfl, rfl⟩ | ⟨hne, hjs⟩
      · rcases hcan with hopen | ⟨hreceived, -⟩
        · exact absurd hopen (by simp [DevPhase.isOpen])
        · exact absurd hreceived (by simp)
      · exact hother j hne ⟨th', hjs, hid, hcan⟩

theorem Inv.check (h : Inv config orders closed a) (hi : a.threads[i]? = some th)
    (hphase : th.phase = .received) (hcareful : CarefulThread config a orders i th) (now : ℕ) :
    Inv config orders (ClosedBy closed (a.check config i th now).2) (a.check config i th now).1 := by
  rw [DevAgent.check]
  cases hparse : DevTaskRequest.parse config.texts (devTaskMessage config.texts th.task) with
  | error error =>
    refine h.reject hi now error (hcareful.reject (.inl ⟨hphase, ?_⟩))
    rintro ⟨request, hok, -⟩
    rw [hparse] at hok
    exact absurd hok (by simp)
  | ok request =>
    dsimp only
    by_cases hknown : th.task.id ∈ a.known
    · rw [if_pos hknown]
      have hm : Moved config a i th .ended (a.setPhase i th .ended) :=
        ⟨hi, rfl, fun _ hid => hid, by decide, fun hopen => absurd hopen (by decide)⟩
      refine h.move hm rfl rfl (by simp [IsRunning]) (by simp) (by simp [DevPhase.isOpen]) ?_
      rintro id (hid | ⟨r, hr, -⟩)
      · exact .inl hid
      · exact absurd hr (by simp)
    · rw [if_neg hknown]
      cases hworkspace : (config.workspaces.lookup request.workspace).isNone with
      | true =>
        rw [if_pos rfl]
        refine h.reject hi now _ (hcareful.reject (.inl ⟨hphase, ?_⟩))
        rintro ⟨request', hok, hsome⟩
        obtain rfl : request = request' := Except.ok.inj (hparse.symm.trans hok)
        rw [hworkspace] at hsome
        exact absurd hsome (by decide)
      | false =>
        rw [if_neg (by decide)]
        have hm : Moved config a i th .checked (a.setPhase i th .checked) :=
          ⟨hi, rfl, fun _ hid => hid, by decide,
            fun _ => ⟨th, hi, rfl, .inr ⟨hphase, ⟨request, hparse, hworkspace⟩, hknown⟩⟩⟩
        refine h.move hm rfl rfl (by simp [IsRunning]) (by simp) (fun _ => hcareful.check hphase hknown) ?_
        intro id hid
        exact .inl (closedBy_nil hid)

theorem Inv.acquire (h : Inv config orders closed a) (hi : a.threads[i]? = some th)
    (hphase : th.phase = .checked) (hcareful : CarefulThread config a orders i th) (now : ℕ) :
    Inv config orders (ClosedBy closed (a.acquire i th now).2) (a.acquire i th now).1 := by
  rw [DevAgent.acquire]
  by_cases hlock : a.lock = true
  · rw [if_pos hlock]
    exact h.reject hi now _ (hcareful.reject (.inr ⟨hphase, hlock⟩))
  · rw [if_neg hlock]
    have hopen : th.phase.isOpen = true := by rw [hphase]; rfl
    have hm : Moved config a i th .locked { a.setPhase i th .locked with lock := true } :=
      Moved.of_open hi hopen (by decide) rfl fun _ hid => hid
    refine h.move hm rfl rfl (by simp [IsRunning]) (by simp) (fun _ => h.single i th hi hopen) ?_
    intro id hid
    exact .inl (closedBy_nil hid)

theorem Inv.store (h : Inv config orders closed a) (hi : a.threads[i]? = some th)
    (hphase : th.phase = .locked) :
    Inv config orders (ClosedBy closed (a.store i th).2) (a.store i th).1 := by
  have hopen : th.phase.isOpen = true := by rw [hphase]; rfl
  have hknown : ∀ id ∈ a.known, id ∈ (a.store i th).1.known := fun id hid => List.mem_cons_of_mem _ hid
  have hm : Moved config a i th .stored (a.store i th).1 :=
    Moved.of_open hi hopen (by decide) rfl hknown
  refine h.move hm rfl rfl (by simp [IsRunning]) (fun _ => List.mem_cons_self)
    (fun _ => h.single i th hi hopen) ?_
  intro id hid
  exact .inl (closedBy_nil hid)

theorem Inv.announce (h : Inv config orders closed a) (hi : a.threads[i]? = some th)
    (hphase : th.phase = .stored) (now : ℕ) :
    Inv config orders (ClosedBy closed (a.announce i th now).2) (a.announce i th now).1 := by
  have hopen : th.phase.isOpen = true := by rw [hphase]; rfl
  have hm : Moved config a i th .announced (a.announce i th now).1 :=
    Moved.of_open hi hopen (by decide) rfl fun _ hid => hid
  refine h.move hm rfl rfl (by simp [IsRunning]) (fun _ => h.known i th hi (.inl hphase))
    (fun _ => h.single i th hi hopen) ?_
  rintro id (hid | ⟨r, hr, -⟩)
  · exact .inl hid
  · exact absurd hr (by simp [DevAgent.announce])

theorem Inv.fail (h : Inv config orders closed a) (hi : a.threads[i]? = some th)
    (hphase : th.phase = .stored ∨ th.phase = .announced) (now : ℕ) (error : String) :
    Inv config orders (ClosedBy closed (a.fail i th now error).2) (a.fail i th now error).1 := by
  have hopen : th.phase.isOpen = true := by
    rcases hphase with hphase | hphase
    · rw [hphase]; rfl
    · rw [hphase]; rfl
  have hm : Moved config a i th .finished (a.fail i th now error).1 :=
    Moved.of_open hi hopen (by decide) rfl fun _ hid => hid
  refine h.move hm rfl rfl (by simp [IsRunning]) (by simp) (by simp [DevPhase.isOpen]) ?_
  rintro id (hid | ⟨r, hr, rfl⟩)
  · exact .inl hid
  · obtain rfl : r = _ := by simpa [DevAgent.fail, resultOf] using hr
    refine .inr ⟨rfl, ?_, (h.of_open hi hopen).2⟩
    exact hm.not_mayStart rfl (h.single i th hi hopen) (h.known i th hi hphase)

theorem Inv.release (h : Inv config orders closed a) (hi : a.threads[i]? = some th) :
    Inv config orders (ClosedBy closed (a.release i th).2) (a.release i th).1 := by
  have hm : Moved config a i th .ended (a.release i th).1 :=
    ⟨hi, rfl, fun _ hid => hid, by decide, fun hopen => absurd hopen (by decide)⟩
  refine h.move hm rfl rfl (by simp [IsRunning]) (by simp) (by simp [DevPhase.isOpen]) ?_
  intro id hid
  exact .inl (closedBy_nil hid)

theorem moved_start (hi : a.threads[i]? = some th) (hphase : th.phase = .announced) (now : ℕ) :
    Moved config a i th (if a.process.isSome then .finished else .running) (a.start i th now).1 := by
  have hopen : th.phase.isOpen = true := by rw [hphase]; rfl
  rw [DevAgent.start]
  split_ifs
  · exact Moved.of_open hi hopen (by decide) rfl fun _ hid => hid
  · exact Moved.of_open hi hopen (by decide) rfl fun _ hid => hid

theorem start_runs (now : ℕ) : (a.start i th now).1.runs = .first th.task.id :: a.runs := by
  rw [DevAgent.start]
  split_ifs
  · rfl
  · rfl

theorem start_known (now : ℕ) : (a.start i th now).1.known = a.known := by
  rw [DevAgent.start]
  split_ifs
  · rfl
  · rfl

theorem start_process {now : ℕ} {id : Uuid} (h : (a.start i th now).1.process = some id) :
    a.process = some id ∨ (a.process = none ∧ id = th.task.id) := by
  rw [DevAgent.start] at h
  split_ifs at h with hsome
  · exact .inl h
  · exact .inr ⟨by simpa using hsome, (Option.some.inj h).symm⟩

theorem Inv.start (h : Inv config orders closed a) (hi : a.threads[i]? = some th)
    (hphase : th.phase = .announced) (now : ℕ) :
    Inv config orders (ClosedBy closed (a.start i th now).2) (a.start i th now).1 := by
  have hopen : th.phase.isOpen = true := by rw [hphase]; rfl
  have hmay : a.MayStart config orders th.task.id := .inr ⟨i, th, hi, rfl, .inl hopen⟩
  obtain ⟨hfresh, hidle⟩ := h.of_open hi hopen
  have hknown : th.task.id ∈ a.known := h.known i th hi (.inr hphase)
  have hm : Moved config a i th (if a.process.isSome then .finished else .running) (a.start i th now).1 :=
    moved_start hi hphase now
  have hphase' : (if a.process.isSome then DevPhase.finished else .running).isOpen = false := by
    split_ifs
    · rfl
    · rfl
  have hgone : ¬ (a.start i th now).1.MayStart config orders th.task.id :=
    hm.not_mayStart hphase' (h.single i th hi hopen) (hm.known _ hknown)
  -- a process of another thread is the one of a thread that was running before
  have hrunning : ∀ (j : ℕ) (th' : DevThread), (a.start i th now).1.threads[j]? = some th' →
      IsRunning th'.phase → (j = i ∧ a.process = none ∧ th'.task = th.task) ∨
        (j ≠ i ∧ a.threads[j]? = some th') := by
    intro j th' hj hrun
    rcases hm.cases hj with ⟨rfl, rfl⟩ | hother
    · refine .inl ⟨rfl, ?_, rfl⟩
      by_contra hsome
      rw [if_pos (Option.isSome_iff_ne_none.2 hsome)] at hrun
      exact absurd hrun (by simp [IsRunning])
    · exact .inr hother
  refine ⟨?_, ?_, ?_, ?_, ?_, ?_, ?_, fun j th' hj ho => hm.single h.single
    (fun ho' => absurd ho' (by simp [hphase'])) hj ho⟩
  · rintro id (hid | ⟨r, hr, rfl⟩) hengaged
    · rcases hengaged with hm' | hp
      · exact h.closed id hid (.inl (hm.mayStart hm'))
      · rcases start_process hp with hp | ⟨-, rfl⟩
        · exact h.closed id hid (.inr hp)
        · exact h.closed _ hid (.inl hmay)
    · -- a result is published only where another process runs
      rw [DevAgent.start] at hr
      split_ifs at hr with hsome
      · obtain rfl : r = _ := by simpa [resultOf] using hr
        rcases hengaged with hm' | hp
        · exact hgone hm'
        · rcases start_process hp with hp | ⟨hnone, -⟩
          · exact hidle hp
          · rw [hnone] at hsome
            exact absurd hsome (by decide)
      · exact absurd hr (by simp)
  · intro id hid hm'
    rw [start_runs] at hid
    rcases List.mem_cons.1 hid with heq | hold
    · obtain rfl := CodexRun.first.inj heq
      exact hgone hm'
    · exact h.run id hold (hm.mayStart hm')
  · intro id
    rw [start_runs, List.count_cons]
    by_cases heq : id = th.task.id
    · subst heq
      rw [List.count_eq_zero.2 hfresh]
      simp
    · have hne : ¬ CodexRun.first th.task.id = CodexRun.first id := by
        intro h'
        exact heq (CodexRun.first.inj h').symm
      simpa [hne] using h.once id
  · intro id hp
    rw [start_runs, start_known]
    rcases start_process hp with hp | ⟨-, rfl⟩
    · exact ⟨List.mem_cons_of_mem _ (h.process id hp).1, (h.process id hp).2⟩
    · exact ⟨List.mem_cons_self, hknown⟩
  · intro j th' hj hrun
    rcases hrunning j th' hj hrun with ⟨-, hnone, htask⟩ | ⟨-, hjs⟩
    · rw [htask, DevAgent.start, if_neg (by simp [hnone])]
    · have hp := h.running j th' hjs hrun
      rw [DevAgent.start, if_pos (by simp [hp])]
      exact hp
  · intro j k th' th'' hj hk hrun hrun'
    rcases hrunning j th' hj hrun with ⟨rfl, hnone, -⟩ | ⟨-, hjs⟩
    · rcases hrunning k th'' hk hrun' with ⟨rfl, -⟩ | ⟨-, hks⟩
      · rfl
      · rw [h.running k th'' hks hrun'] at hnone
        exact absurd hnone (by simp)
    · rcases hrunning k th'' hk hrun' with ⟨-, hnone, -⟩ | ⟨-, hks⟩
      · rw [h.running j th' hjs hrun] at hnone
        exact absurd hnone (by simp)
      · exact h.oneRunning j k th' th'' hjs hks hrun hrun'
  · intro j th' hj hstored
    rw [start_known]
    rcases hm.cases hj with ⟨-, rfl⟩ | ⟨-, hjs⟩
    · exact hknown
    · exact h.known j th' hjs hstored

theorem Inv.retry (h : Inv config orders closed a) (hi : a.threads[i]? = some th)
    (hphase : th.phase = .running) (now : ℕ) :
    Inv config orders (ClosedBy closed (a.retry i th now).2) (a.retry i th now).1 := by
  rw [DevAgent.retry]
  by_cases hcancel : a.cancelRequested = true
  · rw [if_pos hcancel]
    exact h.weaken (fun _ hm => hm) (fun id hid => .inl (closedBy_nil hid))
  · rw [if_neg hcancel]
    have hp : a.process = some th.task.id := h.running i th hi (.inl hphase)
    have hm : Moved config a i th .retrying
        { a.setPhase i th .retrying with
          process := some th.task.id
          runs := .retry th.task.id :: a.runs } :=
      ⟨hi, rfl, fun _ hid => hid, by decide, fun hopen => absurd hopen (by decide)⟩
    -- the thread that retries is the one that was running
    have hold : ∀ (j : ℕ) (th' : DevThread),
        (a.setPhase i th .retrying).threads[j]? = some th' →
        IsRunning th'.phase → ∃ th'', a.threads[j]? = some th'' ∧ IsRunning th''.phase ∧
          th''.task = th'.task := by
      intro j th' hj hrun
      rcases threads_setPhase hj with ⟨rfl, rfl⟩ | ⟨-, hjs⟩
      · exact ⟨th, hi, .inl hphase, rfl⟩
      · exact ⟨th', hjs, hrun, rfl⟩
    refine ⟨?_, ?_, ?_, ?_, ?_, ?_, ?_, fun j th' hj ho => hm.single h.single
      (fun ho' => absurd ho' (by decide)) hj ho⟩
    · rintro id (hid | ⟨r, hr, -⟩) hengaged
      · rcases hengaged with hm' | hp'
        · exact h.closed id hid (.inl (hm.mayStart hm'))
        · exact h.closed id hid (.inr (hp.trans hp'))
      · exact absurd hr (by simp)
    · intro id hid hm'
      exact h.run id (by simpa using hid) (hm.mayStart hm')
    · intro id
      simpa using h.once id
    · intro id hp'
      obtain ⟨hrun, hknown⟩ := h.process id (hp.trans hp')
      exact ⟨List.mem_cons_of_mem _ hrun, hknown⟩
    · intro j th' hj hrun
      obtain ⟨th'', hjs, hrun', htask⟩ := hold j th' hj hrun
      rw [← htask, ← h.running j th'' hjs hrun']
      exact hp.symm
    · intro j k th' th'' hj hk hrun hrun'
      obtain ⟨x, hjs, hx, -⟩ := hold j th' hj hrun
      obtain ⟨y, hks, hy, -⟩ := hold k th'' hk hrun'
      exact h.oneRunning j k x y hjs hks hx hy
    · intro j th' hj hstored
      rcases hm.cases hj with ⟨-, rfl⟩ | ⟨-, hjs⟩
      · exact absurd hstored (by simp)
      · exact h.known j th' hjs hstored

theorem Inv.finish (h : Inv config orders closed a) (hi : a.threads[i]? = some th)
    (hphase : IsRunning th.phase) (now : ℕ) (ending : Ending) (lastMessage threadId : String) :
    Inv config orders (ClosedBy closed (a.finish i th now ending lastMessage threadId).2)
      (a.finish i th now ending lastMessage threadId).1 := by
  have hp : a.process = some th.task.id := h.running i th hi hphase
  have hm : Moved config a i th .finished (a.finish i th now ending lastMessage threadId).1 :=
    ⟨hi, rfl, fun _ hid => hid, by decide, fun hopen => absurd hopen (by decide)⟩
  -- the process that has ended was the only one
  have hnone : ∀ (j : ℕ) (th' : DevThread),
      (a.finish i th now ending lastMessage threadId).1.threads[j]? = some th' →
      ¬ IsRunning th'.phase := by
    intro j th' hj hrun
    rcases hm.cases hj with ⟨-, rfl⟩ | ⟨hne, hjs⟩
    · exact absurd hrun (by simp [IsRunning])
    · exact hne (h.oneRunning j i th' th hjs hi hrun hphase)
  refine ⟨?_, fun id hid hm' => h.run id hid (hm.mayStart hm'), h.once, ?_, ?_, ?_, ?_,
    fun j th' hj ho => hm.single h.single (fun ho' => absurd ho' (by decide)) hj ho⟩
  · rintro id (hid | ⟨r, hr, rfl⟩) hengaged
    · rcases hengaged with hm' | hp'
      · exact h.closed id hid (.inl (hm.mayStart hm'))
      · exact absurd hp' (by simp [DevAgent.finish])
    · obtain rfl : r = _ := by simpa [DevAgent.finish] using hr
      rcases hengaged with hm' | hp'
      · exact h.run _ (h.process _ hp).1 (hm.mayStart hm')
      · exact absurd hp' (by simp [DevAgent.finish])
  · intro id hp'
    exact absurd hp' (by simp [DevAgent.finish])
  · intro j th' hj hrun
    exact absurd hrun (hnone j th' hj)
  · intro j k th' th'' hj hk hrun
    exact absurd hrun (hnone j th' hj)
  · intro j th' hj hstored
    rcases hm.cases hj with ⟨-, rfl⟩ | ⟨-, hjs⟩
    · exact absurd hstored (by simp)
    · exact h.known j th' hjs hstored

/-- **A step of a thread.** -/
theorem Inv.stepThread (h : Inv config orders closed a) (hi : a.threads[i]? = some th) (now : ℕ)
    {move : Move} (hcareful : move = .advance → CarefulThread config a orders i th) :
    Inv config orders (ClosedBy closed (a.stepThread config i th now move).2)
      (a.stepThread config i th now move).1 := by
  have hnothing : Inv config orders (ClosedBy closed []) a :=
    h.weaken (fun _ hm => hm) (fun id hid => .inl (closedBy_nil hid))
  cases move with
  | advance =>
    cases hphase : th.phase <;> simp only [DevAgent.stepThread, hphase]
    case received => exact h.check hi hphase (hcareful rfl) now
    case checked => exact h.acquire hi hphase (hcareful rfl) now
    case locked => exact h.store hi hphase
    case stored => exact h.announce hi hphase now
    case announced => exact h.start hi hphase now
    case running => exact hnothing
    case retrying => exact hnothing
    case finished => exact h.release hi
    case ended => exact hnothing
  | fail error =>
    cases hphase : th.phase <;> simp only [DevAgent.stepThread, hphase]
    case stored => exact h.fail hi (.inl hphase) now error
    case announced => exact h.fail hi (.inr hphase) now error
    all_goals exact hnothing
  | retry =>
    cases hphase : th.phase <;> simp only [DevAgent.stepThread, hphase]
    case running => exact h.retry hi hphase now
    all_goals exact hnothing
  | finish ending lastMessage threadId =>
    cases hphase : th.phase <;> simp only [DevAgent.stepThread, hphase]
    case running => exact h.finish hi (.inl hphase) now ending lastMessage threadId
    case retrying => exact h.finish hi (.inr hphase) now ending lastMessage threadId
    all_goals exact hnothing

theorem Inv.runs_stepThread (h : Inv config orders closed a) (hi : a.threads[i]? = some th) (now : ℕ)
    (move : Move) :
    (a.stepThread config i th now move).1.runs = a.runs ∨
      ∃ r : CodexRun, (a.stepThread config i th now move).1.runs = r :: a.runs ∧
        a.Engaged config orders r.taskId := by
  cases move with
  | advance =>
    cases hphase : th.phase <;> simp only [DevAgent.stepThread, hphase]
    case received =>
      left
      rw [DevAgent.check]
      split
      · rfl
      · split_ifs
        · rfl
        · rfl
        · rfl
    case checked =>
      left
      rw [DevAgent.acquire]
      split_ifs
      · rfl
      · rfl
    case announced =>
      right
      have hopen : th.phase.isOpen = true := by rw [hphase]; rfl
      exact ⟨.first th.task.id, start_runs now, .inl (.inr ⟨i, th, hi, rfl, .inl hopen⟩)⟩
    all_goals left
    all_goals first | rfl | trivial
  | fail error =>
    left
    cases hphase : th.phase <;> simp only [DevAgent.stepThread, hphase]
    all_goals rfl
  | retry =>
    cases hphase : th.phase <;> simp only [DevAgent.stepThread, hphase]
    case running =>
      rw [DevAgent.retry]
      split_ifs
      · exact .inl rfl
      · right
        exact ⟨.retry th.task.id, rfl, .inr (h.running i th hi (.inl hphase))⟩
    all_goals left
    all_goals trivial
  | finish ending lastMessage threadId =>
    left
    cases hphase : th.phase <;> simp only [DevAgent.stepThread, hphase]
    all_goals rfl

end Thread

end DevAgent

end RoamerX
