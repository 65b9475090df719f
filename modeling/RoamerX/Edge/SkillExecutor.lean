import Mathlib.Logic.Function.Basic
import RoamerX.Edge.SkillThread
import RoamerX.Lib.Pool
import RoamerX.Lib.Run

set_option autoImplicit false

/-! # Remote skills, one at a time

`TeleopSkillExecutor`: a start registers a run and leaves the rest to its thread; calls and threads move in any order.
What is sent and reported is logged. -/

namespace RoamerX

namespace SkillExecutor

structure State where
  /-- The threads in the order of their starts. -/
  threads : List Thread := []
  runs : String → Option ℕ := fun _ => none
  activeId : Option String := none
  /-- What the threads did, oldest first, each with its number. -/
  log : List (ℕ × Entry) := []

namespace State

def run? (commandId : String) (s : State) : Option SkillRun :=
  (s.runs commandId).bind fun n => (s.threads[n]?).map (·.run)

/-- The run of the active id is still running. -/
def activeRunning (s : State) : Bool := (s.activeId.bind (s.run? ·)).any (·.status = .running)

/-- The busy test; an empty id counts as none. -/
def busy (s : State) : Bool := s.activeId ≠ some "" && s.activeRunning

def start (commandId : String) (command : Command) (s : State) : Except ProtocolError State := do
  let plan ← normalizePlan command
  if s.busy then
    throw ⟨"SKILL_BUSY", s!"skill {s.activeId.getD default} is still running"⟩
  pure
    { threads := s.threads ++
        [{ run := { commandId := commandId, description := plan.description, totalSteps := plan.steps.length }
           remaining := plan.steps }]
      runs := Function.update s.runs commandId (some s.threads.length)
      activeId := some commandId
      log := s.log ++ [(s.threads.length, .started)] }

def status (commandId : String) (s : State) : Except ProtocolError Snapshot :=
  match s.run? commandId with
  | none => .error ⟨"SKILL_NOT_FOUND", s!"no skill run for command {commandId}"⟩
  | some run => .ok run.snapshot

def cancel (commandId : String) (s : State) : Except ProtocolError State :=
  match s.runs commandId with
  | none => .error ⟨"SKILL_NOT_FOUND", s!"no skill run for command {commandId}"⟩
  | some n =>
    .ok { s with threads := s.threads.modify n fun thread => { thread with run.cancelled := true } }

/-- A step of a thread; the section under the lock at its end forgets the active id if it is its own. -/
def advance (n : ℕ) (reading : Reading) (s : State) : State :=
  match s.threads[n]? with
  | none => s
  | some thread =>
    { s with
      threads := s.threads.set n (thread.advance reading).1
      activeId := if thread.pc = .release ∧ s.activeId = some thread.run.commandId then none else s.activeId
      log := s.log ++ (thread.advance reading).2.map (n, ·) }

/-- What run `n` did. -/
def entries (n : ℕ) (s : State) : List Entry := (s.log.filter (·.1 = n)).map (·.2)

end State

inductive Label
  | start (commandId : String) (command : Command)
  | status (commandId : String)
  | cancel (commandId : String)
  | advance (n : ℕ) (reading : Reading)

def step (s : State) : Label → State
  | .start commandId command => (s.start commandId command).toOption.getD s
  | .status _ => s
  | .cancel commandId => (s.cancel commandId).toOption.getD s
  | .advance n reading => s.advance n reading

/-! ## One at a time, and one report -/

/-- **One at a time, and one report**: a run reports at most once, once its thread has ended it has reported its final
status, and its last velocity is zero; no run sends a velocity after a later one has been started. -/
structure Sound (s : State) : Prop where
  once (n : ℕ) (thread : Thread) : s.threads[n]? = some thread → (reports (s.entries n)).length ≤ 1
  reported (n : ℕ) (thread : Thread) : s.threads[n]? = some thread → thread.pc = .ended →
    (reports (s.entries n)).map Report.status = [thread.run.status]
  zeroed (n : ℕ) (thread : Thread) : s.threads[n]? = some thread → thread.pc = .ended →
    (velocities (s.entries n)).getLast? = some {}
  alone : s.log.Pairwise fun earlier later =>
    earlier.2 = .started → later.2.velocity?.isSome → earlier.1 ≤ later.1

/-- A start that is let in finds no run of an empty id running, no thread between its status and its zero velocity, and
none of its own id before the section at its end; the callback of a success returns. -/
def Clear (s : State) : Label → Prop
  | .start commandId command => (s.start commandId command).isOk →
    s.activeRunning = false ∧
      ∀ thread ∈ s.threads, (thread.pc.phase = .working ∨ thread.pc.phase = .closed) ∧
        (thread.pc = .release → thread.run.commandId ≠ commandId)
  | .advance n reading =>
    ∀ thread ∈ s.threads[n]?, thread.pc = .callSucceeded → reading.raises.isNone
  | _ => True

instance (s : State) (label : Label) : Decidable (Clear s label) := by
  unfold Clear
  split <;> infer_instance

/-! ## What a step keeps -/

variable {s s' : State} {n m : ℕ} {reading : Reading}

/-- Only the last run has a thread that is not closed, and while it works the executor knows it as the active one. -/
structure Inv (s : State) : Prop where
  threads (n : ℕ) (thread : Thread) : s.threads[n]? = some thread → thread.Inv (s.entries n)
  last (n : ℕ) (thread : Thread) : s.threads[n]? = some thread → thread.pc.phase ≠ .closed → n + 1 = s.threads.length
  active (n : ℕ) (thread : Thread) : s.threads[n]? = some thread → thread.pc.phase = .working →
    s.activeId = some thread.run.commandId ∧ s.runs thread.run.commandId = some n
  apart : ∀ thread ∈ s.threads, ∀ other ∈ s.threads, thread.pc.phase = .working → other.pc = .release →
    other.run.commandId ≠ thread.run.commandId
  known : ∀ entry ∈ s.log, entry.1 < s.threads.length
  alone : s.log.Pairwise fun earlier later =>
    earlier.2 = .started → later.2.velocity?.isSome → earlier.1 ≤ later.1

theorem inv_boot : Inv {} where
  threads := by simp
  last := by simp
  active := by simp
  apart := by simp
  known := by simp
  alone := List.Pairwise.nil

theorem Inv.entries_of_le (h : Inv s) (hn : s.threads.length ≤ n) : s.entries n = [] := by
  have hnone : s.log.filter (·.1 = n) = [] := by
    refine List.filter_eq_nil_iff.mpr fun entry hentry heq => ?_
    have hlt := h.known entry hentry
    have heq' : entry.1 = n := of_decide_eq_true heq
    omega
  rw [State.entries, hnone, List.map_nil]

/-! ### A start -/

theorem start_ok {commandId : String} {command : Command} (h : s.start commandId command = .ok s') :
    ∃ plan : Plan, s'.threads = s.threads ++
        [{ run := { commandId := commandId, description := plan.description, totalSteps := plan.steps.length }
           remaining := plan.steps }] ∧
      s'.runs = Function.update s.runs commandId (some s.threads.length) ∧ s'.activeId = some commandId ∧
      s'.log = s.log ++ [(s.threads.length, .started)] := by
  unfold State.start at h
  cases hplan : normalizePlan command with
  | error failure => simp [hplan, bind, Except.bind] at h
  | ok plan =>
    cases hbusy : s.busy with
    | true => simp [hplan, hbusy, bind, Except.bind, throw, throwThe, MonadExceptOf.throw] at h
    | false =>
      simp only [hplan, hbusy, bind, Except.bind, pure, Except.pure, Bool.false_eq_true, if_false,
        Except.ok.injEq] at h
      subst h
      exact ⟨plan, rfl, rfl, rfl, rfl⟩

theorem Inv.not_working (h : Inv s) (hidle : s.activeRunning = false) {thread : Thread} (hthread : thread ∈ s.threads) :
    thread.pc.phase ≠ .working := by
  intro hphase
  obtain ⟨n, hn⟩ := List.mem_iff_getElem?.mp hthread
  obtain ⟨hactive, hruns⟩ := h.active n thread hn hphase
  have hinv := h.threads n thread hn
  unfold Thread.Inv at hinv
  rw [hphase] at hinv
  simp [State.activeRunning, State.run?, hactive, hruns, hn, hinv.1] at hidle

theorem Inv.start (h : Inv s) {commandId : String} {command : Command} (hok : s.start commandId command = .ok s')
    (hidle : s.activeRunning = false)
    (hthreads : ∀ thread ∈ s.threads, (thread.pc.phase = .working ∨ thread.pc.phase = .closed) ∧
      (thread.pc = .release → thread.run.commandId ≠ commandId)) : Inv s' := by
  obtain ⟨plan, hnew, hruns, hactive, hlog⟩ := start_ok hok
  have hclosed : ∀ thread ∈ s.threads, thread.pc.phase = .closed := fun thread hthread =>
    (hthreads thread hthread).1.resolve_left (h.not_working hidle hthread)
  -- a thread of the new state is an old one, and closed, or the new one
  have hcases : ∀ (n : ℕ) (thread : Thread), s'.threads[n]? = some thread →
      (s.threads[n]? = some thread ∧ thread ∈ s.threads ∧ n < s.threads.length) ∨
        (n = s.threads.length ∧ thread.pc = .head ∧ thread.run.status = .running ∧
          thread.run.commandId = commandId) := by
    intro n thread hn
    rw [hnew] at hn
    rcases Pool.getElem?_concat_cases hn with ⟨hold, hlt⟩ | ⟨rfl, rfl⟩
    · exact Or.inl ⟨hold, List.mem_of_getElem? hold, hlt⟩
    · exact Or.inr ⟨rfl, rfl, rfl, rfl⟩
  have hentries : ∀ n, s'.entries n = s.entries n ++ if s.threads.length = n then [Entry.started] else [] := by
    intro n
    rw [State.entries, hlog, List.filter_append, List.map_append]
    by_cases hn : s.threads.length = n
    · simp [State.entries, hn]
    · simp [State.entries, hn]
  constructor
  case threads =>
    intro n thread hn
    rw [hentries]
    rcases hcases n thread hn with ⟨hold, -, hlt⟩ | ⟨rfl, hpc, hstatus, -⟩
    · rw [if_neg (by omega), List.append_nil]
      exact h.threads n thread hold
    · rw [if_pos rfl, h.entries_of_le le_rfl]
      unfold Thread.Inv
      rw [hpc]
      exact ⟨hstatus, rfl⟩
  case last =>
    intro n thread hn hopen
    rcases hcases n thread hn with ⟨-, hmem, -⟩ | ⟨rfl, -⟩
    · exact absurd (hclosed thread hmem) hopen
    · rw [hnew, List.length_append, List.length_singleton]
  case active =>
    intro n thread hn hphase
    rcases hcases n thread hn with ⟨-, hmem, -⟩ | ⟨rfl, -, -, hid⟩
    · exact absurd hphase (h.not_working hidle hmem)
    · rw [hactive, hruns, hid, Function.update_self]
      exact ⟨rfl, rfl⟩
  case apart =>
    intro thread hthread other hother hphase hrelease
    obtain ⟨n, hn⟩ := List.mem_iff_getElem?.mp hthread
    obtain ⟨m, hm⟩ := List.mem_iff_getElem?.mp hother
    rcases hcases n thread hn with ⟨-, hmem, -⟩ | ⟨-, -, -, hid⟩
    · exact absurd hphase (h.not_working hidle hmem)
    · rcases hcases m other hm with ⟨-, hmem, -⟩ | ⟨-, hpc, -⟩
      · rw [hid]
        exact (hthreads other hmem).2 hrelease
      · exact absurd (hpc.symm.trans hrelease) (by decide)
  case known =>
    intro entry hentry
    rw [hlog] at hentry
    rw [hnew, List.length_append, List.length_singleton]
    rcases List.mem_append.mp hentry with hold | hstarted
    · exact Nat.lt_succ_of_lt (h.known entry hold)
    · rw [List.mem_singleton.mp hstarted]
      exact Nat.lt_succ_self _
  case alone =>
    rw [hlog]
    refine List.pairwise_append.mpr ⟨h.alone, List.pairwise_singleton _ _, ?_⟩
    intro earlier _ later hlater _ hvelocity
    rw [List.mem_singleton.mp hlater] at hvelocity
    exact absurd hvelocity (by simp [Entry.velocity?])

/-! ### A cancel, and a step of a thread -/

theorem Inv.cancel (h : Inv s) {commandId : String} (hok : s.cancel commandId = .ok s') : Inv s' := by
  unfold State.cancel at hok
  split at hok
  · exact absurd hok (by simp)
  · rename_i n hn
    rw [Except.ok.injEq] at hok
    subst hok
    -- the cancel event is nothing that the invariant speaks of
    have hcases : ∀ (m : ℕ) (thread : Thread),
        (s.threads.modify n fun thread => { thread with run.cancelled := true })[m]? = some thread →
          ∃ old, s.threads[m]? = some old ∧ thread.pc = old.pc ∧ thread.run.status = old.run.status ∧
            thread.run.commandId = old.run.commandId := by
      intro m thread hm
      obtain ⟨old, hold, hcase⟩ := Pool.getElem?_modify_cases hm
      refine ⟨old, hold, ?_⟩
      rcases hcase with ⟨-, rfl⟩ | ⟨-, rfl⟩
      all_goals exact ⟨rfl, rfl, rfl⟩
    constructor
    case threads =>
      intro m thread hm
      obtain ⟨old, hold, hpc, hstatus, -⟩ := hcases m thread hm
      have hinv := h.threads m old hold
      unfold Thread.Inv at hinv ⊢
      rw [hpc, hstatus]
      exact hinv
    case last =>
      intro m thread hm hopen
      obtain ⟨old, hold, hpc, -⟩ := hcases m thread hm
      rw [List.length_modify]
      exact h.last m old hold (hpc ▸ hopen)
    case active =>
      intro m thread hm hphase
      obtain ⟨old, hold, hpc, -, hid⟩ := hcases m thread hm
      rw [hid]
      exact h.active m old hold (hpc ▸ hphase)
    case apart =>
      intro thread hthread other hother hphase hrelease
      obtain ⟨i, hi⟩ := List.mem_iff_getElem?.mp hthread
      obtain ⟨j, hj⟩ := List.mem_iff_getElem?.mp hother
      obtain ⟨old, hold, hpc, -, hid⟩ := hcases i thread hi
      obtain ⟨old', hold', hpc', -, hid'⟩ := hcases j other hj
      rw [hid, hid']
      exact h.apart old (List.mem_of_getElem? hold) old' (List.mem_of_getElem? hold') (hpc ▸ hphase) (hpc' ▸ hrelease)
    case known =>
      intro entry hentry
      rw [List.length_modify]
      exact h.known entry hentry
    case alone => exact h.alone

theorem Inv.advance (h : Inv s) {reading : Reading}
    (hclear : ∀ thread ∈ s.threads[n]?, thread.pc = .callSucceeded → reading.raises.isNone) :
    Inv (s.advance n reading) := by
  unfold State.advance
  split
  · exact h
  rename_i thread hn
  have hadvance := advance_cases reading thread
  have hclear' := hclear thread hn
  have hlt : n < s.threads.length := (List.getElem?_eq_some_iff.mp hn).1
  -- what the thread was before, where it is not closed now
  have hopen : (thread.advance reading).1.pc.phase ≠ .closed → thread.pc.phase ≠ .closed :=
    fun hnext hclosed => hnext (closed_advance reading hclosed).1
  have hworking := hadvance.working hclear'
  constructor
  case threads =>
    intro m other hm
    show other.Inv ((List.filter _ (s.log ++ _)).map _)
    rw [List.filter_append, List.map_append, Pool.map_filter_tagged]
    rcases Pool.getElem?_set_cases hm with ⟨rfl, rfl⟩ | ⟨hne, hold⟩
    · rw [if_pos rfl]
      exact (h.threads m thread hn).advance hadvance hclear'
    · rw [if_neg hne.symm, List.append_nil]
      exact h.threads m other hold
  case last =>
    intro m other hm hphase
    show m + 1 = (s.threads.set n _).length
    rw [List.length_set]
    rcases Pool.getElem?_set_cases hm with ⟨rfl, rfl⟩ | ⟨-, hold⟩
    · exact h.last m thread hn (hopen hphase)
    · exact h.last m other hold hphase
  case active =>
    intro m other hm hphase
    rcases Pool.getElem?_set_cases hm with ⟨rfl, rfl⟩ | ⟨hne, hold⟩
    · have hpc := hworking hphase
      have hrelease : thread.pc ≠ .release := fun heq => absurd (heq ▸ hpc) nofun
      rw [hadvance.commandId, if_neg fun hboth => hrelease hboth.1]
      exact h.active m thread hn hpc
    · -- what is released here has another id
      have hother := h.active m other hold hphase
      rw [if_neg]
      · exact hother
      · rintro ⟨hrelease, hid⟩
        refine h.apart other (List.mem_of_getElem? hold) thread (List.mem_of_getElem? hn) hphase hrelease ?_
        exact Option.some.inj (hid.symm.trans hother.1)
  case apart =>
    intro first hfirst second hsecond hphase hrelease
    obtain ⟨i, hi⟩ := List.mem_iff_getElem?.mp hfirst
    obtain ⟨j, hj⟩ := List.mem_iff_getElem?.mp hsecond
    -- the one that works is the last, so the other one was closed before
    have hi' : ∃ old, s.threads[i]? = some old ∧ old.pc.phase = .working ∧ old.run.commandId = first.run.commandId := by
      rcases Pool.getElem?_set_cases hi with ⟨rfl, rfl⟩ | ⟨-, hold⟩
      · exact ⟨thread, hn, hworking hphase, hadvance.commandId.symm⟩
      · exact ⟨first, hold, hphase, rfl⟩
    obtain ⟨old, hold, hold', hid⟩ := hi'
    have hlast : i + 1 = s.threads.length := h.last i old hold (by rw [hold']; decide)
    rw [← hid]
    rcases Pool.getElem?_set_cases hj with ⟨rfl, rfl⟩ | ⟨-, hsecond'⟩
    · have hclosed : thread.pc.phase = .closed := by
        by_contra hthread
        have heq : i = j := by
          have := h.last j thread hn hthread
          omega
        subst heq
        rw [Option.some.inj (hold.symm.trans hn)] at hold'
        rcases Pool.getElem?_set_cases hi with ⟨-, rfl⟩ | ⟨hne, -⟩
        · rw [hrelease] at hphase
          exact absurd hphase nofun
        · exact hne rfl
      exact absurd hrelease (closed_advance reading hclosed).2.2
    · exact h.apart old (List.mem_of_getElem? hold) second (List.mem_of_getElem? hsecond') hold' hrelease
  case known =>
    intro entry hentry
    show entry.1 < (s.threads.set n _).length
    rw [List.length_set]
    rcases List.mem_append.mp hentry with hold | hdone
    · exact h.known entry hold
    · obtain ⟨done, -, rfl⟩ := List.mem_map.mp hdone
      exact hlt
  case alone =>
    refine List.pairwise_append.mpr ⟨h.alone, ?_, ?_⟩
    · rw [List.pairwise_map]
      exact List.pairwise_of_forall fun _ _ _ _ => le_rfl
    · intro earlier hearlier later hlater _ _
      obtain ⟨done, hdone, rfl⟩ := List.mem_map.mp hlater
      -- only the last run sends anything
      have hlast : n + 1 = s.threads.length := by
        refine h.last n thread hn fun hclosed => ?_
        rw [(closed_advance reading hclosed).2.1] at hdone
        exact absurd hdone List.not_mem_nil
      have hknown := h.known earlier hearlier
      show earlier.1 ≤ n
      omega

theorem inv_step (s : State) (label : Label) (h : Inv s) (hclear : Clear s label) : Inv (step s label) := by
  cases label with
  | start commandId command =>
    show Inv ((s.start commandId command).toOption.getD s)
    cases hok : s.start commandId command with
    | error failure => exact h
    | ok s' =>
      obtain ⟨hidle, hthreads⟩ := hclear (by rw [hok]; rfl)
      exact h.start hok hidle hthreads
  | status commandId => exact h
  | cancel commandId =>
    show Inv ((s.cancel commandId).toOption.getD s)
    cases hok : s.cancel commandId with
    | error failure => exact h
    | ok s' => exact h.cancel hok
  | advance n reading => exact h.advance hclear

theorem sound_of_inv (h : Inv s) : Sound s where
  once n thread hn := by
    have hinv := h.threads n thread hn
    have hlength : ∀ status, (reports (s.entries n)).map Report.status = [status] →
        (reports (s.entries n)).length ≤ 1 := by
      intro status hreported
      rw [← List.length_map Report.status, hreported]
      exact le_rfl
    unfold Thread.Inv at hinv
    split at hinv
    case h_4 => exact hlength _ hinv.2
    case h_5 => exact hlength _ hinv.2.1
    all_goals
      rw [hinv.2]
      exact Nat.zero_le 1
  reported n thread hn hended := by
    have hinv := h.threads n thread hn
    unfold Thread.Inv at hinv
    rw [hended] at hinv
    exact hinv.2.1
  zeroed n thread hn hended := by
    have hinv := h.threads n thread hn
    unfold Thread.Inv at hinv
    rw [hended] at hinv
    exact hinv.2.2
  alone := h.alone

/-- **One at a time, and one report** in every run that is clear, whatever is asked and whatever advances when. -/
theorem aloneAndOnce_of_clear (labels : List Label) (h : Run.Always step Clear {} labels) :
    Sound (Run.exec step {} labels) :=
  sound_of_inv (Run.exec_invariant_of_always Inv inv_step inv_boot h)

/-! ## Runs of two skills -/

/-- A skill that only sets a speed, and its thread: the two heads, the step between them, the report. -/
def micro : Command := { steps := some [some (.speed "micro")] }

def upToReport (n : ℕ) : List Label := List.replicate 4 (.advance n {})

theorem sound_oneAfterAnother :
    (Run.exec step {} (.start "a" micro :: upToReport 0 ++ [.advance 0 {}, .advance 0 {}, .start "b" micro])).threads.length
      = 2 ∧
    Sound (Run.exec step {}
      (.start "a" micro :: upToReport 0 ++ [.advance 0 {}, .advance 0 {}, .start "b" micro])) :=
  ⟨by decide, aloneAndOnce_of_clear _ (by decide)⟩

/-- A skill is started between the report of another and its zero velocity, which then comes too late; and a callback
that raises after a success is called again. -/
theorem not_sound_overtaken :
    ¬ Sound (Run.exec step {} (.start "a" micro :: upToReport 0 ++ [.start "b" micro, .advance 0 {}])) ∧
    ¬ Sound (Run.exec step {} (.start "a" micro :: List.replicate 3 (.advance 0 {}) ++
      [.advance 0 { raises := some (.other "disk I/O error") }, .advance 0 {}, .advance 0 {}])) := by
  constructor
  · intro h
    have halone := h.alone
    revert halone
    decide
  · intro h
    have honce := h.once 0
    revert honce
    decide

end SkillExecutor

end RoamerX
