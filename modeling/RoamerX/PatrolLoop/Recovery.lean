import RoamerX.PatrolLoop.Runs

set_option autoImplicit false

/-! # Recovery accounting

The episode id, the attempt counter and the recovery commands of a session in step with each other:
outside an episode the counter is zero, and the commands ever created for an execution and an
episode carry the attempts `1, …, k`, each once and in this order, with `k` within the bound.

`RecoveryInv` is the invariant. Its two supporting facts are that ids not yet drawn name no
episode, and that the commands of the current episode stop exactly at the counter. -/

namespace RoamerX

open CenterDb (Extends)

/-- The attempt a command payload carries under an episode. -/
def CommandPayload.attemptUnder (episode : Uuid) : CommandPayload → Option ℕ
  | .recovery p => if p.recoveryEpisodeId = episode then some p.attempt else none
  | _ => none

/-- The attempts of the recovery commands created for an execution and an episode, oldest first. -/
def CenterDb.recoveryAttempts (db : CenterDb) (x episode : Uuid) : List ℕ :=
  ((db.commandsOf x .taskRecover).map RemoteCommand.payload).filterMap
    (CommandPayload.attemptUnder episode)

/-! ## Attempts and what calls do to them -/

theorem recoveryAttempts_congr {db db' : CenterDb} {x : Uuid}
    (h : (db'.commandsOf x .taskRecover).map RemoteCommand.payload =
      (db.commandsOf x .taskRecover).map RemoteCommand.payload) (episode : Uuid) :
    db'.recoveryAttempts x episode = db.recoveryAttempts x episode := by
  unfold CenterDb.recoveryAttempts
  rw [h]

theorem recoveryAttempts_extends {T : Uuid → CommandType → Prop} {db db' : CenterDb}
    (hext : Extends T db db') {x : Uuid} (hT : ¬ T x .taskRecover) (episode : Uuid) :
    db'.recoveryAttempts x episode = db.recoveryAttempts x episode :=
  recoveryAttempts_congr (by rw [hext.commands_eq x .taskRecover (by simp) hT]) episode

theorem attemptUnder_of_isRecovery {c : RemoteCommand} {x episode : Uuid} {n : ℕ}
    (h : c.isRecovery x episode n = true) (episode' : Uuid) :
    c.payload.attemptUnder episode' = if episode = episode' then some n else none := by
  simp only [RemoteCommand.isRecovery, Bool.and_eq_true, decide_eq_true_eq] at h
  obtain ⟨-, hp⟩ := h
  cases hpay : c.payload with
  | recovery p =>
    rw [hpay] at hp
    simp only [Bool.and_eq_true, decide_eq_true_eq] at hp
    simp [CommandPayload.attemptUnder, hp.1, hp.2]
  | start _ => simp [hpay] at hp
  | resume _ => simp [hpay] at hp
  | resumeForward _ _ => simp [hpay] at hp
  | reason _ => simp [hpay] at hp
  | rosbagStop _ _ => simp [hpay] at hp

theorem recoveryAttempts_issued {db db' : CenterDb} {x episode : Uuid} {n : ℕ}
    (h : LoopDb.RecoveryIssued db db' x episode (n + 1))
    (hold : db.recoveryAttempts x episode = List.range' 1 n) (episode' : Uuid) :
    db'.recoveryAttempts x episode' =
      db.recoveryAttempts x episode' ++ (if episode = episode' then [n + 1] else []) := by
  obtain ⟨c, hc, ⟨hmem, -⟩ | ⟨-, happend⟩⟩ := h
  · -- an existing command for this attempt would already be counted
    have hin : n + 1 ∈ db.recoveryAttempts x episode := by
      unfold CenterDb.recoveryAttempts
      rw [List.mem_filterMap]
      exact ⟨c.payload, List.mem_map_of_mem hmem, by simp [attemptUnder_of_isRecovery hc]⟩
    rw [hold, List.mem_range'_1] at hin
    omega
  · unfold CenterDb.recoveryAttempts
    rw [happend, List.map_append, List.filterMap_append]
    congr 1
    by_cases heq : episode = episode'
    · simp [attemptUnder_of_isRecovery hc, heq]
    · simp [attemptUnder_of_isRecovery hc, heq]

/-- Whatever the outcome of a call, attempts change only when it is a recovery, and then only
    those of the current execution. -/
theorem recoveryAttempts_result {a : LoopLabel} {s s' : LoopDb} (h : CallEffect a s s')
    (hrec : s'.view.state ≠ .recovering ∨ s'.view = s.view) (x episode : Uuid) :
    s'.center.recoveryAttempts x episode = s.center.recoveryAttempts x episode := by
  have hquiet : ∀ k, ¬ LoopDb.quiet s.view k .taskRecover := fun k => by simp [LoopDb.quiet]
  have hending : ∀ k, ¬ LoopDb.ending k .taskRecover := fun k => by simp [LoopDb.ending]
  cases h with
  | recover _ _ _ hstate _ _ _ _ _ hview _ _ =>
    rcases hrec with hne | hsame
    · exact absurd (by rw [hview]) hne
    · have : s'.view.state = s.view.state := by rw [hsame]
      rw [hview, hstate] at this
      exact absurd this (by simp)
  | poll _ _ hext => exact recoveryAttempts_extends hext (hquiet x) episode
  | window _ _ _ _ _ hext => exact recoveryAttempts_extends hext (hquiet x) episode
  | observe _ _ _ _ _ _ hext => exact recoveryAttempts_extends hext (hquiet x) episode
  | settle _ _ hext => exact recoveryAttempts_extends hext (hquiet x) episode
  | dispatch y _ _ _ _ _ _ _ hext =>
    exact recoveryAttempts_extends hext
      (fun hk => hk.elim (hquiet x) (fun h => absurd h.2 (by simp))) episode
  | rest _ _ _ _ _ hext => exact recoveryAttempts_extends hext (hquiet x) episode
  | hold _ _ _ hext => exact recoveryAttempts_extends hext (hquiet x) episode
  | stopping _ _ _ hext => exact recoveryAttempts_extends hext (hending x) episode
  | finish _ _ _ _ _ _ hext => exact recoveryAttempts_extends hext (hending x) episode

/-! ## The invariant -/

/-- Recovery accounting of a session started when `first` was the next id to be drawn; `before` are
    the attempts recorded by then. -/
structure RecoveryInv (first : Uuid) (before : Uuid → Uuid → List ℕ) (s : LoopDb) : Prop where
  running : s.view.state = .running → s.view.recoveryEpisodeId = none ∧ s.view.recoveryAttempt = 0
  episode : s.view.state = .observing ∨ s.view.state = .recovering →
    s.view.recoveryEpisodeId.isSome = true
  accounting : ∀ x ep, first ≤ x →
    ∃ k ≤ s.view.recoveryMaxAttempts, s.center.recoveryAttempts x ep = List.range' 1 k
  earlier : ∀ x ep, x < first → s.center.recoveryAttempts x ep = before x ep
  counted : ∀ x ep, s.view.currentExecution = some x → s.view.recoveryEpisodeId = some ep →
    s.center.recoveryAttempts x ep = List.range' 1 s.view.recoveryAttempt
  bounded : s.view.recoveryAttempt ≤ s.view.recoveryMaxAttempts
  drawn : ∀ ep, s.view.recoveryEpisodeId = some ep → ep < s.center.nextUuid
  fresh : ∀ x ep, first ≤ x → s.center.nextUuid ≤ ep → s.center.recoveryAttempts x ep = []
  current : ∀ x, s.view.currentExecution = some x → first ≤ x
  supply : first ≤ s.center.nextUuid

/-- An outcome that leaves every attempt list as it is, keeps the current execution, and keeps the
    episode with its counter or drops or renews it, keeps the invariant but for its two clauses
    about states. -/
theorem RecoveryInv.keep {first : Uuid} {before : Uuid → Uuid → List ℕ} {s s' : LoopDb}
    (hi : RecoveryInv first before s) (huuid : s.center.nextUuid ≤ s'.center.nextUuid)
    (hattempts : ∀ x ep, s'.center.recoveryAttempts x ep = s.center.recoveryAttempts x ep)
    (hmax : s'.view.recoveryMaxAttempts = s.view.recoveryMaxAttempts)
    (hcur : ∀ x, s'.view.currentExecution = some x →
      s.view.currentExecution = some x ∨ s.center.nextUuid ≤ x ∧ s'.view.recoveryEpisodeId = none)
    (hepisode : s'.view.recoveryEpisodeId = s.view.recoveryEpisodeId ∧
          s'.view.recoveryAttempt = s.view.recoveryAttempt ∨
        s'.view.recoveryAttempt = 0 ∧ ∀ ep, s'.view.recoveryEpisodeId = some ep →
          s.center.nextUuid ≤ ep ∧ ep < s'.center.nextUuid)
    (hrunning : s'.view.state = .running →
      s'.view.recoveryEpisodeId = none ∧ s'.view.recoveryAttempt = 0)
    (hobserving : s'.view.state = .observing ∨ s'.view.state = .recovering →
      s'.view.recoveryEpisodeId.isSome = true) : RecoveryInv first before s' where
  running := hrunning
  episode := hobserving
  accounting x ep hx := by
    rw [hattempts, hmax]
    exact hi.accounting x ep hx
  earlier x ep hx := by
    rw [hattempts]
    exact hi.earlier x ep hx
  counted x ep hx hep := by
    rw [hattempts]
    rcases hcur x hx with hold | ⟨-, hnone⟩
    · rcases hepisode with ⟨hsame, hcount⟩ | ⟨h0, hnew⟩
      · rw [hcount]
        exact hi.counted x ep hold (hsame ▸ hep)
      · rw [h0]
        exact hi.fresh x ep (hi.current x hold) (hnew ep hep).1
    · rw [hnone] at hep
      exact absurd hep (by simp)
  bounded := by
    rw [hmax]
    rcases hepisode with ⟨-, hcount⟩ | ⟨h0, -⟩
    · rw [hcount]
      exact hi.bounded
    · rw [h0]
      exact Nat.zero_le _
  drawn ep hep := by
    rcases hepisode with ⟨hsame, -⟩ | ⟨-, hnew⟩
    · exact lt_of_lt_of_le (hi.drawn ep (hsame ▸ hep)) huuid
    · exact (hnew ep hep).2
  fresh x ep hx hep := by
    rw [hattempts]
    exact hi.fresh x ep hx (le_trans huuid hep)
  current x hx := by
    rcases hcur x hx with hold | ⟨hnew, -⟩
    · exact hi.current x hold
    · exact le_trans hi.supply hnew
  supply := le_trans hi.supply huuid

/-- A recovery attempt is the one place where the counter and the commands move, and they move
    together. -/
theorem RecoveryInv.recover {first : Uuid} {before : Uuid → Uuid → List ℕ} {s s' : LoopDb}
    {x : Uuid} (hi : RecoveryInv first before s) (hstate : s.view.state = .observing)
    (hexec : s.view.currentExecution = some x)
    (hmax : s.view.recoveryAttempt < s.view.recoveryMaxAttempts)
    (hview : s'.view = { s.view with
      state := .recovering
      stateVersion := s.view.stateVersion + 1
      recoveryAttempt := s.view.recoveryAttempt + 1 })
    (hissued : ∀ ep, s.view.recoveryEpisodeId = some ep →
      LoopDb.RecoveryIssued s.center s'.center x ep (s.view.recoveryAttempt + 1))
    (hext : Extends (fun k t => LoopDb.quiet s.view k t ∨ CenterDb.onlyCommand x .taskRecover k t)
      s.center s'.center) : RecoveryInv first before s' := by
  obtain ⟨ep, hep⟩ := Option.isSome_iff_exists.mp (hi.episode (.inl hstate))
  have hcount := hi.counted x ep hexec hep
  have hattempts := recoveryAttempts_issued (hissued ep hep) hcount
  have hother : ∀ y, y ≠ x → ∀ e, s'.center.recoveryAttempts y e = s.center.recoveryAttempts y e :=
    fun y hy e => recoveryAttempts_extends hext (by simp [LoopDb.quiet, hy]) e
  have hnew : s'.center.recoveryAttempts x ep = List.range' 1 (s.view.recoveryAttempt + 1) := by
    rw [hattempts ep, if_pos rfl, hcount, List.range'_concat]
    simp [Nat.add_comm]
  have hsame : ∀ e, ep ≠ e → s'.center.recoveryAttempts x e = s.center.recoveryAttempts x e := by
    intro e he
    rw [hattempts e, if_neg he, List.append_nil]
  have hfirst : first ≤ x := hi.current x hexec
  constructor
  · intro hrun
    rw [hview] at hrun
    exact absurd hrun (by simp)
  · intro _
    rw [hview]
    simp [hep]
  · intro y e hy
    rw [hview]
    by_cases hyx : y = x
    · subst hyx
      by_cases hee : ep = e
      · subst hee
        exact ⟨_, hmax, hnew⟩
      · rw [hsame e hee]
        exact hi.accounting y e hy
    · rw [hother y hyx]
      exact hi.accounting y e hy
  · intro y e hy
    have hyx : y ≠ x := fun h => absurd (h ▸ hy) (Nat.not_lt.mpr hfirst)
    rw [hother y hyx]
    exact hi.earlier y e hy
  · intro y e hy he
    rw [hview] at hy he ⊢
    obtain rfl : x = y := Option.some.inj (hexec.symm.trans hy)
    obtain rfl : ep = e := Option.some.inj (hep.symm.trans he)
    exact hnew
  · rw [hview]
    exact hmax
  · intro e he
    rw [hview] at he
    exact lt_of_lt_of_le (hi.drawn e he) hext.uuid_le
  · intro y e hy he
    have hdrawn := hi.drawn ep hep
    have hle := le_trans hext.uuid_le he
    by_cases hyx : y = x
    · subst hyx
      rw [hsame e (fun h => absurd (lt_of_lt_of_le hdrawn (h ▸ hle)) (Nat.lt_irrefl _))]
      exact hi.fresh y e hy hle
    · rw [hother y hyx]
      exact hi.fresh y e hy hle
  · intro y hy
    rw [hview] at hy
    exact hi.current y hy
  · exact le_trans hi.supply hext.uuid_le

/-- **Step lemma for calls.** -/
theorem RecoveryInv.result {first : Uuid} {before : Uuid → Uuid → List ℕ} {a : LoopLabel}
    {s s' : LoopDb} (hi : RecoveryInv first before s) (h : CallEffect a s s') :
    RecoveryInv first before s' := by
  have hattempts := recoveryAttempts_result h
  cases h with
  | poll _ hview hext =>
    refine hi.keep hext.uuid_le (hattempts (.inr hview)) (by rw [hview])
      (fun x hx => .inl (hview ▸ hx)) (.inl (by rw [hview]; exact ⟨rfl, rfl⟩)) ?_ ?_
    · rw [hview]
      exact hi.running
    · rw [hview]
      exact hi.episode
  | window opened _ hstate hview _ hext =>
    refine hi.keep hext.uuid_le (hattempts (.inl (by rw [hview, hstate]; simp))) (by rw [hview])
      (fun x hx => .inl (by rw [hview] at hx; exact hx)) (.inl (by rw [hview]; exact ⟨rfl, rfl⟩))
      ?_ ?_
    · rw [hview]
      exact hi.running
    · rw [hview]
      exact hi.episode
  | recover x started _ hstate _ _ _ hexec hmax hview hissued hext =>
    exact hi.recover hstate hexec hmax hview hissued hext
  | observe ep attempt _ _ hepisode hview hext =>
    refine hi.keep hext.uuid_le (hattempts (.inl (by rw [hview]; simp))) (by rw [hview])
      (fun x hx => .inl (by rw [hview] at hx; exact hx)) ?_ ?_ ?_
    · rw [hview]
      rcases hepisode with ⟨hep, hatt, -⟩ | ⟨h0, x, hx, hle, hlt⟩
      · exact .inl ⟨hep, hatt⟩
      · refine .inr ⟨h0, fun e he => ?_⟩
        obtain rfl : x = e := Option.some.inj (hx.symm.trans he)
        exact ⟨hle, hlt⟩
    · rw [hview]
      exact fun hrun => absurd hrun (by simp)
    · intro _
      rw [hview]
      rcases hepisode with ⟨hep, -, hsome | hrec⟩ | ⟨-, x, hx, -⟩
      · exact hsome
      · show ep.isSome = true
        rw [hep]
        exact hi.episode (.inr hrec)
      · simp [hx]
  | settle _ hview hext =>
    refine hi.keep hext.uuid_le (hattempts (.inl (by rw [hview]; simp))) (by rw [hview])
      (fun x hx => .inl (by rw [hview] at hx; exact hx)) (.inr ?_) ?_ ?_
    · rw [hview]
      exact ⟨rfl, fun e he => absurd he (by simp)⟩
    · rw [hview]
      exact fun _ => ⟨rfl, rfl⟩
    · rw [hview]
      exact fun hst => absurd hst (by simp)
  | dispatch x _ hnew _ _ _ _ hview hext =>
    refine hi.keep hext.uuid_le (hattempts (.inl (by rw [hview]; simp))) (by rw [hview])
      (fun y hy => .inr ?_) (.inr ?_) ?_ ?_
    · rw [hview] at hy ⊢
      obtain rfl : x = y := Option.some.inj hy
      exact ⟨hnew, rfl⟩
    · rw [hview]
      exact ⟨rfl, fun e he => absurd he (by simp)⟩
    · rw [hview]
      exact fun _ => ⟨rfl, rfl⟩
    · rw [hview]
      exact fun hst => absurd hst (by simp)
  | rest opened ep attempt hwhere hview hext =>
    refine hi.keep hext.uuid_le (hattempts (.inl (by rw [hview]; simp))) (by rw [hview])
      (fun x hx => .inl (by rw [hview] at hx; exact hx)) ?_ ?_ ?_
    · rw [hview]
      rcases hwhere with ⟨hrun, hep, hatt⟩ | ⟨-, hep, hatt⟩ | ⟨-, -, hep, hatt⟩
      · exact .inl ⟨hep, hatt.trans (hi.running hrun).2.symm⟩
      · exact .inl ⟨hep, hatt⟩
      · exact .inr ⟨hatt, fun e he => absurd (hep.symm.trans he) (by simp)⟩
    · rw [hview]
      exact fun hst => absurd hst (by simp)
    · rw [hview]
      exact fun hst => absurd hst (by simp)
  | hold _ _ hview hext =>
    refine hi.keep hext.uuid_le (hattempts (.inl (by rw [hview]; simp))) (by rw [hview])
      (fun x hx => .inl (by rw [hview] at hx; exact hx)) (.inl (by rw [hview]; exact ⟨rfl, rfl⟩))
      ?_ ?_
    · rw [hview]
      exact fun hst => absurd hst (by simp)
    · rw [hview]
      exact fun hst => absurd hst (by simp)
  | stopping _ _ hview hext =>
    refine hi.keep hext.uuid_le (hattempts (.inl (by rw [hview]; simp))) (by rw [hview])
      (fun x hx => .inl (by rw [hview] at hx; exact hx)) (.inl (by rw [hview]; exact ⟨rfl, rfl⟩))
      ?_ ?_
    · rw [hview]
      exact fun hst => absurd hst (by simp)
    · rw [hview]
      exact fun hst => absurd hst (by simp)
  | finish st _ hterminal _ _ hview hext =>
    have hst : ∀ st' : LoopState, st'.isTerminal = false → st ≠ st' := by
      rintro st' hst' rfl
      rw [hst'] at hterminal
      exact absurd hterminal (by simp)
    refine hi.keep hext.uuid_le (hattempts (.inl (by rw [hview]; exact hst .recovering rfl)))
      (by rw [hview])
      (fun x hx => .inl (by rw [hview] at hx; exact hx)) (.inl (by rw [hview]; exact ⟨rfl, rfl⟩))
      ?_ ?_
    · rw [hview]
      exact fun hrun => absurd hrun (hst .running rfl)
    · rw [hview]
      exact fun hobs => hobs.elim (fun h => absurd h (hst .observing rfl))
        (fun h => absurd h (hst .recovering rfl))

/-- **Step lemma.** -/
theorem RecoveryInv.step {first : Uuid} {before : Uuid → Uuid → List ℕ} {s : LoopDb}
    (hw : s.Inv) (hi : RecoveryInv first before s) (a : LoopLabel) :
    RecoveryInv first before (s.step a) := by
  cases ha : a.isCall with
  | true => exact hi.result (LoopDb.step_result hw ha).effect
  | false =>
    obtain ⟨hsession, hout⟩ := LoopDb.step_outside s ha
    have hview : (s.step a).view = s.view := by
      unfold LoopDb.view
      rw [hsession]
    obtain ⟨f, hf, hsame⟩ := hout.commands
    refine hi.keep (le_of_eq hout.uuid_eq.symm) (fun x ep => ?_) (by rw [hview])
      (fun x hx => .inl (hview ▸ hx)) (.inl (by rw [hview]; exact ⟨rfl, rfl⟩)) ?_ ?_
    · exact recoveryAttempts_congr
        (CenterDb.payloads_map hf (fun c => (hsame c).2) x .taskRecover) ep
    · rw [hview]
      exact hi.running
    · rw [hview]
      exact hi.episode

namespace SessionStart

theorem recoveryInv_start (st : SessionStart) :
    RecoveryInv st.db.nextUuid st.db.recoveryAttempts st.session := by
  obtain ⟨hcenter, hview⟩ := st.session_eq
  have hattempts : ∀ x ep, st.session.center.recoveryAttempts x ep =
      st.db.recoveryAttempts x ep := fun x ep => by rw [hcenter]; rfl
  have hnew : ∀ x ep, st.db.nextUuid ≤ x → st.db.recoveryAttempts x ep = [] := by
    intro x ep hx
    simp [CenterDb.recoveryAttempts, st.valid.commandsOf_fresh hx]
  constructor
  · rw [hview]
    exact fun h => absurd h (by simp)
  · rw [hview]
    exact fun h => absurd h (by simp)
  · exact fun x ep hx => ⟨0, Nat.zero_le _, by rw [hattempts, hnew x ep hx]; rfl⟩
  · exact fun x ep _ => hattempts x ep
  · rw [hview]
    exact fun x ep hx => absurd hx (by simp)
  · rw [hview]
    exact Nat.zero_le _
  · rw [hview]
    exact fun ep hep => absurd hep (by simp)
  · exact fun x ep hx _ => by rw [hattempts, hnew x ep hx]
  · rw [hview]
    exact fun x hx => absurd hx (by simp)
  · rw [hcenter]
    exact Nat.le_succ _

theorem run_recoveryInv (st : SessionStart) (as : List LoopLabel) :
    RecoveryInv st.db.nextUuid st.db.recoveryAttempts (st.run as) :=
  (Run.exec_invariant (fun s => s.Inv ∧ RecoveryInv st.db.nextUuid st.db.recoveryAttempts s)
    (fun _ a h => ⟨LoopDb.step_inv h.1 a, h.2.step h.1 a⟩)
    ⟨st.inv_start, st.recoveryInv_start⟩ as).2

/-- **Recovery accounting.** In every reachable state of a session: `running` means no episode and
    attempt 0, `observing` and `recovering` mean an episode, and for every execution and episode
    the recovery commands ever created carry the attempts `1, …, k`, each once, with `k` at most
    `recovery_max_attempts`. The commands of executions older than the session stay as they were. -/
theorem recovery_accounting (st : SessionStart) (as : List LoopLabel) :
    ((st.run as).session.state = .running →
      (st.run as).session.recoveryEpisodeId = none ∧ (st.run as).session.recoveryAttempt = 0) ∧
    ((st.run as).session.state = .observing ∨ (st.run as).session.state = .recovering →
      (st.run as).session.recoveryEpisodeId.isSome = true) ∧
    ∀ x episode,
      if x < st.db.nextUuid then
        (st.run as).center.recoveryAttempts x episode = st.db.recoveryAttempts x episode
      else ∃ k ≤ (st.run as).session.recoveryMaxAttempts,
        (st.run as).center.recoveryAttempts x episode = List.range' 1 k := by
  have hi := st.run_recoveryInv as
  refine ⟨hi.running, hi.episode, fun x episode => ?_⟩
  split
  · next hold => exact hi.earlier x episode hold
  · next hnew => exact hi.accounting x episode (Nat.le_of_not_lt hnew)

end SessionStart

end RoamerX
