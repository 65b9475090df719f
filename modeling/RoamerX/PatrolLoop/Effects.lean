import RoamerX.Center.Integrity
import RoamerX.PatrolLoop.Service

set_option autoImplicit false

/-! # What a call of the patrol-loop service can do

`CallEffect` lists, once, every outcome of `process`, `pause`, `resume`, `continue_recovery`,
`stop` and `terminate_low_battery`: what becomes of the fields the state machine turns on
(`LoopView`), which commands were touched, and what had been checked. The invariants of the session
are derived from it and never unfold the service again. -/

namespace RoamerX

open CenterDb (Extends noCommand onlyCommand onlyExecution Valid)

/-! ## The fields the state machine turns on -/

/-- The session row without its texts, times and options. -/
structure LoopView where
  id : Uuid
  routeSnapshot : RouteSnapshot
  state : LoopState
  stateVersion : ℤ
  endsAt : ℕ
  currentRound : ℕ
  currentExecution : Option Uuid
  observationStartedAt : Option ℕ
  recoveryEpisodeId : Option Uuid
  recoveryAttempt : ℕ
  recoveryMaxAttempts : ℕ
  manualPaused : Bool

namespace LoopDb

def view (s : LoopDb) : LoopView where
  id := s.session.id
  routeSnapshot := s.session.routeSnapshot
  state := s.session.state
  stateVersion := s.session.stateVersion
  endsAt := s.session.endsAt
  currentRound := s.session.currentRound
  currentExecution := s.session.currentExecution
  observationStartedAt := s.session.observationStartedAt
  recoveryEpisodeId := s.session.recoveryEpisodeId
  recoveryAttempt := s.session.recoveryAttempt
  recoveryMaxAttempts := s.session.recoveryMaxAttempts
  manualPaused := s.session.manualPaused

@[simp] theorem view_withCenter (s : LoopDb) (c : CenterDb) : (s.withCenter c).view = s.view := rfl

@[simp] theorem center_withCenter (s : LoopDb) (c : CenterDb) : (s.withCenter c).center = c := rfl

@[simp] theorem center_withSession (s : LoopDb) (r : PatrolLoopSession) :
    (s.withSession r).center = s.center := rfl

@[simp] theorem session_withSession (s : LoopDb) (r : PatrolLoopSession) :
    (s.withSession r).session = r := rfl

@[simp] theorem session_withCenter (s : LoopDb) (c : CenterDb) :
    (s.withCenter c).session = s.session := rfl

@[simp] theorem view_reschedule (s : LoopDb) : s.reschedule.view = s.view := rfl

@[simp] theorem center_reschedule (s : LoopDb) : s.reschedule.center = s.center := rfl

@[simp] theorem center_setState_false (s : LoopDb) (st : LoopState) (n : Option ℕ)
    (r : String) : (s.setState st n false r).center = s.center := rfl

theorem view_ensureRecordingStop (s : LoopDb) (reason : String) :
    (s.ensureRecordingStop reason).view = s.view := by
  unfold ensureRecordingStop
  split
  · rfl
  · dsimp only
    split <;> rfl

@[simp] theorem view_setState (s : LoopDb) (st : LoopState) (n : Option ℕ) (t : Bool)
    (r : String) :
    (s.setState st n t r).view =
      { s.view with state := st, stateVersion := s.view.stateVersion + 1 } := by
  unfold setState
  dsimp only
  split
  · rw [view_ensureRecordingStop]
    rfl
  · rfl

theorem ensureRecordingStop_center (s : LoopDb) (reason : String) (hv : s.center.Valid) :
    (s.ensureRecordingStop reason).center.Valid ∧
      Extends noCommand s.center (s.ensureRecordingStop reason).center := by
  unfold ensureRecordingStop
  split
  · exact ⟨hv, Extends.refl _ _⟩
  · dsimp only
    split
    · exact ⟨hv, Extends.refl _ _⟩
    · refine ⟨hv.insertCommand (by simp), ?_⟩
      exact (Extends.insertCommand ..).mono (fun _ _ h => absurd h.1 (by simp))

theorem setState_center (s : LoopDb) (st : LoopState) (n : Option ℕ) (t : Bool) (r : String)
    (hv : s.center.Valid) :
    (s.setState st n t r).center.Valid ∧ Extends noCommand s.center (s.setState st n t r).center := by
  cases t with
  | false => exact ⟨hv, Extends.refl _ _⟩
  | true => exact ensureRecordingStop_center (s.withSession _) r hv

theorem currentExecution_id {s : LoopDb} {e : TaskExecution} (h : s.currentExecution = some e) :
    s.session.currentExecution = some e.id ∧ s.center.execution? e.id = some e := by
  unfold currentExecution at h
  cases hc : s.session.currentExecution with
  | none => simp [hc] at h
  | some x =>
    rw [hc, Option.bind_some] at h
    rw [CenterDb.execution?_id h]
    exact ⟨rfl, h⟩

end LoopDb

/-! ## Force exits -/

namespace LoopDb

theorem isDockingExecution_mono {T : Uuid → CommandType → Prop} {db db' : CenterDb}
    (hext : Extends T db db') {e : TaskExecution} (h : isDockingExecution db (some e) = true) :
    isDockingExecution db' (some e) = true := by
  unfold isDockingExecution at h ⊢
  dsimp only at h ⊢
  have hpre := hext.payloads_prefix e.id .taskStart
  cases hcs : db.commandsOf e.id .taskStart with
  | nil => simp [hcs] at h
  | cons c cs =>
    obtain ⟨rest, hrest⟩ := hpre
    rw [hcs] at h hrest
    cases hcs' : db'.commandsOf e.id .taskStart with
    | nil => simp [hcs'] at hrest
    | cons c' cs' =>
      rw [hcs'] at hrest
      have hpayload : c.payload = c'.payload := by
        simpa using congrArg List.head? hrest
      revert h
      simp only [List.head?_cons]
      rcases c with ⟨_, _, _, p, _⟩
      rcases c' with ⟨_, _, _, p', _⟩
      obtain rfl : p = p' := hpayload
      cases p <;> exact id

theorem forceExitExecution_ok {db db' : CenterDb} {execution : Option TaskExecution}
    {reason : String} (hv : db.Valid) (h : forceExitExecution db execution reason = .ok db') :
    db'.Valid ∧
      Extends (fun k t => t = .taskForceExit ∧ ∃ e, execution = some e ∧ k = e.id) db db' ∧
      (∀ e, execution = some e → e.state.isActive = false → db' = db) := by
  unfold forceExitExecution at h
  split at h
  · obtain rfl := Except.ok.inj h
    exact ⟨hv, Extends.refl _ _, fun _ _ _ => rfl⟩
  · next e =>
    split at h
    · obtain rfl := Except.ok.inj h
      exact ⟨hv, Extends.refl _ _, fun _ _ _ => rfl⟩
    · next hact =>
      split at h
      · obtain rfl := Except.ok.inj h
        exact ⟨hv, Extends.refl _ _, fun _ _ _ => rfl⟩
      · split at h
        · obtain rfl := Except.ok.inj h
          exact ⟨hv, Extends.refl _ _, fun _ _ _ => rfl⟩
        · split at h
          · exact absurd h (by simp)
          · next mid c hcreate =>
            obtain rfl := Except.ok.inj h
            obtain ⟨hv', hext⟩ := CenterDb.createCommand_valid hv hcreate
            refine ⟨hv', hext.mono (fun k t hkt => ⟨hkt.2.1, e, rfl, hkt.1⟩), ?_⟩
            intro x hx hinactive
            obtain rfl := Option.some.inj hx
            exact absurd hinactive hact

theorem forceExitExecution_succeeds {db : CenterDb} (hv : db.Valid)
    (execution : Option TaskExecution) (reason : String)
    (he : ∀ e, execution = some e → ∃ e', db.execution? e.id = some e') :
    ∃ db', forceExitExecution db execution reason = .ok db' := by
  unfold forceExitExecution
  split
  · exact ⟨_, rfl⟩
  · next e =>
    split
    · exact ⟨_, rfl⟩
    · split
      · exact ⟨_, rfl⟩
      · split
        · exact ⟨_, rfl⟩
        · obtain ⟨e', he'⟩ := he e rfl
          obtain ⟨⟨db', c⟩, hr⟩ := CenterDb.createCommand_forceExit_succeeds
            hv he' { reason := reason }
          rw [hr]
          exact ⟨db', rfl⟩

theorem forceExitExecutions_ok {es : List TaskExecution} :
    ∀ {db db' : CenterDb}, db.Valid → forceExitExecutions db es = .ok db' →
      db'.Valid ∧ Extends (fun k t => t = .taskForceExit ∧
        ¬ ∀ e, e.id = k → isDockingExecution db (some e) = true) db db' := by
  induction es with
  | nil =>
    intro db db' hv h
    obtain rfl := Except.ok.inj h
    exact ⟨hv, Extends.refl _ _⟩
  | cons e es ih =>
    intro db db' hv h
    unfold forceExitExecutions at h
    split at h
    · exact ih hv h
    · next hdock =>
      split at h
      · exact absurd h (by simp)
      · next mid hmid =>
        obtain ⟨hvm, hextm, -⟩ := forceExitExecution_ok hv hmid
        obtain ⟨hv', hext'⟩ := ih hvm h
        refine ⟨hv', (hextm.mono ?_).trans (hext'.mono ?_)⟩
        · rintro k t ⟨rfl, x, hx, rfl⟩
          obtain rfl := Option.some.inj hx
          exact ⟨rfl, fun hall => hdock (hall e rfl)⟩
        · rintro k t ⟨rfl, hnot⟩
          exact ⟨rfl, fun hall => hnot (fun x hx => isDockingExecution_mono hextm (hall x hx))⟩

theorem forceExitExecutions_succeeds {es : List TaskExecution} :
    ∀ {db : CenterDb}, db.Valid → (∀ e ∈ es, ∃ e', db.execution? e.id = some e') →
      ∃ db', forceExitExecutions db es = .ok db' := by
  induction es with
  | nil => exact fun {db} _ _ => ⟨db, rfl⟩
  | cons e es ih =>
    intro db hv hes
    unfold forceExitExecutions
    split
    · exact ih hv (fun x hx => hes x (by simp [hx]))
    · obtain ⟨mid, hmid⟩ := forceExitExecution_succeeds hv (some e) "LOW_BATTERY"
        (fun x hx => by
          obtain rfl := Option.some.inj hx
          exact hes e (by simp))
      obtain ⟨hvm, hextm, -⟩ := forceExitExecution_ok hv hmid
      rw [hmid]
      refine ih hvm (fun x hx => ?_)
      obtain ⟨x', hx'⟩ := hes x (by simp [hx])
      obtain ⟨x'', hx'', -⟩ := hextm.execution_grows x.id x' hx'
      exact ⟨x'', hx''⟩

end LoopDb

/-! ## The outcomes of a call -/

namespace LoopDb

/-- The latest force-exit of the session's current execution. -/
def currentForceExit (s : LoopDb) : Option RemoteCommand :=
  s.session.currentExecution.bind (latestForceExit s.center)

/-- No force-exit was dispatched for the current execution, or the latest one has succeeded with
    the robot stopped. -/
def stopIsConfirmed (s : LoopDb) : Bool := s.currentForceExit.all stopConfirmed

/-- The commands a call may touch without stopping the current round: pauses, and force-exits of
    executions that are not the current one of an active session. -/
def quiet (v : LoopView) : Uuid → CommandType → Prop := fun k t =>
  t = .taskPause ∨
    t = .taskForceExit ∧ (v.state.isTerminal = true ∨ v.currentExecution ≠ some k)

/-- The commands a call may touch when it ends the round: pauses and force-exits. -/
def ending : Uuid → CommandType → Prop := fun _ t => t = .taskPause ∨ t = .taskForceExit

theorem quiet_ending {v : LoopView} (k : Uuid) (t : CommandType) (h : quiet v k t) :
    ending k t := h.imp_right And.left

end LoopDb

/-- The start command of round `n` of a loop over this route. -/
structure TaskStartPayload.roundStart (p : TaskStartPayload) (base : RouteSnapshot) (n : ℕ) :
    Prop where
  waypoints : p.routeSnapshot.waypoints = base.waypoints
  loopExecution : p.loopExecution = true
  roundNumber : p.roundNumber = n
  docking : p.docking.enabled = false

namespace LoopDb

/-- The row a recovery attempt of `x` under `episode` leaves: the command of this attempt that was
    there before, or a new one. -/
def RecoveryIssued (db db' : CenterDb) (x episode : Uuid) (attempt : ℕ) : Prop :=
  ∃ c, c.isRecovery x episode attempt = true ∧
    (c ∈ db.commandsOf x .taskRecover ∧
        db'.commandsOf x .taskRecover = db.commandsOf x .taskRecover ∨
      (∀ c' ∈ db.commandsOf x .taskRecover, c'.isRecovery x episode attempt = false) ∧
        db'.commandsOf x .taskRecover = db.commandsOf x .taskRecover ++ [c])

end LoopDb

open LoopDb (quiet ending RecoveryIssued)

/-- Every outcome of a call that succeeds. -/
inductive CallEffect (a : LoopLabel) (s s' : LoopDb) : Prop
  /-- Nothing changes but the time of the next poll. -/
  | poll (hstate : a = .process → s.view.state ≠ .observing) (hview : s'.view = s.view)
      (hext : Extends (quiet s.view) s.center s'.center)
  /-- A poll of the observation window: it is reset, or the robot is safe and the window stays as
      it is or is opened. -/
  | window (opened : Option ℕ) (ha : a = .process) (hstate : s.view.state = .observing)
      (hview : s'.view = { s.view with observationStartedAt := opened })
      (hsafe : opened = none ∨ (observationSafety s.center).safe = true ∧
        (opened = s.view.observationStartedAt ∨ opened = some s.center.now))
      (hext : Extends (quiet s.view) s.center s'.center)
  /-- A recovery attempt after a full window. -/
  | recover (x : Uuid) (started : ℕ) (ha : a = .process) (hstate : s.view.state = .observing)
      (hsafe : (observationSafety s.center).safe = true)
      (hstarted : s.view.observationStartedAt = some started)
      (hlong : started + seconds observationSeconds ≤ s.center.now)
      (hexec : s.view.currentExecution = some x)
      (hmax : s.view.recoveryAttempt < s.view.recoveryMaxAttempts)
      (hview : s'.view = { s.view with
        state := .recovering
        stateVersion := s.view.stateVersion + 1
        recoveryAttempt := s.view.recoveryAttempt + 1 })
      (hissued : ∀ episode, s.view.recoveryEpisodeId = some episode →
        RecoveryIssued s.center s'.center x episode (s.view.recoveryAttempt + 1))
      (hext : Extends (fun k t => quiet s.view k t ∨ onlyCommand x .taskRecover k t) s.center
        s'.center)
  /-- A new observation: of a new episode, or of the same one. -/
  | observe (episode : Option Uuid) (attempt : ℕ) (hstate : s.view.state.isTerminal = false)
      (hstopping : s.view.state ≠ .stopping)
      (hepisode : episode = s.view.recoveryEpisodeId ∧ attempt = s.view.recoveryAttempt ∧
          (episode.isSome = true ∨ s.view.state = .recovering) ∨
        attempt = 0 ∧ ∃ x, episode = some x ∧ s.center.nextUuid ≤ x ∧ x < s'.center.nextUuid)
      (hview : s'.view = { s.view with
        state := .observing
        stateVersion := s.view.stateVersion + 1
        observationStartedAt := none
        recoveryEpisodeId := episode
        recoveryAttempt := attempt
        manualPaused := false })
      (hext : Extends (quiet s.view) s.center s'.center)
  /-- The Edge task is under way again. -/
  | settle (hstate : s.view.state = .observing ∨ s.view.state = .recovering)
      (hview : s'.view = { s.view with
        state := .running
        stateVersion := s.view.stateVersion + 1
        observationStartedAt := none
        recoveryEpisodeId := none
        recoveryAttempt := 0 })
      (hext : Extends (quiet s.view) s.center s'.center)
  /-- The next round, with a new execution. -/
  | dispatch (x : Uuid) (hstate : s.view.state = .starting ∨ s.view.state = .resting)
      (hnew : s.center.nextUuid ≤ x) (hfound : ∃ e, s'.center.execution? x = some e)
      (hkey : ∀ e ∈ s'.center.executions, e.id = x →
        e.loopDispatchKey = some (s.view.id, s.view.currentRound + 1))
      (hunstopped : s'.center.commandsOf x .taskForceExit = [])
      (hstart : ∃ p, (s'.center.commandsOf x .taskStart).map RemoteCommand.payload = [.start p] ∧
        p.roundStart s.view.routeSnapshot (s.view.currentRound + 1))
      (hview : s'.view = { s.view with
        state := .running
        stateVersion := s.view.stateVersion + 1
        currentRound := s.view.currentRound + 1
        currentExecution := some x
        observationStartedAt := none
        recoveryEpisodeId := none
        recoveryAttempt := 0 })
      (hext : Extends (fun k t => quiet s.view k t ∨ onlyExecution x k t) s.center s'.center)
  /-- The rest after a round: completed, given up, or stopped and confirmed. -/
  | rest (opened : Option ℕ) (episode : Option Uuid) (attempt : ℕ)
      (hwhere : s.view.state = .running ∧ episode = s.view.recoveryEpisodeId ∧ attempt = 0 ∨
        s.view.state = .observing ∧ episode = s.view.recoveryEpisodeId ∧
          attempt = s.view.recoveryAttempt ∨
        s.view.state = .stopping ∧ s.stopIsConfirmed = true ∧ episode = none ∧ attempt = 0)
      (hview : s'.view = { s.view with
        state := .resting
        stateVersion := s.view.stateVersion + 1
        observationStartedAt := opened
        recoveryEpisodeId := episode
        recoveryAttempt := attempt })
      (hext : Extends (quiet s.view) s.center s'.center)
  /-- The session is held for the operator. -/
  | hold (hstate : s.view.state.isTerminal = false)
      (hstopping : s.view.state = .stopping → a = .pause)
      (hview : s'.view = { s.view with
        state := .paused
        stateVersion := s.view.stateVersion + 1
        manualPaused := true })
      (hext : Extends (quiet s.view) s.center s'.center)
  /-- The round is being stopped. -/
  | stopping (hstate : s.view.state.isTerminal = false) (hstopping : s.view.state ≠ .stopping)
      (hview : s'.view = { s.view with
        state := .stopping
        stateVersion := s.view.stateVersion + 1 })
      (hext : Extends ending s.center s'.center)
  /-- The loop ends. -/
  | finish (st : LoopState) (paused : Bool) (hterminal : st.isTerminal = true)
      (hstate : s.view.state.isTerminal = false)
      (hcompleted : st = .completed → Extends (quiet s.view) s.center s'.center ∧
        (s.view.state = .stopping → s.stopIsConfirmed = true))
      (hview : s'.view = { s.view with
        state := st
        stateVersion := s.view.stateVersion + 1
        manualPaused := paused })
      (hext : Extends ending s.center s'.center)

/-- The tables stay valid, and the outcome is one of the above. -/
structure CallResult (a : LoopLabel) (s s' : LoopDb) : Prop where
  valid : s'.center.Valid
  effect : CallEffect a s s'

/-- What every reachable session satisfies, whatever its state: valid tables, a current execution
    that exists, and no execution of a round yet to come. -/
structure LoopDb.Wf (s : LoopDb) : Prop where
  valid : s.center.Valid
  current : ∀ x, s.session.currentExecution = some x → ∃ e, s.center.execution? x = some e
  rounds : ∀ e ∈ s.center.executions, ∀ n, e.loopDispatchKey = some (s.session.id, n) →
    n ≤ s.session.currentRound

end RoamerX
