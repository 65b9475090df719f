import Mathlib.Data.List.GetD
import RoamerX.Edge.ChargeControl

set_option autoImplicit false

/-! # A charge stop among the threads of a charge

`ChargeControlAdapter` again, one call to the power mode or to the remote host at a time: the calls of `start`, `stop`
and `observe_power`, and the threads they leave behind, are activities that advance in any order. The adapter's lock
keeps apart the sections that take it; only the sections with a call to the power mode inside hold it between two steps.
What the alert of the low battery and the thermal retry do is left out: neither touches the power mode. -/

namespace RoamerX

namespace ChargeStop

open PowerMode (Mode ChargeStage)
open ChargeControl (Charge Power Config chargerReady staleCharge)

/-! ## Threads -/

/-- The threads of the adapter come first, then the calls in the order they are issued. -/
abbrev Thread := ℕ

def beginThread : Thread := 0
def monitorThread : Thread := 1
def completionThread : Thread := 2
def recoveryThread : Thread := 3

inductive Activity
  | idle
  -- `start`, after it has set the flag
  | startPile | startRefresh | startStage | startReady | startMonitor
  -- `_begin_charge`
  | beginTest | beginStage | beginCooling | beginMotion | beginConfirm | beginDisable | beginError | beginEnable
  | beginWaiting
  -- `_finish_full_charge`, and `stop` after it has cleared the flag
  | completionFlag
  | stopDisable | stopStage | stopReturn | stopError | stopRestore | stopIdle | stopCheck | stopMotion
  -- `observe_power`, with the report and the snapshot it works on
  | observeSnapshot (power : Power)
  | observeStage (power : Power) (snapshot : Charge)
  | observeStaleDisable (snapshot : Charge)
  | observeStaleIdle (snapshot : Charge)
  | observeRecover
  | observeBegin (power : Power) (snapshot : Charge)
  | observeSpawn (power : Power) (snapshot : Charge)
  | observeRest (power : Power) (snapshot : Charge)
  | observeIdle
  | observeComplete
  | observeDisable
  -- `_monitor_pending_dock`
  | monitorCheck | monitorError | monitorRefresh
  -- `_restore_after_stale_charge`
  | recoveryRestore
  deriving DecidableEq

/-- The sections under the lock that start here. -/
def Activity.needsLock : Activity → Bool
  | .startMonitor | .beginTest | .completionFlag | .observeRecover | .observeSpawn _ _ | .observeComplete
  | .monitorCheck => true
  | .observeRest _ snapshot => !snapshot.autoChargeEnabled
  | _ => false

/-- The start or stop issued last, and whether that stop has returned. -/
inductive Last
  | none
  | started
  | stopping (thread : Thread)
  | stopped
  deriving DecidableEq

structure State where
  charge : Charge
  pendingCharge : Bool := false
  /-- `_charger_ready` of `_latest_power` -/
  ready : Bool := false
  fullSamples : ℕ := 0
  lock : Option Thread := none
  threads : List Activity := [.idle, .idle, .idle, .idle]
  last : Last := .none
  /-- A charge has entered the cooling mode or stopped motion control after the stop had returned. -/
  late : Bool := false

namespace State

def activity (s : State) (thread : Thread) : Activity := s.threads.getD thread .idle

def goto (thread : Thread) (activity : Activity) (s : State) : State :=
  { s with threads := s.threads.set thread activity }

/-- A thread that is alive is not started again. -/
def spawn (thread : Thread) (activity : Activity) (s : State) : State :=
  if s.activity thread = .idle then s.goto thread activity else s

def setStage (stage : ChargeStage) (s : State) : State := { s with charge := { s.charge with chargeStage := stage } }

def setAutoCharge (enabled : Bool) (s : State) : State :=
  { s with charge := { s.charge with autoChargeEnabled := enabled } }

def setMode (mode : Mode) (s : State) : State := { s with charge := { s.charge with mode := mode } }

/-- A step of `_begin_charge` that the stop should have kept from happening. -/
def noteBegin (s : State) : State := { s with late := s.late || decide (s.last = .stopped) }

/-- Where a thread goes when `observe_power` returns. -/
def observed (thread : Thread) (s : State) : State :=
  s.goto thread (if thread = monitorThread then .monitorCheck else .idle)

end State

/-! ## Steps -/

/-- What a command or a change of the mode comes to; the catch of `stop` is for a `ProtocolError` only. -/
inductive Outcome
  | ok | protocolError | otherError
  deriving DecidableEq

variable (config : Config) (refreshes : Bool)

/-- `restore_normal`, whose end clears the automatic charge. -/
def restoreNormal (outcome : Outcome) (s : State) : State :=
  if outcome = .ok then (s.setMode .normal).setAutoCharge false else s.setMode .normal

/-- A step of a thread, which holds the lock or does not need it. The outcome is that of the command or the change of
the mode, or tells whether the dock monitor still has time. -/
def run (thread : Thread) (outcome : Outcome) (s : State) : State :=
  match s.activity thread with
  | .idle => s
  | .startPile =>
    if outcome = .ok then s.goto thread (if refreshes then .startRefresh else .startStage) else s.goto thread .idle
  | .startRefresh => s
  | .startStage => (s.setStage .waitingForDock).goto thread .startReady
  | .startReady =>
    if s.ready then s.goto thread .beginTest else s.goto thread (if refreshes then .startMonitor else .idle)
  | .startMonitor => (s.spawn monitorThread .monitorCheck).goto thread .idle
  | .beginTest =>
    if s.pendingCharge then { s with pendingCharge := false }.goto thread .beginStage else s.goto thread .idle
  | .beginStage => (s.setStage .startingCharge).goto thread .beginCooling
  | .beginCooling =>
    (s.noteBegin.setMode .coolingStandby).goto thread (if outcome = .ok then .beginMotion else .idle)
  | .beginMotion => s.noteBegin.goto thread (if outcome = .ok then .beginConfirm else .idle)
  | .beginConfirm => s.goto thread (if outcome = .ok then .beginEnable else .beginDisable)
  | .beginDisable => (s.setAutoCharge false).goto thread .beginError
  | .beginError => (s.setStage .error).goto thread .idle
  | .beginEnable => (s.setAutoCharge true).goto thread .beginWaiting
  | .beginWaiting => (s.setStage .waitingCurrent).goto thread .idle
  | .completionFlag => { s with pendingCharge := false, last := .stopping thread }.goto thread .stopDisable
  | .stopDisable => (s.setAutoCharge false).goto thread .stopStage
  | .stopStage => (s.setStage .stoppingCharge).goto thread .stopReturn
  | .stopReturn =>
    match outcome with
    | .ok => s.goto thread .stopRestore
    | .protocolError => s.goto thread .stopError
    | .otherError => s.goto thread .idle
  | .stopError => (s.setStage .error).goto thread .idle
  | .stopRestore => (restoreNormal outcome s).goto thread (if outcome = .ok then .stopIdle else .idle)
  | .stopIdle => (s.setStage .idle).goto thread .stopCheck
  | .stopCheck =>
    -- `start_motion_control` refuses while a charge is requested
    if s.charge.autoChargeEnabled || s.charge.chargeStage ≠ .idle then s.goto thread .idle
    else s.goto thread .stopMotion
  | .stopMotion =>
    if outcome = .ok ∧ s.last = .stopping thread then { s with last := .stopped }.goto thread .idle
    else s.goto thread .idle
  | .observeSnapshot power => s.goto thread (.observeStage power s.charge)
  | .observeStage power snapshot =>
    let s :=
      if power.charging then s.setStage .charging
      else if snapshot.autoChargeEnabled && power.thermalProtection then s.setStage .thermalProtection
      else s
    s.goto thread (if staleCharge snapshot power then .observeStaleDisable snapshot else .observeBegin power snapshot)
  | .observeStaleDisable snapshot => (s.setAutoCharge false).goto thread (.observeStaleIdle snapshot)
  | .observeStaleIdle snapshot =>
    if snapshot.mode = .coolingStandby then (s.setStage .idle).goto thread .observeRecover
    else (s.setStage .idle).observed thread
  | .observeRecover => (s.spawn recoveryThread .recoveryRestore).observed thread
  | .observeBegin power snapshot =>
    s.goto thread (if s.pendingCharge && chargerReady power then .observeSpawn power snapshot
      else .observeRest power snapshot)
  | .observeSpawn power snapshot => (s.spawn beginThread .beginTest).goto thread (.observeRest power snapshot)
  | .observeRest power snapshot =>
    if !snapshot.autoChargeEnabled then
      let s := { s with fullSamples := 0 }
      if !s.pendingCharge && !power.charging && snapshot.chargeStage ≠ .idle then s.goto thread .observeIdle
      else s.observed thread
    else
      let full :=
        power.available && decide (config.fullBatteryPercent ≤ power.percent.getD 0) && power.chargerControllerActive
      let s := { s with fullSamples := if full then s.fullSamples + 1 else 0 }
      if s.fullSamples < config.fullConfirmationSamples then s.observed thread else s.goto thread .observeComplete
  | .observeIdle => (s.setStage .idle).observed thread
  | .observeComplete =>
    if s.activity completionThread ≠ .idle then s.observed thread
    else { s with fullSamples := 0, lock := some thread }.goto thread .observeDisable
  | .observeDisable =>
    ({ s.setAutoCharge false with lock := none }.spawn completionThread .completionFlag).observed thread
  | .monitorCheck =>
    if !s.pendingCharge then s.goto thread .idle
    else if outcome ≠ .ok then { s with pendingCharge := false, lock := some thread }.goto thread .monitorError
    else s.goto thread .monitorRefresh
  | .monitorError => { s.setStage .error with lock := none }.goto thread .idle
  | .monitorRefresh => s
  | .recoveryRestore => (restoreNormal outcome s).goto thread .idle

inductive Label
  /-- A call is issued, and runs its first section. -/
  | start
  | stop
  | observePower (power : Power)
  | advance (thread : Thread) (outcome : Outcome)
  /-- `_power_refresh` comes back to a start or to the dock monitor. -/
  | refreshed (thread : Thread) (report : Option Power)

/-- `_power_refresh` is back. -/
def refresh (thread : Thread) (report : Option Power) (s : State) : State :=
  match s.activity thread, report with
  | .startRefresh, none => s.goto thread .startStage
  | .startRefresh, some power => { s with ready := chargerReady power }.goto thread .startStage
  | .monitorRefresh, none => s.goto thread .monitorCheck
  | .monitorRefresh, some power => { s with ready := chargerReady power }.goto thread (.observeSnapshot power)
  | _, _ => s

def step (s : State) : Label → State
  | .start =>
    if s.lock.isSome then s
    else { s with pendingCharge := true, last := .started, threads := s.threads ++ [.startPile] }
  | .stop =>
    if s.lock.isSome then s
    else
      { s with
        pendingCharge := false
        last := .stopping s.threads.length
        threads := s.threads ++ [.stopDisable] }
  | .observePower power =>
    if s.lock.isSome then s
    else { s with ready := chargerReady power, threads := s.threads ++ [.observeSnapshot power] }
  | .advance thread outcome =>
    if (s.activity thread).needsLock && s.lock.isSome then s else run config refreshes thread outcome s
  | .refreshed thread report => if report.isSome && s.lock.isSome then s else refresh thread report s

def boot (charge : Charge) : State := { charge := charge }

/-! ## The stop wins -/

/-- **The stop wins**: once the stop issued last has returned, and no start was issued after it, the charge is off, and
no charge has begun since. -/
structure Wins (s : State) : Prop where
  disabled : s.last = .stopped → s.charge.autoChargeEnabled = false
  stage : s.last = .stopped → s.charge.chargeStage = .idle ∨ s.charge.chargeStage = .error
  notLate : s.late = false

/-- What an activity still does would undo a stop: a start before its stage, a charge past the test of the flag, a stop
before its own stage, a report about to be shown as a charge. -/
def Activity.harmful : Activity → Bool
  | .startPile | .startRefresh | .startStage => true
  | .beginStage | .beginCooling | .beginMotion | .beginConfirm | .beginEnable | .beginWaiting => true
  | .stopDisable | .stopStage => true
  | .observeSnapshot power => power.charging
  | .observeStage power snapshot => power.charging || (snapshot.autoChargeEnabled && power.thermalProtection)
  | _ => false

/-- The stop issued last is past its check, or has returned. -/
def Guarded (s : State) : Prop :=
  match s.last with
  | .none | .started => False
  | .stopping thread => s.activity thread = .stopMotion
  | .stopped => True

instance (s : State) : Decidable (Guarded s) := by
  unfold Guarded
  split <;> infer_instance

/-- When the check of the stop issued last passes, nothing harmful is under way; from then on no report says that it
charges. -/
def Clear (s : State) : Label → Prop
  | .advance thread _ =>
    s.last = .stopping thread → s.activity thread = .stopCheck → s.charge.autoChargeEnabled = false →
      s.charge.chargeStage = .idle → ∀ other < s.threads.length, other ≠ thread → (s.activity other).harmful = false
  | .observePower power => Guarded s → power.charging = false
  | .refreshed thread report =>
    s.activity thread = .monitorRefresh → Guarded s → ∀ power ∈ report, power.charging = false
  | _ => True

instance (s : State) (label : Label) : Decidable (Clear s label) := by
  unfold Clear
  split <;> infer_instance

/-! ## What a step keeps -/

/-- The charge is off, and nothing that is under way would change that. -/
structure Calm (s : State) : Prop where
  disabled : s.charge.autoChargeEnabled = false
  stage : s.charge.chargeStage = .idle ∨ s.charge.chargeStage = .error
  harmless : ∀ thread, (s.activity thread).harmful = false

/-- The invariant: only a start leaves the flag set, and past the check of the stop issued last all is calm. -/
structure Inv (s : State) : Prop where
  flag : s.pendingCharge = true → s.last = .started
  calm : Guarded s → Calm s
  notLate : s.late = false

variable {config refreshes} {s s₁ : State} {thread other : Thread} {next : Activity}

theorem activity_goto (thread other : Thread) (next : Activity) (s : State) :
    (s.goto thread next).activity other = s.activity other ∨
      (other = thread ∧ (s.goto thread next).activity other = next) := by
  by_cases h : thread = other ∧ other < s.threads.length
  · right
    simp [State.goto, State.activity, List.getD_eq_getElem?_getD, h.1, h.2]
  · left
    rcases not_and_or.mp h with hne | hlen
    · simp [State.goto, State.activity, List.getD_eq_getElem?_getD, List.getElem?_set_ne hne]
    · rw [State.activity, State.activity, List.getD_eq_default _ _ (not_lt.mp hlen), List.getD_eq_default]
      simpa [State.goto] using hlen

theorem activity_append (s : State) (next : Activity) (other : Thread) :
    (s.threads ++ [next]).getD other .idle = s.activity other ∨
      (other = s.threads.length ∧ (s.threads ++ [next]).getD other .idle = next) := by
  rcases lt_trichotomy other s.threads.length with h | h | h
  · exact Or.inl (List.getD_append _ _ _ _ h)
  · exact Or.inr ⟨h, by simp [h]⟩
  · refine Or.inl ?_
    rw [State.activity, List.getD_eq_default _ _ h.le, List.getD_eq_default]
    rw [List.length_append]
    exact h

theorem Calm.not_harmful (h : Calm s) {activity : Activity} (hactivity : s.activity thread = activity)
    (hharm : activity.harmful = true) : False :=
  Bool.false_ne_true ((h.harmless thread).symm.trans (hactivity ▸ hharm))

theorem Calm.goto (h : Calm s) (hnext : next.harmful = false) : Calm (s.goto thread next) where
  disabled := h.disabled
  stage := h.stage
  harmless other := by
    rcases activity_goto thread other next s with heq | ⟨-, heq⟩
    · rw [heq]
      exact h.harmless other
    · rw [heq]
      exact hnext

theorem Inv.not_flag (h : Inv s) (hguarded : Guarded s) : s.pendingCharge = false := by
  refine Bool.eq_false_of_not_eq_true fun hflag => ?_
  simp [Guarded, h.flag hflag] at hguarded

/-- What a step does where it neither issues a start or a stop nor passes the check of a stop. -/
structure Mild (s s' : State) : Prop where
  last : s'.last = s.last
  flag : s'.pendingCharge = true → s.pendingCharge = true
  late : s'.late = s.late
  threads (other : Thread) : s'.activity other = s.activity other ∨
    (s'.activity other ≠ .stopMotion ∧ (Guarded s → (s'.activity other).harmful = false))
  charge : Guarded s → s'.charge.autoChargeEnabled = false ∧
    (s'.charge.chargeStage = .idle ∨ s'.charge.chargeStage = .error)

theorem Inv.mild (h : Inv s) : Mild s s where
  last := rfl
  flag := id
  late := rfl
  threads _ := Or.inl rfl
  charge hguarded := ⟨(h.calm hguarded).disabled, (h.calm hguarded).stage⟩

theorem Mild.goto (h : Mild s s₁) (hnext : next ≠ .stopMotion) (hharm : Guarded s → next.harmful = false) :
    Mild s (s₁.goto thread next) where
  last := h.last
  flag := h.flag
  late := h.late
  threads other := by
    rcases activity_goto thread other next s₁ with heq | ⟨-, heq⟩
    · rw [heq]
      exact h.threads other
    · rw [heq]
      exact Or.inr ⟨hnext, hharm⟩
  charge := h.charge

theorem Mild.spawn (h : Mild s s₁) (hnext : next ≠ .stopMotion) (hharm : next.harmful = false) :
    Mild s (s₁.spawn thread next) := by
  unfold State.spawn
  split_ifs
  · exact h.goto hnext fun _ => hharm
  · exact h

theorem Mild.observed (h : Mild s s₁) : Mild s (s₁.observed thread) := by
  unfold State.observed
  split_ifs
  · exact h.goto nofun fun _ => rfl
  · exact h.goto nofun fun _ => rfl

theorem Mild.setStage (h : Mild s s₁) {stage : ChargeStage} (hstage : Guarded s → stage = .idle ∨ stage = .error) :
    Mild s (s₁.setStage stage) :=
  ⟨h.last, h.flag, h.late, h.threads, fun hguarded => ⟨(h.charge hguarded).1, hstage hguarded⟩⟩

theorem Mild.setAutoCharge (h : Mild s s₁) {enabled : Bool} (henabled : Guarded s → enabled = false) :
    Mild s (s₁.setAutoCharge enabled) :=
  ⟨h.last, h.flag, h.late, h.threads, fun hguarded => ⟨henabled hguarded, (h.charge hguarded).2⟩⟩

theorem Mild.setMode (h : Mild s s₁) (mode : Mode) : Mild s (s₁.setMode mode) :=
  ⟨h.last, h.flag, h.late, h.threads, h.charge⟩

theorem Mild.restoreNormal (h : Mild s s₁) (outcome : Outcome) : Mild s (restoreNormal outcome s₁) := by
  unfold ChargeStop.restoreNormal
  split_ifs
  · exact (h.setMode .normal).setAutoCharge fun _ => rfl
  · exact h.setMode .normal

theorem Mild.clearFlag (h : Mild s s₁) (lock : Option Thread) :
    Mild s { s₁ with pendingCharge := false, lock := lock } :=
  ⟨h.last, (nomatch ·), h.late, h.threads, h.charge⟩

theorem Mild.unasked (h : Mild s s₁) (ready : Bool) (fullSamples : ℕ) (lock : Option Thread) :
    Mild s { s₁ with ready := ready, fullSamples := fullSamples, lock := lock } :=
  ⟨h.last, h.flag, h.late, h.threads, h.charge⟩

theorem Mild.noteBegin (h : Mild s s₁) (hunguarded : ¬ Guarded s) : Mild s s₁.noteBegin := by
  have hlast : s₁.last ≠ .stopped := fun hlast => hunguarded (by simp [Guarded, ← h.last, hlast])
  have hnote : s₁.noteBegin = s₁ := by simp [State.noteBegin, hlast]
  exact hnote.symm ▸ h

theorem Guarded.of_activity {s' : State} (h : Guarded s') (hlast : s'.last = s.last)
    (hactivity : ∀ thread, s.last = .stopping thread → s'.activity thread = .stopMotion →
      s.activity thread = .stopMotion) : Guarded s := by
  unfold Guarded at h ⊢
  rw [hlast] at h
  cases hcase : s.last with
  | none => simp [hcase] at h
  | started => simp [hcase] at h
  | stopped => trivial
  | stopping thread =>
    simp only [hcase] at h ⊢
    exact hactivity thread hcase h

theorem Inv.of_mild {s' : State} (h : Inv s) (hmild : Mild s s') : Inv s' where
  flag hflag := hmild.last ▸ h.flag (hmild.flag hflag)
  notLate := hmild.late.trans h.notLate
  calm hguarded := by
    -- no thread has come to the motion control of its stop in this step
    have hbefore : Guarded s := hguarded.of_activity hmild.last fun thread _ hmotion =>
      (hmild.threads thread).elim (fun heq => heq ▸ hmotion) fun hother => absurd hmotion hother.1
    refine ⟨(hmild.charge hbefore).1, (hmild.charge hbefore).2, fun thread => ?_⟩
    rcases hmild.threads thread with heq | ⟨-, hharm⟩
    · exact heq ▸ (h.calm hbefore).harmless thread
    · exact hharm hbefore

theorem mild_run_of_harmful (h : Inv s) (outcome : Outcome) (hharm : (s.activity thread).harmful = true) :
    Mild s (run config refreshes thread outcome s) := by
  have hunguarded : ¬ Guarded s := fun hguarded => (h.calm hguarded).not_harmful rfl hharm
  have hmild := h.mild
  cases hactivity : s.activity thread
  all_goals simp only [run, hactivity]
  case startPile =>
    split_ifs
    all_goals exact hmild.goto (by nofun) (absurd · hunguarded)
  case startRefresh => exact hmild
  case startStage | beginStage | beginWaiting | stopStage =>
    exact (hmild.setStage (absurd · hunguarded)).goto (by nofun) (absurd · hunguarded)
  case beginCooling =>
    exact ((hmild.noteBegin hunguarded).setMode _).goto (by split_ifs <;> nofun) (absurd · hunguarded)
  case beginMotion => exact (hmild.noteBegin hunguarded).goto (by split_ifs <;> nofun) (absurd · hunguarded)
  case beginConfirm => exact hmild.goto (by split_ifs <;> nofun) (absurd · hunguarded)
  case beginEnable | stopDisable =>
    exact (hmild.setAutoCharge (absurd · hunguarded)).goto (by nofun) (absurd · hunguarded)
  case observeSnapshot => exact hmild.goto (by nofun) (absurd · hunguarded)
  case observeStage power snapshot =>
    refine Mild.goto ?_ (by split_ifs <;> nofun) (absurd · hunguarded)
    split_ifs
    · exact hmild.setStage (absurd · hunguarded)
    · exact hmild.setStage (absurd · hunguarded)
    · exact hmild
  all_goals simp [hactivity, Activity.harmful] at hharm

theorem mild_run_of_harmless (h : Inv s) (outcome : Outcome) (hharm : (s.activity thread).harmful = false)
    (hflag : s.activity thread ≠ .completionFlag) (hcheck : s.activity thread ≠ .stopCheck)
    (hmotion : s.activity thread ≠ .stopMotion) : Mild s (run config refreshes thread outcome s) := by
  have hmild := h.mild
  cases hactivity : s.activity thread
  all_goals simp only [run, hactivity]
  case completionFlag => exact absurd hactivity hflag
  case stopCheck => exact absurd hactivity hcheck
  case stopMotion => exact absurd hactivity hmotion
  case idle | monitorRefresh => exact hmild
  case startReady =>
    split_ifs
    all_goals exact hmild.goto (by nofun) fun _ => rfl
  case startMonitor => exact (hmild.spawn (by nofun) rfl).goto (by nofun) fun _ => rfl
  case beginTest =>
    split_ifs with hpending
    · refine (hmild.clearFlag s.lock).goto (by nofun) fun hguarded => ?_
      exact absurd (hpending.symm.trans (h.not_flag hguarded)) (by decide)
    · exact hmild.goto (by nofun) fun _ => rfl
  case beginDisable => exact (hmild.setAutoCharge fun _ => rfl).goto (by nofun) fun _ => rfl
  case beginError | stopError => exact (hmild.setStage fun _ => .inr rfl).goto (by nofun) fun _ => rfl
  case stopReturn => cases outcome <;> exact hmild.goto (by nofun) fun _ => rfl
  case stopRestore => exact (hmild.restoreNormal outcome).goto (by split_ifs <;> nofun) fun _ => by split_ifs <;> rfl
  case recoveryRestore => exact (hmild.restoreNormal outcome).goto (by nofun) fun _ => rfl
  case stopIdle => exact (hmild.setStage fun _ => .inl rfl).goto (by nofun) fun _ => rfl
  case observeSnapshot power =>
    -- the snapshot of a charge that is off
    refine hmild.goto (by nofun) fun hguarded => ?_
    rw [hactivity] at hharm
    simp only [Activity.harmful, (h.calm hguarded).disabled, Bool.false_and, Bool.or_false]
    exact hharm
  case observeStage power snapshot =>
    obtain ⟨hcharging, hthermal⟩ : power.charging = false ∧
        (snapshot.autoChargeEnabled && power.thermalProtection) = false := by
      simpa [hactivity, Activity.harmful] using hharm
    simp only [hcharging, hthermal, Bool.false_eq_true, if_false]
    exact hmild.goto (by split_ifs <;> nofun) fun _ => by split_ifs <;> rfl
  case observeStaleDisable => exact (hmild.setAutoCharge fun _ => rfl).goto (by nofun) fun _ => rfl
  case observeStaleIdle =>
    split_ifs
    · exact (hmild.setStage fun _ => .inl rfl).goto (by nofun) fun _ => rfl
    · exact (hmild.setStage fun _ => .inl rfl).observed
  case observeRecover => exact (hmild.spawn (by nofun) rfl).observed
  case observeBegin => exact hmild.goto (by split_ifs <;> nofun) fun _ => by split_ifs <;> rfl
  case observeSpawn => exact (hmild.spawn (by nofun) rfl).goto (by nofun) fun _ => rfl
  case observeRest power snapshot =>
    split_ifs
    · exact (hmild.unasked s.ready 0 s.lock).goto (by nofun) fun _ => rfl
    · exact (hmild.unasked s.ready 0 s.lock).observed
    all_goals have hcounted := hmild.unasked s.ready
    · exact (hcounted _ s.lock).observed
    · exact (hcounted _ s.lock).goto (by nofun) fun _ => rfl
    · exact (hcounted _ s.lock).observed
    · exact (hcounted _ s.lock).goto (by nofun) fun _ => rfl
  case observeIdle => exact (hmild.setStage fun _ => .inl rfl).observed
  case observeComplete =>
    split_ifs
    · exact hmild.observed
    · exact (hmild.unasked s.ready 0 (some thread)).goto (by nofun) fun _ => rfl
  case observeDisable =>
    have hdisabled : Mild s (s.setAutoCharge false) := hmild.setAutoCharge fun _ => rfl
    exact ((hdisabled.unasked s.ready s.fullSamples none).spawn (by nofun) rfl).observed
  case monitorCheck =>
    split_ifs
    · exact hmild.goto (by nofun) fun _ => rfl
    · exact (hmild.clearFlag (some thread)).goto (by nofun) fun _ => rfl
    · exact hmild.goto (by nofun) fun _ => rfl
  case monitorError =>
    exact ((hmild.setStage fun _ => .inr rfl).unasked s.ready s.fullSamples none).goto (by nofun) fun _ => rfl
  all_goals simp [hactivity, Activity.harmful] at hharm

theorem activity_goto_self (h : s.activity thread ≠ .idle) : (s.goto thread next).activity thread = next := by
  have hlt : thread < s.threads.length := by
    by_contra hle
    exact h (List.getD_eq_default _ _ (not_lt.mp hle))
  simp [State.goto, State.activity, List.getD_eq_getElem?_getD, hlt]

theorem inv_of_stopping {s' : State} (h : Inv s) (hflag : s'.pendingCharge = false) (hlast : s'.last = .stopping thread)
    (hactivity : s'.activity thread = .stopDisable) (hlate : s'.late = s.late) : Inv s' where
  flag hset := absurd (hset.symm.trans hflag) (by decide)
  calm hguarded := by
    simp [Guarded, hlast, hactivity] at hguarded
  notLate := hlate.trans h.notLate

theorem inv_stopMotion (h : Inv s) (outcome : Outcome) (hactivity : s.activity thread = .stopMotion) :
    Inv (run config refreshes thread outcome s) := by
  simp only [run, hactivity]
  split_ifs with hreturns
  · have hcalm : Calm { s with last := .stopped } :=
      let ⟨hdisabled, hstage, hharmless⟩ := h.calm (by simp [Guarded, hreturns.2, hactivity])
      ⟨hdisabled, hstage, hharmless⟩
    exact ⟨fun hset => absurd (hreturns.2.symm.trans (h.flag hset)) nofun, fun _ => hcalm.goto rfl, h.notLate⟩
  · exact h.of_mild (h.mild.goto (by nofun) fun _ => rfl)

theorem inv_stopCheck (h : Inv s) (outcome : Outcome) (hactivity : s.activity thread = .stopCheck)
    (hclear : Clear s (.advance thread outcome)) : Inv (run config refreshes thread outcome s) := by
  simp only [run, hactivity]
  split_ifs with hrequested
  · exact h.of_mild (h.mild.goto (by nofun) fun _ => rfl)
  obtain ⟨hdisabled, hstage⟩ : s.charge.autoChargeEnabled = false ∧ s.charge.chargeStage = .idle := by
    simpa using hrequested
  refine ⟨h.flag, fun hguarded => ?_, h.notLate⟩
  by_cases hlast : s.last = .stopping thread
  · -- everything else is harmless, and so is the thread itself
    have hcalm : Calm s := by
      refine ⟨hdisabled, Or.inl hstage, fun other => ?_⟩
      by_cases hother : other = thread
      · rw [hother, hactivity]
        rfl
      · by_cases hlt : other < s.threads.length
        · exact hclear hlast hactivity hdisabled hstage other hlt hother
        · rw [State.activity, List.getD_eq_default _ _ (not_lt.mp hlt)]
          rfl
    exact hcalm.goto rfl
  · -- the stop issued last is another one, and has not moved
    have hbefore : Guarded s := hguarded.of_activity rfl fun other hother hmotion => by
      rcases activity_goto thread other .stopMotion s with heq | ⟨rfl, -⟩
      · exact heq ▸ hmotion
      · exact absurd hother hlast
    exact (h.calm hbefore).goto rfl

theorem inv_run (h : Inv s) (outcome : Outcome) (hclear : Clear s (.advance thread outcome)) :
    Inv (run config refreshes thread outcome s) := by
  by_cases hflag : s.activity thread = .completionFlag
  · have hself : (State.goto thread .stopDisable
        { s with pendingCharge := false, last := .stopping thread }).activity thread = .stopDisable :=
      activity_goto_self (by simp [State.activity] at hflag ⊢; simp [hflag])
    simp only [run, hflag]
    exact inv_of_stopping h rfl rfl hself rfl
  by_cases hcheck : s.activity thread = .stopCheck
  · exact inv_stopCheck h outcome hcheck hclear
  by_cases hmotion : s.activity thread = .stopMotion
  · exact inv_stopMotion h outcome hmotion
  cases hharm : (s.activity thread).harmful with
  | true => exact h.of_mild (mild_run_of_harmful h outcome hharm)
  | false => exact h.of_mild (mild_run_of_harmless h outcome hharm hflag hcheck hmotion)

theorem mild_refresh (h : Inv s) (report : Option Power) (hclear : Clear s (.refreshed thread report)) :
    Mild s (refresh thread report s) := by
  have hmild := h.mild
  unfold refresh
  split
  case h_1 hactivity => exact hmild.goto (by nofun) fun hguarded => ((h.calm hguarded).not_harmful hactivity rfl).elim
  case h_2 power hactivity =>
    refine (hmild.unasked (chargerReady power) s.fullSamples s.lock).goto (by nofun) fun hguarded => ?_
    exact ((h.calm hguarded).not_harmful hactivity rfl).elim
  case h_3 => exact hmild.goto (by nofun) fun _ => rfl
  case h_4 power hactivity =>
    refine (hmild.unasked (chargerReady power) s.fullSamples s.lock).goto (by nofun) fun hguarded => ?_
    exact hclear hactivity hguarded power rfl
  case h_5 => exact hmild

theorem inv_observePower (h : Inv s) (power : Power) (hclear : Clear s (.observePower power)) :
    Inv { s with ready := chargerReady power, threads := s.threads ++ [.observeSnapshot power] } := by
  refine h.of_mild ⟨rfl, id, rfl, fun other => ?_, (h.mild).charge⟩
  rcases activity_append s (.observeSnapshot power) other with heq | ⟨-, heq⟩
  · exact Or.inl heq
  · refine Or.inr ⟨fun hmotion => ?_, fun hguarded => ?_⟩
    · exact absurd (heq.symm.trans hmotion) nofun
    · exact (congrArg Activity.harmful heq).trans (hclear hguarded)

/-- **A step keeps the invariant**, where it is clear. -/
theorem inv_step (label : Label) (h : Inv s) (hclear : Clear s label) : Inv (step config refreshes s label) := by
  cases label with
  | start =>
    simp only [step]
    split_ifs
    · exact h
    · exact ⟨fun _ => rfl, fun hguarded => hguarded.elim, h.notLate⟩
  | stop =>
    simp only [step]
    split_ifs
    · exact h
    · exact inv_of_stopping h rfl rfl (by simp [State.activity]) rfl
  | observePower power =>
    simp only [step]
    split_ifs
    · exact h
    · exact inv_observePower h power hclear
  | advance thread outcome =>
    simp only [step]
    split_ifs
    · exact h
    · exact inv_run h outcome hclear
  | refreshed thread report =>
    simp only [step]
    split_ifs
    · exact h
    · exact h.of_mild (mild_refresh h report hclear)

theorem wins_of_inv (h : Inv s) : Wins s where
  disabled hstopped := (h.calm (by simp [Guarded, hstopped])).disabled
  stage hstopped := (h.calm (by simp [Guarded, hstopped])).stage
  notLate := h.notLate

theorem inv_boot (charge : Charge) : Inv (boot charge) := ⟨nofun, False.elim, rfl⟩

variable (config refreshes)

/-- **The stop wins** in every run that is clear, whatever advances when. -/
theorem wins_of_clear (charge : Charge) (labels : List Label)
    (h : Run.Always (step config refreshes) Clear (boot charge) labels) :
    Wins (Run.exec (step config refreshes) (boot charge) labels) :=
  wins_of_inv (Run.exec_invariant_of_always Inv (fun _ label => inv_step label) (inv_boot charge) h)

/-! ## Two runs -/

/-- A charger that is ready, with or without current. -/
def docked (charging : Bool) : Power :=
  { ChargeControl.chargingReport 50 false with
    charging := charging
    bluetoothConnected := true
    chargePin := some 1
    negativeContact := some 1
    positiveContact := some 1 }

/-- The call of `start` after its flag, on a charger that is ready: pile, refresh, stage, test. -/
def startSteps (call : Thread) : List Label :=
  [.start, .advance call .ok, .refreshed call (some (docked false)), .advance call .ok, .advance call .ok]

/-- A whole `stop`. -/
def stopSteps (call : Thread) : List Label := .stop :: List.replicate 7 (.advance call .ok)

/-- A charge that begins, is seen by a report and is stopped, with a report after it. -/
theorem wins_oneCharge :
    (Run.exec (step {} true) (boot ChargeControl.normalIdle)
      (startSteps 4 ++ List.replicate 7 (.advance 4 .ok) ++ [.observePower (docked true)] ++
        List.replicate 4 (.advance 5 .ok) ++ stopSteps 6 ++ [.observePower (docked false)])).last = .stopped ∧
    Wins (Run.exec (step {} true) (boot ChargeControl.normalIdle)
      (startSteps 4 ++ List.replicate 7 (.advance 4 .ok) ++ [.observePower (docked true)] ++
        List.replicate 4 (.advance 5 .ok) ++ stopSteps 6 ++ [.observePower (docked false)])) :=
  ⟨by decide +kernel, wins_of_clear {} true ChargeControl.normalIdle _ (by decide +kernel)⟩

/-- The stop runs as a whole after the charge has tested the flag, and the charge goes on. -/
theorem not_wins_afterTest : ¬ Wins (Run.exec (step {} true) (boot ChargeControl.normalIdle)
    (startSteps 4 ++ [.advance 4 .ok] ++ stopSteps 5 ++ List.replicate 6 (.advance 4 .ok))) :=
  fun h => absurd (h.disabled (by decide)) (by decide)

end ChargeStop

end RoamerX
