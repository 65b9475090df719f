import Mathlib.Data.List.Basic
import Mathlib.Data.Rat.Defs
import Mathlib.Algebra.Order.Ring.Rat
import RoamerX.Edge.PowerMode
import RoamerX.Lib.Run

set_option autoImplicit false

/-! # The control of a charge

`ChargeControlAdapter` of `charge_control_adapter.py`: what a power report does, what starting and stopping a charge do,
and the latch of the low-battery alert. The calls come one after the other here; a call to the remote host or to the
power mode that may fail is told how it ends. -/

namespace RoamerX

namespace ChargeControl

open PowerMode (Mode ChargeStage)

/-! ## Reports and settings -/

structure Power where
  available : Bool
  percent : Option ℤ
  charging : Bool
  thermalProtection : Bool
  chargeState : Option String
  chargerControllerMode : String
  chargerControllerActive : Bool
  arcDockState : Option ℤ
  bluetoothConnected : Bool
  chargePin : Option ℤ
  negativeContact : Option ℤ
  positiveContact : Option ℤ
  deriving DecidableEq

/-- `ChargeControlConfig`, in what the adapter decides by. -/
structure Config where
  fullBatteryPercent : ℤ := 95
  fullConfirmationSamples : ℕ := 3
  thermalRetryCooldownSeconds : ℚ := 60
  thermalRecoveryDelaySeconds : ℚ := 60
  lowBatteryStartPercent : ℤ := 20
  lowBatteryRearmPercent : ℤ := 25
  lowBatteryConfirmationSamples : ℕ := 2
  lowBatteryStartCooldownSeconds : ℚ := 60
  manualDisconnectAutoChargePauseSeconds : ℚ := 300

def chargerReady (power : Power) : Bool :=
  power.chargerControllerMode = "legacy" && power.bluetoothConnected && power.chargePin = some 1 &&
    power.negativeContact = some 1 && power.positiveContact = some 1

/-- What the power mode holds of a charge. -/
structure Charge where
  mode : Mode
  autoChargeEnabled : Bool
  chargeStage : ChargeStage
  deriving DecidableEq

/-- A stored charge that is over: ARC is back and nothing charges. -/
def staleCharge (snapshot : Charge) (power : Power) : Bool :=
  snapshot.autoChargeEnabled && !power.charging && power.chargerControllerMode = "arc_platform" &&
    power.arcDockState ∈ [none, some 0, some 5]

/-! ## State -/

structure Episode where
  episodeId : ℕ
  batteryPercent : ℤ
  deriving DecidableEq

/-- What happened, for the properties of runs; a log has the latest first. -/
inductive Entry
  | report (power : Power)
  | persisted (episode : Option Episode)
  | raised (episode : Episode)
  /-- The handler runs for an episode. -/
  | handled (episode : Episode)
  deriving DecidableEq

/-- The adapter, with the power mode, the store and the history. -/
structure Adapter where
  charge : Charge
  pendingCharge : Bool := false
  fullSamples : ℕ := 0
  completionRunning : Bool := false
  thermalRecoveryStartedAt : Option ℚ := none
  lastThermalRetryAt : Option ℚ := none
  previousChargeState : Option String := none
  thermalRetryRunning : Bool := false
  beginRunning : Bool := false
  recoveryRunning : Bool := false
  lowBatterySamples : ℕ := 0
  lastLowBatteryAlertAt : Option ℚ := none
  manualDisconnectInhibitUntil : ℚ := 0
  /-- `_low_battery_episode`, where it is active. -/
  episode : Option Episode := none
  /-- The thread of the alert, before its handler has run. -/
  alert : Option Episode := none
  stored : Option Episode
  log : List Entry := []

variable (config : Config) (now : ℚ)

def Adapter.setStage (stage : ChargeStage) (s : Adapter) : Adapter :=
  { s with charge := { s.charge with chargeStage := stage } }

def Adapter.setAutoCharge (enabled : Bool) (s : Adapter) : Adapter :=
  { s with charge := { s.charge with autoChargeEnabled := enabled } }

def Adapter.note (entry : Entry) (s : Adapter) : Adapter := { s with log := entry :: s.log }

/-- `_persist_low_battery_episode`, where the store works. -/
def Adapter.persist (s : Adapter) : Adapter := { s with stored := s.episode }.note (.persisted s.episode)

/-! ## Reports -/

/-- `_observe_low_battery`; a store that fails ends the call with its error. -/
def observeLowBattery (episodeId : ℕ) (persists : Bool) (power : Power) (s : Adapter) : Adapter :=
  if !power.available then { s with lowBatterySamples := 0 }
  else
    match power.percent with
    | none => { s with lowBatterySamples := 0 }
    | some percent =>
      if now < s.manualDisconnectInhibitUntil then { s with lowBatterySamples := 0 }
      else if config.lowBatteryRearmPercent ≤ percent then
        let s := { s with lowBatterySamples := 0 }
        if s.episode.isSome then
          let s := { s with episode := none }
          if persists then s.persist else s
        else s
      else if config.lowBatteryStartPercent ≤ percent then { s with lowBatterySamples := 0 }
      else if s.episode.isSome then s
      else if s.pendingCharge || s.charge.autoChargeEnabled || s.beginRunning then s
      else
        let s := { s with lowBatterySamples := s.lowBatterySamples + 1 }
        let cooldownElapsed := match s.lastLowBatteryAlertAt with
          | none => true
          | some alertedAt => decide (config.lowBatteryStartCooldownSeconds ≤ now - alertedAt)
        if s.lowBatterySamples < config.lowBatteryConfirmationSamples then s
        else if !cooldownElapsed || s.alert.isSome then s
        else
          let episode : Episode := ⟨episodeId, percent⟩
          let s := { s with lowBatterySamples := 0, lastLowBatteryAlertAt := some now, episode := some episode }
          if persists then { (s.persist.note (.raised episode)) with alert := some episode } else s

def observeThermalRecovery (power : Power) (s : Adapter) : Adapter :=
  match power.chargeState with
  | none => s
  | some state =>
    if state = "" || !power.available then s
    else
      let previous := s.previousChargeState
      let started :=
        if previous = some "thermal_protection" ∧ state = "waiting" then some now
        else if state ≠ "waiting" then none
        else s.thermalRecoveryStartedAt
      let s := { s with previousChargeState := some state, thermalRecoveryStartedAt := started }
      let cooldownElapsed := match s.lastThermalRetryAt with
        | none => true
        | some retriedAt => decide (config.thermalRetryCooldownSeconds ≤ now - retriedAt)
      let delayed := match started with
        | none => false
        | some since => decide (config.thermalRecoveryDelaySeconds ≤ now - since)
      if state = "waiting" && delayed && cooldownElapsed && !s.thermalRetryRunning then
        { s with lastThermalRetryAt := some now, thermalRecoveryStartedAt := none, thermalRetryRunning := true }
      else s

/-- The rest of `observe_power` while the automatic charge is enabled. -/
def observeFull (power : Power) (s : Adapter) : Adapter :=
  let full := power.available && decide (config.fullBatteryPercent ≤ power.percent.getD 0) && power.chargerControllerActive
  let s := { s with fullSamples := if full then s.fullSamples + 1 else 0 }
  if s.fullSamples < config.fullConfirmationSamples then s
  else if s.completionRunning then s
  else ({ s with fullSamples := 0, completionRunning := true }.setAutoCharge false)

def observePower (episodeId : ℕ) (persists : Bool) (power : Power) (s : Adapter) : Adapter :=
  let s := s.note (.report power)
  let snapshot := s.charge
  let s :=
    if power.charging then s.setStage .charging
    else if snapshot.autoChargeEnabled && power.thermalProtection then s.setStage .thermalProtection
    else s
  if staleCharge snapshot power then
    let s := (s.setAutoCharge false).setStage .idle
    if snapshot.mode = .coolingStandby then { s with recoveryRunning := true } else s
  else
    let s := if s.pendingCharge && chargerReady power then { s with beginRunning := true } else s
    if !snapshot.autoChargeEnabled then
      let s := { s with fullSamples := 0, previousChargeState := none, thermalRecoveryStartedAt := none }
      let s := if !s.pendingCharge && !power.charging && snapshot.chargeStage ≠ .idle then s.setStage .idle else s
      observeLowBattery config now episodeId persists power s
    else observeFull config power (observeThermalRecovery config now power s)

/-! ## Starts and stops -/

/-- How the steps of `_begin_charge` end. -/
structure BeginOutcome where
  enterCooling : Bool
  stopMotion : Bool
  confirm : Bool

def beginCharge (outcome : BeginOutcome) (s : Adapter) : Adapter :=
  if !s.pendingCharge then s
  else
    let s := { s with pendingCharge := false }.setStage .startingCharge
    let s := { s with charge := { s.charge with mode := .coolingStandby } }
    if !outcome.enterCooling || !outcome.stopMotion then s
    else if !outcome.confirm then (s.setAutoCharge false).setStage .error
    else (s.setAutoCharge true).setStage .waitingCurrent

/-- `start`, with the report of the refresh where it is ready, or the charger is found ready in the latest one. -/
def start (pile ready : Bool) (outcome : BeginOutcome) (s : Adapter) : Adapter :=
  let s := { s with previousChargeState := none, thermalRecoveryStartedAt := none, pendingCharge := true }
  if !pile then s
  else
    let s := s.setStage .waitingForDock
    if ready then beginCharge outcome s else s

/-- How the steps of `stop` end. -/
structure StopOutcome where
  legacyReturn : Bool
  restoreNormal : Bool
  startMotion : Bool

def stop (manual : Bool) (later : ℚ) (outcome : StopOutcome) (s : Adapter) : Adapter :=
  let s := { s with pendingCharge := false }
  let s :=
    if manual then
      { s with
        lowBatterySamples := 0
        manualDisconnectInhibitUntil := now + config.manualDisconnectAutoChargePauseSeconds }
    else s
  let s := (s.setAutoCharge false).setStage .stoppingCharge
  if !outcome.legacyReturn then s.setStage .error
  else
    let s := { s with charge := { s.charge with mode := .normal } }
    if !outcome.restoreNormal then s
    else
      let s := s.setStage .idle
      if !outcome.startMotion then s
      else if manual then
        { s with manualDisconnectInhibitUntil := later + config.manualDisconnectAutoChargePauseSeconds }
      else s

/-- A restart of the Edge: the store and the power mode are kept, which may be reconciled. -/
def restart (reconciled : Bool) (s : Adapter) : Adapter :=
  { charge := if reconciled && s.charge.mode = .normal then { s.charge with autoChargeEnabled := false } else s.charge
    episode := s.stored
    stored := s.stored
    log := s.log }

/-! ## Runs -/

inductive Call
  | observePower (now : ℚ) (episodeId : ℕ) (persists : Bool) (power : Power)
  | start (pile ready : Bool) (outcome : BeginOutcome)
  /-- The thread of `_begin_charge_async`. -/
  | beginThread (outcome : BeginOutcome)
  | stop (now later : ℚ) (outcome : StopOutcome)
  /-- The thread of `_finish_full_charge`. -/
  | completionThread (outcome : StopOutcome)
  /-- The thread of `_restore_after_stale_charge`; the automatic charge ends with the last of its commands. -/
  | recoveryThread (restored : Bool)
  /-- The thread of `_retry_after_thermal_protection`. -/
  | retryThread
  /-- The thread of `_alert_for_low_battery`. -/
  | alertThread
  /-- `_monitor_pending_dock` gives up. -/
  | dockTimeout
  /-- The power mode is set from elsewhere. -/
  | powerMode (charge : Charge)
  | restart (reconciled : Bool)

def step (s : Adapter) : Call → Adapter
  | .observePower now episodeId persists power => ChargeControl.observePower config now episodeId persists power s
  | .start pile ready outcome => ChargeControl.start pile ready outcome s
  | .beginThread outcome =>
    if s.beginRunning then { beginCharge outcome s with beginRunning := false } else s
  | .stop now later outcome => ChargeControl.stop config now true later outcome s
  | .completionThread outcome =>
    if s.completionRunning then { ChargeControl.stop config 0 false 0 outcome s with completionRunning := false } else s
  | .recoveryThread restored =>
    if s.recoveryRunning then
      { s with
        charge := { s.charge with mode := .normal, autoChargeEnabled := s.charge.autoChargeEnabled && !restored }
        recoveryRunning := false }
    else s
  | .retryThread => { s with thermalRetryRunning := false }
  | .alertThread =>
    match s.alert with
    | some episode => { s.note (.handled episode) with alert := none }
    | none => s
  | .dockTimeout => if s.pendingCharge then { s with pendingCharge := false }.setStage .error else s
  | .powerMode charge => { s with charge := charge }
  | .restart reconciled => ChargeControl.restart reconciled s

def boot (charge : Charge) (stored : Option Episode) : Adapter :=
  { charge := charge, episode := stored, stored := stored }

/-! ## The latch of the alert -/

/-- An available report below the start percentage. -/
def low (power : Power) : Bool :=
  power.available && power.percent.any fun percent => decide (percent < config.lowBatteryStartPercent)

/-- An available report at or above the rearm percentage. -/
def rearms (power : Power) : Bool :=
  power.available && power.percent.any fun percent => decide (config.lowBatteryRearmPercent ≤ percent)

def Entry.report? : Entry → Option Power
  | .report power => some power
  | _ => none

/-- The reports received, the latest first. -/
def reports (log : List Entry) : List Power := log.filterMap Entry.report?

/-- **The latch**, over everything that has happened: an episode is raised on reports that are all low, two of them have
    a report that rearms between them, and the handler runs for what is persisted. -/
structure Latched (log : List Entry) : Prop where
  confirmed {later earlier : List Entry} {episode : Episode} : log = later ++ .raised episode :: earlier →
    config.lowBatteryConfirmationSamples ≤ (reports earlier).length ∧
      ∀ power ∈ (reports earlier).take config.lowBatteryConfirmationSamples, low config power = true
  rearmed {later between earlier : List Entry} {second first : Episode} :
    log = later ++ .raised second :: (between ++ .raised first :: earlier) →
      ∃ power ∈ reports between, rearms config power = true
  persistedFirst {later earlier : List Entry} {episode : Episode} :
    log = later ++ .handled episode :: earlier → .persisted (some episode) ∈ earlier

/-- A report that does not reach the counter, because the automatic charge is enabled, is low itself or finds nothing
    counted. -/
def Counted (s : Adapter) : Call → Prop
  | .observePower _ _ _ power => s.charge.autoChargeEnabled = true → low config power = true ∨ s.lowBatterySamples = 0
  | _ => True

instance (s : Adapter) (call : Call) : Decidable (Counted config s call) := by
  unfold Counted
  split <;> infer_instance

/-- How many of the latest reports are low. -/
def lowRun (log : List Entry) : ℕ := ((reports log).takeWhile (low config)).length

/-- An episode has been raised, and no report has rearmed the alert since. -/
def Unarmed : List Entry → Prop
  | [] => False
  | .raised _ :: _ => True
  | .report power :: log => rearms config power = false ∧ Unarmed log
  | .persisted _ :: log => Unarmed log
  | .handled _ :: log => Unarmed log

variable {config} {log : List Entry}

theorem low_of_le_lowRun {n : ℕ} (h : n ≤ lowRun config log) :
    n ≤ (reports log).length ∧ ∀ power ∈ (reports log).take n, low config power = true := by
  have hprefix := List.takeWhile_prefix (low config) (l := reports log)
  refine ⟨h.trans hprefix.length_le, fun power hpower => ?_⟩
  -- the first `n` reports are among the low ones they start with
  have htake : (reports log).take n <+: (reports log).takeWhile (low config) :=
    List.prefix_of_prefix_length_le (List.take_prefix n _) hprefix ((List.length_take_le n _).trans h)
  exact List.all_eq_true.mp List.all_takeWhile power (htake.subset hpower)

theorem exists_rearms {between earlier : List Entry} {episode : Episode}
    (h : ¬ Unarmed config (between ++ .raised episode :: earlier)) : ∃ power ∈ reports between, rearms config power = true := by
  induction between with
  | nil => exact absurd trivial h
  | cons entry between ih =>
    cases entry with
    | raised => exact absurd trivial h
    | report power =>
      by_cases hpower : rearms config power = true
      · exact ⟨power, List.mem_cons_self, hpower⟩
      · obtain ⟨power', hmem, hrearms⟩ := ih fun hunarmed => h ⟨Bool.eq_false_of_not_eq_true hpower, hunarmed⟩
        exact ⟨power', List.mem_cons_of_mem _ hmem, hrearms⟩
    | persisted => exact ih h
    | handled => exact ih h

theorem latched_nil : Latched config [] :=
  ⟨fun h => by simp at h, fun h => by simp at h, fun h => by simp at h⟩

theorem Latched.cons (h : Latched config log) {entry : Entry}
    (hraised : ∀ episode, entry = .raised episode →
      config.lowBatteryConfirmationSamples ≤ lowRun config log ∧ ¬ Unarmed config log)
    (hhandled : ∀ episode, entry = .handled episode → .persisted (some episode) ∈ log) :
    Latched config (entry :: log) where
  confirmed {later earlier episode} hlog := by
    cases later with
    | nil =>
      obtain ⟨rfl, rfl⟩ := List.cons.inj hlog
      exact low_of_le_lowRun (hraised _ rfl).1
    | cons _ later => exact h.confirmed (List.cons.inj hlog).2
  rearmed {later between earlier second first} hlog := by
    cases later with
    | nil =>
      obtain ⟨rfl, rfl⟩ := List.cons.inj hlog
      exact exists_rearms (hraised _ rfl).2
    | cons _ later => exact h.rearmed (List.cons.inj hlog).2
  persistedFirst {later earlier episode} hlog := by
    cases later with
    | nil =>
      obtain ⟨rfl, rfl⟩ := List.cons.inj hlog
      exact hhandled _ rfl
    | cons _ later => exact h.persistedFirst (List.cons.inj hlog).2

/-! ## What a call keeps -/

variable (config)

/-- What holds of the latch at any time: while an episode is open it is active, in memory and in the store. -/
structure Safe (s : Adapter) : Prop where
  active : Unarmed config s.log → s.episode.isSome = true ∧ s.stored.isSome = true
  alert {episode : Episode} : s.alert = some episode → .persisted (some episode) ∈ s.log
  latched : Latched config s.log

/-- The invariant: the counter does not run ahead of the low reports. -/
structure Inv (s : Adapter) : Prop extends Safe config s where
  counted : s.lowBatterySamples ≤ lowRun config s.log

variable {config} {s s' : Adapter}

/-- What the latch is made of is kept, up to a counter that may start again. -/
structure Quiet (s s' : Adapter) : Prop where
  log : s'.log = s.log
  episode : s'.episode = s.episode
  stored : s'.stored = s.stored
  alert : s'.alert = s.alert
  samples : s'.lowBatterySamples ≤ s.lowBatterySamples

theorem Quiet.trans {s'' : Adapter} (h : Quiet s s') (h' : Quiet s' s'') : Quiet s s'' :=
  ⟨h'.log.trans h.log, h'.episode.trans h.episode, h'.stored.trans h.stored, h'.alert.trans h.alert,
    h'.samples.trans h.samples⟩

theorem Safe.of_quiet (h : Safe config s) (hquiet : Quiet s s') : Safe config s' where
  active hunarmed := by
    rw [hquiet.log] at hunarmed
    rw [hquiet.episode, hquiet.stored]
    exact h.active hunarmed
  alert halert := by
    rw [hquiet.alert] at halert
    rw [hquiet.log]
    exact h.alert halert
  latched := hquiet.log ▸ h.latched

theorem Inv.of_quiet (h : Inv config s) (hquiet : Quiet s s') : Inv config s' :=
  { h.toSafe.of_quiet hquiet with counted := by rw [hquiet.log]; exact hquiet.samples.trans h.counted }

theorem quiet_beginCharge (outcome : BeginOutcome) (s : Adapter) : Quiet s (beginCharge outcome s) := by
  unfold beginCharge
  dsimp only
  split_ifs <;> exact ⟨rfl, rfl, rfl, rfl, le_rfl⟩

theorem quiet_start (pile ready : Bool) (outcome : BeginOutcome) (s : Adapter) :
    Quiet s (start pile ready outcome s) := by
  unfold start
  dsimp only
  split_ifs
  · exact ⟨rfl, rfl, rfl, rfl, le_rfl⟩
  · refine Quiet.trans ?_ (quiet_beginCharge outcome _)
    exact ⟨rfl, rfl, rfl, rfl, le_rfl⟩
  · exact ⟨rfl, rfl, rfl, rfl, le_rfl⟩

theorem quiet_stop (manual : Bool) (later : ℚ) (outcome : StopOutcome) (s : Adapter) :
    Quiet s (stop config now manual later outcome s) := by
  unfold stop
  dsimp only
  -- a manual stop clears the counter
  split_ifs <;> first | exact ⟨rfl, rfl, rfl, rfl, le_rfl⟩ | exact ⟨rfl, rfl, rfl, rfl, Nat.zero_le _⟩

theorem quiet_observeThermalRecovery (power : Power) (s : Adapter) :
    Quiet s (observeThermalRecovery config now power s) := by
  unfold observeThermalRecovery
  cases power.chargeState with
  | none => exact ⟨rfl, rfl, rfl, rfl, le_rfl⟩
  | some state => dsimp only; split_ifs <;> exact ⟨rfl, rfl, rfl, rfl, le_rfl⟩

theorem quiet_observeFull (power : Power) (s : Adapter) : Quiet s (observeFull config power s) := by
  unfold observeFull
  dsimp only
  split_ifs <;> exact ⟨rfl, rfl, rfl, rfl, le_rfl⟩

/-- What `_observe_low_battery` can do. -/
inductive Observed (config : Config) (power : Power) (s : Adapter) : Adapter → Prop
  | cleared : Observed config power s { s with lowBatterySamples := 0 }
  | rearmed (hpower : rearms config power = true) : Observed config power s
      { s with lowBatterySamples := 0, episode := none, stored := none, log := .persisted none :: s.log }
  /-- The store fails, and keeps the episode. -/
  | forgotten (hpower : rearms config power = true) :
      Observed config power s { s with lowBatterySamples := 0, episode := none }
  | kept (hpower : low config power = true) : Observed config power s s
  | counted (hpower : low config power = true) :
      Observed config power s { s with lowBatterySamples := s.lowBatterySamples + 1 }
  /-- The store fails, and nothing is raised. -/
  | unpersisted {now : ℚ} {episode : Episode} : Observed config power s
      { s with lowBatterySamples := 0, lastLowBatteryAlertAt := some now, episode := some episode }
  | raised (hpower : low config power = true) (hepisode : s.episode = none) {now : ℚ} {episode : Episode}
      (hcount : config.lowBatteryConfirmationSamples ≤ s.lowBatterySamples + 1) : Observed config power s
      { s with
        lowBatterySamples := 0
        lastLowBatteryAlertAt := some now
        episode := some episode
        stored := some episode
        alert := some episode
        log := .raised episode :: .persisted (some episode) :: s.log }

theorem observed_observeLowBattery (episodeId : ℕ) (persists : Bool) (power : Power) (s : Adapter) :
    Observed config power s (observeLowBattery config now episodeId persists power s) := by
  unfold observeLowBattery
  cases hpercent : power.percent with
  | none => dsimp only; split_ifs <;> exact .cleared
  | some percent =>
    dsimp only
    split_ifs with havailable hinhibit hrearm hepisode hpersists hstart hactive hpending hfew hcooldown hstored
    · exact .cleared
    · exact .cleared
    · exact .rearmed (by simp_all [rearms])
    · exact .forgotten (by simp_all [rearms])
    · exact .cleared
    · exact .cleared
    all_goals have hlow : low config power = true := by simp_all [low]
    · exact .kept hlow
    · exact .kept hlow
    · exact .counted hlow
    · exact .counted hlow
    · exact .raised hlow (by simpa using hactive) (not_lt.mp hfew)
    · exact .unpersisted

theorem observePower_enabled (episodeId : ℕ) (persists : Bool) (power : Power)
    (henabled : s.charge.autoChargeEnabled = true) :
    Quiet (s.note (.report power)) (observePower config now episodeId persists power s) := by
  unfold observePower
  simp only [Adapter.note, henabled, Bool.not_true, Bool.false_eq_true, if_false]
  split_ifs
  all_goals first
    | exact ⟨rfl, rfl, rfl, rfl, le_rfl⟩
    | refine Quiet.trans (Quiet.trans ?_ (quiet_observeThermalRecovery now power _)) (quiet_observeFull power _)
      exact ⟨rfl, rfl, rfl, rfl, le_rfl⟩

theorem observePower_disabled (config : Config) (episodeId : ℕ) (persists : Bool) (power : Power)
    (hdisabled : s.charge.autoChargeEnabled = false) :
    ∃ s', Quiet (s.note (.report power)) s' ∧ observePower config now episodeId persists power s =
      observeLowBattery config now episodeId persists power s' := by
  have hstale : staleCharge s.charge power = false := by simp [staleCharge, hdisabled]
  unfold observePower
  simp only [Adapter.note, hdisabled, hstale, Bool.not_false, Bool.false_eq_true, if_false, if_true]
  refine ⟨_, ?_, rfl⟩
  split_ifs <;> exact ⟨rfl, rfl, rfl, rfl, le_rfl⟩

theorem lowRun_report_of_low {power : Power} (h : low config power = true) :
    lowRun config (.report power :: log) = lowRun config log + 1 := by
  simp [lowRun, reports, Entry.report?, h]

theorem not_unarmed_report {power : Power} (h : rearms config power = true) :
    ¬ Unarmed config (.report power :: log) :=
  fun hunarmed => Bool.false_ne_true (hunarmed.1.symm.trans h)

theorem inv_of_observed {power : Power} (hsafe : Safe config s) (hlog : s.log = .report power :: log)
    (hcount : s.lowBatterySamples ≤ lowRun config log) (h : Observed config power s s') : Inv config s' := by
  obtain ⟨hactive, halert, hlatched⟩ := hsafe
  cases h with
  | cleared => exact ⟨⟨hactive, halert, hlatched⟩, Nat.zero_le _⟩
  | rearmed hpower =>
    have hrearmed : ¬ Unarmed config s.log := hlog ▸ not_unarmed_report hpower
    exact ⟨⟨fun hunarmed => absurd hunarmed hrearmed, fun heq => List.mem_cons_of_mem _ (halert heq),
      hlatched.cons nofun nofun⟩, Nat.zero_le _⟩
  | forgotten hpower =>
    have hrearmed : ¬ Unarmed config s.log := hlog ▸ not_unarmed_report hpower
    exact ⟨⟨fun hunarmed => absurd hunarmed hrearmed, halert, hlatched⟩, Nat.zero_le _⟩
  | kept hpower =>
    have hrun : s.lowBatterySamples ≤ lowRun config s.log := by
      rw [hlog, lowRun_report_of_low hpower]
      exact hcount.trans (Nat.le_succ _)
    exact ⟨⟨hactive, halert, hlatched⟩, hrun⟩
  | counted hpower =>
    have hrun : s.lowBatterySamples + 1 ≤ lowRun config s.log := by
      rw [hlog, lowRun_report_of_low hpower]
      exact Nat.succ_le_succ hcount
    exact ⟨⟨hactive, halert, hlatched⟩, hrun⟩
  | unpersisted => exact ⟨⟨fun hunarmed => ⟨rfl, (hactive hunarmed).2⟩, halert, hlatched⟩, Nat.zero_le _⟩
  | @raised hpower hepisode now episode henough =>
    have hrun : config.lowBatteryConfirmationSamples ≤ lowRun config s.log := by
      rw [hlog, lowRun_report_of_low hpower]
      exact henough.trans (Nat.succ_le_succ hcount)
    -- an episode that is still open would be active
    have hrearmed : ¬ Unarmed config s.log := fun hunarmed => by
      have hisSome := (hactive hunarmed).1
      rw [hepisode] at hisSome
      exact Bool.false_ne_true hisSome
    have hpersisted : Latched config (.persisted (some episode) :: s.log) := hlatched.cons nofun nofun
    refine ⟨⟨fun _ => ⟨rfl, rfl⟩, fun heq => ?_, ?_⟩, Nat.zero_le _⟩
    · cases heq
      exact List.mem_cons_of_mem _ List.mem_cons_self
    · exact hpersisted.cons (fun _ _ => ⟨hrun, hrearmed⟩) nofun

theorem Safe.report (h : Safe config s) (power : Power) : Safe config (s.note (.report power)) where
  active hunarmed := h.active hunarmed.2
  alert heq := List.mem_cons_of_mem _ (h.alert heq)
  latched := h.latched.cons nofun nofun

theorem inv_observePower (episodeId : ℕ) (persists : Bool) (power : Power) (h : Inv config s)
    (hcounted : Counted config s (.observePower now episodeId persists power)) :
    Inv config (observePower config now episodeId persists power s) := by
  have hsafe := h.toSafe.report power
  cases hauto : s.charge.autoChargeEnabled with
  | true =>
    refine Inv.of_quiet ⟨hsafe, ?_⟩ (observePower_enabled now episodeId persists power hauto)
    show s.lowBatterySamples ≤ lowRun config (.report power :: s.log)
    rcases hcounted hauto with hlow | hzero
    · rw [lowRun_report_of_low hlow]
      exact h.counted.trans (Nat.le_succ _)
    · exact hzero ▸ Nat.zero_le _
  | false =>
    obtain ⟨s', hquiet, heq⟩ := observePower_disabled now config episodeId persists power hauto
    rw [heq]
    exact inv_of_observed (hsafe.of_quiet hquiet) hquiet.log (hquiet.samples.trans h.counted)
      (observed_observeLowBattery now episodeId persists power s')

/-- **A step keeps the invariant** where its report is counted. -/
theorem inv_step (call : Call) (h : Inv config s) (hcounted : Counted config s call) :
    Inv config (step config s call) := by
  cases call with
  | observePower now episodeId persists power => exact inv_observePower now episodeId persists power h hcounted
  | start pile ready outcome => exact h.of_quiet (quiet_start pile ready outcome s)
  | stop now later outcome => exact h.of_quiet (quiet_stop now true later outcome s)
  | beginThread outcome =>
    simp only [step]
    split_ifs
    · exact (h.of_quiet (quiet_beginCharge outcome s)).of_quiet ⟨rfl, rfl, rfl, rfl, le_rfl⟩
    · exact h
  | completionThread outcome =>
    simp only [step]
    split_ifs
    · exact (h.of_quiet (quiet_stop 0 false 0 outcome s)).of_quiet ⟨rfl, rfl, rfl, rfl, le_rfl⟩
    · exact h
  | recoveryThread restored =>
    simp only [step]
    split_ifs
    · exact h.of_quiet ⟨rfl, rfl, rfl, rfl, le_rfl⟩
    · exact h
  | retryThread => exact h.of_quiet ⟨rfl, rfl, rfl, rfl, le_rfl⟩
  | powerMode charge => exact h.of_quiet ⟨rfl, rfl, rfl, rfl, le_rfl⟩
  | alertThread =>
    cases halert : s.alert with
    | none => simpa only [step, halert] using h
    | some episode =>
      simp only [step, halert]
      exact ⟨⟨h.active, nofun, h.latched.cons nofun fun _ heq => by cases heq; exact h.alert halert⟩, h.counted⟩
  | dockTimeout =>
    simp only [step]
    split_ifs
    · exact h.of_quiet ⟨rfl, rfl, rfl, rfl, le_rfl⟩
    · exact h
  | restart reconciled =>
    exact ⟨⟨fun hunarmed => ⟨(h.active hunarmed).2, (h.active hunarmed).2⟩, nofun, h.latched⟩, Nat.zero_le _⟩

variable (config)

theorem inv_boot (charge : Charge) (stored : Option Episode) : Inv config (boot charge stored) :=
  ⟨⟨False.elim, fun heq => (by cases heq), latched_nil⟩, Nat.zero_le _⟩

/-- **The latch over runs.** From any start of the Edge, whatever is called, as long as each report is counted. -/
theorem latched_of_counted (charge : Charge) (stored : Option Episode) (calls : List Call)
    (h : Run.Always (step config) (Counted config) (boot charge stored) calls) :
    Latched config (Run.exec (step config) (boot charge stored) calls).log :=
  (Run.exec_invariant_of_always (Inv config) (fun _ call => inv_step call) (inv_boot config charge stored) h).latched

/-! ## Two runs -/

/-- A report of a robot off its charger. -/
def discharging (percent : ℤ) : Power where
  available := true
  percent := some percent
  charging := false
  thermalProtection := false
  chargeState := none
  chargerControllerMode := "arc_platform"
  chargerControllerActive := false
  arcDockState := none
  bluetoothConnected := false
  chargePin := none
  negativeContact := none
  positiveContact := none

def chargingReport (percent : ℤ) (full : Bool) : Power :=
  { discharging percent with charging := true, chargerControllerMode := "legacy", chargerControllerActive := full }

def normalIdle : Charge := ⟨.normal, false, .idle⟩

/-- An episode over a restart, and a second one after the battery has recovered. -/
theorem latched_twoEpisodes : Latched {} (Run.exec (step {}) (boot normalIdle none)
    [.observePower 0 1 true (discharging 19), .observePower 5 2 true (discharging 18), .alertThread,
      .observePower 10 3 true (discharging 17), .restart true, .observePower 15 4 true (discharging 16),
      .observePower 20 5 true (discharging 30), .observePower 100 6 true (discharging 19),
      .observePower 105 7 true (discharging 18), .alertThread]).log :=
  latched_of_counted {} normalIdle none _ (by decide)

/-- One low report, a charge up to full, and one low report after it: the episode is raised over a report of 95 %. -/
theorem not_latched_staleCount : ¬ Latched {} (Run.exec (step {}) (boot normalIdle none)
    [.observePower 0 1 true (discharging 19), .start true true ⟨true, true, true⟩,
      .observePower 60 2 true (chargingReport 95 true), .observePower 65 3 true (chargingReport 95 true),
      .observePower 70 4 true (chargingReport 95 true), .completionThread ⟨true, true, true⟩,
      .observePower 75 5 true (discharging 19)]).log := by
  intro h
  obtain ⟨-, hlow⟩ := h.confirmed (show _ = [] ++ _ from rfl)
  exact absurd (hlow (chargingReport 95 true) (by decide)) (by decide)

end ChargeControl

end RoamerX
