import Mathlib.Algebra.Order.Ring.Rat
import RoamerX.Center.Models

set_option autoImplicit false

/-! # Diagnosis of a fault

`FaultDiagnoser` of `self_healing.py`: from the evidence, the fault and the level of an episode to the
action of that level. A flag of the evidence holds where the source finds `True`; a number is there
where it is finite. -/

namespace RoamerX

namespace SelfHealing

/-! ## Faults, scenes and evidence -/

inductive Fault
  | localizationLost
  | ndtDegraded
  | rtkTransientLoss
  | navStuck
  | navActionFailed
  | sensorStale
  | collisionStop
  deriving DecidableEq

/-- `LOCALIZATION_FAULTS`. -/
def Fault.ofLocalization : Fault → Bool
  | .localizationLost | .ndtDegraded | .rtkTransientLoss | .sensorStale => true
  | .navStuck | .navActionFailed | .collisionStop => false

def Fault.ofLabel? (label : String) : Option Fault :=
  if label = "localization_lost" then some .localizationLost
  else if label = "ndt_degraded" then some .ndtDegraded
  else if label = "rtk_transient_loss" then some .rtkTransientLoss
  else if label = "nav_stuck" then some .navStuck
  else if label = "nav_action_failed" then some .navActionFailed
  else if label = "sensor_stale" then some .sensorStale
  else if label = "collision_stop" then some .collisionStop
  else none

def Fault.label : Fault → String
  | .localizationLost => "localization_lost"
  | .ndtDegraded => "ndt_degraded"
  | .rtkTransientLoss => "rtk_transient_loss"
  | .navStuck => "nav_stuck"
  | .navActionFailed => "nav_action_failed"
  | .sensorStale => "sensor_stale"
  | .collisionStop => "collision_stop"

inductive SceneMode
  | indoor
  | outdoor
  | transition
  deriving DecidableEq

/-- `normalize_scene_mode`, of a scope in lower case. -/
def normalizeSceneMode (scope : String) : SceneMode :=
  if scope = "outdoor" then .outdoor
  else if scope = "transition" then .transition
  else .indoor

/-- What the diagnosis reads of the evidence. -/
structure Evidence where
  rtkGoodForNavigation : Bool := false
  rtkUsable : Bool := false
  /-- In lower case. -/
  rtkQuality : String := ""
  rtkFloatUsableForUkf : Bool := false
  rtkDriftXy : Option ℚ := none
  ukfFloatMaxResidual : ℚ := 2 / 5
  lioHealthy : Bool := false
  ndtScore : Option ℚ := none
  ndtHealthy : Option Bool := none
  collisionLimited : Bool := false
  obstacleStale : Bool := false
  sensorStale : Bool := false
  /-- Where there is a status, whether it is normal. -/
  localizationNormal : Option Bool := none
  navigationProgress : Bool := false
  deriving DecidableEq

def Evidence.rtkFixed (e : Evidence) : Bool :=
  e.rtkGoodForNavigation || (e.rtkUsable && decide (e.rtkQuality = "fixed"))

/-- `_rtk_float_within_ukf_gate`. -/
def Evidence.rtkFloatWithinGate (e : Evidence) : Bool :=
  e.rtkFloatUsableForUkf ||
    (e.rtkUsable && decide (e.rtkQuality = "float") &&
      e.rtkDriftXy.any fun drift => decide (drift ≤ e.ukfFloatMaxResidual))

/-- `ndt_healthy`. -/
def Evidence.ndtIsHealthy (ndtFailureScore : ℚ) (e : Evidence) : Bool :=
  e.ndtHealthy.getD (e.ndtScore.any fun score => decide (score < ndtFailureScore))

/-! ## `FaultDiagnoser` -/

structure FaultDiagnosis where
  episodeId : Uuid
  faultLabel : Fault
  sceneMode : SceneMode
  level : ℕ
  actionType : String
  forbidSpin : Bool
  waitForRtk : Bool
  useLioHold : Bool
  searchLaser : Bool
  recovered : Bool
  reason : String
  deriving DecidableEq

/-- `normalize_fault`; the request is stripped and in lower case, and not empty. -/
def normalizeFault (ndtFailureScore : ℚ) (requested : String) (e : Evidence) (scene : SceneMode) : Fault :=
  if e.collisionLimited then .collisionStop
  else if e.obstacleStale || e.sensorStale then .sensorStale
  else if decide (e.localizationNormal = some false) && !(e.rtkFixed || e.lioHealthy) then .localizationLost
  else if requested.startsWith "ndt" && !e.ndtIsHealthy ndtFailureScore then .ndtDegraded
  else if decide (scene ≠ .indoor) && !e.rtkFixed && e.lioHealthy &&
      ["localization_lost", "ndt_degraded", "nav_action_failed", "navigation_failed"].contains requested then
    .rtkTransientLoss
  else if requested = "navigation_failed" ∨ requested = "navigation_failure" then .navActionFailed
  else if requested = "obstacle_stuck" then .navStuck
  else (Fault.ofLabel? requested).getD .navActionFailed

def hasRecovered (ndtFailureScore : ℚ) (requiredRtkSamples rtkStableSamples : ℕ) (fault : Fault)
    (e : Evidence) : Bool :=
  match fault with
  | .rtkTransientLoss => e.rtkFixed && decide (max 1 requiredRtkSamples ≤ rtkStableSamples)
  | .ndtDegraded =>
    decide (e.localizationNormal = some true) && (e.rtkFixed || e.ndtIsHealthy ndtFailureScore)
  | .localizationLost | .sensorStale =>
    decide (e.localizationNormal = some true) &&
      (e.rtkFixed || e.ndtIsHealthy ndtFailureScore || e.lioHealthy)
  | .navStuck | .navActionFailed => e.navigationProgress && !e.collisionLimited
  | .collisionStop => !e.collisionLimited

/-- `forbid_spin`. -/
def forbidsSpin (scene : SceneMode) (fault : Fault) : Bool :=
  decide (scene ≠ .indoor) || decide (fault = .rtkTransientLoss)

/-- `use_lio_hold`: the absolute sources are poor, and FAST-LIO is not. -/
def usesLioHold (ndtFailureScore : ℚ) (fault : Fault) (e : Evidence) : Bool :=
  fault.ofLocalization &&
    (!e.rtkFixed && !e.rtkFloatWithinGate && !e.ndtIsHealthy ndtFailureScore) && e.lioHealthy

/-- The action of a level, with the reason for it. -/
def actionOf (fault : Fault) (level : ℕ) (forbidSpin useLioHold : Bool) : String × String :=
  if level = 0 then
    if fault = .rtkTransientLoss then ("smart_rtk_wait", "outdoor_rtk_wait_without_motion")
    else ("observe_and_clear", "level_0_observation")
  else if level = 1 then
    if useLioHold then ("set_ukf_lio_hold", "absolute_sources_poor_lio_healthy")
    else (if fault.ofLocalization then "local_relocalize" else "local_replan", "level_1_low_cost")
  else if level = 2 then
    (if fault.ofLocalization then
        if fault = .rtkTransientLoss then "continue_lio_hold"
        else if forbidSpin then "search_laser_feature"
        else "adaptive_spin"
      else "bounded_reverse_or_bypass",
      "level_2_bounded_motion")
  else (if fault.ofLocalization then "global_relocalize" else "safe_hold", "level_3_final_recovery")

structure DiagnosisRequest where
  ndtFailureScore : ℚ
  requiredRtkSamples : ℕ
  episodeId : Uuid
  requestedFault : String
  scene : SceneMode
  evidence : Evidence
  level : ℕ
  rtkStableSamples : ℕ

def DiagnosisRequest.diagnose (r : DiagnosisRequest) : FaultDiagnosis :=
  let fault := normalizeFault r.ndtFailureScore r.requestedFault r.evidence r.scene
  let recovered :=
    hasRecovered r.ndtFailureScore r.requiredRtkSamples r.rtkStableSamples fault r.evidence
  let level := min 3 r.level
  let forbidSpin := forbidsSpin r.scene fault
  let useLioHold := usesLioHold r.ndtFailureScore fault r.evidence
  let action :=
    if recovered then ("exit_recovery", "health_condition_recovered")
    else actionOf fault level forbidSpin useLioHold
  { episodeId := r.episodeId
    faultLabel := fault
    sceneMode := r.scene
    level := level
    actionType := action.1
    forbidSpin := forbidSpin
    waitForRtk := decide (fault = .rtkTransientLoss) && decide (level = 0) && !recovered
    useLioHold := useLioHold && decide (1 ≤ level) && !recovered
    searchLaser := fault.ofLocalization && decide (fault ≠ .rtkTransientLoss) && decide (level = 2) &&
      !recovered
    recovered := recovered
    reason := action.2 }

def allowedActions (d : FaultDiagnosis) : List String :=
  if d.recovered then []
  else if d.level ≤ 1 then [d.actionType]
  else if d.level = 2 then
    if d.faultLabel.ofLocalization then
      if d.faultLabel = .rtkTransientLoss then []
      else "search_laser_feature" :: if d.forbidSpin then [] else ["adaptive_spin"]
    else ["bounded_reverse", "bounded_bypass", "bounded_lateral_left", "bounded_lateral_right"]
  else [d.actionType]

/-! ## A spin is of the second level -/

theorem adaptiveSpin_of_actionOf {fault : Fault} {level : ℕ} {forbidSpin useLioHold : Bool}
    (h : (actionOf fault level forbidSpin useLioHold).1 = "adaptive_spin") : level = 2 := by
  unfold actionOf at h
  split_ifs at h with h₀ _ h₁ _ h₂
  all_goals first
    | exact absurd h (by decide)
    | assumption

theorem forbidSpin_of_allowed (r : DiagnosisRequest)
    (h : "adaptive_spin" ∈ allowedActions r.diagnose) : r.diagnose.forbidSpin = false := by
  unfold allowedActions at h
  by_cases hrecovered : r.diagnose.recovered = true
  · rw [if_pos hrecovered] at h
    exact absurd h List.not_mem_nil
  · rw [if_neg hrecovered] at h
    have haction (hmem : "adaptive_spin" ∈ [r.diagnose.actionType]) : r.diagnose.level = 2 := by
      rw [List.mem_singleton] at hmem
      have hunrecovered : r.diagnose.actionType =
          (actionOf r.diagnose.faultLabel r.diagnose.level r.diagnose.forbidSpin
            (usesLioHold r.ndtFailureScore r.diagnose.faultLabel r.evidence)).1 := by
        exact congrArg Prod.fst (if_neg hrecovered)
      exact adaptiveSpin_of_actionOf (hunrecovered.symm.trans hmem.symm)
    by_cases hlow : r.diagnose.level ≤ 1
    · rw [if_pos hlow] at h
      have htwo := haction h
      omega
    · rw [if_neg hlow] at h
      by_cases htwo : r.diagnose.level = 2
      · rw [if_pos htwo] at h
        split_ifs at h with hlocalization hrtk hforbid
        · exact absurd h List.not_mem_nil
        · exact absurd h (by decide)
        · exact Bool.eq_false_iff.mpr hforbid
        · exact absurd h (by decide)
      · rw [if_neg htwo] at h
        exact absurd (haction h) htwo

end SelfHealing

end RoamerX
