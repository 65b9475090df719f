import Mathlib
import RoamerX.Lib.InformationFilter
import RoamerX.Lib.Run
import RoamerX.Lib.Numerals

set_option autoImplicit false

/-! # The filter of the anchor

`AnchorUkf` estimates the planar transform from the map to the frame of FAST-LIO. Over exact arithmetic its matrices
stay diagonal, so an accepted observation fuses three independent beliefs; an observation that leaves the innovation
covariance with almost no determinant is refused. -/

noncomputable section

namespace RoamerX

open scoped Numerals

/-- The components of the transform `map->lio`. -/
inductive Axis
  | x
  | y
  | yaw
  deriving DecidableEq

instance : Fintype Axis where
  elems := {.x, .y, .yaw}
  complete axis := by cases axis <;> simp

open Matrix InformationFilter Real

open scoped Classical

/-- A `double` that a caller passes. -/
inductive Double
  | finite (x : ℝ)
  | infinite (negative : Bool)
  | nan

namespace Double

def IsFinite : Double → Prop
  | finite _ => True
  | _ => False

/-- The number; one that is not finite is never read. -/
def value : Double → ℝ
  | finite x => x
  | _ => 0

def wrapAnchorYaw : Double → Double
  | finite x => finite (wrap x)
  | _ => nan

def max (bound : ℝ) : Double → Double
  | finite x => finite (Max.max x bound)
  | infinite true => finite bound
  | infinite false => infinite false
  | nan => nan

end Double

def AllFinite (v : Axis → Double) : Prop := ∀ axis, (v axis).IsFinite

structure AnchorObservation where
  value : Axis → Double
  variance : Axis → Double
  source : String

structure AnchorUpdateResult where
  accepted : Bool := false
  innovation : Axis → ℝ := 0
  gain : Axis → ℝ := 0
  reason : String := "uninitialized"

/-- The numbers of a filter that is not initialized are read by nothing. -/
structure AnchorUkf where
  initialized : Bool := false
  estimate : Axis → ℝ := 0
  covariance : Matrix Axis Axis ℝ := 1
  lastSource : String := "none"

namespace AnchorUkf

/-! ## The calls -/

def reset (value variance : Axis → Double) : AnchorUkf :=
  let value := Function.update value .yaw (value .yaw).wrapAnchorYaw
  let variance := fun axis => (variance axis).max (1 / 10 ^ 9)
  { initialized := decide (AllFinite value ∧ AllFinite variance)
    estimate := fun axis => (value axis).value
    covariance := diagonal fun axis => (variance axis).value
    lastSource := "seed" }

def clear : AnchorUkf := {}

/-- What a motion adds to the variances. -/
def motionNoise (translation rotation translationVariancePerM yawVariancePerRad : ℝ) : Axis → ℝ
  | .yaw => max 0 |rotation| * max 0 yawVariancePerRad
  | _ => max 0 |translation| * max 0 translationVariancePerM

def predict (translation rotation translationVariancePerM yawVariancePerRad : ℝ) (filter : AnchorUkf) : AnchorUkf :=
  if filter.initialized then
    { filter with
      covariance :=
        filter.covariance + diagonal (motionNoise translation rotation translationVariancePerM yawVariancePerRad) }
  else
    filter

/-- The third component of a vector is an angle. -/
def wrapYaw (v : Axis → ℝ) : Axis → ℝ := Function.update v .yaw (wrap (v .yaw))

/-- What `update` asks of an observation before it looks at it. -/
def Valid (observation : AnchorObservation) : Prop :=
  AllFinite observation.value ∧ AllFinite observation.variance ∧ ∀ axis, 0 < (observation.variance axis).value

/-- Over exact arithmetic no result is infinite, so an update that is computed is accepted. -/
def update (filter : AnchorUkf) (observation : AnchorObservation) : AnchorUkf × AnchorUpdateResult :=
  if ¬ Valid observation then
    (filter, { reason := "invalid_observation" })
  else if !filter.initialized then
    let seeded := { reset observation.value observation.variance with lastSource := observation.source }
    (seeded, { accepted := seeded.initialized, gain := 1,
               reason := if seeded.initialized then "initialized" else "invalid_observation" })
  else
    let innovation := wrapYaw fun axis => (observation.value axis).value - filter.estimate axis
    let noise := diagonal fun axis => (observation.variance axis).value
    let innovationCovariance := filter.covariance + noise
    if |innovationCovariance.det| < 1 / 10 ^ 18 then
      (filter, { reason := "singular_covariance" })
    else
      let gain := filter.covariance * innovationCovariance⁻¹
      let covariance := (1 - gain) * filter.covariance
      ({ filter with
          estimate := wrapYaw (filter.estimate + gain *ᵥ innovation)
          covariance := (1 / 2 : ℝ) • (covariance + covarianceᵀ)
          lastSource := observation.source },
        { accepted := true, innovation := innovation, gain := gain.diag, reason := "accepted" })

inductive Call
  | reset (value variance : Axis → Double)
  | clear
  | predict (translation rotation translationVariancePerM yawVariancePerRad : ℝ)
  | update (observation : AnchorObservation)

def step (filter : AnchorUkf) : Call → AnchorUkf
  | .reset value variance => reset value variance
  | .clear => clear
  | .predict translation rotation translationVariancePerM yawVariancePerRad =>
    filter.predict translation rotation translationVariancePerM yawVariancePerRad
  | .update observation => (filter.update observation).1

/-- Updates in turn, with no other call between them. -/
def absorb (filter : AnchorUkf) (observation : AnchorObservation) : AnchorUkf := (filter.update observation).1

/-! ## What an update does -/

/-- A diagonal covariance with positive entries, and a yaw of the half-open circle. -/
structure Sound (filter : AnchorUkf) : Prop where
  diagonal : ∀ i j, i ≠ j → filter.covariance i j = 0
  positive : ∀ axis, 0 < filter.covariance axis axis
  yaw : filter.estimate .yaw ∈ Set.Ioc (-π) π

/-- What the filter believes about one component. -/
def belief (filter : AnchorUkf) (axis : Axis) : Belief ℝ := ⟨filter.estimate axis, filter.covariance axis axis⟩

def observed (observation : AnchorObservation) (axis : Axis) : Belief ℝ :=
  ⟨(observation.value axis).value, (observation.variance axis).value⟩

def gainOf (filter : AnchorUkf) (observation : AnchorObservation) (axis : Axis) : ℝ :=
  gain (filter.covariance axis axis) (observation.variance axis).value

def innovationOf (filter : AnchorUkf) (observation : AnchorObservation) : Axis → ℝ :=
  wrapYaw fun axis => (observation.value axis).value - filter.estimate axis

variable {filter : AnchorUkf} {observation : AnchorObservation}

theorem Sound.covariance_eq (h : filter.Sound) :
    filter.covariance = Matrix.diagonal fun axis => filter.covariance axis axis := by
  ext i j
  by_cases hij : i = j
  · rw [hij, diagonal_apply_eq]
  · rw [diagonal_apply_ne _ hij, h.diagonal i j hij]

theorem gain_eq (h : filter.Sound) (hvalid : Valid observation) :
    filter.covariance * (filter.covariance + Matrix.diagonal fun axis => (observation.variance axis).value)⁻¹ =
      Matrix.diagonal (filter.gainOf observation) := by
  have hpos (axis : Axis) : 0 < filter.covariance axis axis + (observation.variance axis).value :=
    add_pos (h.positive axis) (hvalid.2.2 axis)
  have hinverse : (Matrix.diagonal fun axis => filter.covariance axis axis + (observation.variance axis).value)⁻¹ =
      Matrix.diagonal fun axis => (filter.covariance axis axis + (observation.variance axis).value)⁻¹ := by
    apply inv_eq_right_inv
    rw [diagonal_mul_diagonal, ← diagonal_one]
    congr 1
    funext axis
    exact mul_inv_cancel₀ (hpos axis).ne'
  rw [h.covariance_eq, diagonal_add, hinverse, diagonal_mul_diagonal]
  congr 1

/-- The covariance refused is one with almost no determinant. -/
def Refused (filter : AnchorUkf) (observation : AnchorObservation) : Prop :=
  |(filter.covariance + Matrix.diagonal fun axis => (observation.variance axis).value).det| < 1 / 10 ^ 18

theorem update_cases (h : filter.Sound) (hinitialized : filter.initialized = true) (observation : AnchorObservation) :
    ((filter.update observation).1 = filter ∧ (filter.update observation).2.accepted = false ∧
      (Valid observation → filter.Refused observation)) ∨
    (Valid observation ∧ ¬ filter.Refused observation ∧ (filter.update observation).2.accepted = true ∧
      (filter.update observation).2.gain = filter.gainOf observation ∧
      (filter.update observation).1.initialized = true ∧
      (filter.update observation).1.estimate =
        wrapYaw (fun axis =>
          filter.estimate axis + filter.gainOf observation axis * filter.innovationOf observation axis) ∧
      (filter.update observation).1.covariance =
        Matrix.diagonal fun axis => ((filter.belief axis).fuse (observed observation axis)).variance) := by
  by_cases hvalid : Valid observation
  · by_cases hrefused : filter.Refused observation
    · left
      have hupdate : filter.update observation = (filter, { reason := "singular_covariance" }) := by
        rw [update, if_neg (not_not.mpr hvalid), if_neg (by simp [hinitialized])]
        exact if_pos hrefused
      rw [hupdate]
      exact ⟨rfl, rfl, fun _ => hrefused⟩
    · right
      have hgain := gain_eq h hvalid
      have hupdate := update.eq_def filter observation
      rw [if_neg (not_not.mpr hvalid), if_neg (by simp [hinitialized])] at hupdate
      have hupdate := hupdate.trans (if_neg hrefused)
      dsimp only at hupdate
      rw [hgain] at hupdate
      refine ⟨hvalid, hrefused, ?_⟩
      rw [hupdate]
      refine ⟨rfl, diag_diagonal _, hinitialized, ?_, ?_⟩
      · refine congrArg wrapYaw ?_
        funext axis
        rw [Pi.add_apply, mulVec_diagonal]
        rfl
      · have hfused : (1 - Matrix.diagonal (filter.gainOf observation)) * filter.covariance =
            Matrix.diagonal fun axis => ((filter.belief axis).fuse (observed observation axis)).variance := by
          rw [h.covariance_eq, ← diagonal_one, diagonal_sub, diagonal_mul_diagonal]
          congr 1
        dsimp only
        rw [hfused, diagonal_transpose, ← two_smul ℝ, smul_smul]
        norm_num
  · left
    have hupdate : filter.update observation = (filter, { reason := "invalid_observation" }) := by
      rw [update, if_pos hvalid]
    rw [hupdate]
    exact ⟨rfl, rfl, fun h => absurd h hvalid⟩

/-! ## The invariant of a run -/

def Inv (filter : AnchorUkf) : Prop := filter.initialized = true → filter.Sound

theorem pos_max {value : Double} {bound : ℝ} (hbound : 0 < bound) (hfinite : (value.max bound).IsFinite) :
    0 < (value.max bound).value := by
  cases value with
  | finite x => exact lt_max_of_lt_right hbound
  | infinite negative =>
    cases negative with
    | false => exact absurd hfinite id
    | true => exact hbound
  | nan => exact absurd hfinite id

theorem wrapAnchorYaw_mem {value : Double} (hfinite : value.wrapAnchorYaw.IsFinite) :
    value.wrapAnchorYaw.value ∈ Set.Ioc (-π) π := by
  cases value with
  | finite x => exact wrap_mem x
  | infinite negative => exact absurd hfinite id
  | nan => exact absurd hfinite id

theorem inv_reset (value variance : Axis → Double) : (reset value variance).Inv := by
  intro h
  obtain ⟨hvalue, hvariance⟩ := of_decide_eq_true h
  refine ⟨fun i j hij => diagonal_apply_ne _ hij, fun axis => ?_, ?_⟩
  · show 0 < Matrix.diagonal _ axis axis
    rw [diagonal_apply_eq]
    exact pos_max (by positivity) (hvariance axis)
  · have hyaw := hvalue .yaw
    rw [Function.update_self] at hyaw
    show (Function.update value .yaw _ .yaw).value ∈ _
    rw [Function.update_self]
    exact wrapAnchorYaw_mem hyaw

theorem Sound.predict (h : filter.Sound) (translation rotation translationVariancePerM yawVariancePerRad : ℝ) :
    (filter.predict translation rotation translationVariancePerM yawVariancePerRad).Sound := by
  unfold AnchorUkf.predict
  split
  · refine ⟨fun i j hij => ?_, fun axis => ?_, h.yaw⟩
    · show (filter.covariance + Matrix.diagonal _ : Matrix Axis Axis ℝ) i j = 0
      rw [Matrix.add_apply, diagonal_apply_ne _ hij, h.diagonal i j hij, add_zero]
    · show 0 < (filter.covariance + Matrix.diagonal _ : Matrix Axis Axis ℝ) axis axis
      rw [Matrix.add_apply, diagonal_apply_eq]
      apply add_pos_of_pos_of_nonneg (h.positive axis)
      cases axis with
      | yaw => exact mul_nonneg (le_max_left 0 _) (le_max_left 0 _)
      | x => exact mul_nonneg (le_max_left 0 _) (le_max_left 0 _)
      | y => exact mul_nonneg (le_max_left 0 _) (le_max_left 0 _)
  · exact h

theorem Sound.update (h : filter.Sound) (hinitialized : filter.initialized = true) (observation : AnchorObservation) :
    (filter.update observation).1.Sound := by
  obtain ⟨hsame, -⟩ | ⟨hvalid, -, -, -, -, hestimate, hcovariance⟩ := update_cases h hinitialized observation
  · rw [hsame]
    exact h
  · refine ⟨fun i j hij => ?_, fun axis => ?_, ?_⟩
    · rw [hcovariance, diagonal_apply_ne _ hij]
    · rw [hcovariance, diagonal_apply_eq]
      exact Belief.variance_fuse_pos (h.positive axis) (hvalid.2.2 axis)
    · rw [hestimate, wrapYaw, Function.update_self]
      exact wrap_mem _

theorem update_uninitialized (hinitialized : filter.initialized = false) (hvalid : Valid observation) :
    filter.update observation =
      ({ reset observation.value observation.variance with lastSource := observation.source },
        { accepted := (reset observation.value observation.variance).initialized, gain := 1,
          reason := if (reset observation.value observation.variance).initialized then "initialized"
            else "invalid_observation" }) := by
  rw [AnchorUkf.update, if_neg (not_not.mpr hvalid), if_pos (by simp [hinitialized])]

theorem initialized_reset (hvalid : Valid observation) :
    (reset observation.value observation.variance).initialized = true := by
  obtain ⟨hvalue, hvariance, -⟩ := hvalid
  apply decide_eq_true
  refine ⟨fun axis => ?_, fun axis => ?_⟩
  · by_cases haxis : axis = .yaw
    · rw [haxis, Function.update_self]
      have hyaw := hvalue .yaw
      cases hv : observation.value .yaw with
      | finite x => trivial
      | infinite negative => rw [hv] at hyaw; exact hyaw
      | nan => rw [hv] at hyaw; exact hyaw
    · rw [Function.update_of_ne haxis]
      exact hvalue axis
  · show ((observation.variance axis).max _).IsFinite
    have hfinite := hvariance axis
    cases hv : observation.variance axis with
    | finite x => trivial
    | infinite negative => rw [hv] at hfinite; exact absurd hfinite id
    | nan => rw [hv] at hfinite; exact absurd hfinite id

theorem inv_step (filter : AnchorUkf) (call : Call) (h : filter.Inv) : (filter.step call).Inv := by
  cases call with
  | reset value variance => exact inv_reset value variance
  | clear => exact fun hinitialized => nomatch hinitialized
  | predict translation rotation translationVariancePerM yawVariancePerRad =>
    intro hinitialized
    have hbefore : filter.initialized = true := by
      simp only [step, predict] at hinitialized
      split at hinitialized
      · assumption
      · exact hinitialized
    exact (h hbefore).predict ..
  | update observation =>
    by_cases hinitialized : filter.initialized = true
    · exact fun _ => (h hinitialized).update hinitialized observation
    · rw [Bool.not_eq_true] at hinitialized
      by_cases hvalid : Valid observation
      · show Inv (filter.update observation).1
        rw [update_uninitialized hinitialized hvalid]
        intro hreset
        have hsound := inv_reset _ _ hreset
        exact ⟨hsound.diagonal, hsound.positive, hsound.yaw⟩
      · show Inv (filter.update observation).1
        rw [AnchorUkf.update, if_pos hvalid]
        exact h

theorem inv_exec (calls : List Call) : (Run.exec step {} calls).Inv :=
  Run.exec_invariant Inv inv_step (fun h => absurd h Bool.false_ne_true) calls

/-! ## The law of the filter -/

/-- A component has gone a part of its way to the observation, an angle along the shorter arc. -/
def MovesTowards (filter after : AnchorUkf) (observation : AnchorObservation) : Axis → Prop
  | .yaw => ∃ t, 0 < t ∧ t < 1 ∧
      wrap (after.estimate .yaw - filter.estimate .yaw) =
        t * wrap ((observation.value .yaw).value - filter.estimate .yaw) ∧
      wrap ((observation.value .yaw).value - after.estimate .yaw) =
        (1 - t) * wrap ((observation.value .yaw).value - filter.estimate .yaw)
  | axis => ∃ t, 0 < t ∧ t < 1 ∧
      after.estimate axis = filter.estimate axis + t * ((observation.value axis).value - filter.estimate axis)

/-- The residual of the yaw is not wrapped. -/
def ResidualUnwrapped (filter : AnchorUkf) (observation : AnchorObservation) : Prop :=
  Valid observation ∧ filter.innovationOf observation .yaw = (observation.value .yaw).value - filter.estimate .yaw

/-- The observation is accepted, and neither the residual of the yaw nor its new value is wrapped. -/
def Unwrapped (filter : AnchorUkf) (observation : AnchorObservation) : Prop :=
  (filter.update observation).2.accepted = true ∧ filter.ResidualUnwrapped observation ∧
    filter.estimate .yaw + (filter.update observation).2.gain .yaw * filter.innovationOf observation .yaw ∈
      Set.Ioc (-π) π

/-- The inverse-variance weighted mean and the harmonic sum. -/
def MeetsMean (filter : AnchorUkf) (observations : List AnchorObservation) : Prop :=
  ∀ axis, (Run.exec absorb filter observations).belief axis =
    ⟨(filter.belief axis).weightedMean (observations.map (observed · axis)),
      (filter.belief axis).harmonicVariance (observations.map (observed · axis))⟩

structure Informs (filter : AnchorUkf) : Prop where
  sound : filter.initialized = true → filter.Sound
  rejected : ∀ observation, (filter.update observation).2.accepted = false → (filter.update observation).1 = filter
  accepted : filter.initialized = true → ∀ observation, (filter.update observation).2.accepted = true → ∀ axis,
    (filter.update observation).1.covariance axis axis < filter.covariance axis axis ∧
    (filter.update observation).1.covariance axis axis < (observation.variance axis).value ∧
    MovesTowards filter (filter.update observation).1 observation axis
  mean : filter.initialized = true → ∀ observations, Run.Always absorb Unwrapped filter observations →
    filter.MeetsMean observations
  order : filter.initialized = true → ∀ observations others, observations.Perm others →
    Run.Always absorb Unwrapped filter observations → Run.Always absorb Unwrapped filter others →
    (Run.exec absorb filter observations).estimate = (Run.exec absorb filter others).estimate ∧
    (Run.exec absorb filter observations).covariance = (Run.exec absorb filter others).covariance

theorem Inv.rejected (h : filter.Inv) (hrejected : (filter.update observation).2.accepted = false) :
    (filter.update observation).1 = filter := by
  by_cases hinitialized : filter.initialized = true
  · obtain ⟨hsame, -⟩ | ⟨-, -, haccepted, -⟩ := update_cases (h hinitialized) hinitialized observation
    · exact hsame
    · rw [haccepted] at hrejected
      exact nomatch hrejected
  · rw [Bool.not_eq_true] at hinitialized
    by_cases hvalid : Valid observation
    · rw [update_uninitialized hinitialized hvalid] at hrejected
      exact nomatch (initialized_reset hvalid).symm.trans hrejected
    · rw [AnchorUkf.update, if_pos hvalid]

theorem gainOf_mem (h : filter.Sound) (hvalid : Valid observation) (axis : Axis) :
    0 < filter.gainOf observation axis ∧ filter.gainOf observation axis < 1 :=
  ⟨Belief.gain_pos (h.positive axis) (hvalid.2.2 axis), Belief.gain_lt_one (h.positive axis) (hvalid.2.2 axis)⟩

theorem innovationOf_of_ne {axis : Axis} (haxis : axis ≠ .yaw) :
    filter.innovationOf observation axis = (observation.value axis).value - filter.estimate axis := by
  rw [innovationOf, wrapYaw, Function.update_of_ne haxis]

theorem Sound.accepted (h : filter.Sound) (hinitialized : filter.initialized = true)
    (haccepted : (filter.update observation).2.accepted = true) (axis : Axis) :
    (filter.update observation).1.covariance axis axis < filter.covariance axis axis ∧
    (filter.update observation).1.covariance axis axis < (observation.variance axis).value ∧
    MovesTowards filter (filter.update observation).1 observation axis := by
  obtain ⟨-, hrejected, -⟩ | ⟨hvalid, -, -, -, -, hestimate, hcovariance⟩ := update_cases h hinitialized observation
  · rw [hrejected] at haccepted
    exact nomatch haccepted
  · rw [hcovariance, diagonal_apply_eq]
    have hprior := h.positive axis
    have hnoise := hvalid.2.2 axis
    refine ⟨Belief.variance_fuse_lt_left hprior hnoise, Belief.variance_fuse_lt_right hprior hnoise, ?_⟩
    obtain ⟨hpos, hlt⟩ := gainOf_mem h hvalid axis
    have hplane (haxis : axis ≠ .yaw) : (filter.update observation).1.estimate axis =
        filter.estimate axis +
          filter.gainOf observation axis * ((observation.value axis).value - filter.estimate axis) := by
      rw [hestimate, wrapYaw, Function.update_of_ne haxis, innovationOf_of_ne haxis]
    cases axis with
    | x => exact ⟨_, hpos, hlt, hplane (by decide)⟩
    | y => exact ⟨_, hpos, hlt, hplane (by decide)⟩
    | yaw =>
      have hyaw : (filter.update observation).1.estimate .yaw = wrap (filter.estimate .yaw +
          filter.gainOf observation .yaw * wrap ((observation.value .yaw).value - filter.estimate .yaw)) := by
        rw [hestimate, wrapYaw, Function.update_self, innovationOf, wrapYaw, Function.update_self]
      refine ⟨_, hpos, hlt, ?_, ?_⟩
      · rw [hyaw]
        exact wrap_arc_gone hpos.le hlt.le _ _
      · rw [hyaw]
        exact wrap_arc_left hpos.le hlt.le _ _

theorem belief_absorb (h : filter.Sound) (hinitialized : filter.initialized = true)
    (hunwrapped : filter.Unwrapped observation) (axis : Axis) :
    (filter.absorb observation).belief axis = (filter.belief axis).fuse (observed observation axis) := by
  obtain ⟨haccepted, ⟨-, hresidual⟩, hrange⟩ := hunwrapped
  obtain ⟨-, hrejected, -⟩ | ⟨-, -, -, hgain, -, hestimate, hcovariance⟩ := update_cases h hinitialized observation
  · rw [hrejected] at haccepted
    exact nomatch haccepted
  · have hvalue : (filter.update observation).1.estimate axis =
        filter.estimate axis +
          filter.gainOf observation axis * ((observation.value axis).value - filter.estimate axis) := by
      rw [hestimate]
      by_cases haxis : axis = .yaw
      · rw [haxis, wrapYaw, Function.update_self, ← hresidual]
        rw [hgain] at hrange
        exact wrap_of_mem hrange
      · rw [wrapYaw, Function.update_of_ne haxis, innovationOf_of_ne haxis]
    ext
    · exact hvalue
    · show (filter.update observation).1.covariance axis axis = _
      rw [hcovariance, diagonal_apply_eq]

theorem Unwrapped.initialized (h : filter.Sound) (hinitialized : filter.initialized = true)
    (hunwrapped : filter.Unwrapped observation) : (filter.absorb observation).initialized = true := by
  obtain ⟨-, hrejected, -⟩ | ⟨-, -, -, -, hafter, -⟩ := update_cases h hinitialized observation
  · exact nomatch hrejected.symm.trans hunwrapped.1
  · exact hafter

/-- Over a run of such observations the belief of every component is fused with each of them in turn. -/
theorem belief_exec (h : filter.Sound) (hinitialized : filter.initialized = true)
    {observations : List AnchorObservation} (hunwrapped : Run.Always absorb Unwrapped filter observations) :
    (Run.exec absorb filter observations).Sound ∧
      ∀ axis, (Run.exec absorb filter observations).belief axis =
        (observations.map (observed · axis)).foldl Belief.fuse (filter.belief axis) := by
  induction observations generalizing filter with
  | nil => exact ⟨h, fun _ => rfl⟩
  | cons observation observations ih =>
    obtain ⟨hnow, hlater⟩ := hunwrapped
    obtain ⟨hsound, hbelief⟩ := ih (h.update hinitialized observation) (hnow.initialized h hinitialized) hlater
    refine ⟨hsound, fun axis => ?_⟩
    rw [Run.exec_cons, List.map_cons, List.foldl_cons, ← belief_absorb h hinitialized hnow axis]
    exact hbelief axis

theorem observed_pos {observations : List AnchorObservation} (axis : Axis)
    (hunwrapped : Run.Always absorb Unwrapped filter observations) :
    ∀ b ∈ observations.map (observed · axis), 0 < b.variance := by
  induction observations generalizing filter with
  | nil => exact fun b hb => nomatch hb
  | cons observation observations ih =>
    intro b hb
    rw [List.map_cons, List.mem_cons] at hb
    obtain rfl | hb := hb
    · exact hunwrapped.1.2.1.1.2.2 axis
    · exact ih hunwrapped.2 b hb

theorem Sound.mean (h : filter.Sound) (hinitialized : filter.initialized = true)
    {observations : List AnchorObservation} (hunwrapped : Run.Always absorb Unwrapped filter observations) :
    filter.MeetsMean observations := by
  intro axis
  rw [(belief_exec h hinitialized hunwrapped).2 axis]
  exact Belief.foldl_fuse (h.positive axis) (observed_pos axis hunwrapped)

theorem Sound.order (h : filter.Sound) (hinitialized : filter.initialized = true)
    {observations others : List AnchorObservation} (hperm : observations.Perm others)
    (hunwrapped : Run.Always absorb Unwrapped filter observations)
    (hothers : Run.Always absorb Unwrapped filter others) :
    (Run.exec absorb filter observations).estimate = (Run.exec absorb filter others).estimate ∧
    (Run.exec absorb filter observations).covariance = (Run.exec absorb filter others).covariance := by
  have hbelief (axis : Axis) :
      (Run.exec absorb filter observations).belief axis = (Run.exec absorb filter others).belief axis := by
    rw [h.mean hinitialized hunwrapped axis, h.mean hinitialized hothers axis]
    have hprecision := ((hperm.map (observed · axis)).map Belief.precision).sum_eq
    have hweight := ((hperm.map (observed · axis)).map Belief.weight).sum_eq
    rw [Belief.weightedMean, Belief.weightedMean, Belief.harmonicVariance, Belief.harmonicVariance, hprecision, hweight]
  refine ⟨funext fun axis => congrArg Belief.value (hbelief axis), ?_⟩
  rw [(belief_exec h hinitialized hunwrapped).1.covariance_eq, (belief_exec h hinitialized hothers).1.covariance_eq]
  exact congrArg Matrix.diagonal (funext fun axis => congrArg Belief.variance (hbelief axis))

/-- **The anchor filter is an information filter** in every state that calls lead to. -/
theorem run_informs (calls : List Call) : (Run.exec step {} calls).Informs where
  sound := inv_exec calls
  rejected _ := (inv_exec calls).rejected
  accepted hinitialized _ := (inv_exec calls hinitialized).accepted hinitialized
  mean hinitialized _ := (inv_exec calls hinitialized).mean hinitialized
  order hinitialized _ _ := (inv_exec calls hinitialized).order hinitialized

/-! ## Where the mean is missed -/

/-- Reset to zero, with one variance for every component. -/
def seeded (yaw variance : ℝ) : AnchorUkf :=
  Run.exec step {} [.reset (fun | .yaw => .finite yaw | _ => .finite 0) fun _ => .finite variance]

def seen (yaw variance : ℝ) : AnchorObservation where
  value := fun | .yaw => .finite yaw | _ => .finite 0
  variance := fun _ => .finite variance
  source := "ndt"

theorem sound_seeded {yaw variance : ℝ} :
    (seeded yaw variance).initialized = true ∧ (seeded yaw variance).Sound := by
  have hinitialized : (seeded yaw variance).initialized = true := by
    apply decide_eq_true
    refine ⟨fun axis => ?_, fun axis => trivial⟩
    cases axis with
    | yaw => trivial
    | x => trivial
    | y => trivial
  exact ⟨hinitialized, inv_exec _ hinitialized⟩

theorem belief_seeded {yaw variance : ℝ} (hyaw : yaw ∈ Set.Ioc (-π) π) (hvariance : 1 / 10 ^ 9 ≤ variance) :
    (seeded yaw variance).belief .yaw = ⟨yaw, variance⟩ := by
  ext
  · exact wrap_of_mem hyaw
  · show Matrix.diagonal (fun _ => _) Axis.yaw Axis.yaw = variance
    rw [diagonal_apply_eq]
    exact max_eq_left hvariance

theorem valid_seen {yaw variance : ℝ} (hvariance : 0 < variance) : Valid (seen yaw variance) := by
  refine ⟨fun axis => ?_, fun axis => trivial, fun axis => hvariance⟩
  cases axis with
  | yaw => trivial
  | x => trivial
  | y => trivial

theorem det_seeded (yaw variance noise : ℝ) (hvariance : 1 / 10 ^ 9 ≤ variance) :
    ((seeded yaw variance).covariance + Matrix.diagonal fun axis => ((seen yaw noise).variance axis).value).det =
      (variance + noise) ^ 3 := by
  have hcovariance : (seeded yaw variance).covariance = Matrix.diagonal fun _ => variance :=
    congrArg Matrix.diagonal (funext fun _ => max_eq_left hvariance)
  rw [hcovariance, diagonal_add, det_diagonal]
  show ∏ _axis : Axis, (variance + noise) = _
  rw [Finset.prod_const]
  rfl

theorem certain_refused : (Run.exec absorb (seeded 0 (1 / 10 ^ 7)) [seen 1 (1 / 10 ^ 7)]) = seeded 0 (1 / 10 ^ 7) := by
  have hrefused : (seeded 0 (1 / 10 ^ 7)).Refused (seen 1 (1 / 10 ^ 7)) := by
    have hdet := det_seeded 0 (1 / 10 ^ 7) (1 / 10 ^ 7) (by norm_num)
    show |((seeded 0 (1 / 10 ^ 7)).covariance + Matrix.diagonal fun axis =>
      ((seen 0 (1 / 10 ^ 7)).variance axis).value).det| < _
    rw [hdet]
    norm_num
  obtain ⟨hsame, -⟩ | ⟨-, hkept, -⟩ := update_cases sound_seeded.2 sound_seeded.1 (seen 1 (1 / 10 ^ 7))
  · exact hsame
  · exact absurd hrefused hkept

theorem innovationOf_yaw (filter : AnchorUkf) (observation : AnchorObservation) :
    filter.innovationOf observation .yaw = wrap ((observation.value .yaw).value - filter.estimate .yaw) := by
  rw [innovationOf, wrapYaw, Function.update_self]

theorem yaw_absorb (h : filter.Sound) (hinitialized : filter.initialized = true) (hvalid : Valid observation)
    (hrefused : ¬ filter.Refused observation) :
    (filter.absorb observation).estimate .yaw = wrap (filter.estimate .yaw +
        filter.gainOf observation .yaw * wrap ((observation.value .yaw).value - filter.estimate .yaw)) ∧
      (filter.absorb observation).covariance .yaw .yaw =
        ((filter.belief .yaw).fuse (observed observation .yaw)).variance ∧
      (filter.absorb observation).initialized = true := by
  obtain ⟨-, -, himplies⟩ | ⟨-, -, -, -, hafter, hestimate, hcovariance⟩ := update_cases h hinitialized observation
  · exact absurd (himplies hvalid) hrefused
  · refine ⟨?_, ?_, hafter⟩
    · show (filter.update observation).1.estimate .yaw = _
      rw [hestimate, wrapYaw, Function.update_self, innovationOf_yaw]
    · show (filter.update observation).1.covariance .yaw .yaw = _
      rw [hcovariance, diagonal_apply_eq]

theorem not_refused (h : filter.Sound) (hone : ∀ axis, 1 ≤ (observation.variance axis).value) :
    ¬ filter.Refused observation := by
  have hdet : 1 ≤ ∏ axis, (filter.covariance axis axis + (observation.variance axis).value) := by
    apply Finset.prod_induction _ (fun q : ℝ => 1 ≤ q) (fun _ _ => one_le_mul_of_one_le_of_one_le) le_rfl
    intro axis _
    linarith [h.positive axis, hone axis]
  have hsum := (congrArg (· + Matrix.diagonal fun axis => (observation.variance axis).value) h.covariance_eq).trans
    (diagonal_add ..)
  rw [Refused, hsum, det_diagonal, abs_of_pos (by linarith), not_lt]
  exact le_trans (by norm_num) hdet

theorem turned_absorb :
    ((seeded 3 1).absorb (seen (7 / 2) 1)).belief .yaw = ⟨13 / 4 - 2 * π, 1 / 2⟩ ∧
      ((seeded 3 1).absorb (seen (7 / 2) 1)).initialized = true ∧
      (seeded 3 1).ResidualUnwrapped (seen (7 / 2) 1) := by
  have hpi := pi_gt_three
  have hpi' := pi_lt_d2
  have hvalid : Valid (seen (7 / 2) 1) := valid_seen one_pos
  have hbelief : (seeded 3 1).belief .yaw = ⟨3, 1⟩ := belief_seeded ⟨by linarith, by linarith⟩ (by norm_num)
  have hyaw : (seeded 3 1).estimate .yaw = 3 := congrArg Belief.value hbelief
  have hcovariance : (seeded 3 1).covariance .yaw .yaw = 1 := congrArg Belief.variance hbelief
  have hresidual : wrap ((7 : ℝ) / 2 - 3) = 1 / 2 := by
    rw [wrap_of_mem ⟨by linarith, by linarith⟩]
    norm_num
  obtain ⟨hestimate, hvariance, hinitialized⟩ :=
    yaw_absorb sound_seeded.2 sound_seeded.1 hvalid (not_refused sound_seeded.2 fun _ => le_refl 1)
  refine ⟨?_, hinitialized, hvalid, ?_⟩
  · ext
    · show ((seeded 3 1).absorb (seen (7 / 2) 1)).estimate .yaw = _
      rw [hestimate, gainOf, hyaw, hcovariance]
      show wrap (3 + gain 1 1 * wrap ((7 : ℝ) / 2 - 3)) = _
      rw [hresidual, ← wrap_sub_two_pi, wrap_of_mem]
      · norm_num [gain]
      · norm_num [gain]
        constructor
        · linarith
        · linarith
    · show ((seeded 3 1).absorb (seen (7 / 2) 1)).covariance .yaw .yaw = _
      rw [hvariance, hbelief]
      norm_num [observed, seen, Belief.fuse, gain, Double.value]
  · rw [innovationOf_yaw, hyaw]
    show wrap ((7 : ℝ) / 2 - 3) = 7 / 2 - 3
    rw [hresidual]
    norm_num

/-- **An observation as certain as the reset is refused**; a yaw wrapped on the way leads to another mean; and a filter
that a bad reset left uninitialized takes an observation over as it is. -/
theorem not_mean_certain_turned :
    (Run.Always absorb ResidualUnwrapped (seeded 0 (1 / 10 ^ 7)) [seen 1 (1 / 10 ^ 7)] ∧
      ¬ (seeded 0 (1 / 10 ^ 7)).MeetsMean [seen 1 (1 / 10 ^ 7)]) ∧
    (Run.Always absorb ResidualUnwrapped (seeded 3 1) [seen (7 / 2) 1, seen 0 1] ∧
      ¬ (seeded 3 1).MeetsMean [seen (7 / 2) 1, seen 0 1]) ∧
    (((Run.exec step {} [.update (seen 0 1), .reset (fun _ => .nan) fun _ => .finite 1]).update
        (seen 0 1)).2.accepted = true ∧
      ¬ ((Run.exec step {} [.update (seen 0 1), .reset (fun _ => .nan) fun _ => .finite 1]).update
          (seen 0 1)).1.covariance .yaw .yaw < ((seen 0 1).variance .yaw).value) := by
  have hpi := pi_gt_three
  have hpi' := pi_lt_d2
  refine ⟨⟨⟨⟨valid_seen (by norm_num), ?_⟩, trivial⟩, ?_⟩,
    ⟨⟨turned_absorb.2.2, ⟨valid_seen one_pos, ?_⟩, trivial⟩, ?_⟩, ?_, ?_⟩
  · have hbelief : (seeded 0 (1 / 10 ^ 7)).belief .yaw = ⟨0, 1 / 10 ^ 7⟩ :=
      belief_seeded ⟨by linarith, by linarith⟩ (by norm_num)
    have hyaw : (seeded 0 (1 / 10 ^ 7)).estimate .yaw = 0 := congrArg Belief.value hbelief
    rw [innovationOf_yaw, hyaw]
    exact wrap_of_mem ⟨by show -π < (1 : ℝ) - 0; linarith, by show (1 : ℝ) - 0 ≤ π; linarith⟩
  · intro hmean
    have hyaw := hmean .yaw
    rw [certain_refused, belief_seeded ⟨by linarith, by linarith⟩ (by norm_num)] at hyaw
    have hvariance := congrArg Belief.variance hyaw
    norm_num [Belief.harmonicVariance, Belief.precision, observed, seen, Double.value] at hvariance
  · have hyaw : ((seeded 3 1).absorb (seen (7 / 2) 1)).estimate .yaw = 13 / 4 - 2 * π :=
      congrArg Belief.value turned_absorb.1
    rw [innovationOf_yaw, hyaw]
    exact wrap_of_mem ⟨by show -π < (0 : ℝ) - (13 / 4 - 2 * π); linarith, by
      show (0 : ℝ) - (13 / 4 - 2 * π) ≤ π; linarith⟩
  · intro hmean
    obtain ⟨hbelief, hinitialized, -⟩ := turned_absorb
    have hsound : ((seeded 3 1).absorb (seen (7 / 2) 1)).Sound :=
      sound_seeded.2.update sound_seeded.1 (seen (7 / 2) 1)
    have hkept : ¬ ((seeded 3 1).absorb (seen (7 / 2) 1)).Refused (seen 0 1) := not_refused hsound fun _ => le_refl 1
    obtain ⟨hestimate, -⟩ := yaw_absorb hsound hinitialized (valid_seen one_pos) hkept
    have hcovariance : ((seeded 3 1).absorb (seen (7 / 2) 1)).covariance .yaw .yaw = 1 / 2 :=
      congrArg Belief.variance hbelief
    have hyaw : ((seeded 3 1).absorb (seen (7 / 2) 1)).estimate .yaw = 13 / 4 - 2 * π := congrArg Belief.value hbelief
    have hresidual : wrap ((0 : ℝ) - (13 / 4 - 2 * π)) = 2 * π - 13 / 4 := by
      rw [wrap_of_mem ⟨by linarith, by linarith⟩]
      ring
    have hmean := congrArg Belief.value (hmean .yaw)
    rw [belief_seeded ⟨by linarith, by linarith⟩ (by norm_num)] at hmean
    have hafter : (Run.exec absorb (seeded 3 1) [seen (7 / 2) 1, seen 0 1]).estimate .yaw =
        2 / 3 * (13 / 4 - 2 * π) := by
      show (((seeded 3 1).absorb (seen (7 / 2) 1)).absorb (seen 0 1)).estimate .yaw = _
      rw [hestimate, gainOf, hcovariance, hyaw]
      show wrap (13 / 4 - 2 * π + gain (1 / 2) 1 * wrap ((0 : ℝ) - (13 / 4 - 2 * π))) = _
      rw [hresidual, wrap_of_mem]
      · norm_num [gain]
        ring
      · norm_num [gain]
        constructor
        · linarith
        · linarith
    have hstated : 2 / 3 * (13 / 4 - 2 * π) = 13 / 6 := by
      rw [← hafter]
      refine hmean.trans ?_
      norm_num [Belief.weightedMean, Belief.precision, Belief.weight, observed, seen, Double.value]
    linarith
  · rw [update_uninitialized ?_ (valid_seen one_pos)]
    · exact initialized_reset (valid_seen one_pos)
    · apply decide_eq_false
      exact fun h => h.1 .x
  · rw [update_uninitialized ?_ (valid_seen one_pos)]
    · show ¬ Matrix.diagonal (fun _ => _) Axis.yaw Axis.yaw < (1 : ℝ)
      rw [diagonal_apply_eq, not_lt]
      exact le_max_left 1 _
    · apply decide_eq_false
      exact fun h => h.1 .x

end AnchorUkf

end RoamerX

end
