import Mathlib.Algebra.BigOperators.Group.List.Basic
import Mathlib.Analysis.SpecialFunctions.Complex.Arg
import Mathlib.Tactic.FieldSimp
import Mathlib.Tactic.LinearCombination

set_option autoImplicit false

/-! # Fusing uncertain values, and angles on the half-open circle

A belief is a value with a variance. Fusing two of them adds their precisions, so a sequence of fusions gives the
inverse-variance weighted mean whatever its order; an angle is fused along the shorter of its two arcs. -/

namespace InformationFilter

/-! ## Beliefs -/

section beliefs

variable {𝕜 : Type*} [Field 𝕜]

@[ext]
structure Belief (𝕜 : Type*) where
  value : 𝕜
  variance : 𝕜

def gain (p r : 𝕜) : 𝕜 := p / (p + r)

namespace Belief

/-- The Kalman update of one component that is observed directly. -/
def fuse (a b : Belief 𝕜) : Belief 𝕜 where
  value := a.value + gain a.variance b.variance * (b.value - a.value)
  variance := (1 - gain a.variance b.variance) * a.variance

def precision (b : Belief 𝕜) : 𝕜 := b.variance⁻¹

def weight (b : Belief 𝕜) : 𝕜 := b.value * b.variance⁻¹

/-- The harmonic sum of the variances of a belief and of those it is fused with. -/
def harmonicVariance (a : Belief 𝕜) (bs : List (Belief 𝕜)) : 𝕜 := (a.precision + (bs.map precision).sum)⁻¹

/-- The mean of their values, each weighted with the inverse of its variance. -/
def weightedMean (a : Belief 𝕜) (bs : List (Belief 𝕜)) : 𝕜 :=
  (a.weight + (bs.map weight).sum) / (a.precision + (bs.map precision).sum)

variable [LinearOrder 𝕜] [IsStrictOrderedRing 𝕜] {a b : Belief 𝕜}

theorem gain_pos {p r : 𝕜} (hp : 0 < p) (hr : 0 < r) : 0 < gain p r := div_pos hp (add_pos hp hr)

theorem gain_lt_one {p r : 𝕜} (hp : 0 < p) (hr : 0 < r) : gain p r < 1 := by
  rw [gain, div_lt_one (add_pos hp hr)]
  exact lt_add_of_pos_right p hr

theorem variance_fuse (ha : 0 < a.variance) (hb : 0 < b.variance) :
    (a.fuse b).variance = a.variance * b.variance / (a.variance + b.variance) := by
  have hsum : a.variance + b.variance ≠ 0 := (add_pos ha hb).ne'
  simp only [fuse, gain]
  field_simp
  ring

theorem variance_fuse_pos (ha : 0 < a.variance) (hb : 0 < b.variance) : 0 < (a.fuse b).variance := by
  rw [variance_fuse ha hb]
  exact div_pos (mul_pos ha hb) (add_pos ha hb)

theorem variance_fuse_lt_left (ha : 0 < a.variance) (hb : 0 < b.variance) : (a.fuse b).variance < a.variance := by
  rw [variance_fuse ha hb, div_lt_iff₀ (add_pos ha hb)]
  have : 0 < a.variance * a.variance := mul_pos ha ha
  linarith [mul_add a.variance a.variance b.variance]

theorem variance_fuse_lt_right (ha : 0 < a.variance) (hb : 0 < b.variance) : (a.fuse b).variance < b.variance := by
  rw [variance_fuse ha hb, div_lt_iff₀ (add_pos ha hb)]
  have : 0 < b.variance * b.variance := mul_pos hb hb
  linarith [mul_add b.variance a.variance b.variance, mul_comm a.variance b.variance]

theorem precision_fuse (ha : 0 < a.variance) (hb : 0 < b.variance) :
    (a.fuse b).precision = a.precision + b.precision := by
  have hsum : a.variance + b.variance ≠ 0 := (add_pos ha hb).ne'
  rw [precision, variance_fuse ha hb, precision, precision]
  field_simp [ha.ne', hb.ne']
  ring

theorem weight_fuse (ha : 0 < a.variance) (hb : 0 < b.variance) : (a.fuse b).weight = a.weight + b.weight := by
  have hsum : a.variance + b.variance ≠ 0 := (add_pos ha hb).ne'
  rw [weight, variance_fuse ha hb, weight, weight]
  simp only [fuse, gain]
  field_simp [ha.ne', hb.ne']
  ring

theorem variance_foldl_pos {bs : List (Belief 𝕜)} (ha : 0 < a.variance) (hbs : ∀ b ∈ bs, 0 < b.variance) :
    0 < (bs.foldl fuse a).variance := by
  induction bs generalizing a with
  | nil => exact ha
  | cons b bs ih =>
    have hb : 0 < b.variance := hbs b List.mem_cons_self
    exact ih (variance_fuse_pos ha hb) fun c hc => hbs c (List.mem_cons_of_mem b hc)

theorem precision_foldl {bs : List (Belief 𝕜)} (ha : 0 < a.variance) (hbs : ∀ b ∈ bs, 0 < b.variance) :
    (bs.foldl fuse a).precision = a.precision + (bs.map precision).sum := by
  induction bs generalizing a with
  | nil => simp
  | cons b bs ih =>
    have hb : 0 < b.variance := hbs b List.mem_cons_self
    rw [List.foldl_cons, ih (variance_fuse_pos ha hb) fun c hc => hbs c (List.mem_cons_of_mem b hc),
      precision_fuse ha hb, List.map_cons, List.sum_cons, add_assoc]

theorem weight_foldl {bs : List (Belief 𝕜)} (ha : 0 < a.variance) (hbs : ∀ b ∈ bs, 0 < b.variance) :
    (bs.foldl fuse a).weight = a.weight + (bs.map weight).sum := by
  induction bs generalizing a with
  | nil => simp
  | cons b bs ih =>
    have hb : 0 < b.variance := hbs b List.mem_cons_self
    rw [List.foldl_cons, ih (variance_fuse_pos ha hb) fun c hc => hbs c (List.mem_cons_of_mem b hc),
      weight_fuse ha hb, List.map_cons, List.sum_cons, add_assoc]

theorem foldl_fuse {bs : List (Belief 𝕜)} (ha : 0 < a.variance) (hbs : ∀ b ∈ bs, 0 < b.variance) :
    bs.foldl fuse a = ⟨a.weightedMean bs, a.harmonicVariance bs⟩ := by
  have hpos := variance_foldl_pos ha hbs
  have hprecision := precision_foldl ha hbs
  have hweight := weight_foldl ha hbs
  ext
  · rw [weightedMean, ← hweight, ← hprecision, weight, precision]
    field_simp
  · rw [harmonicVariance, ← hprecision, precision, inv_inv]

end Belief

end beliefs

/-! ## Angles -/

section angles

open Real

/-- The angle that `atan2` gives back for the sine and the cosine of another. -/
noncomputable def wrap (x : ℝ) : ℝ := Complex.arg ⟨cos x, sin x⟩

theorem wrap_eq_toReal (x : ℝ) : wrap x = (x : Angle).toReal := by
  have h : (⟨cos x, sin x⟩ : ℂ) = (x : Angle).cos + (x : Angle).sin * Complex.I := by
    apply Complex.ext <;> simp [Complex.cos_ofReal_re, Complex.sin_ofReal_re]
  rw [wrap, h, ← Complex.arg_coe_angle_toReal_eq_arg, Complex.arg_cos_add_sin_mul_I_coe_angle]

theorem wrap_mem (x : ℝ) : wrap x ∈ Set.Ioc (-π) π := by
  rw [wrap_eq_toReal]
  exact Angle.toReal_mem_Ioc x

theorem wrap_of_mem {x : ℝ} (h : x ∈ Set.Ioc (-π) π) : wrap x = x := by
  rw [wrap_eq_toReal]
  exact Angle.toReal_coe_eq_self_iff_mem_Ioc.mpr h

theorem coe_wrap (x : ℝ) : (wrap x : Angle) = x := by rw [wrap_eq_toReal, Angle.coe_toReal]

theorem wrap_congr {x y : ℝ} (h : (x : Angle) = y) : wrap x = wrap y := by
  rw [wrap_eq_toReal, wrap_eq_toReal, h]

theorem wrap_sub_two_pi (x : ℝ) : wrap (x - 2 * π) = wrap x := by
  apply wrap_congr
  rw [Angle.coe_sub, Angle.coe_two_pi, sub_zero]

theorem mul_wrap_mem {t : ℝ} (ht : 0 ≤ t) (ht' : t ≤ 1) (x : ℝ) : t * wrap x ∈ Set.Ioc (-π) π := by
  obtain ⟨hlow, hhigh⟩ := wrap_mem x
  have hpi := pi_pos
  constructor
  · by_cases h : 0 ≤ wrap x
    · linarith [mul_nonneg ht h]
    · nlinarith
  · nlinarith

theorem wrap_arc_gone {t : ℝ} (ht : 0 ≤ t) (ht' : t ≤ 1) (x y : ℝ) :
    wrap (wrap (x + t * wrap (y - x)) - x) = t * wrap (y - x) := by
  rw [← wrap_of_mem (mul_wrap_mem ht ht' (y - x))]
  apply wrap_congr
  rw [Angle.coe_sub, coe_wrap, ← Angle.coe_sub, wrap_of_mem (mul_wrap_mem ht ht' (y - x)), add_sub_cancel_left]

theorem wrap_arc_left {t : ℝ} (ht : 0 ≤ t) (ht' : t ≤ 1) (x y : ℝ) :
    wrap (y - wrap (x + t * wrap (y - x))) = (1 - t) * wrap (y - x) := by
  rw [← wrap_of_mem (mul_wrap_mem (sub_nonneg.mpr ht') (sub_le_self 1 ht) (y - x))]
  apply wrap_congr
  have h : (y : Angle) - x = wrap (y - x) := by rw [coe_wrap, Angle.coe_sub]
  calc (↑(y - wrap (x + t * wrap (y - x))) : Angle)
      = (y : Angle) - x - ↑(t * wrap (y - x)) := by rw [Angle.coe_sub, coe_wrap, Angle.coe_add, sub_sub]
    _ = ↑((1 - t) * wrap (y - x)) := by rw [h, ← Angle.coe_sub]; ring_nf

end angles

end InformationFilter
