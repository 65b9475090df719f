import Mathlib.Analysis.SpecialFunctions.Complex.Arg

set_option autoImplicit false

/-! # Turns of the plane

Points of the plane, turned about the origin. The plane is cut into sectors of one size by the heading of a
point, counted from the negative first axis. A turn by whole sectors moves every point on by as many sectors. -/

noncomputable section

namespace RoamerX

namespace Plane

open Real

def turn (angle : ℝ) (p : ℝ × ℝ) : ℝ × ℝ :=
  (cos angle * p.1 - sin angle * p.2, sin angle * p.1 + cos angle * p.2)

def complex (p : ℝ × ℝ) : ℂ := ⟨p.1, p.2⟩

/-- `hypot` -/
def radius (p : ℝ × ℝ) : ℝ := √(p.1 ^ 2 + p.2 ^ 2)

/-- `atan2` -/
def heading (p : ℝ × ℝ) : ℝ := Complex.arg (complex p)

/-- Where the heading lies on the circle, in sectors of which there are `n`. -/
def place (n : ℕ) (p : ℝ × ℝ) : ℝ := (heading p + π) / (2 * π) * n

def sector (n : ℕ) (p : ℝ × ℝ) : ℤ := ⌊place n p⌋ % n

def sectorAngle (n : ℕ) : ℝ := 2 * π / n

variable {n : ℕ} {p : ℝ × ℝ} {angle : ℝ}

/-! ## Turning -/

theorem turn_zero (p : ℝ × ℝ) : turn 0 p = p := by
  simp [turn]

theorem turn_turn (angle angle' : ℝ) (p : ℝ × ℝ) : turn angle (turn angle' p) = turn (angle + angle') p := by
  simp only [turn, cos_add, sin_add, Prod.mk.injEq]
  constructor <;> ring

theorem turn_add_int_mul_two_pi (angle : ℝ) (k : ℤ) (p : ℝ × ℝ) : turn (angle + k * (2 * π)) p = turn angle p := by
  simp only [turn, cos_add_int_mul_two_pi, sin_add_int_mul_two_pi]

theorem complex_turn (angle : ℝ) (p : ℝ × ℝ) : complex (turn angle p) = Complex.exp (angle * Complex.I) * complex p := by
  rw [Complex.exp_mul_I]
  apply Complex.ext
  · simp [complex, turn, Complex.cos_ofReal_re, Complex.sin_ofReal_re]
  · simp [complex, turn, Complex.cos_ofReal_re, Complex.sin_ofReal_re]
    ring

theorem radius_turn (angle : ℝ) (p : ℝ × ℝ) : radius (turn angle p) = radius p := by
  have h : (cos angle * p.1 - sin angle * p.2) ^ 2 + (sin angle * p.1 + cos angle * p.2) ^ 2 =
      (sin angle ^ 2 + cos angle ^ 2) * (p.1 ^ 2 + p.2 ^ 2) := by ring
  simp only [radius, turn, h, sin_sq_add_cos_sq, one_mul]

theorem complex_ne_zero (h : 0 < radius p) : complex p ≠ 0 := by
  intro hzero
  have hfirst : p.1 = 0 := congrArg Complex.re hzero
  have hsecond : p.2 = 0 := congrArg Complex.im hzero
  rw [radius, hfirst, hsecond] at h
  simp at h

/-! ## Headings -/

theorem heading_turn (h : 0 < radius p) (angle : ℝ) :
    ∃ turns : ℤ, heading (turn angle p) = heading p + angle + 2 * π * turns := by
  have hangle : (heading (turn angle p) : Real.Angle) = ((angle + heading p : ℝ) : Real.Angle) := by
    rw [heading, complex_turn, Complex.arg_mul_coe_angle (Complex.exp_ne_zero _) (complex_ne_zero h),
      Real.Angle.coe_add, Complex.arg_exp_mul_I, heading, Real.Angle.coe_toIocMod]
  obtain ⟨turns, hturns⟩ := Real.Angle.angle_eq_iff_two_pi_dvd_sub.mp hangle
  exact ⟨turns, by linarith⟩

theorem place_nonneg (n : ℕ) (p : ℝ × ℝ) : 0 ≤ place n p := by
  have hheading : 0 ≤ heading p + π := by linarith [Complex.neg_pi_lt_arg (complex p), heading.eq_def p]
  have hpi := pi_pos
  unfold place
  positivity

theorem place_turn (hn : 0 < n) (h : 0 < radius p) (k : ℤ) :
    ∃ turns : ℤ, place n (turn (k * sectorAngle n) p) = place n p + (k + n * turns : ℤ) := by
  obtain ⟨turns, hturns⟩ := heading_turn h (k * sectorAngle n)
  refine ⟨turns, ?_⟩
  have hpos : (0 : ℝ) < n := Nat.cast_pos.mpr hn
  have hpi := pi_pos
  rw [place, place, hturns, sectorAngle]
  push_cast
  field_simp
  ring

theorem sector_turn (hn : 0 < n) (h : 0 < radius p) (k : ℤ) :
    sector n (turn (k * sectorAngle n) p) = (sector n p + k) % n := by
  obtain ⟨turns, hturns⟩ := place_turn hn h k
  rw [sector, sector, hturns, Int.floor_add_intCast, ← add_assoc, Int.add_mul_emod_self_left, Int.emod_add_emod]

theorem turn_sectors_congr (hn : 0 < n) {k k' : ℤ} (h : (n : ℤ) ∣ k - k') (p : ℝ × ℝ) :
    turn (k * sectorAngle n) p = turn (k' * sectorAngle n) p := by
  obtain ⟨turns, hturns⟩ := h
  have hpos : (0 : ℝ) < n := Nat.cast_pos.mpr hn
  have hk : (k : ℝ) = k' + n * turns := by
    have hcast : ((k - k' : ℤ) : ℝ) = (n * turns : ℤ) := congrArg _ hturns
    push_cast at hcast
    linarith
  have hangle : k * sectorAngle n = k' * sectorAngle n + turns * (2 * π) := by
    rw [hk, sectorAngle]
    field_simp
  rw [hangle, turn_add_int_mul_two_pi]

end Plane

end RoamerX

end
