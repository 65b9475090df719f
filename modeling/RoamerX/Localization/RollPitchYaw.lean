import Mathlib
import RoamerX.Lib.Numerals

set_option autoImplicit false

/-! # Roll, pitch and yaw

`quaternionToNormalizedRPY` reads the angles off a quaternion and folds them. Over exact arithmetic the angles are right
before they are folded, but for a pitch of a right angle upwards; the second fold undoes the first, and shifts a roll
below minus a right angle by a whole turn. -/

noncomputable section

namespace RoamerX

open scoped Numerals

namespace RollPitchYaw

open Real Matrix

/-- `Eigen::Quaternionf`. -/
@[ext]
structure Quaternion where
  w : ℝ
  x : ℝ
  y : ℝ
  z : ℝ

namespace Quaternion

def normSq (q : Quaternion) : ℝ := q.w ^ 2 + q.x ^ 2 + q.y ^ 2 + q.z ^ 2

def normalized (q : Quaternion) : Quaternion :=
  ⟨q.w / √q.normSq, q.x / √q.normSq, q.y / √q.normSq, q.z / √q.normSq⟩

/-- `toRotationMatrix`, of a quaternion of length one. -/
def rotation (q : Quaternion) : Matrix (Fin 3) (Fin 3) ℝ :=
  !![1 - 2 * (q.y ^ 2 + q.z ^ 2), 2 * (q.x * q.y - q.w * q.z), 2 * (q.x * q.z + q.w * q.y);
    2 * (q.x * q.y + q.w * q.z), 1 - 2 * (q.x ^ 2 + q.z ^ 2), 2 * (q.y * q.z - q.w * q.x);
    2 * (q.x * q.z - q.w * q.y), 2 * (q.y * q.z + q.w * q.x), 1 - 2 * (q.x ^ 2 + q.y ^ 2)]

end Quaternion

@[ext]
structure Angles where
  roll : ℝ
  pitch : ℝ
  yaw : ℝ

/-- `std::atan2`. -/
def atan2 (y x : ℝ) : ℝ := Complex.arg ⟨x, y⟩

/-- The angles of a quaternion of length one, as they are read off. -/
def angles (q : Quaternion) : Angles :=
  let sinp := 2 * (q.w * q.y - q.x * q.z)
  if 1 ≤ |sinp| then
    -- one formula for both signs
    { roll := 0
      pitch := if sinp < 0 then -(π / 2) else π / 2
      yaw := 2 * atan2 q.x q.w }
  else
    { roll := atan2 (2 * (q.w * q.x + q.y * q.z)) (1 - 2 * (q.x ^ 2 + q.y ^ 2))
      pitch := arcsin sinp
      yaw := atan2 (2 * (q.w * q.z + q.x * q.y)) (1 - 2 * (q.y ^ 2 + q.z ^ 2)) }

def foldRoll (a : Angles) : Angles :=
  if π / 2 < a.roll then ⟨a.roll - π, π - a.pitch, a.yaw + π⟩
  else if a.roll < -(π / 2) then ⟨a.roll + π, -π - a.pitch, a.yaw + π⟩
  else a

def foldPitch (a : Angles) : Angles :=
  if π / 2 < a.pitch then ⟨a.roll + π, π - a.pitch, a.yaw + π⟩
  else if a.pitch < -(π / 2) then ⟨a.roll + π, -π - a.pitch, a.yaw + π⟩
  else a

def wrapYaw (a : Angles) : Angles :=
  if π < a.yaw then { a with yaw := a.yaw - 2 * π }
  else if a.yaw < -π then { a with yaw := a.yaw + 2 * π }
  else a

def fold (a : Angles) : Angles := wrapYaw (foldPitch (foldRoll a))

def quaternionToNormalizedRPY (q : Quaternion) : Angles := fold (angles q.normalized)

/-! ## Rotations -/

def aboutX (a : ℝ) : Matrix (Fin 3) (Fin 3) ℝ := !![1, 0, 0; 0, cos a, -sin a; 0, sin a, cos a]

def aboutY (a : ℝ) : Matrix (Fin 3) (Fin 3) ℝ := !![cos a, 0, sin a; 0, 1, 0; -sin a, 0, cos a]

def aboutZ (a : ℝ) : Matrix (Fin 3) (Fin 3) ℝ := !![cos a, -sin a, 0; sin a, cos a, 0; 0, 0, 1]

def Angles.rotation (a : Angles) : Matrix (Fin 3) (Fin 3) ℝ := aboutZ a.yaw * aboutY a.pitch * aboutX a.roll

/-- The angles are in their ranges, and turn as the quaternion does. -/
structure Represents (q : Quaternion) (a : Angles) : Prop where
  roll : a.roll ∈ Set.Icc (-π) π
  pitch : a.pitch ∈ Set.Icc (-(π / 2)) (π / 2)
  yaw : a.yaw ∈ Set.Icc (-π) π
  rotation : a.rotation = q.normalized.rotation

/-- The roll is below minus a right angle. -/
def RollBeyond (q : Quaternion) : Prop := q.w * q.x + q.y * q.z < 0 ∧ q.w ^ 2 + q.z ^ 2 < q.x ^ 2 + q.y ^ 2

/-- The pitch is a right angle upwards, and the yaw neither none nor half a turn. -/
def PitchUp (q : Quaternion) : Prop := q.y = q.w ∧ q.z = -q.x ∧ q.w ≠ 0 ∧ q.x ≠ 0

variable {q : Quaternion} {a : Angles}

theorem fin_three_congr {a b c d e f g h i a' b' c' d' e' f' g' h' i' : ℝ} (ha : a = a') (hb : b = b') (hc : c = c')
    (hd : d = d') (he : e = e') (hf : f = f') (hg : g = g') (hh : h = h') (hi : i = i') :
    !![a, b, c; d, e, f; g, h, i] = !![a', b', c'; d', e', f'; g', h', i'] := by
  rw [ha, hb, hc, hd, he, hf, hg, hh, hi]

theorem rotation_eq (a : Angles) : a.rotation =
    !![cos a.yaw * cos a.pitch, cos a.yaw * sin a.pitch * sin a.roll - sin a.yaw * cos a.roll,
        cos a.yaw * sin a.pitch * cos a.roll + sin a.yaw * sin a.roll;
      sin a.yaw * cos a.pitch, sin a.yaw * sin a.pitch * sin a.roll + cos a.yaw * cos a.roll,
        sin a.yaw * sin a.pitch * cos a.roll - cos a.yaw * sin a.roll;
      -sin a.pitch, cos a.pitch * sin a.roll, cos a.pitch * cos a.roll] := by
  unfold Angles.rotation aboutX aboutY aboutZ
  rw [Matrix.mul_fin_three, Matrix.mul_fin_three]
  refine fin_three_congr ?_ ?_ ?_ ?_ ?_ ?_ ?_ ?_ ?_ <;> ring

/-- A yaw that is a whole turn off turns in the same way. -/
theorem rotation_wrapYaw (a : Angles) : (wrapYaw a).rotation = a.rotation := by
  unfold wrapYaw Angles.rotation aboutZ
  split_ifs
  · simp only [cos_sub_two_pi, sin_sub_two_pi]
  · simp only [cos_add_two_pi, sin_add_two_pi]
  · rfl

theorem mul_cos_atan2 {x y c : ℝ} (hc : 0 ≤ c) (h : x ^ 2 + y ^ 2 = c ^ 2) : c * cos (atan2 y x) = x := by
  have hnorm : ‖(⟨x, y⟩ : ℂ)‖ = c := by
    rw [Complex.norm_def, Complex.normSq_mk, ← sq, ← sq, h, sqrt_sq hc]
  rw [← hnorm]
  exact Complex.norm_mul_cos_arg _

theorem mul_sin_atan2 {x y c : ℝ} (hc : 0 ≤ c) (h : x ^ 2 + y ^ 2 = c ^ 2) : c * sin (atan2 y x) = y := by
  have hnorm : ‖(⟨x, y⟩ : ℂ)‖ = c := by
    rw [Complex.norm_def, Complex.normSq_mk, ← sq, ← sq, h, sqrt_sq hc]
  rw [← hnorm]
  exact Complex.norm_mul_sin_arg _

/-! ## Away from a pitch of a right angle -/

/-- **The angles that are read off are right.** -/
theorem rotation_angles (hone : q.normSq = 1) (hlt : |2 * (q.w * q.y - q.x * q.z)| < 1) :
    (angles q).rotation = q.rotation := by
  obtain ⟨w, x, y, z⟩ := q
  unfold Quaternion.normSq at hone
  dsimp only at hone hlt
  have hsin : sin (arcsin (2 * (w * y - x * z))) = 2 * (w * y - x * z) :=
    sin_arcsin (by linarith [(abs_lt.mp hlt).1]) (abs_lt.mp hlt).2.le
  have hcos := cos_sq' (arcsin (2 * (w * y - x * z)))
  rw [hsin] at hcos
  have hpos : 0 < cos (arcsin (2 * (w * y - x * z))) := by
    refine lt_of_le_of_ne (cos_arcsin_nonneg _) fun hzero => ?_
    rw [← hzero] at hcos
    have hsq := (sq_lt_one_iff_abs_lt_one _).mpr hlt
    linarith
  unfold angles
  dsimp only
  rw [if_neg (not_le.mpr hlt), rotation_eq]
  dsimp only [Quaternion.rotation]
  -- the first column and the last row of the matrix, as long as the cosine of the pitch
  have hzz : 1 - 2 * (x ^ 2 + y ^ 2) = w ^ 2 + z ^ 2 - x ^ 2 - y ^ 2 := by linear_combination -hone
  have hxx : 1 - 2 * (y ^ 2 + z ^ 2) = w ^ 2 + x ^ 2 - y ^ 2 - z ^ 2 := by linear_combination -hone
  have hyy : 1 - 2 * (x ^ 2 + z ^ 2) = w ^ 2 + y ^ 2 - x ^ 2 - z ^ 2 := by linear_combination -hone
  rw [hzz, hxx, hyy, hsin]
  generalize arcsin (2 * (w * y - x * z)) = pitch at hcos hpos hsin ⊢
  have hcos' : cos pitch ^ 2 = (w ^ 2 + x ^ 2 + y ^ 2 + z ^ 2) ^ 2 - (2 * (w * y - x * z)) ^ 2 := by
    rw [hcos, hone, one_pow]
  have hrow : (w ^ 2 + z ^ 2 - x ^ 2 - y ^ 2) ^ 2 + (2 * (w * x + y * z)) ^ 2 = cos pitch ^ 2 := by
    rw [hcos']
    ring
  have hcolumn : (w ^ 2 + x ^ 2 - y ^ 2 - z ^ 2) ^ 2 + (2 * (w * z + x * y)) ^ 2 = cos pitch ^ 2 := by
    rw [hcos']
    ring
  have hroll := mul_cos_atan2 hpos.le hrow
  have hroll' := mul_sin_atan2 hpos.le hrow
  have hyaw := mul_cos_atan2 hpos.le hcolumn
  have hyaw' := mul_sin_atan2 hpos.le hcolumn
  generalize atan2 (2 * (w * x + y * z)) (w ^ 2 + z ^ 2 - x ^ 2 - y ^ 2) = roll at hroll hroll' ⊢
  generalize atan2 (2 * (w * z + x * y)) (w ^ 2 + x ^ 2 - y ^ 2 - z ^ 2) = yaw at hyaw hyaw' ⊢
  -- the other entries are the cofactors of these
  have hne : cos pitch ^ 2 ≠ 0 := (pow_pos hpos 2).ne'
  refine fin_three_congr ?_ ?_ ?_ ?_ ?_ ?_ ?_ ?_ ?_
  · linarith
  · refine mul_left_cancel₀ hne ?_
    have hentry : cos pitch ^ 2 * (2 * (x * y - w * z)) =
        (w ^ 2 + x ^ 2 - y ^ 2 - z ^ 2) * (2 * (w * y - x * z)) * (2 * (w * x + y * z)) -
          2 * (w * z + x * y) * (w ^ 2 + z ^ 2 - x ^ 2 - y ^ 2) * (w ^ 2 + x ^ 2 + y ^ 2 + z ^ 2) := by
      rw [hcos']
      ring
    rw [hentry, hone, mul_one, ← hroll, ← hroll', ← hyaw, ← hyaw']
    ring
  · refine mul_left_cancel₀ hne ?_
    have hentry : cos pitch ^ 2 * (2 * (x * z + w * y)) =
        (w ^ 2 + x ^ 2 - y ^ 2 - z ^ 2) * (2 * (w * y - x * z)) * (w ^ 2 + z ^ 2 - x ^ 2 - y ^ 2) +
          2 * (w * z + x * y) * (2 * (w * x + y * z)) * (w ^ 2 + x ^ 2 + y ^ 2 + z ^ 2) := by
      rw [hcos']
      ring
    rw [hentry, hone, mul_one, ← hroll, ← hroll', ← hyaw, ← hyaw']
    ring
  · linarith
  · refine mul_left_cancel₀ hne ?_
    have hentry : cos pitch ^ 2 * (w ^ 2 + y ^ 2 - x ^ 2 - z ^ 2) =
        2 * (w * z + x * y) * (2 * (w * y - x * z)) * (2 * (w * x + y * z)) +
          (w ^ 2 + x ^ 2 - y ^ 2 - z ^ 2) * (w ^ 2 + z ^ 2 - x ^ 2 - y ^ 2) * (w ^ 2 + x ^ 2 + y ^ 2 + z ^ 2) := by
      rw [hcos']
      ring
    rw [hentry, hone, mul_one, ← hroll, ← hroll', ← hyaw, ← hyaw']
    ring
  · refine mul_left_cancel₀ hne ?_
    have hentry : cos pitch ^ 2 * (2 * (y * z - w * x)) =
        2 * (w * z + x * y) * (2 * (w * y - x * z)) * (w ^ 2 + z ^ 2 - x ^ 2 - y ^ 2) -
          (w ^ 2 + x ^ 2 - y ^ 2 - z ^ 2) * (2 * (w * x + y * z)) * (w ^ 2 + x ^ 2 + y ^ 2 + z ^ 2) := by
      rw [hcos']
      ring
    rw [hentry, hone, mul_one, ← hroll, ← hroll', ← hyaw, ← hyaw']
    ring
  · linarith
  · linarith
  · exact hroll

/-! ## At a pitch of a right angle -/

theorem eq_zero_of_sq_add_sq_le {a b : ℝ} (h : a ^ 2 + b ^ 2 ≤ 0) : a = 0 ∧ b = 0 := by
  have ha : a ^ 2 = 0 := le_antisymm (by linarith [sq_nonneg b]) (sq_nonneg a)
  have hb : b ^ 2 = 0 := le_antisymm (by linarith [sq_nonneg a]) (sq_nonneg b)
  exact ⟨pow_eq_zero_iff two_ne_zero |>.mp ha, pow_eq_zero_iff two_ne_zero |>.mp hb⟩

theorem gimbal_cases (hone : q.normSq = 1) (hge : 1 ≤ |2 * (q.w * q.y - q.x * q.z)|) :
    (q.y = q.w ∧ q.z = -q.x) ∨ (q.y = -q.w ∧ q.z = q.x) := by
  unfold Quaternion.normSq at hone
  rcases le_abs.mp hge with hup | hdown
  · obtain ⟨hy, hz⟩ := eq_zero_of_sq_add_sq_le (show (q.w - q.y) ^ 2 + (q.x + q.z) ^ 2 ≤ 0 by linarith)
    exact Or.inl ⟨by linarith, by linarith⟩
  · obtain ⟨hy, hz⟩ := eq_zero_of_sq_add_sq_le (show (q.w + q.y) ^ 2 + (q.x - q.z) ^ 2 ≤ 0 by linarith)
    exact Or.inr ⟨by linarith, by linarith⟩

theorem twice_atan2 {w x : ℝ} (h : w ^ 2 + x ^ 2 = 1 / 2) :
    sin (2 * atan2 x w) = 4 * x * w ∧ cos (2 * atan2 x w) = 4 * w ^ 2 - 1 := by
  have hc : w ^ 2 + x ^ 2 = √(1 / 2) ^ 2 := by rw [h, sq_sqrt (by norm_num)]
  have hcos := mul_cos_atan2 (sqrt_nonneg _) hc
  have hsin := mul_sin_atan2 (sqrt_nonneg _) hc
  have hsq : √(1 / 2) ^ 2 = (1 / 2 : ℝ) := sq_sqrt (by norm_num)
  generalize √(1 / 2) = c at hcos hsin hsq
  generalize atan2 x w = a at hcos hsin ⊢
  rw [sin_two_mul, cos_two_mul, ← hcos, ← hsin]
  constructor
  · linear_combination -4 * sin a * cos a * hsq
  · linear_combination -4 * cos a ^ 2 * hsq

theorem rotation_gimbal (hone : q.normSq = 1) (hge : 1 ≤ |2 * (q.w * q.y - q.x * q.z)|) :
    (angles q).rotation = q.rotation ↔ ¬ PitchUp q := by
  have hcases := gimbal_cases hone hge
  obtain ⟨w, x, y, z⟩ := q
  unfold Quaternion.normSq at hone
  unfold angles
  dsimp only at hone hge hcases ⊢
  rw [if_pos hge, rotation_eq]
  dsimp only [Quaternion.rotation, PitchUp]
  rcases hcases with ⟨rfl, rfl⟩ | ⟨rfl, rfl⟩
  · have hhalf : y ^ 2 + x ^ 2 = 1 / 2 := by linarith
    obtain ⟨hsin, hcos⟩ := twice_atan2 hhalf
    have hup : ¬ 2 * (y * y - x * -x) < 0 := by linarith
    rw [if_neg hup, cos_pi_div_two, sin_pi_div_two, sin_zero, cos_zero, hsin, hcos]
    constructor
    · rintro h ⟨-, -, hw, hx⟩
      have hentry := congrFun (congrFun h 0) 1
      simp only [Matrix.of_apply, Matrix.cons_val', Matrix.cons_val_zero, Matrix.cons_val_one] at hentry
      exact mul_ne_zero hx hw (by linarith)
    · intro h
      have hzero : x * y = 0 := by
        by_contra hne
        exact h ⟨rfl, rfl, right_ne_zero_of_mul hne, left_ne_zero_of_mul hne⟩
      refine fin_three_congr ?_ ?_ ?_ ?_ ?_ ?_ ?_ ?_ ?_ <;> linarith
  · have hhalf : w ^ 2 + z ^ 2 = 1 / 2 := by linarith
    obtain ⟨hsin, hcos⟩ := twice_atan2 hhalf
    have hdown : 2 * (w * -w - z * z) < 0 := by linarith
    rw [if_pos hdown, cos_neg, sin_neg, cos_pi_div_two, sin_pi_div_two, sin_zero, cos_zero, hsin, hcos]
    refine iff_of_true ?_ ?_
    · refine fin_three_congr ?_ ?_ ?_ ?_ ?_ ?_ ?_ ?_ ?_ <;> linarith
    · rintro ⟨hw, hx, hne, -⟩
      exact hne (by linarith)

/-! ## The folds -/

theorem fold_of_upright (hroll : |a.roll| ≤ π / 2) (hpitch : |a.pitch| ≤ π / 2) : foldPitch (foldRoll a) = a := by
  rw [abs_le] at hroll hpitch
  unfold foldRoll foldPitch
  rw [if_neg (not_lt.mpr hroll.2), if_neg (not_lt.mpr hroll.1), if_neg (not_lt.mpr hpitch.2),
    if_neg (not_lt.mpr hpitch.1)]

theorem fold_of_right (hroll : π / 2 < a.roll) (hpitch : a.pitch < π / 2) :
    foldPitch (foldRoll a) = { a with yaw := a.yaw + 2 * π } := by
  unfold foldRoll foldPitch
  have hfolded : π / 2 < π - a.pitch := by linarith
  rw [if_pos hroll]
  dsimp only
  rw [if_pos hfolded]
  ext <;> dsimp only <;> ring

/-- The second fold shifts the roll the same way once more. -/
theorem fold_of_left (hroll : a.roll < -(π / 2)) (hpitch : -(π / 2) < a.pitch) :
    foldPitch (foldRoll a) = { a with roll := a.roll + 2 * π, yaw := a.yaw + 2 * π } := by
  have hpi := pi_pos
  unfold foldRoll foldPitch
  have hroll' : ¬ π / 2 < a.roll := by linarith
  have hpitch' : ¬ π / 2 < -π - a.pitch := by linarith
  have hfolded : -π - a.pitch < -(π / 2) := by linarith
  rw [if_neg hroll', if_pos hroll]
  dsimp only
  rw [if_neg hpitch', if_pos hfolded]
  ext <;> dsimp only <;> ring

theorem wrapYaw_mem (hlow : -(3 * π) ≤ a.yaw) (hhigh : a.yaw ≤ 3 * π) : (wrapYaw a).yaw ∈ Set.Icc (-π) π := by
  unfold wrapYaw
  split_ifs with habove hbelow
  · exact ⟨show -π ≤ a.yaw - 2 * π by linarith, show a.yaw - 2 * π ≤ π by linarith⟩
  · exact ⟨show -π ≤ a.yaw + 2 * π by linarith, show a.yaw + 2 * π ≤ π by linarith⟩
  · exact ⟨not_lt.mp hbelow, not_lt.mp habove⟩

@[simp] theorem roll_wrapYaw (a : Angles) : (wrapYaw a).roll = a.roll := by
  unfold wrapYaw
  split_ifs <;> rfl

@[simp] theorem pitch_wrapYaw (a : Angles) : (wrapYaw a).pitch = a.pitch := by
  unfold wrapYaw
  split_ifs <;> rfl

theorem yaw_bounds (q : Quaternion) : -(2 * π) ≤ (angles q).yaw ∧ (angles q).yaw ≤ 2 * π := by
  have hpi := pi_pos
  unfold angles
  dsimp only
  split_ifs
  all_goals
    constructor <;> dsimp only [atan2] <;>
      linarith [Complex.neg_pi_lt_arg ⟨q.w, q.x⟩, Complex.arg_le_pi ⟨q.w, q.x⟩,
        Complex.neg_pi_lt_arg ⟨1 - 2 * (q.y ^ 2 + q.z ^ 2), 2 * (q.w * q.z + q.x * q.y)⟩,
        Complex.arg_le_pi ⟨1 - 2 * (q.y ^ 2 + q.z ^ 2), 2 * (q.w * q.z + q.x * q.y)⟩]

/-! ## All attitudes -/

theorem normSq_normalized (h : 0 < q.normSq) : q.normalized.normSq = 1 := by
  have hsq := sq_sqrt h.le
  have hne := (sqrt_pos.mpr h).ne'
  unfold Quaternion.normalized
  rw [Quaternion.normSq]
  dsimp only
  rw [div_pow, div_pow, div_pow, div_pow, hsq, ← add_div, ← add_div, ← add_div]
  exact div_self h.ne'

theorem rollBeyond_normalized (h : 0 < q.normSq) : RollBeyond q.normalized ↔ RollBeyond q := by
  have hsq := mul_self_sqrt h.le
  unfold RollBeyond Quaternion.normalized
  dsimp only
  simp only [div_mul_div_comm, div_pow, sq_sqrt h.le, hsq, ← add_div]
  rw [div_lt_div_iff_of_pos_right h, div_neg_iff]
  constructor
  · rintro ⟨hsum | hsum, hlt⟩
    · exact absurd hsum.2 h.le.not_gt
    · exact ⟨hsum.1, hlt⟩
  · exact fun ⟨hsum, hlt⟩ => ⟨Or.inr ⟨hsum, h⟩, hlt⟩

theorem pitchUp_normalized (h : 0 < q.normSq) : PitchUp q.normalized ↔ PitchUp q := by
  have hne := (sqrt_pos.mpr h).ne'
  unfold PitchUp Quaternion.normalized
  dsimp only
  rw [div_left_inj' hne, ← neg_div, div_left_inj' hne, Ne, Ne, div_eq_zero_iff, div_eq_zero_iff]
  simp only [hne, or_false, Ne]

theorem atan2_lt_iff {x y : ℝ} : atan2 y x < -(π / 2) ↔ y < 0 ∧ x < 0 := by
  rw [← not_le, atan2, Complex.neg_pi_div_two_le_arg_iff, not_or, not_le, not_le]
  exact and_comm

/-- Away from a pitch of a right angle, what is wrong is a roll that is shifted by a whole turn. -/
theorem ranges_generic (hone : q.normSq = 1) (hlt : |2 * (q.w * q.y - q.x * q.z)| < 1) :
    (fold (angles q)).rotation = q.rotation ∧
      (fold (angles q)).pitch ∈ Set.Icc (-(π / 2)) (π / 2) ∧
      (fold (angles q)).yaw ∈ Set.Icc (-π) π ∧
      ((fold (angles q)).roll ∈ Set.Icc (-π) π ↔ ¬ RollBeyond q) := by
  have hpi := pi_pos
  have hrotation := rotation_angles hone hlt
  have hangles : angles q =
      { roll := atan2 (2 * (q.w * q.x + q.y * q.z)) (1 - 2 * (q.x ^ 2 + q.y ^ 2))
        pitch := arcsin (2 * (q.w * q.y - q.x * q.z))
        yaw := atan2 (2 * (q.w * q.z + q.x * q.y)) (1 - 2 * (q.y ^ 2 + q.z ^ 2)) } := if_neg (not_le.mpr hlt)
  have hpitch : -(π / 2) < (angles q).pitch ∧ (angles q).pitch < π / 2 := by
    rw [hangles]
    exact ⟨neg_pi_div_two_lt_arcsin.mpr (abs_lt.mp hlt).1, arcsin_lt_pi_div_two.mpr (abs_lt.mp hlt).2⟩
  have hroll : -π < (angles q).roll ∧ (angles q).roll ≤ π := by
    rw [hangles]
    exact ⟨Complex.neg_pi_lt_arg _, Complex.arg_le_pi _⟩
  have hyaw : -π < (angles q).yaw ∧ (angles q).yaw ≤ π := by
    rw [hangles]
    exact ⟨Complex.neg_pi_lt_arg _, Complex.arg_le_pi _⟩
  have hbeyond : (angles q).roll < -(π / 2) ↔ RollBeyond q := by
    unfold Quaternion.normSq at hone
    rw [hangles]
    dsimp only
    rw [atan2_lt_iff]
    unfold RollBeyond
    constructor <;> rintro ⟨hsin, hcos⟩ <;> constructor <;> linarith
  generalize angles q = a at hrotation hpitch hroll hyaw hbeyond
  unfold fold
  rw [rotation_wrapYaw, pitch_wrapYaw, roll_wrapYaw, ← hbeyond]
  -- the three ranges of the roll
  rcases lt_or_ge a.roll (-(π / 2)) with hleft | hleft
  · rw [fold_of_left hleft hpitch.1]
    refine ⟨?_, ⟨hpitch.1.le, hpitch.2.le⟩, wrapYaw_mem ?_ ?_, iff_of_false ?_ (not_not.mpr hleft)⟩
    · rw [← hrotation]
      simp only [Angles.rotation, aboutX, aboutZ, cos_add_two_pi, sin_add_two_pi]
    · dsimp only
      linarith
    · dsimp only
      linarith
    · intro hmem
      have := hmem.2
      dsimp only at this
      linarith
  rcases le_or_gt a.roll (π / 2) with hright | hright
  · rw [fold_of_upright (abs_le.mpr ⟨hleft, hright⟩) (abs_le.mpr ⟨hpitch.1.le, hpitch.2.le⟩)]
    exact ⟨hrotation, ⟨hpitch.1.le, hpitch.2.le⟩, wrapYaw_mem (by linarith) (by linarith),
      iff_of_true ⟨by linarith, by linarith⟩ (not_lt.mpr hleft)⟩
  · rw [fold_of_right hright hpitch.2]
    refine ⟨?_, ⟨hpitch.1.le, hpitch.2.le⟩, wrapYaw_mem ?_ ?_, iff_of_true ⟨?_, hroll.2⟩ (not_lt.mpr hleft)⟩
    · rw [← hrotation]
      simp only [Angles.rotation, aboutZ, cos_add_two_pi, sin_add_two_pi]
    · dsimp only
      linarith
    · dsimp only
      linarith
    · dsimp only
      linarith

/-- The angles at a pitch of a right angle are only wrapped. -/
theorem ranges_gimbal (hge : 1 ≤ |2 * (q.w * q.y - q.x * q.z)|) :
    (fold (angles q)).rotation = (angles q).rotation ∧
      (fold (angles q)).pitch ∈ Set.Icc (-(π / 2)) (π / 2) ∧
      (fold (angles q)).yaw ∈ Set.Icc (-π) π ∧
      (fold (angles q)).roll ∈ Set.Icc (-π) π := by
  have hpi := pi_pos
  have hyaw := yaw_bounds q
  have hroll : (angles q).roll = 0 := by
    unfold angles
    dsimp only
    rw [if_pos hge]
  have hpitch : |(angles q).pitch| ≤ π / 2 := by
    unfold angles
    dsimp only
    rw [if_pos hge]
    dsimp only
    split_ifs
    · rw [abs_neg, abs_of_pos (by linarith)]
    · rw [abs_of_pos (by linarith)]
  unfold fold
  rw [fold_of_upright (by rw [hroll, abs_zero]; linarith) hpitch, rotation_wrapYaw, pitch_wrapYaw, roll_wrapYaw, hroll]
  exact ⟨rfl, abs_le.mp hpitch, wrapYaw_mem (by linarith) (by linarith), by linarith, by linarith⟩

theorem normSq_pos (h : q ≠ ⟨0, 0, 0, 0⟩) : 0 < q.normSq := by
  refine lt_of_le_of_ne (by unfold Quaternion.normSq; positivity) fun hzero => h ?_
  unfold Quaternion.normSq at hzero
  obtain ⟨hw, hx⟩ := eq_zero_of_sq_add_sq_le (show q.w ^ 2 + q.x ^ 2 ≤ 0 by linarith [sq_nonneg q.y, sq_nonneg q.z])
  obtain ⟨hy, hz⟩ := eq_zero_of_sq_add_sq_le (show q.y ^ 2 + q.z ^ 2 ≤ 0 by linarith [sq_nonneg q.w, sq_nonneg q.x])
  exact Quaternion.ext hw hx hy hz

theorem represents_of_cases (hpos : 0 < q.normSq) :
    Represents q (quaternionToNormalizedRPY q) ↔ ¬ RollBeyond q ∧ ¬ PitchUp q := by
  have hone := normSq_normalized hpos
  rw [← rollBeyond_normalized hpos, ← pitchUp_normalized hpos]
  unfold quaternionToNormalizedRPY
  have hrepresents (a : Angles) : Represents q a ↔ a.roll ∈ Set.Icc (-π) π ∧
      a.pitch ∈ Set.Icc (-(π / 2)) (π / 2) ∧ a.yaw ∈ Set.Icc (-π) π ∧ a.rotation = q.normalized.rotation :=
    ⟨fun h => ⟨h.roll, h.pitch, h.yaw, h.rotation⟩, fun h => ⟨h.1, h.2.1, h.2.2.1, h.2.2.2⟩⟩
  rw [hrepresents]
  generalize q.normalized = u at hone
  have hsq : u.w ^ 2 + u.x ^ 2 + u.y ^ 2 + u.z ^ 2 = 1 := hone
  rcases lt_or_ge |2 * (u.w * u.y - u.x * u.z)| 1 with hlt | hge
  · obtain ⟨hrotation, hpitch, hyaw, hroll⟩ := ranges_generic hone hlt
    have hup : ¬ PitchUp u := by
      rintro ⟨hy, hz, -, -⟩
      rw [hy, hz] at hlt hsq
      have := (abs_lt.mp hlt).2
      linarith
    rw [hroll]
    exact ⟨fun h => ⟨h.1, hup⟩, fun h => ⟨h.1, hpitch, hyaw, hrotation⟩⟩
  · obtain ⟨hrotation, hpitch, hyaw, hroll⟩ := ranges_gimbal hge
    have hbeyond : ¬ RollBeyond u := by
      rintro ⟨hneg, -⟩
      rcases gimbal_cases hone hge with ⟨hy, hz⟩ | ⟨hy, hz⟩ <;> rw [hy, hz] at hneg <;> linarith
    rw [hrotation, rotation_gimbal hone hge]
    exact ⟨fun h => ⟨hbeyond, h.2.2.2⟩, fun h => ⟨hroll, hpitch, hyaw, h.2⟩⟩

/-- **When the angles represent the quaternion**: unless the roll is below minus a right angle, or the pitch a right
angle upwards with a yaw that its sign matters for. -/
theorem represents_iff (h : q ≠ ⟨0, 0, 0, 0⟩) :
    Represents q (quaternionToNormalizedRPY q) ↔ ¬ RollBeyond q ∧ ¬ PitchUp q :=
  represents_of_cases (normSq_pos h)

theorem represents_upright : Represents ⟨1, 0, 0, 0⟩ (quaternionToNormalizedRPY ⟨1, 0, 0, 0⟩) := by
  refine (represents_iff ?_).mpr ⟨?_, ?_⟩
  · intro h
    exact one_ne_zero (congrArg Quaternion.w h)
  · rintro ⟨hneg, -⟩
    norm_num at hneg
  · rintro ⟨hy, -⟩
    norm_num at hy

/-- A robot that lies on its left side and a bit further. -/
theorem not_represents_rolled :
    ¬ ∀ q : Quaternion, q ≠ ⟨0, 0, 0, 0⟩ → Represents q (quaternionToNormalizedRPY q) := by
  intro h
  have hne : (⟨1, -2, 0, 0⟩ : Quaternion) ≠ ⟨0, 0, 0, 0⟩ := fun h => one_ne_zero (congrArg Quaternion.w h)
  refine ((represents_of_cases (normSq_pos hne)).mp (h _ hne)).1 ⟨?_, ?_⟩ <;> norm_num

end RollPitchYaw

end RoamerX

end
