import Mathlib
import RoamerX.Lib.QuaternionTurn
import RoamerX.Lib.Numerals

set_option autoImplicit false

/-! # Back into the frame of the lidar

`_world_to_lidar_frame` of `map_loop_closure.py` turns the cloud of a keyframe back by the pose of the keyframe. It
reads the pose with `or` and a default, so that it takes a zero for a missing value. -/

namespace RoamerX

open scoped Numerals

namespace LidarFrame

open Quaternion QuaternionTurn

/-! ## `map_loop_closure.py` -/

/-- The lidar pose of a keyframe, as `_load_keyframes` reads it. -/
structure Keyframe (K : Type*) where
  lidarX : K
  lidarY : K
  lidarZ : K
  lidarQx : K
  lidarQy : K
  lidarQz : K
  lidarQw : K

section Model

variable {K : Type*} [Field K] [LinearOrder K] (sqrt : K → K)

/-- `float(value or default)` -/
def valueOr (value default : K) : K := if value = 0 then default else value

def quatNormalize (qx qy qz qw : K) : K × K × K × K :=
  let norm := sqrt (qx * qx + qy * qy + qz * qz + qw * qw)
  if norm ≤ 1 / 10 ^ 12 then (0, 0, 0, 1) else (qx / norm, qy / norm, qz / norm, qw / norm)

def quatToRotation (qx qy qz qw : K) : Matrix (Fin 3) (Fin 3) K :=
  let (qx, qy, qz, qw) := quatNormalize sqrt qx qy qz qw
  !![1 - 2 * (qy * qy + qz * qz), 2 * (qx * qy - qz * qw), 2 * (qx * qz + qy * qw);
    2 * (qx * qy + qz * qw), 1 - 2 * (qx * qx + qz * qz), 2 * (qy * qz - qx * qw);
    2 * (qx * qz - qy * qw), 2 * (qy * qz + qx * qw), 1 - 2 * (qx * qx + qy * qy)]

def worldToLidarFrame (points : List (K × K × K)) (keyframe : Keyframe K) : List (K × K × K) :=
  let rotation := quatToRotation sqrt (valueOr keyframe.lidarQx 0) (valueOr keyframe.lidarQy 0)
    (valueOr keyframe.lidarQz 0) (valueOr keyframe.lidarQw 1)
  let originX := valueOr keyframe.lidarX 0
  let originY := valueOr keyframe.lidarY 0
  let originZ := valueOr keyframe.lidarZ 0
  points.map fun (x, y, z) =>
    let dx := x - originX
    let dy := y - originY
    let dz := z - originZ
    (rotation 0 0 * dx + rotation 1 0 * dy + rotation 2 0 * dz,
      rotation 0 1 * dx + rotation 1 1 * dy + rotation 2 1 * dz,
      rotation 0 2 * dx + rotation 1 2 * dy + rotation 2 2 * dz)

end Model

/-! ## The pose -/

def Keyframe.orientation (keyframe : Keyframe ℝ) : ℍ[ℝ] :=
  ofParts keyframe.lidarQw keyframe.lidarQx keyframe.lidarQy keyframe.lidarQz

def vector (p : ℝ × ℝ × ℝ) : ℍ[ℝ] := ofParts 0 p.1 p.2.1 p.2.2

def Keyframe.origin (keyframe : Keyframe ℝ) : ℝ × ℝ × ℝ := (keyframe.lidarX, keyframe.lidarY, keyframe.lidarZ)

/-- The image of a point under the pose: turned, and moved. -/
def Keyframe.image (keyframe : Keyframe ℝ) (p : ℝ × ℝ × ℝ) : ℝ × ℝ × ℝ :=
  let turned := turn keyframe.orientation (vector p)
  (turned.imI + keyframe.lidarX, turned.imJ + keyframe.lidarY, turned.imK + keyframe.lidarZ)

/-- The square of the distance of two points. -/
def squaredDistance (p q : ℝ × ℝ × ℝ) : ℝ := normSq (vector p - vector q)

/-- The frame of the lidar undoes the pose, and keeps distances. -/
def UndoesPose (keyframe : Keyframe ℝ) : Prop :=
  (∀ points, worldToLidarFrame Real.sqrt (points.map keyframe.image) keyframe = points) ∧
    ∀ p q p' q', worldToLidarFrame Real.sqrt [p, q] keyframe = [p', q'] → squaredDistance p' q' = squaredDistance p q

/-! ## Reading the pose -/

theorem valueOr_zero {K : Type*} [Field K] [LinearOrder K] (value : K) : valueOr value 0 = value := by
  unfold valueOr
  split
  · next hzero => exact hzero.symm
  · rfl

/-- The quaternion that the code turns back by. -/
noncomputable def readOrientation (keyframe : Keyframe ℝ) : ℍ[ℝ] :=
  let (qx, qy, qz, qw) := quatNormalize Real.sqrt keyframe.lidarQx keyframe.lidarQy keyframe.lidarQz
    (valueOr keyframe.lidarQw 1)
  ofParts qw qx qy qz

theorem normSq_readOrientation (keyframe : Keyframe ℝ) : normSq (readOrientation keyframe) = 1 := by
  unfold readOrientation quatNormalize
  dsimp only
  split
  · rw [normSq_ofParts]
    norm_num
  next hnorm =>
  generalize valueOr keyframe.lidarQw 1 = qw at hnorm
  set norm := Real.sqrt (keyframe.lidarQx * keyframe.lidarQx + keyframe.lidarQy * keyframe.lidarQy +
    keyframe.lidarQz * keyframe.lidarQz + qw * qw) with hdef
  have hnonneg : 0 ≤ keyframe.lidarQx * keyframe.lidarQx + keyframe.lidarQy * keyframe.lidarQy +
      keyframe.lidarQz * keyframe.lidarQz + qw * qw :=
    add_nonneg (add_nonneg (add_nonneg (mul_self_nonneg _) (mul_self_nonneg _)) (mul_self_nonneg _)) (mul_self_nonneg _)
  have hsquare : norm * norm = keyframe.lidarQx * keyframe.lidarQx + keyframe.lidarQy * keyframe.lidarQy +
      keyframe.lidarQz * keyframe.lidarQz + qw * qw := Real.mul_self_sqrt hnonneg
  have hpos : norm ≠ 0 := by
    intro hzero
    rw [hzero] at hnorm
    exact hnorm (by positivity)
  rw [normSq_ofParts]
  field_simp
  linear_combination -hsquare

def point (v : ℍ[ℝ]) : ℝ × ℝ × ℝ := (v.imI, v.imJ, v.imK)

theorem point_vector (p : ℝ × ℝ × ℝ) : point (vector p) = p := rfl

theorem vector_point {v : ℍ[ℝ]} (hv : v.re = 0) : vector (point v) = v :=
  Quaternion.ext _ _ hv.symm rfl rfl rfl

theorem worldToLidarFrame_eq (points : List (ℝ × ℝ × ℝ)) (keyframe : Keyframe ℝ) :
    worldToLidarFrame Real.sqrt points keyframe =
      points.map fun p => point (turn (star (readOrientation keyframe)) (vector p - vector keyframe.origin)) := by
  have hunit := normSq_readOrientation keyframe
  unfold readOrientation at hunit ⊢
  unfold worldToLidarFrame quatToRotation
  simp only [valueOr_zero]
  generalize quatNormalize Real.sqrt keyframe.lidarQx keyframe.lidarQy keyframe.lidarQz
    (valueOr keyframe.lidarQw 1) = read at hunit ⊢
  obtain ⟨qx, qy, qz, qw⟩ := read
  rw [normSq_ofParts] at hunit
  refine List.map_congr_left fun p _ => ?_
  obtain ⟨x, y, z⟩ := p
  simp only [point, turn, vector, Keyframe.origin, re_ofParts, imI_ofParts, imJ_ofParts, imK_ofParts, re_mul, imI_mul, imJ_mul, imK_mul, re_star, imI_star, imJ_star,
    imK_star, re_sub, imI_sub, imJ_sub, imK_sub, Matrix.of_apply, Matrix.cons_val', Matrix.cons_val_zero,
    Matrix.cons_val_one, Matrix.cons_val]
  refine Prod.ext ?_ (Prod.ext ?_ ?_)
  · linear_combination (keyframe.lidarX - x) * hunit
  · linear_combination (keyframe.lidarY - y) * hunit
  · linear_combination (keyframe.lidarZ - z) * hunit

theorem worldToLidarFrame_image (points : List (ℝ × ℝ × ℝ)) (keyframe : Keyframe ℝ) :
    worldToLidarFrame Real.sqrt (points.map keyframe.image) keyframe =
      points.map fun p => point (turn (star (readOrientation keyframe)) (turn keyframe.orientation (vector p))) := by
  rw [worldToLidarFrame_eq, List.map_map]
  refine List.map_congr_left fun p _ => ?_
  have himage : vector (keyframe.image p) - vector keyframe.origin = turn keyframe.orientation (vector p) := by
    have hre := re_turn (v := vector p) rfl keyframe.orientation
    refine Quaternion.ext _ _ ?_ ?_ ?_ ?_
    · rw [hre]
      simp [vector]
    all_goals simp [vector, Keyframe.image, Keyframe.origin]
  simp only [Function.comp_apply, himage]

theorem squaredDistance_worldToLidarFrame {keyframe : Keyframe ℝ} {p q p' q' : ℝ × ℝ × ℝ}
    (h : worldToLidarFrame Real.sqrt [p, q] keyframe = [p', q']) : squaredDistance p' q' = squaredDistance p q := by
  have hunit : normSq (star (readOrientation keyframe)) = 1 := by
    rw [normSq_star]
    exact normSq_readOrientation keyframe
  rw [worldToLidarFrame_eq] at h
  rw [List.map_cons, List.map_cons, List.map_nil] at h
  obtain ⟨hp, hrest⟩ := List.cons.inj h
  obtain ⟨hq, -⟩ := List.cons.inj hrest
  subst hp hq
  have hpure : ∀ r : ℝ × ℝ × ℝ, (vector r - vector keyframe.origin).re = 0 := fun r => sub_self 0
  unfold squaredDistance
  rw [vector_point (re_turn (hpure p) _), vector_point (re_turn (hpure q) _), ← turn_sub,
    sub_sub_sub_cancel_right, normSq_turn hunit]

/-! ## Half turns -/

theorem readOrientation_eq {keyframe : Keyframe ℝ} (hunit : normSq keyframe.orientation = 1)
    (hw : keyframe.lidarQw ≠ 0) : readOrientation keyframe = keyframe.orientation := by
  have hone : keyframe.lidarQx * keyframe.lidarQx + keyframe.lidarQy * keyframe.lidarQy +
      keyframe.lidarQz * keyframe.lidarQz + keyframe.lidarQw * keyframe.lidarQw = 1 := by
    rw [Keyframe.orientation, normSq_ofParts] at hunit
    exact hunit
  have hlarge : ¬ (1 : ℝ) ≤ 1 / 10 ^ 12 := by norm_num
  unfold readOrientation quatNormalize
  simp only [valueOr, if_neg hw, hone, Real.sqrt_one, if_neg hlarge, div_one]
  rfl

theorem readOrientation_half {keyframe : Keyframe ℝ} (hunit : normSq keyframe.orientation = 1)
    (hw : keyframe.lidarQw = 0) : readOrientation keyframe =
      ofParts (1 / √2) (keyframe.lidarQx / √2) (keyframe.lidarQy / √2) (keyframe.lidarQz / √2) := by
  have htwo : keyframe.lidarQx * keyframe.lidarQx + keyframe.lidarQy * keyframe.lidarQy +
      keyframe.lidarQz * keyframe.lidarQz + 1 * 1 = 2 := by
    rw [Keyframe.orientation, normSq_ofParts, hw] at hunit
    linear_combination hunit
  have hlarge : ¬ √2 ≤ (1 / 10 ^ 12 : ℝ) := by
    have hone : (1 : ℝ) ≤ √2 := Real.one_le_sqrt.mpr one_le_two
    norm_num
    linarith
  unfold readOrientation quatNormalize
  simp only [valueOr, if_pos hw, htwo, if_neg hlarge]

/-- **The pose is undone, unless it is a half turn.** -/
theorem undoesPose_iff (keyframe : Keyframe ℝ) (hunit : normSq keyframe.orientation = 1) :
    UndoesPose keyframe ↔ keyframe.lidarQw ≠ 0 := by
  constructor
  · rintro ⟨hundone, -⟩ hw
    have hone := hunit
    rw [Keyframe.orientation, normSq_ofParts, hw] at hone
    have hroot : √(2 : ℝ) * √2 = 2 := Real.mul_self_sqrt zero_le_two
    have hread : normSq (star (readOrientation keyframe)) = 1 := by
      rw [normSq_star]
      exact normSq_readOrientation keyframe
    -- both quaternions would turn every vector in the same way
    have hsame : ∀ p, turn keyframe.orientation (vector p) = turn (readOrientation keyframe) (vector p) := by
      intro p
      have hpure : (turn keyframe.orientation (vector p)).re = 0 := re_turn rfl _
      have hpoint := hundone [p]
      rw [worldToLidarFrame_image, List.map_singleton] at hpoint
      have hvector := congrArg vector (List.cons.inj hpoint).1
      rw [vector_point (re_turn hpure _)] at hvector
      have hback := turn_star_turn hread (turn keyframe.orientation (vector p))
      rwa [star_star, hvector, eq_comm] at hback
    rw [readOrientation_half hunit hw] at hsame
    have hx := congrArg QuaternionAlgebra.imI (hsame (1, 0, 0))
    have hy := congrArg QuaternionAlgebra.imJ (hsame (0, 1, 0))
    have hz := congrArg QuaternionAlgebra.imK (hsame (0, 0, 1))
    simp only [turn, vector, Keyframe.orientation, hw, re_mul, imI_mul, imJ_mul, imK_mul, re_star, imI_star, imJ_star,
      imK_star, re_ofParts, imI_ofParts, imJ_ofParts, imK_ofParts] at hx hy hz
    field_simp at hx hy hz
    nlinarith
  · intro hw
    refine ⟨fun points => ?_, fun p q p' q' h => squaredDistance_worldToLidarFrame h⟩
    rw [worldToLidarFrame_image, readOrientation_eq hunit hw]
    calc points.map (fun p => point (turn (star keyframe.orientation) (turn keyframe.orientation (vector p))))
        = points.map id := List.map_congr_left fun p _ => by rw [turn_star_turn hunit, point_vector, id]
      _ = points := List.map_id points

/-- The robot stands turned by half a turn. -/
def halfTurn : Keyframe ℝ := ⟨0, 0, 0, 0, 0, 1, 0⟩

theorem not_undoesPose_halfTurn : normSq halfTurn.orientation = 1 ∧ ¬ UndoesPose halfTurn := by
  have hunit : normSq halfTurn.orientation = 1 := by
    rw [Keyframe.orientation, normSq_ofParts]
    norm_num [halfTurn]
  refine ⟨hunit, fun ⟨hundone, _⟩ => ?_⟩
  have hpoint := hundone [(1, 0, 0)]
  rw [worldToLidarFrame_image, readOrientation_half hunit rfl, List.map_singleton] at hpoint
  have hx := congrArg Prod.fst (List.cons.inj hpoint).1
  simp [point, turn, vector, Keyframe.orientation, halfTurn] at hx

/-- The robot stands turned to the left. -/
noncomputable def leftTurn : Keyframe ℝ := ⟨1, 2, 0, 0, 0, 3 / 5, 4 / 5⟩

theorem undoesPose_leftTurn : UndoesPose leftTurn := by
  have hunit : normSq leftTurn.orientation = 1 := by
    rw [Keyframe.orientation, normSq_ofParts]
    norm_num [leftTurn]
  exact (undoesPose_iff leftTurn hunit).mpr (by norm_num [leftTurn])

end LidarFrame

end RoamerX
