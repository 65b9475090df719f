import RoamerX.LoopClosure.Retrieval
import Mathlib
import RoamerX.Lib.Numerals

set_option autoImplicit false

/-! # The scan contexts of the localization node

`ScanContextDatabase` of `scan_context_db.cpp`, which computes what `map_loop_closure.py` computes, on a descriptor
stored row after row. The yaw offset of a candidate is the heading of the query over that of the keyframe. -/

noncomputable section

namespace RoamerX

open scoped Numerals

namespace ScanContextDatabase

open Real ScanContext

abbrev Flat := List ℝ

/-! ## Descriptors -/

/-- The sector of a point; `%` keeps the sign. -/
def sectorOf (p : Point) : ℤ :=
  let sector := (truncate ((Plane.heading p.xy + π) / (2 * π) * sectors)).tmod sectors
  if sector < 0 then sector + sectors else sector

/-- One point of `describe`. -/
def describePoint (descriptor : Flat) (p : Point) : Flat :=
  if Plane.radius p.xy ≤ 1e-6 ∨ maxRadius < Plane.radius p.xy then descriptor
  else
    let ring := min (rings - 1 : ℤ) (truncate (Plane.radius p.xy / maxRadius * rings))
    let cell := ring.toNat * sectors + (sectorOf p).toNat
    if descriptor.getD cell 0 < p.z then descriptor.set cell p.z else descriptor

/-- `ScanContextDatabase::describe`, for points with finite coordinates. -/
def describe (scan : Cloud) : Flat :=
  (scan.foldl describePoint (List.replicate (rings * sectors) (-1e9))).map fun cell => if cell < -1e8 then 0 else cell

def descriptorDistance (query target : Flat) (shift : ℕ) : ℝ :=
  (∑ ring ∈ Finset.range rings, ∑ sector ∈ Finset.range sectors,
    |query.getD (ring * sectors + sector) 0 - target.getD (ring * sectors + (sector + shift) % sectors) 0|) /
    max 1 (rings * sectors : ℕ)

/-! ## The yaw offset -/

/-- `while (angle > M_PI) angle -= 2.0 * M_PI` -/
def wrapDown (angle : ℝ) : ℝ := if π < angle then wrapDown (angle - 2 * π) else angle
termination_by ⌈angle⌉₊
decreasing_by
  have hpi := two_le_pi
  have hle : ⌈angle - 2 * π⌉₊ ≤ ⌈angle - 1⌉₊ := Nat.ceil_mono (by linarith)
  have hpos : 0 < ⌈angle⌉₊ := Nat.ceil_pos.mpr (by linarith)
  rw [Nat.ceil_sub_one] at hle
  omega

/-- `while (angle <= -M_PI) angle += 2.0 * M_PI` -/
def wrapUp (angle : ℝ) : ℝ := if angle ≤ -π then wrapUp (angle + 2 * π) else angle
termination_by ⌈-angle⌉₊
decreasing_by
  have hpi := two_le_pi
  have hle : ⌈-(angle + 2 * π)⌉₊ ≤ ⌈-angle - 1⌉₊ := Nat.ceil_mono (by linarith)
  have hpos : 0 < ⌈-angle⌉₊ := Nat.ceil_pos.mpr (by linarith)
  rw [Nat.ceil_sub_one] at hle
  omega

def wrapAngle (angle : ℝ) : ℝ := wrapUp (wrapDown angle)

/-- `std::numeric_limits<double>::max()` -/
def doubleMax : ℝ := 2 ^ 1024 - 2 ^ 971

/-- `best_absolute_distance` and `best_absolute_shift` of a slot. -/
def bestShift (query target : Flat) : ℝ × ℕ :=
  firstBest (descriptorDistance query target) id (doubleMax, 0) (List.range sectors)

/-- `yaw_offset_rad` of a shift. -/
def yawOffset (shift : ℕ) : ℝ := wrapAngle (shift * (2 * π / sectors))

/-- `AngleAxisd(angle, UnitZ)` -/
def angleAxisZ (angle : ℝ) : Matrix (Fin 3) (Fin 3) ℝ :=
  !![cos angle, -sin angle, 0; sin angle, cos angle, 0; 0, 0, 1]

/-- The rotation of `seed_pose`, from that of the pose of the keyframe. -/
def seedRotation (offset : ℝ) (keyframe : Matrix (Fin 3) (Fin 3) ℝ) : Matrix (Fin 3) (Fin 3) ℝ :=
  angleAxisZ offset * keyframe

/-! ## Both sides find one yaw -/

theorem wrapAngle_shift (shift : Fin sectors) : yawOffset shift = yawOf shift := by
  have hpi := pi_pos
  have hshift : ((shift : ℕ) : ℝ) < sectors := Nat.cast_lt.mpr shift.isLt
  have hpos : (0 : ℝ) < sectors := Nat.cast_pos.mpr (by decide)
  have hangle : ((shift : ℕ) : ℝ) * (2 * π / sectors) = shift / sectors * (2 * π) := by ring
  have hnonneg : 0 ≤ ((shift : ℕ) : ℝ) * (2 * π / sectors) := by positivity
  have hlt : ((shift : ℕ) : ℝ) * (2 * π / sectors) < 2 * π := by
    rw [hangle]
    have hratio : ((shift : ℕ) : ℝ) / sectors < 1 := (div_lt_one hpos).mpr hshift
    nlinarith
  unfold yawOffset wrapAngle yawOf
  by_cases hover : π < ((shift : ℕ) : ℝ) * (2 * π / sectors)
  · have hdone : ¬ π < ((shift : ℕ) : ℝ) * (2 * π / sectors) - 2 * π := by linarith
    rw [wrapDown, if_pos hover, wrapDown, if_neg hdone, wrapUp, if_neg (by linarith)]
    exact (if_pos hover).symm
  · rw [wrapDown, if_neg hover, wrapUp, if_neg (by linarith)]
    exact (if_neg hover).symm

end ScanContextDatabase

end RoamerX

end
