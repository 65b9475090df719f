import Mathlib.Algebra.Quaternion
import Mathlib.Tactic.Ring

set_option autoImplicit false

/-! # Turning by a unit quaternion

A quaternion `q` turns a vector `v`, which is a quaternion without real part, into `q v q*`. For a unit quaternion the
conjugate turns back, and lengths are kept. -/

namespace QuaternionTurn

open Quaternion

variable {R : Type*} [CommRing R] {q : ℍ[R]}

def ofParts (w x y z : R) : ℍ[R] := ⟨w, x, y, z⟩

section Parts

variable (w x y z : R)

@[simp] theorem re_ofParts : (ofParts w x y z).re = w := rfl

@[simp] theorem imI_ofParts : (ofParts w x y z).imI = x := rfl

@[simp] theorem imJ_ofParts : (ofParts w x y z).imJ = y := rfl

@[simp] theorem imK_ofParts : (ofParts w x y z).imK = z := rfl

theorem normSq_ofParts : normSq (ofParts w x y z) = x * x + y * y + z * z + w * w := by
  rw [normSq_def']
  simp only [re_ofParts, imI_ofParts, imJ_ofParts, imK_ofParts]
  ring

end Parts

/-- `q` turns `v`. -/
def turn (q v : ℍ[R]) : ℍ[R] := q * v * star q

theorem turn_sub (q v w : ℍ[R]) : turn q (v - w) = turn q v - turn q w := by
  simp only [turn, mul_sub, sub_mul]

theorem turn_star_turn (h : normSq q = 1) (v : ℍ[R]) : turn (star q) (turn q v) = v := by
  have hone : star q * q = 1 := by rw [star_mul_self, h, coe_one]
  calc star q * (q * v * star q) * star (star q)
      = (star q * q) * v * (star q * q) := by simp only [star_star, mul_assoc]
    _ = v := by rw [hone, one_mul, mul_one]

theorem normSq_turn (h : normSq q = 1) (v : ℍ[R]) : normSq (turn q v) = normSq v := by
  rw [turn, map_mul, map_mul, normSq_star, h, one_mul, mul_one]

theorem re_turn {v : ℍ[R]} (hv : v.re = 0) (q : ℍ[R]) : (turn q v).re = 0 := by
  simp only [turn, re_mul, imI_mul, imJ_mul, imK_mul, re_star, imI_star, imJ_star, imK_star, hv]
  ring

end QuaternionTurn
