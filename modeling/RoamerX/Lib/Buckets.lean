import Mathlib.Data.List.Basic
import Mathlib.Tactic.Linarith
import Mathlib.Tactic.Ring

set_option autoImplicit false

/-! # Buckets

Elements that fall into buckets, those of them whose bucket is full enough, and the packing of the three indexes of a
bucket into one number. -/

namespace Buckets

variable {α κ κ' : Type*} [DecidableEq κ] [DecidableEq κ']

/-- How many elements share the bucket of one. -/
def occupancy (key : α → κ) (l : List α) (a : α) : ℕ := l.countP fun b => key b = key a

/-- The elements whose bucket holds at least `n`. -/
def dense (key : α → κ) (n : ℤ) (l : List α) : List α := l.filter fun a => n ≤ occupancy key l a

theorem occupancy_congr {key : α → κ} {key' : α → κ'} {l : List α}
    (h : ∀ a ∈ l, ∀ b ∈ l, key a = key b ↔ key' a = key' b) {a : α} (ha : a ∈ l) :
    occupancy key l a = occupancy key' l a := by
  refine List.countP_congr fun b hb => ?_
  simpa using h b hb a ha

theorem dense_congr {key : α → κ} {key' : α → κ'} {l : List α}
    (h : ∀ a ∈ l, ∀ b ∈ l, key a = key b ↔ key' a = key' b) (n : ℤ) : dense key n l = dense key' n l := by
  refine List.filter_congr fun a ha => ?_
  rw [occupancy_congr h ha]

/-! ## Packed indexes -/

/-- Three digits as one number, of which the first two are below `m` and `n`. -/
def pack (m n : ℤ) (x y z : ℤ) : ℤ := x + m * (y + n * z)

theorem digit_unique {n x y x' y' : ℤ} (hx : 0 ≤ x ∧ x < n) (hx' : 0 ≤ x' ∧ x' < n)
    (h : x + n * y = x' + n * y') : x = x' ∧ y = y' := by
  have hlow : x = x' := by
    have hmod := congrArg (· % n) h
    simp only [Int.add_mul_emod_self_left] at hmod
    rwa [Int.emod_eq_of_lt hx.1 hx.2, Int.emod_eq_of_lt hx'.1 hx'.2] at hmod
  refine ⟨hlow, ?_⟩
  rw [hlow] at h
  exact mul_left_cancel₀ (by omega) (add_left_cancel h)

theorem pack_injective {m n x y z x' y' z' : ℤ} (hx : 0 ≤ x ∧ x < m) (hy : 0 ≤ y ∧ y < n) (hx' : 0 ≤ x' ∧ x' < m)
    (hy' : 0 ≤ y' ∧ y' < n) (h : pack m n x y z = pack m n x' y' z') : x = x' ∧ y = y' ∧ z = z' := by
  obtain ⟨hfirst, hrest⟩ := digit_unique hx hx' h
  obtain ⟨hsecond, hthird⟩ := digit_unique hy hy' hrest
  exact ⟨hfirst, hsecond, hthird⟩

end Buckets
