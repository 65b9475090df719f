import Mathlib.Data.List.Count
import Mathlib.Logic.Function.Basic

set_option autoImplicit false

/-! # Counters that stop at a cap

A table counts the keys of a stream, and each of its counters stops at a cap: it is the true count, cut off there. -/

namespace Saturating

variable {κ : Type*} [DecidableEq κ]

def bump (cap : ℕ) (counts : κ → ℕ) (key : κ) : κ → ℕ :=
  if counts key < cap then Function.update counts key (counts key + 1) else counts

variable {cap : ℕ} {counts : κ → ℕ}

theorem bump_apply (h : ∀ k, counts k ≤ cap) (key k : κ) :
    bump cap counts key k = min cap (counts k + if key = k then 1 else 0) := by
  have hk := h k
  unfold bump
  by_cases heq : key = k
  · subst heq
    rw [if_pos rfl]
    split_ifs with hlt
    · rw [Function.update_self]
      omega
    · omega
  · rw [if_neg heq, show counts k + 0 = counts k from rfl, Nat.min_eq_right hk]
    split_ifs
    · exact Function.update_of_ne (Ne.symm heq) _ _
    · rfl

theorem foldl_bump (keys : List κ) (h : ∀ k, counts k ≤ cap) (k : κ) :
    keys.foldl (bump cap) counts k = min cap (counts k + keys.count k) := by
  induction keys generalizing counts with
  | nil => simp [h k]
  | cons key keys ih =>
    have hbump : ∀ k, bump cap counts key k ≤ cap := by
      intro k
      rw [bump_apply h]
      exact Nat.min_le_left _ _
    rw [List.foldl_cons, ih hbump, bump_apply h, List.count_cons]
    simp only [beq_iff_eq]
    omega

/-- The counters of a stream, from an empty table. -/
theorem foldl_bump_zero (keys : List κ) (k : κ) : keys.foldl (bump cap) (fun _ => 0) k = min cap (keys.count k) := by
  simpa using foldl_bump keys (fun _ => Nat.zero_le cap) k

end Saturating
