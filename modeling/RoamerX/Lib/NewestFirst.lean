import Mathlib.Data.List.Sort
import Mathlib.Order.Defs.LinearOrder

set_option autoImplicit false

/-! # The newest of some rows

A store lists its rows by falling key and leaves the order of equal keys open. Whichever order it takes, a row is
among the first `n` where at most `n` rows have a key as high as its own. -/

namespace RoamerX

structure NewestFirst (α : Type*) {κ : Type*} [LinearOrder κ] (key : α → κ) where
  order : List α → List α
  perm : ∀ rows, (order rows).Perm rows
  falling : ∀ rows, (order rows).Pairwise fun a b => key b ≤ key a

namespace NewestFirst

variable {α κ : Type*} [LinearOrder κ] {key : α → κ} {rows : List α} {x : α} {n : ℕ}

/-- The rows whose key is as high as that of `x`. -/
def upTo (key : α → κ) (x : α) (rows : List α) : List α := rows.filter fun y => decide (key x ≤ key y)

theorem mem_take_of_falling (hfalling : rows.Pairwise fun a b => key b ≤ key a) (hx : x ∈ rows)
    (hfew : (upTo key x rows).length ≤ n) : x ∈ rows.take n := by
  induction rows generalizing n with
  | nil => exact absurd hx List.not_mem_nil
  | cons y rows ih =>
    obtain ⟨hy, hrest⟩ := List.pairwise_cons.mp hfalling
    -- the first row is `x` or has a key as high, so it takes one of the `n` places
    have hhigh : key x ≤ key y := by
      rcases List.mem_cons.mp hx with rfl | hx
      · exact le_refl _
      · exact hy x hx
    have hlength : (upTo key x (y :: rows)).length = (upTo key x rows).length + 1 := by
      simp only [upTo, List.filter_cons, hhigh, decide_true, if_true, List.length_cons]
    rw [hlength] at hfew
    obtain ⟨m, rfl⟩ := Nat.exists_eq_succ_of_ne_zero (Nat.ne_of_gt (Nat.lt_of_lt_of_le (Nat.succ_pos _) hfew))
    rw [Nat.succ_eq_add_one, List.take_succ_cons]
    rcases List.mem_cons.mp hx with rfl | hx
    · exact List.mem_cons_self
    · exact List.mem_cons_of_mem _ (ih hrest hx (Nat.le_of_succ_le_succ hfew))

variable (newest : NewestFirst α key)

theorem mem_order : x ∈ newest.order rows ↔ x ∈ rows := (newest.perm rows).mem_iff

theorem mem_of_mem_take (h : x ∈ (newest.order rows).take n) : x ∈ rows :=
  newest.mem_order.mp (List.mem_of_mem_take h)

theorem mem_take (hx : x ∈ rows) (hfew : (upTo key x rows).length ≤ n) : x ∈ (newest.order rows).take n := by
  refine mem_take_of_falling (newest.falling rows) (newest.mem_order.mpr hx) ?_
  rw [upTo, ((newest.perm rows).filter _).length_eq]
  exact hfew

def byInsertion (key : α → κ) : NewestFirst α key where
  order := List.insertionSort fun a b => key b ≤ key a
  perm := List.perm_insertionSort _
  falling rows := by
    have htotal : Std.Total fun a b : α => key b ≤ key a := ⟨fun a b => le_total (key b) (key a)⟩
    have htrans : IsTrans α fun a b => key b ≤ key a := ⟨fun _ _ _ hab hbc => le_trans hbc hab⟩
    exact List.pairwise_insertionSort _ rows

end NewestFirst

end RoamerX
