import Mathlib.Data.List.Sort
import Mathlib.Order.Basic

set_option autoImplicit false

/-! # The first of a stable sort

Rows that stand in the order of their places are sorted by a key, and rows of one key keep their order. So the first
`k` of them are the rows that fewer than `k` others come before. -/

namespace StableFirst

variable {α κ : Type*} [LinearOrder κ] (key : α → κ) (place : α → ℕ)

/-- A row comes before another: its key is less, or its place where the keys are the same. -/
def Before (a b : α) : Prop := key a < key b ∨ key a = key b ∧ place a < place b

instance (a b : α) : Decidable (Before key place a b) := inferInstanceAs (Decidable (_ ∨ _))

def sorted (rows : List α) : List α := rows.mergeSort fun a b => decide (key a ≤ key b)

variable {key place} {rows : List α}

theorem not_before_self (a : α) : ¬ Before key place a a := by
  rintro (h | ⟨-, h⟩)
  · exact lt_irrefl _ h
  · exact lt_irrefl _ h

theorem Before.not_before {a b : α} (h : Before key place a b) : ¬ Before key place b a := by
  rintro (h' | ⟨heq, h'⟩)
  · rcases h with h | ⟨heq, -⟩
    · exact lt_asymm h h'
    · exact h'.ne heq.symm
  · rcases h with h | ⟨-, h⟩
    · exact h.ne heq.symm
    · exact lt_asymm h h'

theorem le_trans_bool (a b c : α) (hab : decide (key a ≤ key b) = true) (hbc : decide (key b ≤ key c) = true) :
    decide (key a ≤ key c) = true :=
  decide_eq_true ((of_decide_eq_true hab).trans (of_decide_eq_true hbc))

theorem le_total_bool (a b : α) : (decide (key a ≤ key b) || decide (key b ≤ key a)) = true := by
  rw [Bool.or_eq_true, decide_eq_true_iff, decide_eq_true_iff]
  exact le_total _ _

variable (key) in
theorem sorted_perm (rows : List α) : (sorted key rows).Perm rows := List.mergeSort_perm _ _

theorem filter_sorted (rows : List α) (v : κ) :
    (sorted key rows).filter (fun row => decide (key row = v)) = rows.filter fun row => decide (key row = v) := by
  have hkeys : ∀ row ∈ rows.filter (fun row => decide (key row = v)), key row = v := fun row hrow =>
    of_decide_eq_true (List.mem_filter.mp hrow).2
  have hpairwise : (rows.filter fun row => decide (key row = v)).Pairwise
      fun a b => decide (key a ≤ key b) = true := by
    refine List.pairwise_of_forall_mem_list fun a ha b hb => ?_
    rw [hkeys a ha, hkeys b hb]
    exact decide_eq_true le_rfl
  have hsublist := (List.sublist_mergeSort le_trans_bool le_total_bool hpairwise List.filter_sublist).filter
    fun row => decide (key row = v)
  rw [List.filter_filter] at hsublist
  simp only [Bool.and_self] at hsublist
  refine (hsublist.eq_of_length ?_).symm
  exact ((sorted_perm key rows).filter _).length_eq.symm

theorem pairwise_sorted (hplaces : rows.Pairwise fun a b => place a < place b) :
    (sorted key rows).Pairwise (Before key place) := by
  rw [List.pairwise_iff_forall_sublist]
  intro a b hsublist
  have hle : key a ≤ key b := of_decide_eq_true
    (List.pairwise_iff_forall_sublist.mp (List.pairwise_mergeSort le_trans_bool le_total_bool rows) hsublist)
  rcases hle.lt_or_eq with hlt | heq
  · exact Or.inl hlt
  · have hsame := hsublist.filter fun row => decide (key row = key b)
    rw [filter_sorted, List.filter_cons_of_pos (by simp [heq]), List.filter_cons_of_pos (by simp),
      List.filter_nil] at hsame
    exact Or.inr ⟨heq, List.pairwise_iff_forall_sublist.mp hplaces (hsame.trans List.filter_sublist)⟩

theorem mem_take_iff {rows : List α} (hrows : rows.Pairwise (Before key place)) (k : ℕ) (x : α) :
    x ∈ rows.take k ↔ x ∈ rows ∧ rows.countP (fun row => decide (Before key place row x)) < k := by
  induction rows generalizing k with
  | nil => simp
  | cons row rows ih =>
    obtain ⟨hfirst, hrest⟩ := List.pairwise_cons.mp hrows
    cases k with
    | zero => simp
    | succ k =>
      rw [List.take_succ_cons, List.mem_cons, List.mem_cons, ih hrest, List.countP_cons]
      by_cases hx : x = row
      · subst hx
        have hnone : rows.countP (fun row => decide (Before key place row x)) = 0 := by
          refine List.countP_eq_zero.mpr fun other hother => ?_
          simpa using (hfirst other hother).not_before
        simp [hnone, not_before_self]
      · constructor
        · rintro (heq | ⟨hmem, hcount⟩)
          · exact absurd heq hx
          · rw [if_pos (decide_eq_true (hfirst x hmem))]
            exact ⟨Or.inr hmem, by omega⟩
        · rintro ⟨heq | hmem, hcount⟩
          · exact absurd heq hx
          · rw [if_pos (decide_eq_true (hfirst x hmem))] at hcount
            exact Or.inr ⟨hmem, by omega⟩

theorem mem_first_iff (hplaces : rows.Pairwise fun a b => place a < place b) (k : ℕ) (x : α) :
    x ∈ (sorted key rows).take k ↔ x ∈ rows ∧ rows.countP (fun row => decide (Before key place row x)) < k := by
  rw [mem_take_iff (pairwise_sorted hplaces), (sorted_perm key rows).countP_eq, (sorted_perm key rows).mem_iff]

end StableFirst
