import Mathlib.Data.List.Perm.Basic
import Mathlib.Data.List.Count

set_option autoImplicit false

/-! # Work in shards

A stream is split into shards by a number that each entry has, and the shards are worked on one after the other. What
comes out is what the work makes of the whole stream, in another order, where the work on an entry depends on the entry
alone. -/

namespace Shards

variable {α β : Type*}

def shard (number : α → ℕ) (i : ℕ) (xs : List α) : List α := xs.filter fun x => number x = i

theorem shard_append (number : α → ℕ) (i : ℕ) (xs ys : List α) :
    shard number i (xs ++ ys) = shard number i xs ++ shard number i ys :=
  List.filter_append ..

/-- Appends an entry to the file of its shard. -/
def append (number : α → ℕ) (files : ℕ → List α) (x : α) : ℕ → List α :=
  Function.update files (number x) (files (number x) ++ [x])

theorem foldl_append (number : α → ℕ) (xs : List α) (files : ℕ → List α) (i : ℕ) :
    xs.foldl (append number) files i = files i ++ shard number i xs := by
  induction xs generalizing files with
  | nil => simp [shard]
  | cons x xs ih =>
    rw [List.foldl_cons, ih]
    unfold append shard
    by_cases h : number x = i
    · subst h
      simp
    · simp [h, Function.update_of_ne (Ne.symm h)]

/-- The shards, one after the other, are the stream in another order. -/
theorem flatMap_shard_perm (number : α → ℕ) {n : ℕ} (xs : List α) (h : ∀ x ∈ xs, number x < n) :
    ((List.range n).flatMap fun i => shard number i xs).Perm xs := by
  have hbelow : ∀ n, ((List.range n).flatMap fun i => shard number i xs).Perm (xs.filter fun x => number x < n) := by
    intro n
    induction n with
    | zero => simp
    | succ n ih =>
      rw [List.range_succ, List.flatMap_append, List.flatMap_singleton]
      refine (ih.append_right _).trans ?_
      have hsplit := List.filter_append_perm (fun x => decide (number x < n)) (xs.filter fun x => number x < n + 1)
      rw [List.filter_filter, List.filter_filter] at hsplit
      refine (List.Perm.of_eq ?_).trans hsplit
      unfold shard
      congr 1 <;> refine List.filter_congr fun x _ => ?_
      · have : number x < n → number x < n + 1 := Nat.lt_succ_of_lt
        by_cases hx : number x < n <;> simp [hx, this]
      · by_cases hx : number x = n
        · simp [hx]
        · have : ¬ (¬ number x < n ∧ number x < n + 1) := by omega
          simp [hx]
          omega
  have hall : (xs.filter fun x => number x < n) = xs := List.filter_eq_self.mpr fun x hx => decide_eq_true (h x hx)
  exact (hbelow n).trans (List.Perm.of_eq hall)

end Shards
