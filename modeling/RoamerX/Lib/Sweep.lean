import Mathlib.Data.List.Basic
import Mathlib.Logic.Function.Basic

set_option autoImplicit false

/-! # Sweeps over a family

A sweep works on entries of a family one after the other, each on its own state. The work on an entry may
raise, which ends the sweep; what was done before stays done. Entries are independent: what the sweep does
to one is what the work does to it alone, if the sweep gets there. -/

namespace Sweep

variable {ι σ ε : Type*}

/-- Work on the entries in turn; the first error ends the sweep. -/
@[simp] def sweep [DecidableEq ι] (work : ι → σ → Option ε × σ) : List ι → (ι → σ) → Option ε × (ι → σ)
  | [], f => (none, f)
  | i :: is, f =>
    match work i (f i) with
    | (none, s) => sweep work is (Function.update f i s)
    | (some e, s) => (some e, Function.update f i s)

/-- The entries that the sweep gets to. -/
@[simp] def visited (work : ι → σ → Option ε × σ) (f : ι → σ) : List ι → List ι
  | [] => []
  | i :: is =>
    match (work i (f i)).1 with
    | none => i :: visited work f is
    | some _ => [i]

variable {work : ι → σ → Option ε × σ} {f : ι → σ} {is : List ι} {i j : ι}

/-! ## One entry -/

theorem visited_cons_of_none (h : (work i (f i)).1 = none) :
    visited work f (i :: is) = i :: visited work f is := by
  rw [visited, h]

theorem visited_cons_of_some {e : ε} (h : (work i (f i)).1 = some e) :
    visited work f (i :: is) = [i] := by
  rw [visited, h]

theorem visited_subset : visited work f is ⊆ is := by
  induction is with
  | nil => exact List.Subset.refl _
  | cons i is ih =>
    cases hwork : (work i (f i)).1 with
    | none =>
      rw [visited_cons_of_none hwork]
      exact List.cons_subset_cons i ih
    | some e =>
      rw [visited_cons_of_some hwork]
      exact List.cons_subset_cons i (List.nil_subset is)

section Sweep

variable [DecidableEq ι]

theorem sweep_cons_of_none (h : (work i (f i)).1 = none) :
    sweep work (i :: is) f = sweep work is (Function.update f i (work i (f i)).2) := by
  rw [sweep]
  cases hwork : work i (f i) with
  | mk result s =>
    rw [hwork] at h
    obtain rfl : result = none := h
    rfl

theorem sweep_cons_of_some {e : ε} (h : (work i (f i)).1 = some e) :
    sweep work (i :: is) f = (some e, Function.update f i (work i (f i)).2) := by
  rw [sweep]
  cases hwork : work i (f i) with
  | mk result s =>
    rw [hwork] at h
    obtain rfl : result = some e := h
    rfl

theorem visited_update (h : i ∉ is) (s : σ) :
    visited work (Function.update f i s) is = visited work f is := by
  induction is with
  | nil => rfl
  | cons j is ih =>
    rw [List.mem_cons, not_or] at h
    rw [visited, visited, Function.update_of_ne (Ne.symm h.1), ih h.2]

/-! ## The whole sweep -/

theorem sweep_of_notMem (h : j ∉ is) : (sweep work is f).2 j = f j := by
  induction is generalizing f with
  | nil => rfl
  | cons i is ih =>
    rw [List.mem_cons, not_or] at h
    cases hwork : (work i (f i)).1 with
    | none => rw [sweep_cons_of_none hwork, ih h.2, Function.update_of_ne h.1]
    | some e =>
      rw [sweep_cons_of_some hwork]
      exact Function.update_of_ne h.1 _ _

/-- **What the sweep does to an entry that it gets to is what the work does to it alone.** -/
theorem sweep_of_visited (hnodup : is.Nodup) (h : j ∈ visited work f is) :
    (sweep work is f).2 j = (work j (f j)).2 := by
  induction is generalizing f with
  | nil => exact absurd h List.not_mem_nil
  | cons i is ih =>
    obtain ⟨hnotMem, hrest⟩ := List.nodup_cons.mp hnodup
    cases hwork : (work i (f i)).1 with
    | none =>
      rw [visited_cons_of_none hwork] at h
      rw [sweep_cons_of_none hwork]
      by_cases hji : j = i
      · subst hji
        rw [sweep_of_notMem hnotMem, Function.update_self]
      · have hmem := (List.mem_cons.mp h).resolve_left hji
        rw [ih hrest (by rwa [visited_update hnotMem]), Function.update_of_ne hji]
    | some e =>
      rw [visited_cons_of_some hwork, List.mem_singleton] at h
      subst h
      rw [sweep_cons_of_some hwork]
      exact Function.update_self _ _ _

theorem sweep_of_not_visited (hnodup : is.Nodup) (h : j ∉ visited work f is) :
    (sweep work is f).2 j = f j := by
  induction is generalizing f with
  | nil => rfl
  | cons i is ih =>
    obtain ⟨hnotMem, hrest⟩ := List.nodup_cons.mp hnodup
    cases hwork : (work i (f i)).1 with
    | none =>
      rw [visited_cons_of_none hwork, List.mem_cons, not_or] at h
      rw [sweep_cons_of_none hwork, ih hrest (by rw [visited_update hnotMem]; exact h.2),
        Function.update_of_ne h.1]
    | some e =>
      rw [visited_cons_of_some hwork, List.mem_singleton] at h
      rw [sweep_cons_of_some hwork]
      exact Function.update_of_ne h _ _

/-- **The sweep does to every entry what the work does to it alone** exactly where the work leaves the
    entries behind one that raises as they are. -/
theorem sweep_eq_work_iff (hnodup : is.Nodup) :
    (∀ i ∈ is, (sweep work is f).2 i = (work i (f i)).2) ↔
      is.Pairwise fun i j => (work i (f i)).1 = none ∨ (work j (f j)).2 = f j := by
  induction is generalizing f with
  | nil => exact iff_of_true (fun i hi => absurd hi List.not_mem_nil) List.Pairwise.nil
  | cons i is ih =>
    obtain ⟨hnotMem, hrest⟩ := List.nodup_cons.mp hnodup
    have hne : ∀ j ∈ is, j ≠ i := fun j hj hji => hnotMem (hji ▸ hj)
    rw [List.forall_mem_cons, List.pairwise_cons]
    cases hwork : (work i (f i)).1 with
    | none =>
      -- the entries behind `i` are met as they were
      have hsame : ∀ j ∈ is, Function.update f i (work i (f i)).2 j = f j :=
        fun j hj => Function.update_of_ne (hne j hj) _ _
      rw [sweep_cons_of_none hwork]
      refine and_congr (iff_of_true ?_ fun _ _ => Or.inl rfl) ?_
      · rw [sweep_of_notMem hnotMem, Function.update_self]
      · have hih := ih (f := Function.update f i (work i (f i)).2) hrest
        rw [List.Pairwise.iff_of_mem (S := fun i j =>
          (work i (f i)).1 = none ∨ (work j (f j)).2 = f j)] at hih
        · rw [← hih]
          refine forall₂_congr fun j hj => ?_
          rw [hsame j hj]
        · intro j k hj hk
          rw [hsame j hj, hsame k hk]
    | some e =>
      rw [sweep_cons_of_some hwork]
      constructor
      · rintro ⟨-, hsettled⟩
        have hkept : ∀ j ∈ is, (work j (f j)).2 = f j := by
          intro j hj
          rw [← hsettled j hj]
          exact Function.update_of_ne (hne j hj) _ _
        refine ⟨fun j hj => Or.inr (hkept j hj), ?_⟩
        exact List.pairwise_of_forall_mem_list fun j _ k hk => Or.inr (hkept k hk)
      · rintro ⟨hbehind, -⟩
        refine ⟨Function.update_self _ _ _, fun j hj => ?_⟩
        rw [(hbehind j hj).resolve_left (fun h => nomatch h)]
        exact Function.update_of_ne (hne j hj) _ _

end Sweep

/-! ## What it gets to -/

theorem visited_eq_iff : visited work f is = is ↔ ∀ i ∈ is.dropLast, (work i (f i)).1 = none := by
  induction is with
  | nil => exact iff_of_true rfl fun i hi => absurd hi List.not_mem_nil
  | cons i is ih =>
    cases is with
    | nil =>
      refine iff_of_true ?_ fun i hi => absurd hi List.not_mem_nil
      rw [visited]
      split <;> rfl
    | cons j is =>
      rw [List.dropLast_cons_cons, List.forall_mem_cons]
      cases hwork : (work i (f i)).1 with
      | none => rw [visited_cons_of_none hwork, List.cons_inj_right, ih, and_iff_right rfl]
      | some e =>
        rw [visited_cons_of_some hwork]
        exact iff_of_false (fun h => nomatch h) fun h => nomatch h.1

theorem visited_of_none (h : ∀ i ∈ is, (work i (f i)).1 = none) : visited work f is = is :=
  visited_eq_iff.mpr fun i hi => h i (List.dropLast_subset is hi)

theorem exists_visited_of_raises {e : ε} (hi : i ∈ is) (h : (work i (f i)).1 = some e) :
    ∃ j ∈ visited work f is, ∃ e, (work j (f j)).1 = some e := by
  induction is with
  | nil => exact absurd hi List.not_mem_nil
  | cons k is ih =>
    cases hwork : (work k (f k)).1 with
    | some e' =>
      rw [visited_cons_of_some hwork]
      exact ⟨k, List.mem_singleton.mpr rfl, e', hwork⟩
    | none =>
      rw [visited_cons_of_none hwork]
      rcases List.mem_cons.mp hi with rfl | hmem
      · exact nomatch hwork.symm.trans h
      · obtain ⟨j, hj, hraises⟩ := ih hmem
        exact ⟨j, List.mem_cons_of_mem k hj, hraises⟩

end Sweep
