import Mathlib

set_option autoImplicit false

/-! # The first best of a list

A search that goes over a list and keeps what is better than all before: of the best, the first. -/

namespace RoamerX

variable {ι α β : Type*} [LinearOrder α]

/-- The cost and the value of the first entry that costs least, and `start` where none costs less. -/
def firstBest (cost : ι → α) (value : ι → β) (start : α × β) (entries : List ι) : α × β :=
  entries.foldl (fun best entry => if cost entry < best.1 then (cost entry, value entry) else best) start

section

variable {cost : ι → α} {value : ι → β} {start : α × β} {entries : List ι} {entry : ι}

theorem firstBest_cons : firstBest cost value start (entry :: entries) =
    firstBest cost value (if cost entry < start.1 then (cost entry, value entry) else start) entries :=
  rfl

theorem firstBest_eq_start (h : ∀ e ∈ entries, start.1 ≤ cost e) : firstBest cost value start entries = start := by
  induction entries with
  | nil => rfl
  | cons e entries ih =>
    rw [List.forall_mem_cons] at h
    rw [firstBest_cons, if_neg (not_lt.mpr h.1)]
    exact ih h.2

theorem firstBest_eq (hmem : entry ∈ entries) (hstart : cost entry < start.1)
    (hbest : ∀ e ∈ entries, e ≠ entry → cost entry < cost e) :
    firstBest cost value start entries = (cost entry, value entry) := by
  induction entries generalizing start with
  | nil => exact absurd hmem List.not_mem_nil
  | cons e entries ih =>
    rw [List.forall_mem_cons] at hbest
    rw [firstBest_cons]
    by_cases he : e = entry
    · subst he
      rw [if_pos hstart]
      refine firstBest_eq_start fun e' hmem' => ?_
      rcases eq_or_ne e' e with rfl | hne
      · exact le_rfl
      · exact (hbest.2 e' hmem' hne).le
    · have hrest : entry ∈ entries := (List.mem_cons.mp hmem).resolve_left fun heq => he heq.symm
      by_cases hcheaper : cost e < start.1
      · rw [if_pos hcheaper]
        exact ih hrest (hbest.1 he) hbest.2
      · rw [if_neg hcheaper]
        exact ih hrest hstart hbest.2

end

end RoamerX
