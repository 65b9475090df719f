import Mathlib.Data.List.DropRight

set_option autoImplicit false

/-! # Stripping a text

`List.strip p` drops the elements with `p` from both ends. -/

namespace List

variable {α : Type*} (p : α → Bool)

/-- Without the elements with `p` at its ends. -/
def strip (l : List α) : List α := (l.dropWhile p).rdropWhile p

@[simp] theorem strip_nil : strip p [] = [] := rfl

theorem strip_eq_self {l : List α} (hhead : ∀ a ∈ l.head?, p a = false)
    (hlast : ∀ hne : l ≠ [], p (l.getLast hne) = false) : l.strip p = l := by
  have hfront : l.dropWhile p = l := by
    cases l with
    | nil => rfl
    | cons a l =>
      have ha : p a = false := hhead a rfl
      simp [List.dropWhile, ha]
  rw [strip, hfront, rdropWhile_eq_self_iff]
  intro hne
  simp [hlast hne]

theorem head?_strip {l : List α} {a : α} (ha : a ∈ (l.strip p).head?) : p a = false := by
  obtain ⟨rest, hrest⟩ := rdropWhile_prefix p (l.dropWhile p)
  have hhead : (l.dropWhile p).head? = some a := by
    rw [← hrest, List.head?_append, show ((l.dropWhile p).rdropWhile p).head? = some a from ha]
    rfl
  have hnot := List.head?_dropWhile_not p l
  rw [hhead] at hnot
  simpa using hnot

/-- **Stripping twice.** -/
theorem strip_strip (l : List α) : (l.strip p).strip p = l.strip p := by
  apply strip_eq_self
  · intro a ha
    exact head?_strip p ha
  · intro hne
    exact Bool.eq_false_iff.2 (rdropWhile_last_not p (l.dropWhile p) hne)

end List
