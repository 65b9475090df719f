import Mathlib.Data.List.Induction

set_option autoImplicit false

/-! # The last of the highest

What is left of a row of entries where an entry takes the place of the one before when it is ranked at least as
high. An entry of the lowest rank takes nobody's place. -/

namespace RoamerX

variable {α : Type*}

/-- The last of the entries of the highest rank, and the first entry where no rank is above 0. -/
def lastTop (rank : α → ℕ) (first : α) (rest : List α) : α :=
  rest.foldl (fun lead x => if rank lead ≤ rank x ∧ 0 < rank x then x else lead) first

section

variable {rank : α → ℕ} {first x : α} {rest : List α}

theorem lastTop_append_singleton : lastTop rank first (rest ++ [x]) =
    if rank (lastTop rank first rest) ≤ rank x ∧ 0 < rank x then x else lastTop rank first rest := by
  unfold lastTop
  rw [List.foldl_append]
  rfl

end

end RoamerX
