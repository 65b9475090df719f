import Mathlib.Data.List.Basic

set_option autoImplicit false

/-! # Tables of threads

A table that grows at its end and whose entries change one at a time, as a list: where an entry of the table comes from
after a step. And a log whose entries carry the number of their thread, as that thread sees it. -/

namespace Pool

variable {α : Type*} {l : List α} {a b : α} {n m : ℕ}

theorem getElem?_concat_cases (h : (l ++ [a])[n]? = some b) :
    (l[n]? = some b ∧ n < l.length) ∨ (n = l.length ∧ b = a) := by
  rcases Nat.lt_trichotomy n l.length with hlt | heq | hgt
  · rw [List.getElem?_append_left hlt] at h
    exact Or.inl ⟨h, hlt⟩
  · subst heq
    rw [List.getElem?_concat_length, Option.some.injEq] at h
    exact Or.inr ⟨rfl, h.symm⟩
  · rw [List.getElem?_eq_none (by rw [List.length_append, List.length_singleton]; omega)] at h
    exact absurd h (by simp)

theorem getElem?_set_cases (h : (l.set n a)[m]? = some b) : (m = n ∧ b = a) ∨ (m ≠ n ∧ l[m]? = some b) := by
  rw [List.getElem?_set] at h
  split_ifs at h with hnm
  · exact Or.inl ⟨hnm.symm, (Option.some.inj h).symm⟩
  · exact Or.inr ⟨fun heq => hnm heq.symm, h⟩

theorem getElem?_modify_cases {f : α → α} (h : (l.modify n f)[m]? = some b) :
    ∃ old, l[m]? = some old ∧ ((m = n ∧ b = f old) ∨ (m ≠ n ∧ b = old)) := by
  rw [List.getElem?_modify] at h
  obtain ⟨old, hold, heq⟩ := Option.map_eq_some_iff.mp h
  refine ⟨old, hold, ?_⟩
  split_ifs at heq with hnm
  · exact Or.inl ⟨hnm.symm, heq.symm⟩
  · exact Or.inr ⟨fun hmn => hnm hmn.symm, heq.symm⟩

theorem map_filter_tagged (n m : ℕ) (entries : List α) :
    ((entries.map (n, ·)).filter (·.1 = m)).map (·.2) = if n = m then entries else [] := by
  induction entries with
  | nil => simp
  | cons entry rest ih =>
    rw [List.map_cons, List.filter_cons]
    by_cases hnm : n = m
    · rw [if_pos (decide_eq_true hnm), List.map_cons, ih, if_pos hnm, if_pos hnm]
    · rw [if_neg (by simpa using hnm), ih, if_neg hnm, if_neg hnm]

end Pool
