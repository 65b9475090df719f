import Mathlib.Data.List.Basic

set_option autoImplicit false

/-! # Tables as lists of keyed rows

A database table is a list of rows in the order they were inserted; `key` reads a row's primary
key. `Rows.get?` is the look-up by key, `Rows.put` saves a row over the one with its key, and
insertion appends. The lemmas say what each write does to each read, so that a development over
several tables never unfolds the list operations. -/

namespace Rows

variable {κ ρ : Type*} [DecidableEq κ] (key : ρ → κ)

/-- The row with key `k`. -/
def get? (rows : List ρ) (k : κ) : Option ρ := rows.find? (fun r => key r = k)

/-- Save `r` over the row that has its key. -/
def put (rows : List ρ) (r : ρ) : List ρ := rows.map (fun x => if key x = key r then r else x)

/-- Rewrite the row with key `k` in place. -/
def modify (rows : List ρ) (k : κ) (g : ρ → ρ) : List ρ :=
  rows.map (fun x => if key x = k then g x else x)

/-! ## Reading -/

theorem get?_mem {rows : List ρ} {k : κ} {r : ρ} (h : get? key rows k = some r) : r ∈ rows :=
  List.mem_of_find?_eq_some h

theorem get?_key {rows : List ρ} {k : κ} {r : ρ} (h : get? key rows k = some r) : key r = k := by
  simpa using List.find?_some h

@[simp] theorem get?_nil (k : κ) : get? key [] k = none := rfl

theorem get?_cons (r : ρ) (rows : List ρ) (k : κ) :
    get? key (r :: rows) k = if key r = k then some r else get? key rows k := by
  unfold get?
  by_cases h : key r = k
  · simp [h]
  · simp [h]

theorem get?_append (rows more : List ρ) (k : κ) :
    get? key (rows ++ more) k = (get? key rows k).or (get? key more k) := by
  simp only [get?, List.find?_append]

theorem get?_insert_ne {rows : List ρ} {r : ρ} {k : κ} (h : key r ≠ k) :
    get? key (rows ++ [r]) k = get? key rows k := by
  rw [get?_append, get?_cons, if_neg h, get?_nil, Option.or_none]

theorem get?_insert_of_some {rows : List ρ} {r x : ρ} {k : κ} (h : get? key rows k = some x) :
    get? key (rows ++ [r]) k = some x := by
  rw [get?_append, h, Option.some_or]

theorem get?_insert_self {rows : List ρ} {r : ρ} (h : get? key rows (key r) = none) :
    get? key (rows ++ [r]) (key r) = some r := by
  rw [get?_append, h, Option.none_or, get?_cons, if_pos rfl]

theorem get?_eq_none {rows : List ρ} {k : κ} :
    get? key rows k = none ↔ ∀ r ∈ rows, key r ≠ k := by
  simp [get?, List.find?_eq_none]

theorem get?_isSome_of_mem {rows : List ρ} {r : ρ} (h : r ∈ rows) :
    ∃ x, get? key rows (key r) = some x := by
  cases hx : get? key rows (key r) with
  | some x => exact ⟨x, rfl⟩
  | none => exact absurd rfl ((get?_eq_none key).mp hx r h)

theorem get?_of_mem {rows : List ρ} (hnd : (rows.map key).Nodup) {r : ρ} (h : r ∈ rows) :
    get? key rows (key r) = some r := by
  induction rows with
  | nil => exact absurd h (by simp)
  | cons x rows ih =>
    simp only [List.map_cons, List.nodup_cons] at hnd
    rw [get?_cons]
    rcases List.mem_cons.mp h with rfl | hmem
    · exact if_pos rfl
    · rw [if_neg, ih hnd.2 hmem]
      intro heq
      exact hnd.1 (heq ▸ List.mem_map_of_mem hmem)

/-! ## Writing -/

theorem map_key_put (rows : List ρ) (r : ρ) : (put key rows r).map key = rows.map key := by
  unfold put
  rw [List.map_map]
  apply List.map_congr_left
  intro x _
  by_cases h : key x = key r <;> simp [h]

theorem get?_put (rows : List ρ) (r : ρ) (k : κ) :
    get? key (put key rows r) k =
      if k = key r then (get? key rows k).map (fun _ => r) else get? key rows k := by
  induction rows with
  | nil => simp [put]
  | cons x rows ih =>
    have hput : put key (x :: rows) r =
        (if key x = key r then r else x) :: put key rows r := rfl
    rw [hput, get?_cons, get?_cons, ih]
    by_cases hx : key x = key r
    · by_cases hk : k = key r
      · simp [hx, hk]
      · have hk' : ¬ key r = k := fun h => hk h.symm
        simp [hx, hk, hk']
    · by_cases hk : k = key r
      · have hxk : ¬ key x = k := fun h => hx (h.trans hk)
        simp [hx, hk]
      · simp [hx, hk]

theorem get?_put_self {rows : List ρ} {r x : ρ} (h : get? key rows (key r) = some x) :
    get? key (put key rows r) (key r) = some r := by
  rw [get?_put, if_pos rfl, h, Option.map_some]

theorem get?_put_ne {rows : List ρ} {r : ρ} {k : κ} (h : k ≠ key r) :
    get? key (put key rows r) k = get? key rows k := by
  rw [get?_put, if_neg h]

theorem mem_put {rows : List ρ} {r x : ρ} (h : x ∈ put key rows r) :
    x = r ∨ (x ∈ rows ∧ key x ≠ key r) := by
  obtain ⟨y, hy, rfl⟩ := List.mem_map.mp h
  by_cases hk : key y = key r
  · exact .inl (by simp [hk])
  · rw [if_neg hk]
    exact .inr ⟨hy, hk⟩

/-! ## Rewriting in place -/

theorem get?_map {rows : List ρ} {f : ρ → ρ} (hf : ∀ r, key (f r) = key r) (k : κ) :
    get? key (rows.map f) k = (get? key rows k).map f := by
  induction rows with
  | nil => rfl
  | cons x rows ih =>
    rw [List.map_cons, get?_cons, get?_cons, hf, ih]
    by_cases hx : key x = k
    · rw [if_pos hx, if_pos hx, Option.map_some]
    · rw [if_neg hx, if_neg hx]

theorem get?_modify {rows : List ρ} {k : κ} {g : ρ → ρ} (hg : ∀ r, key (g r) = key r) (k' : κ) :
    get? key (modify key rows k g) k' =
      if k' = k then (get? key rows k').map g else get? key rows k' := by
  induction rows with
  | nil => simp [modify]
  | cons x rows ih =>
    have hmodify : modify key (x :: rows) k g =
        (if key x = k then g x else x) :: modify key rows k g := rfl
    rw [hmodify, get?_cons, get?_cons, ih]
    by_cases hx : key x = k
    · by_cases hk : k' = k
      · simp [hx, hk, hg]
      · have hk' : ¬ k = k' := fun h => hk h.symm
        simp [hx, hk, hk', hg]
    · by_cases hk : k' = k
      · simp [hx, hk]
      · simp [hx, hk]

end Rows
