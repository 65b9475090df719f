import Mathlib.Data.List.Basic

set_option autoImplicit false

/-! # Blocks of equal elements

A list is cut into its longest blocks of equal neighbours. The blocks tile the indices of the list:
each starts where the one before it stops, and every element in a block is the block's key. -/

namespace Blocks

variable {κ : Type*}

/-- The elements from `start` up to `stop` are `key`. -/
structure Block (κ : Type*) where
  key : κ
  start : ℕ
  stop : ℕ
  deriving DecidableEq

/-- The blocks of a list whose first elements, from `start` up to `index`, are `key`. -/
@[simp] def blocksFrom [DecidableEq κ] (start : ℕ) (key : κ) : ℕ → List κ → List (Block κ)
  | index, [] => [⟨key, start, index⟩]
  | index, k :: rest =>
    if k = key then blocksFrom start key (index + 1) rest
    else ⟨key, start, index⟩ :: blocksFrom index k (index + 1) rest

def blocks [DecidableEq κ] : List κ → List (Block κ)
  | [] => []
  | k :: rest => blocksFrom 0 k 1 rest

/-- The blocks tile the indices from `a` up to `b`. -/
@[simp] def Tiles : ℕ → ℕ → List (Block κ) → Prop
  | a, b, [] => a = b
  | a, b, x :: xs => x.start = a ∧ x.start < x.stop ∧ Tiles x.stop b xs

section Tiles

variable {a b : ℕ} {xs : List (Block κ)} {n : ℕ} {x y : Block κ}

theorem Tiles.le (h : Tiles a b xs) : a ≤ b := by
  induction xs generalizing a with
  | nil => exact Nat.le_of_eq h
  | cons x xs ih =>
    obtain ⟨hstart, hlt, hrest⟩ := h
    have hle := ih hrest
    omega

theorem Tiles.bounds (h : Tiles a b xs) (hx : xs[n]? = some x) :
    a ≤ x.start ∧ x.start < x.stop ∧ x.stop ≤ b := by
  induction xs generalizing a n with
  | nil => exact absurd hx (by simp)
  | cons z xs ih =>
    obtain ⟨hstart, hlt, hrest⟩ := h
    cases n with
    | zero =>
      obtain rfl : z = x := by simpa using hx
      exact ⟨Nat.le_of_eq hstart.symm, hlt, hrest.le⟩
    | succ n =>
      have hbounds := ih hrest (by simpa using hx)
      omega

theorem Tiles.next (h : Tiles a b xs) (hx : xs[n]? = some x) (hlt : x.stop < b) :
    ∃ y, xs[n + 1]? = some y ∧ y.start = x.stop := by
  induction xs generalizing a n with
  | nil => exact absurd hx (by simp)
  | cons z xs ih =>
    obtain ⟨hstart, -, hrest⟩ := h
    cases n with
    | zero =>
      obtain rfl : z = x := by simpa using hx
      cases xs with
      | nil =>
        rw [Tiles] at hrest
        omega
      | cons y ys => exact ⟨y, by simp, hrest.1⟩
    | succ n => exact ih hrest (by simpa using hx)

theorem Tiles.exists_block (h : Tiles a b xs) {i : ℕ} (ha : a ≤ i) (hb : i < b) :
    ∃ (n : ℕ) (x : Block κ), xs[n]? = some x ∧ x.start ≤ i ∧ i < x.stop := by
  induction xs generalizing a with
  | nil =>
    rw [Tiles] at h
    omega
  | cons z xs ih =>
    obtain ⟨hstart, -, hrest⟩ := h
    by_cases hi : i < z.stop
    · exact ⟨0, z, rfl, by omega, hi⟩
    · obtain ⟨n, x, hx, hin⟩ := ih hrest (by omega)
      exact ⟨n + 1, x, by simpa using hx, hin⟩

theorem Tiles.unique (h : Tiles a b xs) {m i : ℕ} (hx : xs[n]? = some x) (hy : xs[m]? = some y)
    (hxi : x.start ≤ i ∧ i < x.stop) (hyi : y.start ≤ i ∧ i < y.stop) : n = m := by
  induction xs generalizing a n m with
  | nil => exact absurd hx (by simp)
  | cons z xs ih =>
    obtain ⟨hstart, -, hrest⟩ := h
    cases n with
    | zero =>
      obtain rfl : z = x := by simpa using hx
      cases m with
      | zero => rfl
      | succ m =>
        have hbounds := hrest.bounds (by simpa using hy)
        omega
    | succ n =>
      cases m with
      | zero =>
        obtain rfl : z = y := by simpa using hy
        have hbounds := hrest.bounds (by simpa using hx)
        omega
      | succ m =>
        have hsame : n = m := ih hrest (by simpa using hx) (by simpa using hy)
        omega

end Tiles

section Blocks

variable [DecidableEq κ]

theorem tiles_blocksFrom (key : κ) (rest : List κ) :
    ∀ start index, start < index →
      Tiles start (index + rest.length) (blocksFrom start key index rest) := by
  induction rest generalizing key with
  | nil =>
    intro start index h
    exact ⟨rfl, h, rfl⟩
  | cons k rest ih =>
    intro start index h
    rw [blocksFrom, List.length_cons, ← Nat.add_assoc, Nat.add_right_comm]
    split_ifs
    · exact ih key start (index + 1) (by omega)
    · exact ⟨rfl, h, ih k index (index + 1) (by omega)⟩

theorem tiles_blocks (l : List κ) : Tiles 0 l.length (blocks l) := by
  cases l with
  | nil => rfl
  | cons k rest =>
    have h := tiles_blocksFrom k rest 0 1 (by omega)
    rwa [Nat.add_comm] at h

theorem key_blocksFrom (key : κ) (rest : List κ) :
    ∀ start index (pre : List κ), pre.length = index → (∀ i, start ≤ i → i < index → pre[i]? = some key) →
      ∀ x ∈ blocksFrom start key index rest, ∀ i, x.start ≤ i → i < x.stop →
        (pre ++ rest)[i]? = some x.key := by
  induction rest generalizing key with
  | nil =>
    intro start index pre _ hpre x hx i hi hlt
    obtain rfl : x = ⟨key, start, index⟩ := by simpa [blocksFrom] using hx
    rw [List.append_nil]
    exact hpre i hi hlt
  | cons k rest ih =>
    intro start index pre hlen hpre x hx i hi hlt
    have happend : pre ++ k :: rest = pre ++ [k] ++ rest := by simp
    have hlen' : (pre ++ [k]).length = index + 1 := by simp [hlen]
    have hold : ∀ j, j < index → (pre ++ [k])[j]? = pre[j]? := by
      intro j hj
      exact List.getElem?_append_left (by omega)
    have hnew : (pre ++ [k])[index]? = some k := by simp [← hlen]
    rw [happend]
    rw [blocksFrom] at hx
    split_ifs at hx with hk
    · refine ih key start (index + 1) (pre ++ [k]) hlen' ?_ x hx i hi hlt
      intro j hj hjlt
      by_cases hlast : j = index
      · rw [hlast, hnew, hk]
      · rw [hold j (by omega)]
        exact hpre j hj (by omega)
    · rcases List.mem_cons.1 hx with rfl | hx
      · rw [List.getElem?_append_left (by simp only [hlen'] at *; exact Nat.lt_succ_of_lt hlt), hold i hlt]
        exact hpre i hi hlt
      · refine ih k index (index + 1) (pre ++ [k]) hlen' ?_ x hx i hi hlt
        intro j hj hjlt
        obtain rfl : j = index := by omega
        exact hnew

theorem key_blocks {l : List κ} {x : Block κ} (hx : x ∈ blocks l) {i : ℕ} (hi : x.start ≤ i)
    (hlt : i < x.stop) : l[i]? = some x.key := by
  cases l with
  | nil => exact absurd hx (by simp [blocks])
  | cons k rest =>
    refine key_blocksFrom k rest 0 1 [k] rfl ?_ x hx i hi hlt
    intro j _ hj
    obtain rfl : j = 0 := by omega
    rfl

theorem reverse_eq_of_length_le_one {l : List κ} (h : (blocks l).length ≤ 1) : l.reverse = l := by
  cases hl : l with
  | nil => rfl
  | cons k rest =>
    have htiles := tiles_blocks l
    obtain ⟨n, x, hx, -⟩ := htiles.exists_block (Nat.zero_le 0) (by simp [hl])
    have hn : n < (blocks l).length := (List.getElem?_eq_some_iff.1 hx).1
    obtain rfl : n = 0 := by omega
    -- the one block starts at the front and stops at the end
    have hstop : x.stop = l.length := by
      by_contra hne
      obtain ⟨-, -, hle⟩ := htiles.bounds hx
      obtain ⟨y, hy, -⟩ := htiles.next hx (by omega)
      have hlt : 1 < (blocks l).length := (List.getElem?_eq_some_iff.1 hy).1
      omega
    have hstart : x.start = 0 := by
      cases hb : blocks l with
      | nil =>
        rw [hb] at hx
        exact absurd hx (by simp)
      | cons z zs =>
        rw [hb] at hx htiles
        obtain rfl : z = x := by simpa using hx
        exact htiles.1
    have hkeys : ∀ y ∈ l, y = x.key := by
      intro y hy
      obtain ⟨i, hi, rfl⟩ := List.getElem_of_mem hy
      have hkey := key_blocks (List.mem_of_getElem? hx) (show x.start ≤ i by omega) (by omega)
      rw [List.getElem?_eq_getElem hi] at hkey
      exact Option.some.inj hkey
    rw [← hl, List.eq_replicate_of_mem hkeys, List.reverse_replicate]

end Blocks

end Blocks
