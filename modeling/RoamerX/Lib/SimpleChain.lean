import RoamerX.Lib.EvenOdd
import Mathlib.Data.List.GetD
import Mathlib.LinearAlgebra.AffineSpace.AffineMap

set_option autoImplicit false

/-! # Simple chains

The corners of a closed chain by their number, which starts over at the end, and the sides between them.
A chain is simple when its sides meet in their common corners only. On a simple chain a point in the middle
of a side lies on no other, and the even-odd rule tells its two banks apart. -/

namespace EvenOdd

open AffineMap

/-! ## Areas along a line -/

section Areas

variable {𝕜 : Type*} [Field 𝕜] {a b p u v : 𝕜 × 𝕜}

theorem lineMap_fst (a b : 𝕜 × 𝕜) (t : 𝕜) : (lineMap a b t : 𝕜 × 𝕜).1 = a.1 + t * (b.1 - a.1) := by
  simp only [lineMap_apply, vsub_eq_sub, vadd_eq_add, Prod.fst_add, Prod.smul_fst, Prod.fst_sub, smul_eq_mul]
  ring

theorem lineMap_snd (a b : 𝕜 × 𝕜) (t : 𝕜) : (lineMap a b t : 𝕜 × 𝕜).2 = a.2 + t * (b.2 - a.2) := by
  simp only [lineMap_apply, vsub_eq_sub, vadd_eq_add, Prod.snd_add, Prod.smul_snd, Prod.snd_sub, smul_eq_mul]
  ring

theorem lineMap_between (a b : 𝕜 × 𝕜) (s t τ : 𝕜) :
    lineMap (lineMap a b s : 𝕜 × 𝕜) (lineMap a b t) τ = lineMap a b (s + τ * (t - s)) := by
  refine Prod.ext ?_ ?_
  · simp only [lineMap_fst]
    ring
  · simp only [lineMap_snd]
    ring

theorem lineMap_back (a b : 𝕜 × 𝕜) (s τ : 𝕜) :
    lineMap (lineMap a b s : 𝕜 × 𝕜) a τ = lineMap a b (s - τ * s) := by
  have hpart := lineMap_between a b s 0 τ
  rw [lineMap_apply_zero] at hpart
  rw [hpart, zero_sub, mul_neg, ← sub_eq_add_neg]

theorem lineMap_onwards (a b : 𝕜 × 𝕜) (s τ : 𝕜) :
    lineMap (lineMap a b s : 𝕜 × 𝕜) b τ = lineMap a b (s + τ * (1 - s)) := by
  have hpart := lineMap_between a b s 1 τ
  rw [lineMap_apply_one] at hpart
  exact hpart

theorem cross_lineMap (a b p u : 𝕜 × 𝕜) (t : 𝕜) :
    cross a b (lineMap p u t) = (1 - t) * cross a b p + t * cross a b u := by
  simp only [cross, lineMap_fst, lineMap_snd]
  ring

theorem cross_of_lineMap (a b v : 𝕜 × 𝕜) (s t : 𝕜) :
    cross (lineMap a b s) (lineMap a b t) v = (t - s) * cross a b v := by
  simp only [cross, lineMap_fst, lineMap_snd]
  ring

@[simp] theorem cross_left (a b : 𝕜 × 𝕜) : cross a b a = 0 := by
  simp only [cross]
  ring

@[simp] theorem cross_right (a b : 𝕜 × 𝕜) : cross a b b = 0 := by
  simp only [cross]
  ring

theorem cross_swap_right (a b v : 𝕜 × 𝕜) : cross a v b = -cross a b v := by
  simp only [cross]
  ring

theorem exists_lineMap_of_cross_eq_zero (hab : a ≠ b) (h : cross a b v = 0) : ∃ t : 𝕜, v = lineMap a b t := by
  by_cases hfst : b.1 - a.1 = 0
  · have hsnd : b.2 - a.2 ≠ 0 := by
      intro hsnd
      exact hab (Prod.ext (sub_eq_zero.mp hfst).symm (sub_eq_zero.mp hsnd).symm)
    refine ⟨(v.2 - a.2) / (b.2 - a.2), Prod.ext ?_ ?_⟩
    · rw [lineMap_fst]
      simp only [cross, hfst, zero_mul, zero_sub, neg_eq_zero, mul_eq_zero] at h
      rw [hfst, mul_zero, add_zero]
      exact sub_eq_zero.mp (h.resolve_left hsnd)
    · rw [lineMap_snd, div_mul_cancel₀ _ hsnd]
      ring
  · refine ⟨(v.1 - a.1) / (b.1 - a.1), Prod.ext ?_ ?_⟩
    · rw [lineMap_fst, div_mul_cancel₀ _ hfst]
      ring
    · rw [lineMap_snd]
      simp only [cross] at h
      field_simp
      linear_combination h

variable [LinearOrder 𝕜] [IsStrictOrderedRing 𝕜]

theorem mem_segment_iff : v ∈ segment 𝕜 a b ↔ ∃ t : 𝕜, 0 ≤ t ∧ t ≤ 1 ∧ v = lineMap a b t := by
  rw [segment_eq_image_lineMap]
  constructor
  · rintro ⟨t, ⟨h0, h1⟩, rfl⟩
    exact ⟨t, h0, h1, rfl⟩
  · rintro ⟨t, h0, h1, rfl⟩
    exact ⟨t, ⟨h0, h1⟩, rfl⟩

theorem cross_eq_zero_of_mem_segment (h : v ∈ segment 𝕜 a b) : cross a b v = 0 := by
  obtain ⟨t, -, -, rfl⟩ := mem_segment_iff.mp h
  rw [cross_lineMap, cross_left, cross_right, mul_zero, mul_zero, add_zero]

theorem cross_pos_of_mem_segment (hp : 0 < cross a b p) (hu : 0 < cross a b u) (hv : v ∈ segment 𝕜 p u) :
    0 < cross a b v := by
  obtain ⟨t, h0, h1, rfl⟩ := mem_segment_iff.mp hv
  rw [cross_lineMap]
  rcases h0.eq_or_lt with rfl | hpos
  · linarith
  · have hmul := mul_pos hpos hu
    have hmul' := mul_nonneg (sub_nonneg.mpr h1) hp.le
    linarith

theorem cross_neg_of_mem_segment (hp : cross a b p < 0) (hu : cross a b u < 0) (hv : v ∈ segment 𝕜 p u) :
    cross a b v < 0 := by
  have hpos := cross_pos_of_mem_segment (a := b) (b := a) (by rw [cross_swap]; linarith)
    (by rw [cross_swap]; linarith) hv
  rw [cross_swap] at hpos
  linarith

end Areas

/-! ## Corners and sides -/

section Corners

variable {α : Type*} [Zero α] {chain : List α} {k : ℕ} {a : α}

/-- The corner number `k`, counted around the chain. -/
def corner (chain : List α) (k : ℕ) : α := chain.getD (k % chain.length) 0

theorem corner_of_lt (h : k < chain.length) : corner chain k = chain[k] := by
  unfold corner
  rw [Nat.mod_eq_of_lt h, List.getD_eq_getElem _ _ h]

@[simp] theorem corner_mod (chain : List α) (k : ℕ) :
    corner chain (k % chain.length) = corner chain k := by
  unfold corner
  rw [Nat.mod_mod]

@[simp] theorem corner_add_length (chain : List α) (k : ℕ) :
    corner chain (k + chain.length) = corner chain k := by
  unfold corner
  rw [Nat.add_mod_right]

@[simp] theorem corner_mod_succ (chain : List α) (k : ℕ) :
    corner chain (k % chain.length + 1) = corner chain (k + 1) := by
  rw [← corner_mod, Nat.mod_add_mod, corner_mod]

theorem corner_mem (h : chain ≠ []) (k : ℕ) : corner chain k ∈ chain := by
  have hlt : k % chain.length < chain.length := Nat.mod_lt _ (List.length_pos_iff.mpr h)
  rw [← corner_mod, corner_of_lt hlt]
  exact List.getElem_mem hlt

theorem exists_corner (h : a ∈ chain) : ∃ k < chain.length, corner chain k = a := by
  obtain ⟨k, hk, rfl⟩ := List.mem_iff_getElem.mp h
  exact ⟨k, hk, corner_of_lt hk⟩

theorem edges_eq_map (chain : List α) :
    edges chain = (List.range chain.length).map fun k =>
      (corner chain (k + (chain.length - 1)), corner chain (k + (chain.length - 1) + 1)) := by
  cases hchain : chain with
  | nil => rfl
  | cons v l =>
    rw [← hchain]
    have hpos : 0 < chain.length := by
      rw [hchain]
      exact Nat.succ_pos _
    have hlast : chain.getLast? = some (corner chain (chain.length - 1)) := by
      rw [corner_of_lt (Nat.sub_lt hpos Nat.one_pos), List.getLast?_eq_getElem?]
      exact List.getElem?_eq_getElem _
    rw [edges, hlast]
    dsimp only
    refine List.ext_getElem ?_ fun k hk _ => ?_
    · rw [List.length_zip, List.length_cons, List.length_map, List.length_range]
      omega
    · rw [List.length_zip, List.length_cons] at hk
      have hlt : k < chain.length := by omega
      have hend : corner chain (k + (chain.length - 1) + 1) = chain[k] := by
        rw [Nat.add_assoc, Nat.sub_add_cancel hpos, corner_add_length, corner_of_lt hlt]
      have hbegin : ∀ z, corner chain (chain.length - 1) = z → ∀ hk : k < (z :: chain).length,
          (z :: chain)[k] = corner chain (k + (chain.length - 1)) := by
        intro z hz hk
        cases k with
        | zero =>
          rw [Nat.zero_add, hz]
          exact List.getElem_cons_zero _ _ _
        | succ k =>
          have hstart : k + 1 + (chain.length - 1) = k + chain.length := by omega
          rw [hstart, corner_add_length, corner_of_lt (by omega)]
          exact List.getElem_cons_succ _ _ _ _
      rw [List.getElem_zip, List.getElem_map, List.getElem_range, hend]
      exact Prod.ext (hbegin _ rfl _) rfl

end Corners

variable {𝕜 : Type*} [Field 𝕜] [LinearOrder 𝕜]

/-- The points of the side from the corner `k` to the next. -/
def side (chain : List (𝕜 × 𝕜)) (k : ℕ) : Set (𝕜 × 𝕜) := segment 𝕜 (corner chain k) (corner chain (k + 1))

variable {chain : List (𝕜 × 𝕜)} {i j k : ℕ} {p u a b : 𝕜 × 𝕜}

@[simp] theorem side_mod (chain : List (𝕜 × 𝕜)) (k : ℕ) : side chain (k % chain.length) = side chain k := by
  unfold side
  rw [corner_mod, corner_mod_succ]

@[simp] theorem side_add_length (chain : List (𝕜 × 𝕜)) (k : ℕ) : side chain (k + chain.length) = side chain k := by
  rw [← side_mod, Nat.add_mod_right, side_mod]

theorem onChain_iff : OnChain chain p ↔ ∃ k < chain.length, p ∈ side chain k := by
  unfold OnChain
  rw [edges_eq_map]
  constructor
  · rintro ⟨e, he, hp⟩
    obtain ⟨k, hk, rfl⟩ := List.mem_map.mp he
    refine ⟨(k + (chain.length - 1)) % chain.length, Nat.mod_lt _ ?_, ?_⟩
    · exact Nat.zero_lt_of_lt (List.mem_range.mp hk)
    · rw [side_mod]
      exact hp
  · rintro ⟨k, hk, hp⟩
    refine ⟨_, List.mem_map.mpr ⟨(k + 1) % chain.length, ?_, rfl⟩, ?_⟩
    · exact List.mem_range.mpr (Nat.mod_lt _ (Nat.zero_lt_of_lt hk))
    · have hsame : side chain ((k + 1) % chain.length + (chain.length - 1)) = side chain k := by
        rw [← side_mod, Nat.mod_add_mod]
        have hsum : k + 1 + (chain.length - 1) = k + chain.length := by omega
        rw [hsum, Nat.add_mod_right, side_mod]
      rw [← hsame] at hp
      exact hp

theorem onChain_of_side (h : chain ≠ []) (k : ℕ) (hp : p ∈ side chain k) : OnChain chain p := by
  refine onChain_iff.mpr ⟨k % chain.length, Nat.mod_lt _ (List.length_pos_iff.mpr h), ?_⟩
  rw [side_mod]
  exact hp

theorem crosses_of_signs (hp : 0 < cross a b p) (hu : cross a b u < 0) (ha : cross p u a < 0)
    (hb : 0 < cross p u b) : crosses p u (a, b) = true := by
  have hleft : pointLeft a b p = true := decide_eq_true (Or.inl hp)
  have hright : pointLeft a b u = false := by
    rw [pointLeft, decide_eq_false_iff_not]
    rintro (h | ⟨h, -⟩)
    · exact absurd h hu.not_gt
    · exact hu.ne h
  have hbefore : vertexLeft p u a = false := by
    rw [vertexLeft, decide_eq_false_iff_not]
    rintro (h | ⟨h, -⟩)
    · exact absurd h ha.not_gt
    · exact ha.ne h
  have hbehind : vertexLeft p u b = true := decide_eq_true (Or.inl hb)
  unfold crosses
  rw [hleft, hright, hbefore, hbehind]
  rfl

/-- A place of the way from `a` to `b` at which it begins or ends, passes a corner or crosses a side. -/
def Cut (chain : List (𝕜 × 𝕜)) (a b : 𝕜 × 𝕜) (t : 𝕜) : Prop :=
  0 ≤ t ∧ t ≤ 1 ∧ (t = 0 ∨ t = 1 ∨ ∃ k, lineMap a b t = corner chain k ∨
    lineMap a b t ∈ side chain k ∧ cross a b (corner chain k) ≠ cross a b (corner chain (k + 1)))

/-! ## Simple chains -/

/-- The sides `i < j` have no corner in common. -/
def Apart (n i j : ℕ) : Prop := i < j ∧ j < n ∧ j ≠ i + 1 ∧ ¬(i = 0 ∧ j + 1 = n)

/-- The sides of the chain meet in their common corners only. -/
structure Simple (chain : List (𝕜 × 𝕜)) : Prop where
  size : 3 ≤ chain.length
  /-- No side has length zero. -/
  proper : ∀ k, corner chain k ≠ corner chain (k + 1)
  joined : ∀ k, ∀ p ∈ side chain k, p ∈ side chain (k + 1) → p = corner chain (k + 1)
  apart : ∀ i j, Apart chain.length i j → ∀ p ∈ side chain i, p ∉ side chain j

theorem side_cases {n : ℕ} (hi : i < n) (hj : j < n) (hne : i ≠ j) :
    j = (i + 1) % n ∨ i = (j + 1) % n ∨ Apart n i j ∨ Apart n j i := by
  have hsucc : ∀ k, k < n → (k + 1) % n = if k + 1 = n then 0 else k + 1 := by
    intro k hk
    by_cases hlast : k + 1 = n
    · rw [if_pos hlast, hlast, Nat.mod_self]
    · rw [if_neg hlast, Nat.mod_eq_of_lt (by omega)]
  rw [hsucc i hi, hsucc j hj]
  unfold Apart
  split <;> split <;> omega

theorem Simple.ne_nil (h : Simple chain) : chain ≠ [] := by
  intro hnil
  have hsize := h.size
  rw [hnil, List.length_nil] at hsize
  omega

variable [IsStrictOrderedRing 𝕜]

theorem onChain_of_mem (h : p ∈ chain) : OnChain chain p := by
  obtain ⟨k, hk, rfl⟩ := exists_corner h
  exact onChain_iff.mpr ⟨k, hk, left_mem_segment 𝕜 _ _⟩

theorem Simple.notMem_side (h : Simple chain) (hi : i < chain.length) (hj : j < chain.length) (hne : i ≠ j)
    (hp : p ∈ openSegment 𝕜 (corner chain i) (corner chain (i + 1))) : p ∉ side chain j := by
  intro hpj
  have hpi : p ∈ side chain i := openSegment_subset_segment 𝕜 _ _ hp
  rcases side_cases hi hj hne with hnext | hprev | hapart | hapart
  · rw [hnext, side_mod] at hpj
    have hcorner := h.joined i p hpi hpj
    rw [hcorner, right_mem_openSegment_iff] at hp
    exact h.proper i hp
  · rw [hprev, side_mod] at hpi
    have hcorner := h.joined j p hpj hpi
    rw [hprev, corner_mod, ← hcorner] at hp
    rw [left_mem_openSegment_iff] at hp
    have hproper := h.proper (j + 1)
    rw [← hcorner] at hproper
    refine hproper ?_
    rw [hp, corner_mod_succ]
  · exact h.apart i j hapart p hpi hpj
  · exact h.apart j i hapart p hpj hpi

/-! ## The two banks of a side -/

theorem oddly_map_of_unique {α β : Type*} (f : β → Bool) (g : α → β) {places : List α} {x : α}
    (hnodup : places.Nodup) (hx : x ∈ places) (hothers : ∀ y ∈ places, y ≠ x → f (g y) = false) :
    oddly f (places.map g) = f (g x) := by
  induction places with
  | nil => exact absurd hx List.not_mem_nil
  | cons y places ih =>
    obtain ⟨hnotMem, hrest⟩ := List.nodup_cons.mp hnodup
    rw [List.map_cons, oddly_cons]
    rcases List.mem_cons.mp hx with rfl | hmem
    · rw [oddly_eq_false, Bool.xor_false]
      intro e he
      obtain ⟨z, hz, rfl⟩ := List.mem_map.mp he
      exact hothers z (List.mem_cons_of_mem _ hz) fun hzx => hnotMem (hzx ▸ hz)
    · have hyx : y ≠ x := fun hyx => hnotMem (hyx ▸ hmem)
      rw [hothers y List.mem_cons_self hyx, Bool.false_xor]
      exact ih hrest hmem fun z hz => hothers z (List.mem_cons_of_mem _ hz)

theorem inside_ne_of_unique (hk : k < chain.length)
    (hcross : crosses p u (corner chain k, corner chain (k + 1)) = true)
    (hothers : ∀ j < chain.length, j ≠ k → ∀ w ∈ segment 𝕜 p u, w ∉ side chain j) :
    inside chain p ≠ inside chain u := by
  -- the edges are numbered by the corners they end in
  set n := chain.length with hn
  have hnumber : ∀ x, x < n → (x + (n - 1)) % n = k → x = (k + 1) % n := by
    intro x hx hxk
    rw [← hxk, Nat.mod_add_mod, Nat.add_assoc, Nat.sub_add_cancel (by omega), Nat.add_mod_right,
      Nat.mod_eq_of_lt hx]
  have hback : ((k + 1) % n + (n - 1)) % n = k := by
    rw [Nat.mod_add_mod, Nat.add_assoc, Nat.add_sub_cancel' (by omega : 1 ≤ n), Nat.add_mod_right,
      Nat.mod_eq_of_lt hk]
  have hcorners : ∀ x, corner chain ((x + (n - 1)) % n) = corner chain (x + (n - 1)) ∧
      corner chain ((x + (n - 1)) % n + 1) = corner chain (x + (n - 1) + 1) := by
    exact fun x => ⟨corner_mod _ _, corner_mod_succ _ _⟩
  have hodd : separated chain p u = true := by
    unfold separated
    rw [edges_eq_map, oddly_map_of_unique _ _ List.nodup_range (x := (k + 1) % n)]
    · rw [← hn, ← (hcorners _).1, ← (hcorners _).2, hback]
      exact hcross
    · exact List.mem_range.mpr (Nat.mod_lt _ (by omega))
    · intro x hx hne
      rw [List.mem_range] at hx
      rw [← hn, ← (hcorners x).1, ← (hcorners x).2]
      by_contra hcrosses
      obtain ⟨w, hw, hwside⟩ := exists_mem_of_crosses (Bool.not_eq_false _ ▸ hcrosses)
      refine hothers ((x + (n - 1)) % n) (Nat.mod_lt _ (by omega)) ?_ w hw hwside
      intro heq
      exact hne (hnumber x hx heq)
  rw [← inside_xor] at hodd
  intro heq
  rw [heq, Bool.xor_self] at hodd
  exact nomatch hodd

end EvenOdd
