import Mathlib.Algebra.BigOperators.Group.List.Basic
import Mathlib.Data.List.Dedup
import Mathlib.Data.List.Nodup

set_option autoImplicit false

/-! # Sums kept by key

A table of entries, each a key with a value of a commutative monoid. `groupBy` sums the values of each
key, as `GROUP BY` does; `upsert` adds a value to the entry of its key, or inserts it, as `ON CONFLICT
DO UPDATE` does. The lemmas say what each does to the sum over any set of keys, so that a table of sums
can be read through a coarser key than it was written with. -/

namespace GroupBy

variable {κ M : Type*} [AddCommMonoid M]

/-! ## Definitions -/

def keys (table : List (κ × M)) : List κ := table.map Prod.fst

/-- The sum over the entries whose key is in a set. -/
def sumOf (P : κ → Prop) [DecidablePred P] (table : List (κ × M)) : M :=
  ((table.filter fun e => P e.1).map Prod.snd).sum

/-- One entry for each key, with the sum of its values. -/
def groupBy [DecidableEq κ] (table : List (κ × M)) : List (κ × M) :=
  (keys table).dedup.map fun k => (k, sumOf (· = k) table)

/-- Add a value to the entry of its key, or insert it. -/
def upsert [DecidableEq κ] (table : List (κ × M)) (entry : κ × M) : List (κ × M) :=
  if entry.1 ∈ keys table then
    table.map fun e => if e.1 = entry.1 then (e.1, e.2 + entry.2) else e
  else table ++ [entry]

def merge [DecidableEq κ] (table entries : List (κ × M)) : List (κ × M) := entries.foldl upsert table

/-! ## Sums -/

section Sums

variable (P : κ → Prop) [DecidablePred P]

@[simp] theorem sumOf_nil : sumOf P ([] : List (κ × M)) = 0 := rfl

theorem sumOf_cons (e : κ × M) (table : List (κ × M)) :
    sumOf P (e :: table) = (if P e.1 then e.2 else 0) + sumOf P table := by
  unfold sumOf
  by_cases h : P e.1
  · rw [List.filter_cons_of_pos (by simpa using h), if_pos h, List.map_cons, List.sum_cons]
  · rw [List.filter_cons_of_neg (by simpa using h), if_neg h, zero_add]

theorem sumOf_append (table more : List (κ × M)) :
    sumOf P (table ++ more) = sumOf P table + sumOf P more := by
  unfold sumOf
  rw [List.filter_append, List.map_append, List.sum_append]

theorem sumOf_map_keys (ks : List κ) (value : κ → M) :
    sumOf P (ks.map fun k => (k, value k)) = ((ks.filter fun k => P k).map value).sum := by
  induction ks with
  | nil => rfl
  | cons k ks ih =>
    rw [List.map_cons, sumOf_cons, ih]
    by_cases h : P k
    · rw [if_pos h, List.filter_cons_of_pos (by simpa using h), List.map_cons, List.sum_cons]
    · rw [if_neg h, List.filter_cons_of_neg (by simpa using h), zero_add]

end Sums

variable [DecidableEq κ]

theorem sum_ite_eq_key {ks : List κ} (hnodup : ks.Nodup) (k : κ) (value : M) :
    (ks.map fun k' => if k = k' then value else 0).sum = if k ∈ ks then value else 0 := by
  induction ks with
  | nil => rfl
  | cons k' ks ih =>
    rw [List.nodup_cons] at hnodup
    rw [List.map_cons, List.sum_cons, ih hnodup.2]
    by_cases hhead : k = k'
    · rw [if_pos hhead, if_neg (hhead ▸ hnodup.1), add_zero, if_pos (hhead ▸ List.mem_cons_self)]
    · rw [if_neg hhead, zero_add]
      by_cases htail : k ∈ ks
      · rw [if_pos htail, if_pos (List.mem_cons_of_mem k' htail)]
      · rw [if_neg htail, if_neg]
        exact fun hmem => (List.mem_cons.mp hmem).elim hhead htail

theorem sum_sumOf_keys {ks : List κ} (hnodup : ks.Nodup) (P : κ → Prop) [DecidablePred P]
    (table : List (κ × M)) (hcover : ∀ e ∈ table, e.1 ∈ ks) :
    ((ks.filter fun k => P k).map fun k => sumOf (· = k) table).sum = sumOf P table := by
  induction table with
  | nil =>
    simp only [sumOf_nil]
    exact List.sum_eq_zero (by simp)
  | cons e table ih =>
    have hrest := ih fun x hx => hcover x (List.mem_cons_of_mem e hx)
    have hhead : e.1 ∈ ks := hcover e List.mem_cons_self
    have hfiltered : (ks.filter fun k => P k).Nodup := hnodup.filter _
    have hcounted : ((ks.filter fun k => P k).map fun k => if e.1 = k then e.2 else 0).sum =
        if P e.1 then e.2 else 0 := by
      rw [sum_ite_eq_key hfiltered]
      by_cases hP : P e.1
      · rw [if_pos hP, if_pos (List.mem_filter.mpr ⟨hhead, by simpa using hP⟩)]
      · rw [if_neg hP, if_neg]
        exact fun hmem => hP (by simpa using (List.mem_filter.mp hmem).2)
    rw [sumOf_cons, ← hrest, ← hcounted]
    simp only [sumOf_cons]
    exact List.sum_map_add

/-! ## `groupBy` -/

@[simp] theorem keys_groupBy (table : List (κ × M)) : keys (groupBy table) = (keys table).dedup := by
  unfold keys groupBy
  rw [List.map_map]
  exact List.map_id _

theorem mem_keys_groupBy {table : List (κ × M)} {k : κ} : k ∈ keys (groupBy table) ↔ k ∈ keys table := by
  rw [keys_groupBy, List.mem_dedup]

theorem sumOf_groupBy (P : κ → Prop) [DecidablePred P] (table : List (κ × M)) :
    sumOf P (groupBy table) = sumOf P table := by
  unfold groupBy
  rw [sumOf_map_keys]
  refine sum_sumOf_keys (List.nodup_dedup _) P table fun e he => ?_
  exact List.mem_dedup.mpr (List.mem_map_of_mem he)

theorem groupBy_perm {table other : List (κ × M)} (hkeys : ∀ k, k ∈ keys table ↔ k ∈ keys other)
    (hsums : ∀ k, sumOf (· = k) table = sumOf (· = k) other) : (groupBy table).Perm (groupBy other) := by
  unfold groupBy
  have hperm : (keys table).dedup.Perm (keys other).dedup := by
    rw [List.perm_ext_iff_of_nodup (List.nodup_dedup _) (List.nodup_dedup _)]
    intro k
    rw [List.mem_dedup, List.mem_dedup, hkeys]
  have hentries : ((keys table).dedup.map fun k => (k, sumOf (· = k) table)) =
      (keys table).dedup.map fun k => (k, sumOf (· = k) other) :=
    List.map_congr_left fun k _ => by rw [hsums]
  rw [hentries]
  exact hperm.map _

/-! ## `upsert` -/

theorem keys_upsert (table : List (κ × M)) (entry : κ × M) :
    keys (upsert table entry) =
      if entry.1 ∈ keys table then keys table else keys table ++ [entry.1] := by
  unfold upsert
  split_ifs with h
  · unfold keys
    rw [List.map_map]
    refine List.map_congr_left fun e _ => ?_
    simp only [Function.comp_apply]
    split_ifs <;> rfl
  · unfold keys
    rw [List.map_append, List.map_singleton]

theorem mem_keys_upsert {table : List (κ × M)} {entry : κ × M} {k : κ} :
    k ∈ keys (upsert table entry) ↔ k ∈ keys table ∨ k = entry.1 := by
  rw [keys_upsert]
  split_ifs with h
  · constructor
    · exact Or.inl
    · rintro (hmem | rfl)
      · exact hmem
      · exact h
  · rw [List.mem_append, List.mem_singleton]

theorem nodup_keys_upsert {table : List (κ × M)} (h : (keys table).Nodup) (entry : κ × M) :
    (keys (upsert table entry)).Nodup := by
  rw [keys_upsert]
  split_ifs with hmem
  · exact h
  · rw [List.nodup_append]
    refine ⟨h, List.nodup_singleton _, ?_⟩
    rintro k hk k' hk' rfl
    rw [List.mem_singleton] at hk'
    exact hmem (hk' ▸ hk)

theorem sumOf_map_add (P : κ → Prop) [DecidablePred P] {table : List (κ × M)} (h : (keys table).Nodup)
    {entry : κ × M} (hmem : entry.1 ∈ keys table) :
    sumOf P (table.map fun e => if e.1 = entry.1 then (e.1, e.2 + entry.2) else e) =
      sumOf P table + if P entry.1 then entry.2 else 0 := by
  induction table with
  | nil => exact absurd hmem (by simp [keys])
  | cons e table ih =>
    rw [keys, List.map_cons, List.nodup_cons] at h
    rw [List.map_cons, sumOf_cons, sumOf_cons]
    by_cases hhead : e.1 = entry.1
    · -- no other entry has the key
      have hrest : (table.map fun x => if x.1 = entry.1 then (x.1, x.2 + entry.2) else x) = table := by
        have hothers : ∀ x ∈ table, (if x.1 = entry.1 then (x.1, x.2 + entry.2) else x) = x := by
          intro x hx
          rw [if_neg]
          exact fun heq => h.1 ((hhead.trans heq.symm) ▸ List.mem_map_of_mem hx)
        rw [List.map_congr_left hothers, List.map_id']
      rw [if_pos hhead, hrest, hhead]
      by_cases hP : P entry.1
      · rw [if_pos hP, if_pos hP, if_pos hP]
        exact add_right_comm _ _ _
      · rw [if_neg hP, if_neg hP, if_neg hP, add_zero]
    · rw [if_neg hhead, ih h.2, add_assoc]
      rw [keys, List.map_cons, List.mem_cons] at hmem
      exact hmem.resolve_left fun heq => hhead heq.symm

theorem sumOf_upsert (P : κ → Prop) [DecidablePred P] {table : List (κ × M)} (h : (keys table).Nodup)
    (entry : κ × M) :
    sumOf P (upsert table entry) = sumOf P table + if P entry.1 then entry.2 else 0 := by
  unfold upsert
  by_cases hmem : entry.1 ∈ keys table
  · rw [if_pos hmem]
    exact sumOf_map_add P h hmem
  · rw [if_neg hmem, sumOf_append, sumOf_cons, sumOf_nil, add_zero]

/-! ## `merge` -/

theorem nodup_keys_merge {table : List (κ × M)} (h : (keys table).Nodup) (entries : List (κ × M)) :
    (keys (merge table entries)).Nodup := by
  induction entries generalizing table with
  | nil => exact h
  | cons entry entries ih => exact ih (nodup_keys_upsert h entry)

theorem mem_keys_merge {table entries : List (κ × M)} {k : κ} :
    k ∈ keys (merge table entries) ↔ k ∈ keys table ∨ k ∈ keys entries := by
  induction entries generalizing table with
  | nil => simp [merge, keys]
  | cons entry entries ih =>
    have hrest := @ih (upsert table entry)
    rw [mem_keys_upsert, or_assoc] at hrest
    refine hrest.trans (or_congr_right ?_)
    rw [keys, keys, List.map_cons, List.mem_cons]

theorem sumOf_merge (P : κ → Prop) [DecidablePred P] {table : List (κ × M)} (h : (keys table).Nodup)
    (entries : List (κ × M)) : sumOf P (merge table entries) = sumOf P table + sumOf P entries := by
  induction entries generalizing table with
  | nil => rw [sumOf_nil, add_zero]; rfl
  | cons entry entries ih =>
    rw [merge, List.foldl_cons]
    have hrest := ih (nodup_keys_upsert h entry)
    rw [merge, sumOf_upsert P h entry] at hrest
    rw [hrest, sumOf_cons, add_assoc]

end GroupBy
