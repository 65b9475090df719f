import Mathlib.Data.List.Basic
import Mathlib.Data.List.Nodup

set_option autoImplicit false

/-! # Lists with a key

A list of entries, each with a key. An entry that is put in is combined with the one of its key, where there
is one, and comes last otherwise. So the entries keep their places, and those of different keys do not
matter to one another. -/

namespace Keyed

variable {α κ : Type*} [DecidableEq κ]

def get (key : α → κ) (k : κ) (l : List α) : Option α := l.find? fun y => decide (key y = k)

/-- An entry is combined with the one of its key, or comes last. -/
@[simp] def put (key : α → κ) (combine : α → α → α) : List α → α → List α
  | [], x => [x]
  | y :: l, x => if key y = key x then combine y x :: l else y :: put key combine l x

def putAll (key : α → κ) (combine : α → α → α) (l new : List α) : List α := new.foldl (put key combine) l

/-- The entry after another one is put in. -/
def joined (combine : α → α → α) (old new : Option α) : Option α :=
  match old, new with
  | some y, some x => some (combine y x)
  | none, new => new
  | old, none => old

def fresh (seen report : List κ) : List κ := report.filter fun k => decide (k ∉ seen)

/-- Everything once, in the order of its first appearance. -/
def firstAppearances (reports : List (List κ)) : List κ :=
  reports.foldl (fun seen report => seen ++ fresh seen report) []

/-- On entries of the kind `P`, combining two of one key gives one of that key. -/
structure Lawful (P : α → Prop) (key : α → κ) (combine : α → α → α) : Prop where
  kind : ∀ y x, P y → P x → key y = key x → P (combine y x)
  key_eq : ∀ y x, P y → P x → key y = key x → key (combine y x) = key x

variable {P : α → Prop} {key : α → κ} {combine : α → α → α} {l new : List α} {x y : α} {k : κ}

/-! ## Reading -/

@[simp] theorem fresh_nil (report : List κ) : fresh [] report = report :=
  List.filter_eq_self.mpr fun _ _ => decide_eq_true List.not_mem_nil

theorem firstAppearances_append (reports : List (List κ)) (report : List κ) :
    firstAppearances (reports ++ [report]) =
      firstAppearances reports ++ fresh (firstAppearances reports) report := by
  unfold firstAppearances
  rw [List.foldl_append]
  rfl

@[simp] theorem get_nil (k : κ) : get key k ([] : List α) = none := rfl

theorem get_cons (k : κ) (y : α) (l : List α) :
    get key k (y :: l) = if key y = k then some y else get key k l := by
  unfold get
  rw [List.find?_cons]
  by_cases h : key y = k
  · rw [if_pos h, decide_eq_true h]
  · rw [if_neg h, decide_eq_false h]

theorem key_of_get (h : get key k l = some y) : key y = k := by
  have hfound := List.find?_some h
  exact of_decide_eq_true hfound

theorem mem_of_get (h : get key k l = some y) : y ∈ l := List.mem_of_find?_eq_some h

theorem get_eq_none_iff : get key k l = none ↔ k ∉ l.map key := by
  induction l with
  | nil => simp
  | cons y l ih =>
    rw [get_cons, List.map_cons, List.mem_cons]
    by_cases h : key y = k
    · simp [h]
    · rw [if_neg h, ih, not_or, and_iff_right (Ne.symm h)]

theorem get_of_mem (hnodup : (l.map key).Nodup) (hx : x ∈ l) : get key (key x) l = some x := by
  induction l with
  | nil => exact absurd hx List.not_mem_nil
  | cons y l ih =>
    rw [List.map_cons, List.nodup_cons] at hnodup
    rw [get_cons]
    rcases List.mem_cons.mp hx with rfl | hmem
    · rw [if_pos rfl]
    · have hne : key y ≠ key x := fun h => hnodup.1 (h ▸ List.mem_map_of_mem hmem)
      rw [if_neg hne]
      exact ih hnodup.2 hmem

/-! ## One entry -/

namespace Lawful

variable (law : Lawful P key combine)

include law

theorem forall_put (hl : ∀ y ∈ l, P y) (hx : P x) : ∀ y ∈ put key combine l x, P y := by
  induction l with
  | nil =>
    intro y hy
    rw [put, List.mem_singleton] at hy
    exact hy ▸ hx
  | cons z l ih =>
    rw [List.forall_mem_cons] at hl
    rw [put]
    split
    · next h => exact List.forall_mem_cons.mpr ⟨law.kind z x hl.1 hx h, hl.2⟩
    · exact List.forall_mem_cons.mpr ⟨hl.1, ih hl.2⟩

theorem keys_put (hl : ∀ y ∈ l, P y) (hx : P x) :
    (put key combine l x).map key = l.map key ++ fresh (l.map key) [key x] := by
  unfold fresh
  induction l with
  | nil => simp [put]
  | cons y l ih =>
    rw [List.forall_mem_cons] at hl
    rw [put]
    by_cases h : key y = key x
    · rw [if_pos h, List.map_cons, law.key_eq y x hl.1 hx h, List.map_cons, h]
      simp
    · rw [if_neg h, List.map_cons, ih hl.2, List.map_cons, List.cons_append]
      refine congrArg (fun rest => key y :: (l.map key ++ rest)) (List.filter_congr fun k hk => ?_)
      have hne : k ≠ key y := fun hky => h (hky ▸ List.mem_singleton.mp hk)
      simp [hne]

theorem get_put (hl : ∀ y ∈ l, P y) (hx : P x) (k : κ) :
    get key k (put key combine l x) = if key x = k then joined combine (get key k l) (some x) else get key k l := by
  induction l with
  | nil =>
    rw [put, get_cons]
    rfl
  | cons y l ih =>
    rw [List.forall_mem_cons] at hl
    rw [put]
    by_cases h : key y = key x
    · rw [if_pos h, get_cons, get_cons, law.key_eq y x hl.1 hx h, h]
      split
      · rfl
      · rfl
    · rw [if_neg h, get_cons, get_cons, ih hl.2]
      by_cases hk : key x = k
      · rw [if_pos hk, if_pos hk, if_neg (hk ▸ h), if_neg (hk ▸ h)]
      · rw [if_neg hk, if_neg hk]

theorem nodup_put (hl : ∀ y ∈ l, P y) (hx : P x) (h : (l.map key).Nodup) :
    ((put key combine l x).map key).Nodup := by
  rw [law.keys_put hl hx]
  refine List.nodup_append.mpr ⟨h, (List.nodup_singleton _).filter _, ?_⟩
  rintro k hk k' hk' rfl
  exact of_decide_eq_true (List.mem_filter.mp hk').2 hk

/-! ## Many entries -/

theorem forall_putAll (hl : ∀ y ∈ l, P y) (hnew : ∀ x ∈ new, P x) : ∀ y ∈ putAll key combine l new, P y := by
  induction new generalizing l with
  | nil => exact hl
  | cons x new ih =>
    rw [List.forall_mem_cons] at hnew
    exact ih (law.forall_put hl hnew.1) hnew.2

theorem keys_putAll (hl : ∀ y ∈ l, P y) (hnew : ∀ x ∈ new, P x) (hnodup : (new.map key).Nodup) :
    (putAll key combine l new).map key = l.map key ++ fresh (l.map key) (new.map key) := by
  unfold fresh
  induction new generalizing l with
  | nil => simp [putAll]
  | cons x new ih =>
    rw [List.map_cons, List.nodup_cons] at hnodup
    rw [List.forall_mem_cons] at hnew
    have hstep : putAll key combine l (x :: new) = putAll key combine (put key combine l x) new := rfl
    rw [hstep, ih (law.forall_put hl hnew.1) hnew.2 hnodup.2, law.keys_put hl hnew.1, fresh, List.append_assoc, List.map_cons,
      show key x :: new.map key = [key x] ++ new.map key from rfl, List.filter_append]
    refine congrArg (fun rest => l.map key ++ (_ ++ rest)) (List.filter_congr fun k hk => ?_)
    -- the keys that come later are not that of the entry
    have hne : k ≠ key x := fun h => hnodup.1 (h ▸ hk)
    simp [hne]

theorem nodup_putAll (hl : ∀ y ∈ l, P y) (hnew : ∀ x ∈ new, P x) (hnodup : (l.map key).Nodup)
    (hnodup' : (new.map key).Nodup) : ((putAll key combine l new).map key).Nodup := by
  rw [law.keys_putAll hl hnew hnodup']
  refine List.nodup_append.mpr ⟨hnodup, hnodup'.filter _, ?_⟩
  rintro k hk k' hk' rfl
  exact of_decide_eq_true (List.mem_filter.mp hk').2 hk

theorem get_putAll (hl : ∀ y ∈ l, P y) (hnew : ∀ x ∈ new, P x) (hnodup : (new.map key).Nodup) (k : κ) :
    get key k (putAll key combine l new) = joined combine (get key k l) (get key k new) := by
  induction new generalizing l with
  | nil =>
    show get key k l = joined combine (get key k l) none
    cases get key k l with
    | none => rfl
    | some y => rfl
  | cons x new ih =>
    rw [List.map_cons, List.nodup_cons] at hnodup
    rw [List.forall_mem_cons] at hnew
    have hstep : putAll key combine l (x :: new) = putAll key combine (put key combine l x) new := rfl
    rw [hstep, ih (law.forall_put hl hnew.1) hnew.2 hnodup.2, law.get_put hl hnew.1, get_cons]
    by_cases hk : key x = k
    · have hnone : get key k new = none := get_eq_none_iff.mpr (hk ▸ hnodup.1)
      rw [if_pos hk, if_pos hk, hnone]
      cases get key k l with
      | none => rfl
      | some y => rfl
    · rw [if_neg hk, if_neg hk]

end Lawful

/-! ## Where an entry is put -/

theorem put_of_notMem (h : key x ∉ l.map key) : put key combine l x = l ++ [x] := by
  induction l with
  | nil => rfl
  | cons y l ih =>
    rw [List.map_cons, List.mem_cons, not_or] at h
    rw [put, if_neg (Ne.symm h.1), ih h.2, List.cons_append]

theorem put_of_getElem {i : ℕ} (hnodup : (l.map key).Nodup) (hi : l[i]? = some y) (h : key y = key x) :
    put key combine l x = l.set i (combine y x) := by
  induction l generalizing i with
  | nil => exact nomatch hi
  | cons z l ih =>
    rw [List.map_cons, List.nodup_cons] at hnodup
    cases i with
    | zero =>
      rw [List.getElem?_cons_zero, Option.some.injEq] at hi
      rw [put, hi, if_pos h, List.set_cons_zero]
    | succ i =>
      rw [List.getElem?_cons_succ] at hi
      have hne : key z ≠ key x := fun hz => hnodup.1 (hz.trans h.symm ▸ List.mem_map_of_mem (List.mem_of_getElem? hi))
      rw [put, if_neg hne, ih hnodup.2 hi, List.set_cons_succ]

theorem put_append_cons {front back : List α} (hfront : key x ∉ front.map key) (h : key y = key x) :
    put key combine (front ++ y :: back) x = front ++ combine y x :: back := by
  induction front with
  | nil => rw [List.nil_append, put, if_pos h, List.nil_append]
  | cons z front ih =>
    rw [List.map_cons, List.mem_cons, not_or] at hfront
    rw [List.cons_append, put, if_neg (Ne.symm hfront.1), ih hfront.2, List.cons_append]

theorem putAll_nil (hnodup : (new.map key).Nodup) : putAll key combine [] new = new := by
  have hgrow : ∀ front rest : List α, ((front ++ rest).map key).Nodup → putAll key combine front rest = front ++ rest := by
    intro front rest
    induction rest generalizing front with
    | nil => exact fun _ => (List.append_nil front).symm
    | cons x rest ih =>
      intro h
      have hstep : putAll key combine front (x :: rest) = putAll key combine (put key combine front x) rest := rfl
      rw [List.append_cons] at h
      have hfirst := h
      rw [List.map_append, List.map_append, List.nodup_append] at hfirst
      have hnotMem : key x ∉ front.map key := by
        intro hmem
        have hfront := (List.nodup_append.mp hfirst.1).2.2
        exact hfront _ hmem _ (List.mem_singleton_self _) rfl
      rw [hstep, put_of_notMem hnotMem, ih _ h, ← List.append_cons]
  exact hgrow [] new hnodup

/-! ## The same entries again -/

theorem put_eq_self (hget : get key (key x) l = some y) (hsame : combine y x = y) : put key combine l x = l := by
  induction l with
  | nil => exact nomatch hget
  | cons z l ih =>
    rw [get_cons] at hget
    rw [put]
    by_cases h : key z = key x
    · rw [if_pos h] at hget
      cases hget
      rw [if_pos h, hsame]
    · rw [if_neg h] at hget
      rw [if_neg h, ih hget]

theorem putAll_eq_self (h : ∀ x ∈ new, ∃ y, get key (key x) l = some y ∧ combine y x = y) :
    putAll key combine l new = l := by
  induction new with
  | nil => rfl
  | cons x new ih =>
    obtain ⟨y, hget, hsame⟩ := h x List.mem_cons_self
    have hstep : putAll key combine l (x :: new) = putAll key combine (put key combine l x) new := rfl
    rw [hstep, put_eq_self hget hsame]
    exact ih fun x hx => h x (List.mem_cons_of_mem _ hx)

/-- **To take in the same entries again changes nothing.** -/
theorem Lawful.putAll_putAll (law : Lawful P key combine) (hl : ∀ y ∈ l, P y) (hnew : ∀ x ∈ new, P x)
    (hnodup : (new.map key).Nodup) (hself : ∀ x ∈ new, combine x x = x)
    (hagain : ∀ x ∈ new, ∀ y ∈ l, key y = key x → combine (combine y x) x = combine y x) :
    putAll key combine (putAll key combine l new) new = putAll key combine l new := by
  refine putAll_eq_self fun x hx => ?_
  rw [law.get_putAll hl hnew hnodup, get_of_mem hnodup hx]
  cases hold : get key (key x) l with
  | none => exact ⟨x, rfl, hself x hx⟩
  | some y => exact ⟨combine y x, rfl, hagain x hx y (mem_of_get hold) (key_of_get hold)⟩

end Keyed
