import Mathlib.Data.List.Nodup
import Mathlib.Data.List.Count
import Mathlib.Logic.Function.Basic
import Mathlib.Logic.Relation

set_option autoImplicit false

/-! # Check, then act

Threads that are each to act on a key unless the key is stored already. A thread looks its key up,
and if it finds nothing it acts and stores the key, in whichever order, as two further steps. The
three steps are not one: two threads of one key can both look it up before either has stored it.

As long as no thread looks its key up while another one is between its own look-up and its store,
every key is acted on at most once. -/

namespace CheckThenAct

variable {κ : Type*}

inductive Stage
  | waiting
  /-- It has found no entry; whether it has acted and stored since. -/
  | opened (acted stored : Bool)
  | closed
  deriving DecidableEq

/-- The threads with their keys, the stored keys, and every act so far. -/
structure State (κ : Type*) where
  threads : List (κ × Stage)
  stored : κ → Bool
  acts : List κ

/-- No thread of `k` is between its look-up and its store. -/
def Exclusive (s : State κ) (k : κ) : Prop :=
  ∀ (i : ℕ) acted stored, s.threads[i]? = some (k, Stage.opened acted stored) → stored = true

/-- The steps, at the granularity of single accesses. -/
inductive Step [DecidableEq κ] : State κ → State κ → Prop
  | start {s : State κ} (k : κ) : Step s { s with threads := s.threads ++ [(k, Stage.waiting)] }
  | known {s : State κ} (i : ℕ) (k : κ) (hi : s.threads[i]? = some (k, Stage.waiting))
      (hstored : s.stored k = true) : Step s { s with threads := s.threads.set i (k, Stage.closed) }
  | fresh {s : State κ} (i : ℕ) (k : κ) (hi : s.threads[i]? = some (k, Stage.waiting))
      (hstored : s.stored k = false) (hexclusive : Exclusive s k) :
      Step s { s with threads := s.threads.set i (k, Stage.opened false false) }
  | act {s : State κ} (i : ℕ) (k : κ) (stored : Bool)
      (hi : s.threads[i]? = some (k, Stage.opened false stored)) :
      Step s
        { s with
          threads := s.threads.set i (k, Stage.opened true stored)
          acts := k :: s.acts }
  | store {s : State κ} (i : ℕ) (k : κ) (acted stored : Bool)
      (hi : s.threads[i]? = some (k, Stage.opened acted stored)) :
      Step s
        { s with
          threads := s.threads.set i (k, Stage.opened acted true)
          stored := Function.update s.stored k true }
  /-- A thread that acted has stored before it ends. -/
  | close {s : State κ} (i : ℕ) (k : κ) (acted stored : Bool)
      (hi : s.threads[i]? = some (k, Stage.opened acted stored)) (hdone : acted = true → stored = true) :
      Step s { s with threads := s.threads.set i (k, Stage.closed) }
  /-- Somebody else stores the key. -/
  | record {s : State κ} (k : κ) : Step s { s with stored := Function.update s.stored k true }
  /-- All threads die, none of them between its act and its store. -/
  | crash {s : State κ} (hsafe : ∀ p ∈ s.threads, p.2 ≠ Stage.opened true false) :
      Step s { s with threads := [] }

/-- What makes every key be acted on at most once. -/
structure Once (s : State κ) : Prop where
  nodup : s.acts.Nodup
  unacted : ∀ (i : ℕ) (k : κ) stored, s.threads[i]? = some (k, Stage.opened false stored) → k ∉ s.acts
  single : ∀ (i j : ℕ) (k : κ) stored stored', s.threads[i]? = some (k, Stage.opened false stored) →
    s.threads[j]? = some (k, Stage.opened false stored') → i = j
  stored : ∀ (i : ℕ) (k : κ) acted, s.threads[i]? = some (k, Stage.opened acted true) → s.stored k = true
  unstored : ∀ k ∈ s.acts, s.stored k = false →
    ∃ i : ℕ, s.threads[i]? = some (k, Stage.opened true false)

theorem Once.initial : Once ({ threads := [], stored := fun _ => false, acts := [] } : State κ) where
  nodup := List.nodup_nil
  unacted := by simp
  single := by simp
  stored := by simp
  unstored := by simp

section Set

variable {α : Type*} {l : List α} {i j : ℕ} {x y : α}

theorem getElem?_set_cases (h : (l.set i x)[j]? = some y) :
    (j = i ∧ y = x) ∨ (j ≠ i ∧ l[j]? = some y) := by
  rw [List.getElem?_set] at h
  by_cases hij : i = j
  · rw [if_pos hij] at h
    split at h
    · exact .inl ⟨hij.symm, (Option.some.inj h).symm⟩
    · exact absurd h (by simp)
  · rw [if_neg hij] at h
    exact .inr ⟨fun h' => hij h'.symm, h⟩

theorem getElem?_set_of_ne (hij : j ≠ i) (h : l[j]? = some y) : (l.set i x)[j]? = some y := by
  rw [List.getElem?_set_ne (Ne.symm hij)]
  exact h

end Set

section Update

variable [DecidableEq κ] {stored : κ → Bool} {k k' : κ}

theorem update_of_stored (h : stored k' = true) : Function.update stored k true k' = true := by
  rw [Function.update_apply, h, ite_self]

theorem of_update_eq_false (h : Function.update stored k true k' = false) :
    k' ≠ k ∧ stored k' = false := by
  rw [Function.update_apply] at h
  split at h
  · exact absurd h (by decide)
  · next hne => exact ⟨hne, h⟩

end Update

section Steps

variable {s : State κ} {i : ℕ} {k : κ}

theorem Once.start (ho : Once s) (k : κ) :
    Once { s with threads := s.threads ++ [(k, Stage.waiting)] } := by
  have hold : ∀ (j : ℕ) (k' : κ) acted stored,
      (s.threads ++ [(k, Stage.waiting)])[j]? = some (k', Stage.opened acted stored) →
      s.threads[j]? = some (k', Stage.opened acted stored) := by
    intro j k' acted stored hj
    rw [List.getElem?_append] at hj
    split at hj
    · exact hj
    · have hmem := List.mem_of_getElem? hj
      simp at hmem
  refine ⟨ho.nodup, ?_, ?_, ?_, ?_⟩
  · intro j k' stored hj
    exact ho.unacted j k' stored (hold j k' false stored hj)
  · intro j j' k' stored stored' hj hj'
    exact ho.single j j' k' stored stored' (hold j k' false stored hj) (hold j' k' false stored' hj')
  · intro j k' acted hj
    exact ho.stored j k' acted (hold j k' acted true hj)
  · intro k' hmem hstored
    obtain ⟨j, hj⟩ := ho.unstored k' hmem hstored
    refine ⟨j, ?_⟩
    rw [List.getElem?_append_left (List.getElem?_eq_some_iff.mp hj).1]
    exact hj

theorem Once.set_closed (ho : Once s)
    (hi : s.threads[i]? ≠ some (k, Stage.opened true false)) (hkey : ∃ st, s.threads[i]? = some (k, st)) :
    Once { s with threads := s.threads.set i (k, Stage.closed) } where
  nodup := ho.nodup
  unacted := by
    intro j k' stored hj
    rcases getElem?_set_cases hj with ⟨-, h⟩ | ⟨-, hjs⟩
    · exact absurd h (by simp)
    · exact ho.unacted j k' stored hjs
  single := by
    intro j j' k' stored stored' hj hj'
    rcases getElem?_set_cases hj with ⟨-, h⟩ | ⟨-, hjs⟩
    · exact absurd h (by simp)
    · rcases getElem?_set_cases hj' with ⟨-, h⟩ | ⟨-, hjs'⟩
      · exact absurd h (by simp)
      · exact ho.single j j' k' stored stored' hjs hjs'
  stored := by
    intro j k' acted hj
    rcases getElem?_set_cases hj with ⟨-, h⟩ | ⟨-, hjs⟩
    · exact absurd h (by simp)
    · exact ho.stored j k' acted hjs
  unstored := by
    intro k' hk' hstored
    obtain ⟨j, hj⟩ := ho.unstored k' hk' hstored
    refine ⟨j, getElem?_set_of_ne ?_ hj⟩
    rintro rfl
    obtain ⟨st, hst⟩ := hkey
    obtain ⟨rfl, -⟩ := Prod.mk.inj (Option.some.inj (hst.symm.trans hj))
    exact hi hj

theorem Once.fresh (ho : Once s) (hi : s.threads[i]? = some (k, Stage.waiting))
    (hstored : s.stored k = false) (hexclusive : Exclusive s k) :
    Once { s with threads := s.threads.set i (k, Stage.opened false false) } where
  nodup := ho.nodup
  unacted := by
    intro j k' stored hj
    rcases getElem?_set_cases hj with ⟨-, h⟩ | ⟨-, hjs⟩
    · obtain ⟨rfl, -⟩ := Prod.mk.inj h
      intro hacted
      obtain ⟨j', hj'⟩ := ho.unstored k' hacted hstored
      exact absurd (hexclusive j' true false hj') (by decide)
    · exact ho.unacted j k' stored hjs
  single := by
    -- another thread of the key that has not acted would have stored it
    have hother : ∀ (j : ℕ) stored, s.threads[j]? ≠ some (k, Stage.opened false stored) := by
      intro j stored hj
      obtain rfl := hexclusive j false stored hj
      rw [ho.stored j k false hj] at hstored
      exact absurd hstored (by decide)
    intro j j' k' stored stored' hj hj'
    rcases getElem?_set_cases hj with ⟨hij, h⟩ | ⟨-, hjs⟩
    · obtain ⟨rfl, -⟩ := Prod.mk.inj h
      rcases getElem?_set_cases hj' with ⟨hij', -⟩ | ⟨-, hjs'⟩
      · exact hij.trans hij'.symm
      · exact absurd hjs' (hother j' stored')
    · rcases getElem?_set_cases hj' with ⟨-, h⟩ | ⟨-, hjs'⟩
      · obtain ⟨rfl, -⟩ := Prod.mk.inj h
        exact absurd hjs (hother j stored)
      · exact ho.single j j' k' stored stored' hjs hjs'
  stored := by
    intro j k' acted hj
    rcases getElem?_set_cases hj with ⟨-, h⟩ | ⟨-, hjs⟩
    · exact absurd h (by simp)
    · exact ho.stored j k' acted hjs
  unstored := by
    intro k' hk' hstored'
    obtain ⟨j, hj⟩ := ho.unstored k' hk' hstored'
    refine ⟨j, getElem?_set_of_ne ?_ hj⟩
    rintro rfl
    exact absurd (hi.symm.trans hj) (by simp)

theorem Once.act (ho : Once s) {stored : Bool}
    (hi : s.threads[i]? = some (k, Stage.opened false stored)) :
    Once
      { s with
        threads := s.threads.set i (k, Stage.opened true stored)
        acts := k :: s.acts } where
  nodup := List.nodup_cons.mpr ⟨ho.unacted i k stored hi, ho.nodup⟩
  unacted := by
    intro j k' stored' hj hmem
    rcases getElem?_set_cases hj with ⟨-, h⟩ | ⟨hne, hjs⟩
    · exact absurd h (by simp)
    · rcases List.mem_cons.mp hmem with rfl | hmem
      · exact hne (ho.single j i k' stored' stored hjs hi)
      · exact ho.unacted j k' stored' hjs hmem
  single := by
    intro j j' k' st st' hj hj'
    rcases getElem?_set_cases hj with ⟨-, h⟩ | ⟨-, hjs⟩
    · exact absurd h (by simp)
    · rcases getElem?_set_cases hj' with ⟨-, h⟩ | ⟨-, hjs'⟩
      · exact absurd h (by simp)
      · exact ho.single j j' k' st st' hjs hjs'
  stored := by
    intro j k' acted hj
    rcases getElem?_set_cases hj with ⟨-, h⟩ | ⟨-, hjs⟩
    · obtain ⟨rfl, hstage⟩ := Prod.mk.inj h
      obtain ⟨-, rfl⟩ := Stage.opened.inj hstage
      exact ho.stored i k' false hi
    · exact ho.stored j k' acted hjs
  unstored := by
    intro k' hmem hstored
    have hlen : i < s.threads.length := (List.getElem?_eq_some_iff.mp hi).1
    rcases List.mem_cons.mp hmem with rfl | hmem
    · cases stored with
      | true =>
        rw [ho.stored i k' false hi] at hstored
        exact absurd hstored (by decide)
      | false => exact ⟨i, List.getElem?_set_self hlen⟩
    · obtain ⟨j, hj⟩ := ho.unstored k' hmem hstored
      refine ⟨j, getElem?_set_of_ne ?_ hj⟩
      rintro rfl
      exact absurd (hi.symm.trans hj) (by simp)

theorem Once.store [DecidableEq κ] (ho : Once s) {acted stored : Bool}
    (hi : s.threads[i]? = some (k, Stage.opened acted stored)) :
    Once
      { s with
        threads := s.threads.set i (k, Stage.opened acted true)
        stored := Function.update s.stored k true } where
  nodup := ho.nodup
  unacted := by
    intro j k' stored' hj
    rcases getElem?_set_cases hj with ⟨-, h⟩ | ⟨-, hjs⟩
    · obtain ⟨rfl, hstage⟩ := Prod.mk.inj h
      obtain ⟨rfl, -⟩ := Stage.opened.inj hstage
      exact ho.unacted i k' stored hi
    · exact ho.unacted j k' stored' hjs
  single := by
    have hold : ∀ (j : ℕ) (k' : κ) st, (s.threads.set i (k, Stage.opened acted true))[j]? =
        some (k', Stage.opened false st) → ∃ st', s.threads[j]? = some (k', Stage.opened false st') := by
      intro j k' st hj
      rcases getElem?_set_cases hj with ⟨rfl, h⟩ | ⟨-, hjs⟩
      · obtain ⟨rfl, hstage⟩ := Prod.mk.inj h
        obtain ⟨rfl, -⟩ := Stage.opened.inj hstage
        exact ⟨stored, hi⟩
      · exact ⟨st, hjs⟩
    intro j j' k' st st' hj hj'
    obtain ⟨_, hj⟩ := hold j k' st hj
    obtain ⟨_, hj'⟩ := hold j' k' st' hj'
    exact ho.single j j' k' _ _ hj hj'
  stored := by
    intro j k' acted' hj
    rcases getElem?_set_cases hj with ⟨-, h⟩ | ⟨-, hjs⟩
    · obtain ⟨rfl, -⟩ := Prod.mk.inj h
      exact Function.update_self ..
    · exact update_of_stored (ho.stored j k' acted' hjs)
  unstored := by
    intro k' hmem hstored
    obtain ⟨hk, hold⟩ := of_update_eq_false hstored
    obtain ⟨j, hj⟩ := ho.unstored k' hmem hold
    refine ⟨j, getElem?_set_of_ne ?_ hj⟩
    rintro rfl
    exact hk (Prod.mk.inj (Option.some.inj (hj.symm.trans hi))).1

theorem Once.record [DecidableEq κ] (ho : Once s) (k : κ) :
    Once { s with stored := Function.update s.stored k true } where
  nodup := ho.nodup
  unacted := ho.unacted
  single := ho.single
  stored := by
    intro j k' acted hj
    exact update_of_stored (ho.stored j k' acted hj)
  unstored := by
    intro k' hmem hstored
    exact ho.unstored k' hmem (of_update_eq_false hstored).2

theorem Once.crash (ho : Once s) (hsafe : ∀ p ∈ s.threads, p.2 ≠ Stage.opened true false) :
    Once { s with threads := [] } where
  nodup := ho.nodup
  unacted := by simp
  single := by simp
  stored := by simp
  unstored := by
    intro k hmem hstored
    obtain ⟨i, hi⟩ := ho.unstored k hmem hstored
    exact absurd rfl (hsafe _ (List.mem_of_getElem? hi))

end Steps

theorem Step.once [DecidableEq κ] {s s' : State κ} (h : Step s s') (ho : Once s) : Once s' := by
  cases h with
  | start k => exact ho.start k
  | known i k hi _ => exact ho.set_closed (by rw [hi]; simp) ⟨_, hi⟩
  | fresh i k hi hstored hexclusive => exact ho.fresh hi hstored hexclusive
  | act i k stored hi => exact ho.act hi
  | store i k acted stored hi => exact ho.store hi
  | close i k acted stored hi hdone =>
    refine ho.set_closed (fun h => ?_) ⟨_, hi⟩
    obtain ⟨-, hstage⟩ := Prod.mk.inj (Option.some.inj (hi.symm.trans h))
    obtain ⟨rfl, rfl⟩ := Stage.opened.inj hstage
    exact absurd (hdone rfl) (by decide)
  | record k => exact ho.record k
  | crash hsafe => exact ho.crash hsafe

/-- **At most once**, over any number of steps. -/
theorem once_of_steps [DecidableEq κ] {s s' : State κ} (h : Relation.ReflTransGen Step s s') (ho : Once s) :
    Once s' := by
  induction h with
  | refl => exact ho
  | tail _ hstep ih => exact hstep.once ih

theorem Once.count_le_one [DecidableEq κ] {s : State κ} (ho : Once s) (k : κ) : s.acts.count k ≤ 1 :=
  List.nodup_iff_count_le_one.mp ho.nodup k

theorem Once.stored_of_mem {s : State κ} (ho : Once s) {k : κ} (hk : k ∈ s.acts)
    (hexclusive : Exclusive s k) : s.stored k = true := by
  by_contra hstored
  obtain ⟨i, hi⟩ := ho.unstored k hk (by simpa using hstored)
  exact absurd (hexclusive i true false hi) (by decide)

end CheckThenAct
