import Mathlib.Data.List.Forall2
import Mathlib.Data.Set.Function

set_option autoImplicit false

/-! # Computations that may raise

Peeling a computation in `Except` apart: what its steps returned where the whole of it returns, and
which errors it may end with. -/

namespace Excepts

variable {ε α β : Type}

theorem ok_bind (a : α) (f : α → Except ε β) : (Except.ok a >>= f) = f a := rfl

theorem bind_eq_ok {x : Except ε α} {f : α → Except ε β} {b : β} (h : (x >>= f) = .ok b) :
    ∃ a, x = .ok a ∧ f a = .ok b := by
  cases x with
  | error e => exact absurd h (by simp [bind, Except.bind])
  | ok a => exact ⟨a, rfl, h⟩

theorem bind_eq_ok_iff {x : Except ε α} {f : α → Except ε β} {b : β} :
    (x >>= f) = .ok b ↔ ∃ a, x = .ok a ∧ f a = .ok b := by
  constructor
  · exact bind_eq_ok
  · rintro ⟨a, rfl, h⟩
    exact h

theorem check_bind_eq_ok_iff {check : Except ε Unit} {g : Unit → Except ε β} {b : β} :
    (check >>= g) = .ok b ↔ check = .ok () ∧ g () = .ok b := by
  rw [bind_eq_ok_iff]
  constructor
  · rintro ⟨_, hcheck, h⟩
    exact ⟨hcheck, h⟩
  · rintro ⟨hcheck, h⟩
    exact ⟨(), hcheck, h⟩

theorem forM_eq_ok {α ε : Type*} {f : α → Except ε Unit} {l : List α} (h : l.forM f = .ok ())
    {a : α} (ha : a ∈ l) : f a = .ok () := by
  induction l with
  | nil => exact absurd ha (by simp)
  | cons b l ih =>
    rw [List.forM_eq_forM, List.forM_cons] at h
    cases hb : f b with
    | error e =>
      rw [hb] at h
      exact absurd h (by simp [bind, Except.bind])
    | ok =>
      rw [hb] at h
      rcases List.mem_cons.1 ha with rfl | ha
      · exact hb
      · exact ih h ha

/-! ## Which errors a computation ends with -/

section RaisesOnly

variable {P : ε → Prop} {x : Except ε α} {f : α → Except ε β}

/-- Whatever the computation raises is of the kind `P`. -/
def RaisesOnly (P : ε → Prop) (x : Except ε α) : Prop := ∀ e, x = .error e → P e

@[simp] theorem raisesOnly_ok (a : α) : RaisesOnly P (.ok a) := nofun

@[simp] theorem raisesOnly_pure (a : α) : RaisesOnly P (pure a : Except ε α) := nofun

@[simp] theorem raisesOnly_error (e : ε) : RaisesOnly P (.error e : Except ε α) ↔ P e := by
  constructor
  · intro h
    exact h e rfl
  · rintro h e' he'
    cases he'
    exact h

/-- A computation raises only errors of the kind when its first step does, and so does what follows
    each value of it. -/
theorem raisesOnly_bind_iff :
    RaisesOnly P (x >>= f) ↔ RaisesOnly P x ∧ ∀ a, x = .ok a → RaisesOnly P (f a) := by
  cases x with
  | error e =>
    have hraised : (Except.error e >>= f) = .error e := rfl
    rw [hraised, raisesOnly_error, raisesOnly_error]
    constructor
    · intro h
      exact ⟨h, nofun⟩
    · intro h
      exact h.1
  | ok a =>
    constructor
    · intro h
      refine ⟨raisesOnly_ok a, ?_⟩
      rintro a' ha'
      cases ha'
      exact h
    · intro h
      exact h.2 a rfl

theorem raisesOnly_check_iff {check : Except ε Unit} {g : Unit → Except ε β} :
    RaisesOnly P (check >>= g) ↔ RaisesOnly P check ∧ (check = .ok () → RaisesOnly P (g ())) := by
  rw [raisesOnly_bind_iff]
  constructor
  · intro h
    exact ⟨h.1, h.2 ()⟩
  · intro h
    exact ⟨h.1, fun _ => h.2⟩

theorem forall₂_of_mapM {g : α → Except ε β} {l : List α} {bs : List β} (h : l.mapM g = .ok bs) :
    List.Forall₂ (fun a b => g a = .ok b) l bs := by
  induction l generalizing bs with
  | nil =>
    cases h
    exact List.Forall₂.nil
  | cons a l ih =>
    rw [List.mapM_cons] at h
    obtain ⟨b, hb, h⟩ := bind_eq_ok h
    obtain ⟨rest, hrest, h⟩ := bind_eq_ok h
    cases h
    exact List.Forall₂.cons hb (ih hrest)

theorem exists_mapM_iff {g : α → Except ε β} {l : List α} :
    (∃ bs, l.mapM g = .ok bs) ↔ ∀ a ∈ l, ∃ b, g a = .ok b := by
  constructor
  · rintro ⟨bs, h⟩ a ha
    obtain ⟨n, hn, rfl⟩ := List.mem_iff_getElem.mp ha
    have hall := forall₂_of_mapM h
    have hlt : n < bs.length := hall.length_eq ▸ hn
    exact ⟨bs[n], hall.get hn hlt⟩
  · intro h
    induction l with
    | nil => exact ⟨[], rfl⟩
    | cons a l ih =>
      obtain ⟨b, hb⟩ := h a List.mem_cons_self
      obtain ⟨bs, hbs⟩ := ih fun a ha => h a (List.mem_cons_of_mem _ ha)
      refine ⟨b :: bs, ?_⟩
      rw [List.mapM_cons, hb, hbs]
      rfl

theorem map_eq_of_mapM {γ : Type} {g : α → Except ε β} {f : α → γ} {π : β → γ} {l : List α} {bs : List β}
    (hstep : ∀ a b, g a = .ok b → π b = f a) (h : l.mapM g = .ok bs) : bs.map π = l.map f := by
  have hall := forall₂_of_mapM h
  clear h
  induction hall with
  | nil => rfl
  | cons hb _ ih => rw [List.map_cons, List.map_cons, hstep _ _ hb, ih]

theorem exists_of_mem_mapM {g : α → Except ε β} {l : List α} {bs : List β} (h : l.mapM g = .ok bs) {b : β}
    (hb : b ∈ bs) : ∃ a ∈ l, g a = .ok b := by
  obtain ⟨n, hn, rfl⟩ := List.mem_iff_getElem.mp hb
  have hall := forall₂_of_mapM h
  have hlt : n < l.length := hall.length_eq.symm ▸ hn
  exact ⟨l[n], List.getElem_mem hlt, hall.get hlt hn⟩

theorem getElem?_of_mapM {g : α → Except ε β} {l : List α} {bs : List β} (h : l.mapM g = .ok bs)
    {n : ℕ} {a : α} (hn : l[n]? = some a) : ∃ b, bs[n]? = some b ∧ g a = .ok b := by
  have hall := forall₂_of_mapM h
  obtain ⟨hlt, rfl⟩ := List.getElem?_eq_some_iff.1 hn
  have hlt' : n < bs.length := hall.length_eq ▸ hlt
  exact ⟨bs[n], List.getElem?_eq_getElem hlt', hall.get hlt hlt'⟩

theorem raisesOnly_mapM_iff {g : α → Except ε β} {l : List α} :
    RaisesOnly P (l.mapM g) ↔ ∀ (n : ℕ) a, l[n]? = some a →
      (∀ m < n, ∀ before, l[m]? = some before → ∃ b, g before = .ok b) → RaisesOnly P (g a) := by
  induction l with
  | nil => simp
  | cons first rest ih =>
    rw [List.mapM_cons, raisesOnly_bind_iff]
    constructor
    · rintro ⟨hfirst, hrest⟩ n a hn hbefore
      rcases n with _ | n
      · obtain rfl := Option.some.inj hn
        exact hfirst
      · obtain ⟨b, hb⟩ := hbefore 0 (Nat.succ_pos n) first rfl
        have hloop := (raisesOnly_bind_iff.1 (hrest b hb)).1
        exact ih.1 hloop n a hn fun m hm before hat =>
          hbefore (m + 1) (Nat.succ_lt_succ hm) before hat
    · intro h
      refine ⟨h 0 first rfl fun m hm => absurd hm (Nat.not_lt_zero m), ?_⟩
      intro b hb
      rw [raisesOnly_bind_iff]
      refine ⟨ih.2 ?_, fun bs _ => raisesOnly_pure (b :: bs)⟩
      intro n a hn hbefore
      refine h (n + 1) a hn ?_
      intro m hm before hat
      rcases m with _ | m
      · obtain rfl := Option.some.inj hat
        exact ⟨b, hb⟩
      · exact hbefore m (Nat.lt_of_succ_lt_succ hm) before hat

/-- The computation returns a value that meets `Q` or raises an error of the kind `P`. -/
def EndsIn (P : ε → Prop) (Q : α → Prop) : Except ε α → Prop
  | .ok a => Q a
  | .error e => P e

variable {Q : β → Prop}

@[simp] theorem endsIn_ok (b : β) : EndsIn P Q (.ok b) ↔ Q b := Iff.rfl

@[simp] theorem endsIn_error (e : ε) : EndsIn P Q (.error e : Except ε β) ↔ P e := Iff.rfl

theorem endsIn_iff {y : Except ε β} : EndsIn P Q y ↔ RaisesOnly P y ∧ ∀ b, y = .ok b → Q b := by
  cases y with
  | error e => simp
  | ok b => simp

theorem endsIn_bind_iff : EndsIn P Q (x >>= f) ↔ EndsIn P (fun a => EndsIn P Q (f a)) x := by
  cases x with
  | error e => exact Iff.rfl
  | ok a => exact Iff.rfl

end RaisesOnly

end Excepts
