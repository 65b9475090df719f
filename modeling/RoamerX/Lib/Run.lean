import Mathlib.Order.Basic
import Mathlib.Data.List.Basic

set_option autoImplicit false

/-! # Runs of a labelled step function

A system that handles one label at a time is a function `step : σ → α → σ`; a *run* from `s` is a
list of labels, and `exec step s as` is the state it ends in. This file is the small theory of such
runs that a development about a state machine needs: invariants, invariants under an assumption on
the labels handled, and properties of the steps themselves.

Nothing here depends on what `σ` and `α` are. -/

namespace Run

variable {σ α : Type*}

/-- The state a run of labels leads to. -/
def exec (step : σ → α → σ) (s : σ) (as : List α) : σ := as.foldl step s

@[simp] theorem exec_nil (step : σ → α → σ) (s : σ) : exec step s [] = s := rfl

@[simp] theorem exec_cons (step : σ → α → σ) (s : σ) (a : α) (as : List α) :
    exec step s (a :: as) = exec step (step s a) as := rfl

theorem exec_append (step : σ → α → σ) (s : σ) (as bs : List α) :
    exec step s (as ++ bs) = exec step (exec step s as) bs := by
  simp only [exec, List.foldl_append]

theorem exec_concat (step : σ → α → σ) (s : σ) (as : List α) (a : α) :
    exec step s (as ++ [a]) = step (exec step s as) a := by
  simp [exec_append]

/-! ## Properties of every step of a run -/

/-- `P` holds of every state a run passes through together with the label it handles there. -/
def Always (step : σ → α → σ) (P : σ → α → Prop) : σ → List α → Prop
  | _, [] => True
  | s, a :: as => P s a ∧ Always step P (step s a) as

instance decidableAlways (step : σ → α → σ) (P : σ → α → Prop) [∀ s a, Decidable (P s a)] :
    ∀ (s : σ) (as : List α), Decidable (Always step P s as)
  | _, [] => isTrue trivial
  | s, a :: as =>
    have : Decidable (Always step P (step s a) as) := decidableAlways step P (step s a) as
    inferInstanceAs (Decidable (P s a ∧ Always step P (step s a) as))

@[simp] theorem always_nil (step : σ → α → σ) (P : σ → α → Prop) (s : σ) :
    Always step P s [] := trivial

@[simp] theorem always_cons (step : σ → α → σ) (P : σ → α → Prop) (s : σ) (a : α) (as : List α) :
    Always step P s (a :: as) ↔ P s a ∧ Always step P (step s a) as := Iff.rfl

theorem always_append (step : σ → α → σ) (P : σ → α → Prop) (s : σ) (as bs : List α) :
    Always step P s (as ++ bs) ↔ Always step P s as ∧ Always step P (exec step s as) bs := by
  induction as generalizing s with
  | nil => simp
  | cons a as ih => simp only [List.cons_append, always_cons, ih, exec_cons, and_assoc]

theorem always_and (step : σ → α → σ) (P Q : σ → α → Prop) (s : σ) (as : List α) :
    Always step (fun s a => P s a ∧ Q s a) s as ↔ Always step P s as ∧ Always step Q s as := by
  induction as generalizing s with
  | nil => simp
  | cons a as ih => simp only [always_cons, ih, and_and_and_comm]

/-! ## Invariants -/

/-- **Invariant rule.** What every step preserves holds at the end of every run. -/
theorem exec_invariant {step : σ → α → σ} (Inv : σ → Prop)
    (hstep : ∀ s a, Inv s → Inv (step s a)) {s : σ} (h0 : Inv s) (as : List α) :
    Inv (exec step s as) := by
  induction as generalizing s with
  | nil => exact h0
  | cons a as ih => exact ih (hstep s a h0)

/-- **Guarded invariant rule.** What every step *that meets `G`* preserves holds at the end of
    every run all of whose steps meet `G`. -/
theorem exec_invariant_of_always {step : σ → α → σ} (Inv : σ → Prop) {G : σ → α → Prop}
    (hstep : ∀ s a, Inv s → G s a → Inv (step s a)) {s : σ} (h0 : Inv s) {as : List α}
    (hG : Always step G s as) : Inv (exec step s as) := by
  induction as generalizing s with
  | nil => exact h0
  | cons a as ih => exact ih (hstep s a h0 hG.1) hG.2

theorem always_of_invariant {step : σ → α → σ} (Inv : σ → Prop) {P : σ → α → Prop}
    (hstep : ∀ s a, Inv s → Inv (step s a)) (hP : ∀ s a, Inv s → P s a) {s : σ} (h0 : Inv s)
    (as : List α) : Always step P s as := by
  induction as generalizing s with
  | nil => trivial
  | cons a as ih => exact ⟨hP s a h0, ih (hstep s a h0)⟩

/-- The guarded form: the invariant only has to be kept by steps that meet `G`, and only they
    have to satisfy `P`. -/
theorem always_of_guarded {step : σ → α → σ} (Inv : σ → Prop) {G P : σ → α → Prop}
    (hstep : ∀ s a, Inv s → G s a → Inv (step s a)) (hP : ∀ s a, Inv s → G s a → P s a)
    {s : σ} (h0 : Inv s) {as : List α} (hG : Always step G s as) : Always step P s as := by
  induction as generalizing s with
  | nil => trivial
  | cons a as ih => exact ⟨hP s a h0 hG.1, ih (hstep s a h0 hG.1) hG.2⟩

theorem always_iff_of_invariant {step : σ → α → σ} (Inv : σ → Prop) {P Q : σ → α → Prop}
    (hstep : ∀ s a, Inv s → Inv (step s a)) (hPQ : ∀ s a, Inv s → (P s a ↔ Q s a)) {s : σ}
    (h0 : Inv s) (as : List α) : Always step P s as ↔ Always step Q s as := by
  induction as generalizing s with
  | nil => exact Iff.rfl
  | cons a as ih => rw [always_cons, always_cons, hPQ s a h0, ih (hstep s a h0)]

theorem always_iff_of_guarded {step : σ → α → σ} (Inv : σ → Prop) {P Q : σ → α → Prop}
    (hstep : ∀ s a, Inv s → P s a → Inv (step s a)) (hPQ : ∀ s a, Inv s → (P s a ↔ Q s a)) {s : σ}
    (h0 : Inv s) (as : List α) : Always step P s as ↔ Always step Q s as := by
  induction as generalizing s with
  | nil => exact Iff.rfl
  | cons a as ih =>
    rw [always_cons, always_cons, hPQ s a h0]
    refine and_congr_right fun hQ => ?_
    exact ih (hstep s a h0 ((hPQ s a h0).mpr hQ))

theorem exists_entering {step : σ → α → σ} {P : σ → Prop} {s : σ} {as : List α} (h0 : ¬ P s)
    (h : P (exec step s as)) :
    ∃ pre a post, as = pre ++ a :: post ∧ ¬ P (exec step s pre) ∧ P (step (exec step s pre) a) := by
  induction as generalizing s with
  | nil => exact absurd h h0
  | cons a as ih =>
    by_cases ha : P (step s a)
    · exact ⟨[], a, as, rfl, h0, ha⟩
    · obtain ⟨pre, b, post, rfl, hpre, hb⟩ := ih ha h
      exact ⟨a :: pre, b, post, rfl, hpre, hb⟩

end Run
