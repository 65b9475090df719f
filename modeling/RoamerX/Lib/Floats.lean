import Mathlib.Algebra.Order.Field.Basic
import Mathlib.Data.Rat.Floor
import Mathlib.Tactic.Linarith

set_option autoImplicit false

/-! # Numbers that may be infinite or not a number

The values of a floating format with exact arithmetic on the finite ones: what the operations give for the others,
which comparisons they answer, and the maximum of a list as a loop of comparisons finds it. -/

namespace Floats

inductive Number
  | finite (q : ℚ)
  | infinite (negative : Bool)
  | nan
  deriving DecidableEq

namespace Number

def neg : Number → Number
  | finite q => finite (-q)
  | infinite negative => infinite (!negative)
  | nan => nan

def add : Number → Number → Number
  | finite p, finite q => finite (p + q)
  | infinite s, infinite t => if s = t then infinite s else nan
  | infinite s, finite _ => infinite s
  | finite _, infinite t => infinite t
  | _, _ => nan

def sub (a b : Number) : Number := a.add b.neg

def isNegative : Number → Bool
  | finite q => decide (q < 0)
  | infinite negative => negative
  | nan => false

def mul (a b : Number) : Number :=
  match a, b with
  | finite p, finite q => finite (p * q)
  | nan, _ | _, nan => nan
  | a, b => if a = finite 0 ∨ b = finite 0 then nan else infinite (a.isNegative != b.isNegative)

def abs : Number → Number
  | finite q => finite |q|
  | infinite _ => infinite false
  | nan => nan

/-- Apply a function to a finite number. -/
def map (f : ℚ → ℚ) : Number → Number
  | finite q => finite (f q)
  | other => other

/-- `a < b`; no comparison with what is not a number holds. -/
def lt : Number → Number → Bool
  | finite p, finite q => decide (p < q)
  | infinite s, infinite t => s && !t
  | infinite s, finite _ => s
  | finite _, infinite t => !t
  | _, _ => false

def le : Number → Number → Bool
  | finite p, finite q => decide (p ≤ q)
  | infinite s, infinite t => s || !t
  | infinite s, finite _ => s
  | finite _, infinite t => !t
  | _, _ => false

/-- The maximum, for which a later value must be greater than those before it. -/
def maximum (default : Number) : List Number → Number
  | [] => default
  | value :: values => values.foldl (fun best value => if best.lt value then value else best) value

@[simp] theorem sub_finite (p q : ℚ) : (finite p).sub (finite q) = finite (p - q) := by
  rw [sub_eq_add_neg]
  rfl

@[simp] theorem lt_finite (p q : ℚ) : (finite p).lt (finite q) = decide (p < q) := rfl

theorem foldl_finite (q : ℚ) (qs : List ℚ) :
    (qs.map finite).foldl (fun best value => if best.lt value then value else best) (finite q) =
      finite (qs.foldl max q) := by
  induction qs generalizing q with
  | nil => rfl
  | cons r qs ih =>
    rw [List.map_cons, List.foldl_cons, List.foldl_cons, ← ih, lt_finite]
    congr 1
    by_cases h : q < r
    · rw [if_pos (decide_eq_true h), max_eq_right h.le]
    · rw [if_neg (by simpa using h), max_eq_left (not_lt.mp h)]

theorem le_foldl_max (q : ℚ) (qs : List ℚ) : ∀ r ∈ q :: qs, r ≤ qs.foldl max q := by
  induction qs generalizing q with
  | nil =>
    intro r hr
    rw [List.mem_singleton.mp hr]
    exact le_refl q
  | cons s qs ih =>
    intro r hr
    rw [List.foldl_cons]
    have hbest := ih (max q s) (max q s) List.mem_cons_self
    rcases List.mem_cons.mp hr with rfl | hr
    · exact (le_max_left r s).trans hbest
    rcases List.mem_cons.mp hr with rfl | hr
    · exact (le_max_right q r).trans hbest
    · exact ih (max q s) r (List.mem_cons_of_mem _ hr)

theorem exists_maximum {values : List Number} (hfinite : ∀ value ∈ values, ∃ q, value = finite q)
    (default : Number) (hne : values ≠ []) :
    ∃ m, maximum default values = finite m ∧ ∀ q, finite q ∈ values → q ≤ m := by
  obtain ⟨qs, rfl⟩ : ∃ qs : List ℚ, values = qs.map finite := by
    induction values with
    | nil => exact ⟨[], rfl⟩
    | cons value values ih =>
      obtain ⟨q, rfl⟩ := hfinite value List.mem_cons_self
      rcases eq_or_ne values [] with rfl | hrest
      · exact ⟨[q], rfl⟩
      · obtain ⟨qs, hqs⟩ := ih (fun v hv => hfinite v (List.mem_cons_of_mem _ hv)) hrest
        exact ⟨q :: qs, by rw [hqs, List.map_cons]⟩
  match qs, hne with
  | q :: qs, _ =>
    refine ⟨qs.foldl max q, foldl_finite q qs, fun r hr => ?_⟩
    obtain ⟨s, hs, hsr⟩ := List.mem_map.mp hr
    obtain rfl : s = r := Number.finite.inj hsr
    exact le_foldl_max q qs s hs

end Number

end Floats
