import Mathlib.Algebra.Order.Field.Basic
import Mathlib.Analysis.Convex.Segment
import Mathlib.Tactic.FieldSimp
import Mathlib.Tactic.Linarith
import Mathlib.Tactic.LinearCombination

set_option autoImplicit false

/-! # The even-odd rule

A closed chain of points splits the plane in two: a point lies inside when the ray from it to the
right meets the chain an odd number of times. Over any ordered field, and for any chain (it may
cross or repeat itself), two points lie on the same side if and only if the segment between them
crosses an even number of edges of the chain.

The rule decides ties one way throughout. It is as if every point that is tested were moved by a
hair to the right, and by much less than that upwards: it then lies on no edge and level with no
vertex. -/

namespace EvenOdd

variable {𝕜 : Type*} [Field 𝕜] [LinearOrder 𝕜] [IsStrictOrderedRing 𝕜]

/-! ## Sides of a line -/

/-- Twice the signed area of the triangle `a b v`, positive when `v` is to the left of the way
    from `a` to `b`. -/
def cross (a b v : 𝕜 × 𝕜) : 𝕜 := (b.1 - a.1) * (v.2 - a.2) - (b.2 - a.2) * (v.1 - a.1)

/-- The way from `a` to `b` goes up or, where it is level, to the left. -/
def Rising (a b : 𝕜 × 𝕜) : Prop := a.2 < b.2 ∨ a.2 = b.2 ∧ b.1 < a.1

instance (a b : 𝕜 × 𝕜) : Decidable (Rising a b) := inferInstanceAs (Decidable (_ ∨ _))

/-- The tested point `p`, moved by a hair, is to the left of the way from `a` to `b`. -/
def pointLeft (a b p : 𝕜 × 𝕜) : Bool := decide (0 < cross a b p ∨ cross a b p = 0 ∧ Rising b a)

/-- The vertex `v` is to the left of the way from `p` to `u`, two tested points moved by a hair. -/
def vertexLeft (p u v : 𝕜 × 𝕜) : Bool := decide (0 < cross p u v ∨ cross p u v = 0 ∧ Rising p u)

/-- The segment from `p` to `u` crosses the edge: the end points of each lie on different sides of
    the other. -/
def crosses (p u : 𝕜 × 𝕜) (e : (𝕜 × 𝕜) × (𝕜 × 𝕜)) : Bool :=
  (vertexLeft p u e.1 ^^ vertexLeft p u e.2) && (pointLeft e.1 e.2 p ^^ pointLeft e.1 e.2 u)

/-- The ray from `p` to the right meets the edge. -/
def hit (p : 𝕜 × 𝕜) (e : (𝕜 × 𝕜) × (𝕜 × 𝕜)) : Bool :=
  (decide (p.2 < e.1.2) ^^ decide (p.2 < e.2.2)) &&
    decide (p.1 < (e.1.1 - e.2.1) * (p.2 - e.2.2) / (e.1.2 - e.2.2) + e.2.1)

/-! ## Chains -/

/-- The edges of the closed chain, each from the vertex before; the first comes from the last
    vertex. -/
def edges {α : Type*} (chain : List α) : List (α × α) :=
  match chain.getLast? with
  | none => []
  | some z => (z :: chain).zip chain

/-- An odd number of the edges satisfy `f`. -/
def oddly {α : Type*} (f : α → Bool) (es : List α) : Bool := es.foldr (fun e odd => f e ^^ odd) false

def inside (chain : List (𝕜 × 𝕜)) (p : 𝕜 × 𝕜) : Bool := oddly (hit p) (edges chain)

/-- An odd number of edges of the chain cross the segment from `p` to `u`. -/
def separated (chain : List (𝕜 × 𝕜)) (p u : 𝕜 × 𝕜) : Bool := oddly (crosses p u) (edges chain)

/-- `p` lies on an edge of the chain. -/
def OnChain (chain : List (𝕜 × 𝕜)) (p : 𝕜 × 𝕜) : Prop := ∃ e ∈ edges chain, p ∈ segment 𝕜 e.1 e.2

@[simp] theorem oddly_nil {α : Type*} (f : α → Bool) : oddly f [] = false := rfl

@[simp] theorem oddly_cons {α : Type*} (f : α → Bool) (e : α) (es : List α) :
    oddly f (e :: es) = (f e ^^ oddly f es) := rfl

theorem oddly_xor {α : Type*} (f g : α → Bool) (es : List α) :
    oddly (fun e => f e ^^ g e) es = (oddly f es ^^ oddly g es) := by
  induction es with
  | nil => rfl
  | cons e es ih =>
    rw [oddly_cons, oddly_cons, oddly_cons, ih]
    cases f e <;> cases g e <;> simp

theorem oddly_eq_false {α : Type*} {f : α → Bool} {es : List α} (h : ∀ e ∈ es, f e = false) :
    oddly f es = false := by
  induction es with
  | nil => rfl
  | cons e es ih =>
    rw [oddly_cons, h e (by simp), ih (fun e' he' => h e' (by simp [he']))]
    rfl

theorem oddly_path {α : Type*} (t : α → Bool) (z : α) (l : List α) :
    oddly (fun e => t e.1 ^^ t e.2) ((z :: l).zip l) = (t z ^^ t ((z :: l).getLast (by simp))) := by
  induction l generalizing z with
  | nil => simp
  | cons v l ih =>
    rw [List.zip_cons_cons, oddly_cons, ih v, List.getLast_cons (List.cons_ne_nil v l)]
    cases t v <;> simp

theorem oddly_edges {α : Type*} (t : α → Bool) (chain : List α) :
    oddly (fun e => t e.1 ^^ t e.2) (edges chain) = false := by
  cases chain with
  | nil => rfl
  | cons v l =>
    have hedges : edges (v :: l) = ((v :: l).getLast (List.cons_ne_nil v l) :: v :: l).zip (v :: l) := by
      rw [edges, List.getLast?_eq_some_getLast (List.cons_ne_nil v l)]
    rw [hedges, oddly_path, List.getLast_cons (List.cons_ne_nil v l)]
    exact Bool.xor_self _

/-! ## The crossing identity

Where the edge `(a, b)` and the segment from `p` to `u` are not level, the four areas `cross a b p`,
`cross p u a` and so on are tied to the four differences in height between an end of the one and an
end of the other: each difference, times the same factor `d`, is a sum of two areas with
nonnegative weights. Which case holds for the edge is then settled by the signs alone. -/

omit [LinearOrder 𝕜] [IsStrictOrderedRing 𝕜] in
theorem cross_corner (a b p u : 𝕜 × 𝕜) :
    ((b.1 - a.1) * (u.2 - p.2) - (b.2 - a.2) * (u.1 - p.1)) * (p.2 - a.2) =
      cross a b p * (u.2 - p.2) + cross p u a * (b.2 - a.2) := by
  simp only [cross]
  ring

theorem corner_signs {d x e l h k : 𝕜} (hd : 0 < d) (hh : 0 < h) (hk : 0 ≤ k)
    (heq : d * x = e * h + l * k) :
    (0 ≤ e → 0 ≤ l → 0 ≤ x) ∧ (e ≤ 0 → l ≤ 0 → x ≤ 0) ∧
      (0 < e → 0 ≤ l → 0 < x) ∧ (e < 0 → l ≤ 0 → x < 0) ∧
      (0 < k → 0 ≤ e → 0 < l → 0 < x) ∧ (0 < k → e ≤ 0 → l < 0 → x < 0) := by
  refine ⟨fun he hl => ?_, fun he hl => ?_, fun he hl => ?_, fun he hl => ?_, fun hk he hl => ?_,
    fun hk he hl => ?_⟩ <;> by_contra hx <;> simp only [not_le, not_lt] at hx
  · nlinarith [mul_pos_of_neg_of_neg hx (neg_neg_of_pos hd), mul_nonneg he hh.le, mul_nonneg hl hk]
  · nlinarith [mul_pos hd hx, mul_nonneg (neg_nonneg.2 he) hh.le, mul_nonneg (neg_nonneg.2 hl) hk]
  · nlinarith [mul_nonneg hd.le (neg_nonneg.2 hx), mul_pos he hh, mul_nonneg hl hk]
  · nlinarith [mul_nonneg hd.le hx, mul_pos (neg_pos.2 he) hh, mul_nonneg (neg_nonneg.2 hl) hk]
  · nlinarith [mul_nonneg hd.le (neg_nonneg.2 hx), mul_nonneg he hh.le, mul_pos hl hk]
  · nlinarith [mul_nonneg hd.le hx, mul_nonneg (neg_nonneg.2 he) hh.le, mul_pos (neg_pos.2 hl) hk]

section Signs

variable {d g e l h k : 𝕜}

/-- The edge runs from the left of the segment to its right. `g` is the height of `p` above `a`,
    `h` that of `u` above `p`, `k` that of `b` above `a`; `e` and `e + d` are the areas at `p` and
    `u`, `l` and `l - d` those at `a` and `b`. -/
theorem signs_pos (hd : 0 < d) (hh : 0 < h) (hk : 0 ≤ k) (heq : d * g = e * h + l * k) :
    (decide (0 ≤ g ∧ g < k ∧ 0 < e) ^^ decide (0 ≤ g + h ∧ g + h < k ∧ 0 < e + d)) =
      (((decide (0 ≤ l) ^^ decide (0 ≤ l - d)) &&
        (decide (0 < e ∨ e = 0 ∧ k = 0) ^^ decide (0 < e + d ∨ e + d = 0 ∧ k = 0))) ^^
      (decide (g < 0 ∧ 0 ≤ g + h ∧ l < 0) ^^ decide (g < k ∧ k ≤ g + h ∧ l - d < 0))) := by
  have hpa := corner_signs hd hh hk heq
  have hua : d * (g + h) = (e + d) * h + l * k := by linear_combination heq
  have hpb : d * (g - k) = e * h + (l - d) * k := by linear_combination heq
  have hub : d * (g + h - k) = (e + d) * h + (l - d) * k := by linear_combination heq
  have hua := corner_signs hd hh hk hua
  have hpb := corner_signs hd hh hk hpb
  have hub := corner_signs hd hh hk hub
  clear heq
  grind

theorem signs_neg (hd : d < 0) (hh : 0 < h) (hk : 0 ≤ k) (heq : d * g = e * h + l * k) :
    (decide (0 ≤ g ∧ g < k ∧ 0 < e) ^^ decide (0 ≤ g + h ∧ g + h < k ∧ 0 < e + d)) =
      (((decide (0 ≤ l) ^^ decide (0 ≤ l - d)) && (decide (0 < e) ^^ decide (0 < e + d))) ^^
      (decide (g < 0 ∧ 0 ≤ g + h ∧ l < 0) ^^ decide (g < k ∧ k ≤ g + h ∧ l - d < 0))) := by
  have hd : 0 < -d := neg_pos.2 hd
  have hpa : -d * g = -e * h + -l * k := by linear_combination -heq
  have hua : -d * (g + h) = -(e + d) * h + -l * k := by linear_combination -heq
  have hpb : -d * (g - k) = -e * h + -(l - d) * k := by linear_combination -heq
  have hub : -d * (g + h - k) = -(e + d) * h + -(l - d) * k := by linear_combination -heq
  have hpa := corner_signs hd hh hk hpa
  have hua := corner_signs hd hh hk hua
  have hpb := corner_signs hd hh hk hpb
  have hub := corner_signs hd hh hk hub
  clear heq
  grind

theorem signs_parallel (hh : 0 < h) (hk : 0 ≤ k) (heq : 0 = e * h + l * k) :
    (decide (0 ≤ g ∧ g < k ∧ 0 < e) ^^ decide (0 ≤ g + h ∧ g + h < k ∧ 0 < e)) =
      (decide (g < 0 ∧ 0 ≤ g + h ∧ l < 0) ^^ decide (g < k ∧ k ≤ g + h ∧ l < 0)) := by
  rcases hk.eq_or_lt with rfl | hk
  · grind
  · have hsides : 0 < e ↔ l < 0 := by
      constructor
      · intro he
        by_contra hl
        nlinarith [mul_pos he hh, mul_nonneg (not_lt.1 hl) hk.le]
      · intro hl
        by_contra he
        nlinarith [mul_pos (neg_pos.2 hl) hk, mul_nonneg (neg_nonneg.2 (not_lt.1 he)) hh.le]
    grind

end Signs

/-- `v` is level with the segment from `p` to `u`, and to its right. -/
def beside (p u v : 𝕜 × 𝕜) : Bool :=
  (decide (p.2 < v.2) ^^ decide (u.2 < v.2)) &&
    (if p.2 < u.2 then !vertexLeft p u v else vertexLeft p u v)

/-! ### Reversing -/

omit [LinearOrder 𝕜] [IsStrictOrderedRing 𝕜] in
theorem cross_swap (a b v : 𝕜 × 𝕜) : cross b a v = -cross a b v := by
  simp only [cross]
  ring

theorem rising_swap {a b : 𝕜 × 𝕜} (h : a ≠ b) : Rising b a ↔ ¬Rising a b := by
  have hne : ¬(a.1 = b.1 ∧ a.2 = b.2) := fun hab => h (Prod.ext hab.1 hab.2)
  simp only [Rising]
  grind

theorem vertexLeft_swap {p u : 𝕜 × 𝕜} (h : p ≠ u) (v : 𝕜 × 𝕜) :
    vertexLeft u p v = !vertexLeft p u v := by
  have hr := rising_swap h
  simp only [vertexLeft, cross_swap p u v]
  grind

theorem pointLeft_swap {a b : 𝕜 × 𝕜} (h : a ≠ b) (p : 𝕜 × 𝕜) :
    pointLeft b a p = !pointLeft a b p := by
  have hr := rising_swap h
  simp only [pointLeft, cross_swap a b p]
  grind

theorem hit_iff (p a b : 𝕜 × 𝕜) :
    hit p (a, b) = true ↔ a.2 ≤ p.2 ∧ p.2 < b.2 ∧ 0 < cross a b p ∨
      b.2 ≤ p.2 ∧ p.2 < a.2 ∧ 0 < cross b a p := by
  have hup : a.2 < b.2 → (p.1 < (a.1 - b.1) * (p.2 - b.2) / (a.2 - b.2) + b.1 ↔
      0 < cross a b p) := by
    intro hab
    rw [← sub_lt_iff_lt_add, lt_div_iff_of_neg (by linarith)]
    simp only [cross]
    constructor <;> intro h <;> linarith
  have hdown : b.2 < a.2 → (p.1 < (a.1 - b.1) * (p.2 - b.2) / (a.2 - b.2) + b.1 ↔
      0 < cross b a p) := by
    intro hba
    rw [← sub_lt_iff_lt_add, lt_div_iff₀ (by linarith)]
    simp only [cross]
    constructor <;> intro h <;> linarith
  simp only [hit, Bool.and_eq_true, bne_iff_ne, decide_eq_true_eq]
  grind

theorem hit_swap (p a b : 𝕜 × 𝕜) : hit p (b, a) = hit p (a, b) := by
  rw [Bool.eq_iff_iff, hit_iff, hit_iff]
  tauto

theorem crosses_swap_edge (p u a b : 𝕜 × 𝕜) : crosses p u (b, a) = crosses p u (a, b) := by
  by_cases hab : a = b
  · rw [hab]
  · simp only [crosses, pointLeft_swap hab]
    grind

theorem crosses_swap (p u : 𝕜 × 𝕜) (e : (𝕜 × 𝕜) × (𝕜 × 𝕜)) : crosses u p e = crosses p u e := by
  by_cases hpu : p = u
  · rw [hpu]
  · simp only [crosses, vertexLeft_swap hpu]
    grind

theorem beside_swap (p u v : 𝕜 × 𝕜) : beside u p v = beside p u v := by
  by_cases hpu : p = u
  · rw [hpu]
  · have hv := vertexLeft_swap hpu v
    simp only [beside]
    grind

/-! ### One edge -/

theorem vertexLeft_level {p u : 𝕜 × 𝕜} (hpu : p.2 = u.2) (hne : p.1 ≠ u.1) (v : 𝕜 × 𝕜) :
    vertexLeft p u v = (decide (p.2 < v.2) ^^ decide (u.1 < p.1)) := by
  have hcross : cross p u v = (p.1 - u.1) * (p.2 - v.2) := by
    simp only [cross, hpu]
    ring
  have hzero : cross p u v = 0 ↔ p.2 = v.2 := by
    rw [hcross, mul_eq_zero, sub_eq_zero, sub_eq_zero]
    exact or_iff_right hne
  rcases lt_or_gt_of_ne hne with hlt | hgt
  · have hpos : 0 < cross p u v ↔ p.2 < v.2 := by
      have hneg : cross p u v = (u.1 - p.1) * (v.2 - p.2) := by rw [hcross]; ring
      rw [hneg, mul_pos_iff_of_pos_left (sub_pos.2 hlt), sub_pos]
    simp only [vertexLeft, Rising]
    grind
  · have hpos : 0 < cross p u v ↔ v.2 < p.2 := by
      rw [hcross, mul_pos_iff_of_pos_left (sub_pos.2 hgt), sub_pos]
    simp only [vertexLeft, Rising]
    grind

theorem hit_xor_level {p u a b : 𝕜 × 𝕜} (hpu : p.2 = u.2) (hab : a.2 ≤ b.2) :
    (hit p (a, b) ^^ hit u (a, b)) =
      (crosses p u (a, b) ^^ (beside p u a ^^ beside p u b)) := by
  have hbeside : ∀ v, beside p u v = false := by
    intro v
    simp [beside, hpu]
  rw [hbeside a, hbeside b, Bool.xor_self, Bool.xor_false]
  by_cases hne : p.1 = u.1
  · have heq : p = u := Prod.ext hne hpu
    simp [crosses, heq]
  · simp only [crosses, vertexLeft_level hpu hne]
    have hp := hit_iff p a b
    have hu := hit_iff u a b
    simp only [pointLeft, Rising]
    grind

section Slanted

variable {p u a b : 𝕜 × 𝕜}

theorem vertexLeft_slanted (hpu : p.2 < u.2) (v : 𝕜 × 𝕜) :
    vertexLeft p u v = decide (0 ≤ cross p u v) := by
  simp only [vertexLeft, Rising]
  grind

theorem beside_slanted (hpu : p.2 < u.2) (v : 𝕜 × 𝕜) {x : 𝕜} (hx : v.2 = p.2 - x) :
    beside p u v = decide (x < 0 ∧ 0 ≤ x + (u.2 - p.2) ∧ cross p u v < 0) := by
  simp only [beside, vertexLeft_slanted hpu]
  grind

theorem hit_upwards (hab : a.2 ≤ b.2) (p : 𝕜 × 𝕜) :
    hit p (a, b) =
      decide (0 ≤ p.2 - a.2 ∧ p.2 - a.2 < b.2 - a.2 ∧ 0 < cross a b p) := by
  rw [Bool.eq_iff_iff, hit_iff, decide_eq_true_iff]
  grind

omit [LinearOrder 𝕜] [IsStrictOrderedRing 𝕜] in
theorem cross_along (a b p u : 𝕜 × 𝕜) :
    cross a b u = cross a b p + ((b.1 - a.1) * (u.2 - p.2) - (b.2 - a.2) * (u.1 - p.1)) := by
  simp only [cross]
  ring

omit [LinearOrder 𝕜] [IsStrictOrderedRing 𝕜] in
theorem cross_edge (a b p u : 𝕜 × 𝕜) :
    cross p u b = cross p u a - ((b.1 - a.1) * (u.2 - p.2) - (b.2 - a.2) * (u.1 - p.1)) := by
  simp only [cross]
  ring

theorem hit_xor_slanted (hpu : p.2 < u.2) (hab : a.2 ≤ b.2) :
    (hit p (a, b) ^^ hit u (a, b)) =
      (crosses p u (a, b) ^^ (beside p u a ^^ beside p u b)) := by
  have hcorner := cross_corner a b p u
  have hu := cross_along a b p u
  have hb := cross_edge a b p u
  have hlevel : a.2 = b.2 → ((b.1 - a.1) * (u.2 - p.2) - (b.2 - a.2) * (u.1 - p.1)) =
      (b.1 - a.1) * (u.2 - p.2) := by
    intro h
    rw [h]
    ring
  have htie : a.2 = b.2 → (a.1 < b.1 ↔
      0 < (b.1 - a.1) * (u.2 - p.2) - (b.2 - a.2) * (u.1 - p.1)) := by
    intro h
    rw [hlevel h, mul_pos_iff_of_pos_right (sub_pos.2 hpu), sub_pos]
  rw [hit_upwards hab, hit_upwards hab, beside_slanted hpu a (x := p.2 - a.2) (by ring),
    beside_slanted hpu b (x := p.2 - a.2 - (b.2 - a.2)) (by ring)]
  simp only [crosses, vertexLeft_slanted hpu, pointLeft, Rising]
  generalize (b.1 - a.1) * (u.2 - p.2) - (b.2 - a.2) * (u.1 - p.1) = d at *
  have hh : 0 < u.2 - p.2 := sub_pos.2 hpu
  have hk : 0 ≤ b.2 - a.2 := sub_nonneg.2 hab
  rcases lt_trichotomy d 0 with hd | rfl | hd
  · have hsigns := signs_neg hd hh hk hcorner
    grind
  · have hsigns := signs_parallel (g := p.2 - a.2) hh hk (by rw [← hcorner]; ring)
    grind
  · have hsigns := signs_pos hd hh hk hcorner
    grind

end Slanted

/-- Between `p` and `u` an edge changes the ray test where it crosses the segment, up to a term for
    each of its end points. -/
theorem hit_xor (p u : 𝕜 × 𝕜) (e : (𝕜 × 𝕜) × (𝕜 × 𝕜)) :
    (hit p e ^^ hit u e) = (crosses p u e ^^ (beside p u e.1 ^^ beside p u e.2)) := by
  have hupwards : ∀ p u a b : 𝕜 × 𝕜, p.2 ≤ u.2 → a.2 ≤ b.2 →
      (hit p (a, b) ^^ hit u (a, b)) = (crosses p u (a, b) ^^ (beside p u a ^^ beside p u b)) := by
    intro p u a b hpu hab
    rcases hpu.lt_or_eq with hlt | heq
    · exact hit_xor_slanted hlt hab
    · exact hit_xor_level heq hab
  have hup : ∀ p u a b : 𝕜 × 𝕜, p.2 ≤ u.2 →
      (hit p (a, b) ^^ hit u (a, b)) = (crosses p u (a, b) ^^ (beside p u a ^^ beside p u b)) := by
    intro p u a b hpu
    rcases le_total a.2 b.2 with hab | hba
    · exact hupwards p u a b hpu hab
    · rw [hit_swap p b a, hit_swap u b a, crosses_swap_edge p u b a, hupwards p u b a hpu hba,
        Bool.xor_comm (beside p u b)]
  obtain ⟨a, b⟩ := e
  rcases le_total p.2 u.2 with hpu | hup'
  · exact hup p u a b hpu
  · rw [Bool.xor_comm, hup u p a b hup', crosses_swap, beside_swap p u a, beside_swap p u b]

/-- Two points lie on different sides of a closed chain if and only if an odd number of its edges
    cross the segment between them. -/
theorem inside_xor (chain : List (𝕜 × 𝕜)) (p u : 𝕜 × 𝕜) :
    (inside chain p ^^ inside chain u) = separated chain p u := by
  calc (inside chain p ^^ inside chain u)
      = oddly (fun e => hit p e ^^ hit u e) (edges chain) := (oddly_xor _ _ _).symm
    _ = oddly (fun e => crosses p u e ^^ (beside p u e.1 ^^ beside p u e.2)) (edges chain) := by
        simp only [hit_xor]
    _ = (separated chain p u ^^
          oddly (fun e => beside p u e.1 ^^ beside p u e.2) (edges chain)) := oddly_xor _ _ _
    _ = separated chain p u := by rw [oddly_edges, Bool.xor_false]

/-! ## Segments that meet no edge -/

theorem exists_mem_of_crosses {p u : 𝕜 × 𝕜} {e : (𝕜 × 𝕜) × (𝕜 × 𝕜)} (h : crosses p u e = true) :
    ∃ w ∈ segment 𝕜 p u, w ∈ segment 𝕜 e.1 e.2 := by
  obtain ⟨a, b⟩ := e
  have hu := cross_along a b p u
  have hb := cross_edge a b p u
  set d := (b.1 - a.1) * (u.2 - p.2) - (b.2 - a.2) * (u.1 - p.1) with hd
  simp only [crosses, Bool.and_eq_true, bne_iff_ne, vertexLeft, pointLeft] at h
  have hne : d ≠ 0 := by
    intro h0
    grind
  -- The common point, measured along the segment and along the edge.
  have hs : 0 ≤ -cross a b p / d ∧ -cross a b p / d ≤ 1 := by
    rcases lt_or_gt_of_ne hne with hneg | hpos
    · rw [div_nonneg_iff, div_le_one_of_neg hneg]
      grind
    · rw [div_nonneg_iff, div_le_one hpos]
      grind
  have ht : 0 ≤ cross p u a / d ∧ cross p u a / d ≤ 1 := by
    rcases lt_or_gt_of_ne hne with hneg | hpos
    · rw [div_nonneg_iff, div_le_one_of_neg hneg]
      grind
    · rw [div_nonneg_iff, div_le_one hpos]
      grind
  refine ⟨AffineMap.lineMap p u (-cross a b p / d), ?_, ?_⟩
  · rw [segment_eq_image_lineMap]
    exact ⟨_, hs, rfl⟩
  · rw [segment_eq_image_lineMap]
    refine ⟨cross p u a / d, ht, ?_⟩
    have hfst : (b.1 - a.1) * cross p u a + (u.1 - p.1) * cross a b p = (p.1 - a.1) * d := by
      simp only [cross, hd]
      ring
    have hsnd : (b.2 - a.2) * cross p u a + (u.2 - p.2) * cross a b p = (p.2 - a.2) * d := by
      simp only [cross, hd]
      ring
    simp only [AffineMap.lineMap_apply, vsub_eq_sub, vadd_eq_add]
    ext
    · simp only [Prod.fst_add, Prod.smul_fst, Prod.fst_sub, smul_eq_mul]
      field_simp
      linear_combination hfst
    · simp only [Prod.snd_add, Prod.smul_snd, Prod.snd_sub, smul_eq_mul]
      field_simp
      linear_combination hsnd

theorem inside_eq_of_disjoint {chain : List (𝕜 × 𝕜)} {p u : 𝕜 × 𝕜}
    (h : ∀ w ∈ segment 𝕜 p u, ¬OnChain chain w) : inside chain p = inside chain u := by
  have hsame : separated chain p u = false := by
    refine oddly_eq_false fun e he => ?_
    by_contra hcross
    obtain ⟨w, hw, hwe⟩ := exists_mem_of_crosses (Bool.not_eq_false _ ▸ hcross)
    exact h w hw ⟨e, he, hwe⟩
  rw [← inside_xor] at hsame
  simpa using hsame

end EvenOdd
