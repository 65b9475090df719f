import Mathlib
import RoamerX.Boundary.CenterService
import RoamerX.Lib.SimpleChain
import RoamerX.Lib.Numerals

set_option autoImplicit false

/-! # The checks of a polygon at the center

`polygon_area`, `segments_intersect` and `polygon_self_intersects` of `navigation_boundary_service.py`. The
sides that follow one another are not compared, and three points that nearly line up count as in line. What
is accepted is simple all the same, but for sides that cross within that tolerance. -/

namespace RoamerX

open scoped Numerals

namespace NavigationBoundaryService

open EvenOdd AffineMap

variable {𝕜 : Type*} [Field 𝕜] [LinearOrder 𝕜]

/-! ## The checks -/

def polygonArea (polygon : List (𝕜 × 𝕜)) : 𝕜 :=
  1 / 2 * ((List.range polygon.length).map fun index =>
    (corner polygon index).1 * (corner polygon (index + 1)).2 -
      (corner polygon (index + 1)).1 * (corner polygon index).2).sum

def segmentsIntersect (a b c d : 𝕜 × 𝕜) : Bool :=
  let o1 := orientation a b c
  let o2 := orientation a b d
  let o3 := orientation c d a
  let o4 := orientation c d b
  if o1 ≠ o2 ∧ o3 ≠ o4 then true
  else
    (decide (o1 = .collinear) && onSegment a c b) || (decide (o2 = .collinear) && onSegment a d b) ||
      (decide (o3 = .collinear) && onSegment c a d) || (decide (o4 = .collinear) && onSegment c b d)

/-- `segments_intersect`, of two sides. -/
def sidesIntersect (polygon : List (𝕜 × 𝕜)) (index other : ℕ) : Bool :=
  segmentsIntersect (corner polygon index) (corner polygon (index + 1)) (corner polygon other)
    (corner polygon (other + 1))

def polygonSelfIntersects (polygon : List (𝕜 × 𝕜)) : Bool :=
  let size := polygon.length
  (List.range size).any fun index =>
    ((List.range size).drop (index + 1)).any fun other =>
      if other = index ∨ other = (index + 1) % size ∨ (other + 1) % size = index then false
      else sidesIntersect polygon index other

/-- Two segments whose ends lie strictly on different sides of the other, where both ends of one count as in
    line with the other. -/
def Overlooked (a b c d : 𝕜 × 𝕜) : Prop :=
  cross a b c * cross a b d < 0 ∧ cross c d a * cross c d b < 0 ∧
    (orientation a b c = .collinear ∧ orientation a b d = .collinear ∨
      orientation c d a = .collinear ∧ orientation c d b = .collinear)

/-- No two sides of the polygon that have no corner in common are overlooked. -/
def NothingOverlooked (polygon : List (𝕜 × 𝕜)) : Prop :=
  ∀ i j, Apart polygon.length i j →
    ¬Overlooked (corner polygon i) (corner polygon (i + 1)) (corner polygon j) (corner polygon (j + 1))

/-! ## Two segments -/

omit [LinearOrder 𝕜] in
theorem orientation_value (a b c : 𝕜 × 𝕜) :
    (b.2 - a.2) * (c.1 - b.1) - (b.1 - a.1) * (c.2 - b.2) = -cross a b c := by
  simp only [cross]
  ring

theorem segmentsIntersect_comm (a b c d : 𝕜 × 𝕜) :
    segmentsIntersect a b c d = segmentsIntersect c d a b := by
  unfold segmentsIntersect
  dsimp only
  by_cases h : orientation a b c ≠ orientation a b d ∧ orientation c d a ≠ orientation c d b
  · rw [if_pos h, if_pos h.symm]
  · rw [if_neg h, if_neg fun h' => h h'.symm, Bool.or_assoc, Bool.or_comm, ← Bool.or_assoc]

variable [IsStrictOrderedRing 𝕜] {a b c d p : 𝕜 × 𝕜} {polygon : List (𝕜 × 𝕜)} {i j k : ℕ}

theorem orientation_cases (a b c : 𝕜 × 𝕜) :
    orientation a b c = .collinear ∨ orientation a b c = .clockwise ∧ cross a b c < 0 ∨
      orientation a b c = .counterclockwise ∧ 0 < cross a b c := by
  have htiny : (0 : 𝕜) < 1 / 10 ^ 9 := by positivity
  have hvalue := orientation_value a b c
  unfold orientation
  set value := (b.2 - a.2) * (c.1 - b.1) - (b.1 - a.1) * (c.2 - b.2)
  dsimp only
  by_cases hsmall : |value| < 1 / 10 ^ 9
  · exact Or.inl (if_pos hsmall)
  · rw [if_neg hsmall]
    by_cases hpos : 0 < value
    · exact Or.inr (Or.inl ⟨if_pos hpos, by linarith⟩)
    · refine Or.inr (Or.inr ⟨if_neg hpos, ?_⟩)
      rw [abs_of_nonpos (not_lt.mp hpos)] at hsmall
      linarith

theorem orientation_of_cross_eq_zero (h : cross a b c = 0) : orientation a b c = .collinear := by
  rcases orientation_cases a b c with hline | ⟨-, hneg⟩ | ⟨-, hpos⟩
  · exact hline
  · exact absurd h hneg.ne
  · exact absurd h hpos.ne'

theorem collinear_of_eq (h : cross a b c * cross a b d < 0) (heq : orientation a b c = orientation a b d) :
    orientation a b c = .collinear ∧ orientation a b d = .collinear := by
  rcases orientation_cases a b c with hc | ⟨hc, hneg⟩ | ⟨hc, hpos⟩
  · exact ⟨hc, heq ▸ hc⟩
  · rcases orientation_cases a b d with hd | ⟨-, hneg'⟩ | ⟨hd, -⟩
    · exact ⟨heq.trans hd, hd⟩
    · exact absurd h (mul_pos_of_neg_of_neg hneg hneg').not_gt
    · exact nomatch hc.symm.trans (heq.trans hd)
  · rcases orientation_cases a b d with hd | ⟨hd, -⟩ | ⟨-, hpos'⟩
    · exact ⟨heq.trans hd, hd⟩
    · exact nomatch hc.symm.trans (heq.trans hd)
    · exact absurd h (mul_pos hpos hpos').not_gt

theorem between_min_max {t : 𝕜} (ht0 : 0 ≤ t) (ht1 : t ≤ 1) (x y : 𝕜) :
    min x y ≤ x + t * (y - x) ∧ x + t * (y - x) ≤ max x y := by
  rcases le_total x y with hle | hle
  · rw [min_eq_left hle, max_eq_right hle]
    constructor
    · nlinarith
    · nlinarith
  · rw [min_eq_right hle, max_eq_left hle]
    constructor
    · nlinarith
    · nlinarith

theorem onSegment_of_mem (h : b ∈ segment 𝕜 a c) : onSegment a b c = true := by
  obtain ⟨t, ht0, ht1, rfl⟩ := mem_segment_iff.mp h
  have htiny : (0 : 𝕜) < 1 / 10 ^ 9 := by positivity
  have hfst := between_min_max ht0 ht1 a.1 c.1
  have hsnd := between_min_max ht0 ht1 a.2 c.2
  unfold onSegment
  rw [lineMap_fst, lineMap_snd, Bool.and_eq_true, Bool.and_eq_true, Bool.and_eq_true, decide_eq_true_iff,
    decide_eq_true_iff, decide_eq_true_iff, decide_eq_true_iff]
  refine ⟨⟨⟨?_, ?_⟩, ?_⟩, ?_⟩
  · linarith [hfst.1]
  · linarith [hfst.2]
  · linarith [hsnd.1]
  · linarith [hsnd.2]

theorem segmentsIntersect_of_left (h : c ∈ segment 𝕜 a b) : segmentsIntersect a b c d = true := by
  have hline : orientation a b c = .collinear :=
    orientation_of_cross_eq_zero (cross_eq_zero_of_mem_segment h)
  unfold segmentsIntersect
  dsimp only
  split
  · rfl
  · rw [hline, onSegment_of_mem h]
    rfl

theorem segmentsIntersect_of_right (h : d ∈ segment 𝕜 a b) : segmentsIntersect a b c d = true := by
  have hline : orientation a b d = .collinear :=
    orientation_of_cross_eq_zero (cross_eq_zero_of_mem_segment h)
  unfold segmentsIntersect
  dsimp only
  split
  · rfl
  · rw [hline, onSegment_of_mem h, Bool.or_eq_true, Bool.or_eq_true, Bool.or_eq_true]
    exact Or.inl (Or.inl (Or.inr rfl))

theorem segmentsIntersect_of_line (hab : a ≠ b) (hc : cross a b c = 0) (hd : cross a b d = 0)
    (hp : p ∈ segment 𝕜 a b) (hp' : p ∈ segment 𝕜 c d) : segmentsIntersect a b c d = true := by
  obtain ⟨γ, rfl⟩ := exists_lineMap_of_cross_eq_zero hab hc
  obtain ⟨δ, rfl⟩ := exists_lineMap_of_cross_eq_zero hab hd
  obtain ⟨θ, hθ0, hθ1, rfl⟩ := mem_segment_iff.mp hp
  obtain ⟨t, ht0, ht1, hplace⟩ := mem_segment_iff.mp hp'
  by_cases hγ : 0 ≤ γ ∧ γ ≤ 1
  · exact segmentsIntersect_of_left (mem_segment_iff.mpr ⟨γ, hγ.1, hγ.2, rfl⟩)
  · -- the end `c` is off the first segment, so that its beginning or its end lies between `c` and `d`
    have hmeet : θ = γ + t * (δ - γ) := by
      rw [lineMap_between] at hplace
      exact lineMap_injective 𝕜 hab hplace
    by_cases hδ : 0 ≤ δ ∧ δ ≤ 1
    · exact segmentsIntersect_of_right (mem_segment_iff.mpr ⟨δ, hδ.1, hδ.2, rfl⟩)
    · rw [segmentsIntersect_comm]
      have hne : δ - γ ≠ 0 := by
        intro hzero
        rw [hzero, mul_zero, add_zero] at hmeet
        exact hγ ⟨hmeet ▸ hθ0, hmeet ▸ hθ1⟩
      have hparam : 0 ≤ -γ / (δ - γ) ∧ -γ / (δ - γ) ≤ 1 := by
        rcases lt_or_ge γ 0 with hneg | hnonneg
        · have hpos : 0 < δ := by
            by_contra hle
            -- with both ends before it, the second segment would not reach the first
            have hδ' : δ < 0 := lt_of_le_of_ne (not_lt.mp hle) fun hzero => hδ ⟨hzero.ge, by linarith⟩
            have hbefore : γ + t * (δ - γ) < 0 := (between_min_max ht0 ht1 γ δ).2.trans_lt (max_lt hneg hδ')
            linarith
          have hdiff : 0 < δ - γ := by linarith
          rw [div_le_one hdiff]
          exact ⟨div_nonneg (by linarith) hdiff.le, by linarith⟩
        · have hgt : 1 < γ := by
            by_contra hle
            exact hγ ⟨hnonneg, not_lt.mp hle⟩
          have hneg : δ < 0 := by
            by_contra hge
            have hgt' : 1 < δ := by
              by_contra hle
              exact hδ ⟨not_lt.mp hge, not_lt.mp hle⟩
            have hbehind : 1 < γ + t * (δ - γ) :=
              (lt_min hgt hgt').trans_le (between_min_max ht0 ht1 γ δ).1
            linarith
          have hdiff : δ - γ < 0 := by linarith
          rw [div_le_one_of_neg hdiff]
          exact ⟨div_nonneg_of_nonpos (by linarith) hdiff.le, by linarith⟩
      refine segmentsIntersect_of_left (mem_segment_iff.mpr ⟨_, hparam.1, hparam.2, ?_⟩)
      rw [lineMap_between, div_mul_cancel₀ _ hne, add_neg_cancel, lineMap_apply_zero]

theorem cross_mul_neg_of_meet (hp : p ∈ segment 𝕜 a b) (hp' : p ∈ segment 𝕜 c d)
    (h : segmentsIntersect a b c d = false) : cross a b c * cross a b d < 0 := by
  obtain ⟨t, ht0, ht1, hplace⟩ := mem_segment_iff.mp hp'
  have hzero := cross_eq_zero_of_mem_segment hp
  rw [hplace, cross_lineMap] at hzero
  have hc : c ∉ segment 𝕜 a b := fun hc => nomatch h.symm.trans (segmentsIntersect_of_left hc)
  have hd : d ∉ segment 𝕜 a b := fun hd => nomatch h.symm.trans (segmentsIntersect_of_right hd)
  have ht0' : 0 < t := by
    refine lt_of_le_of_ne ht0 fun heq => hc ?_
    rw [← heq, lineMap_apply_zero] at hplace
    exact hplace ▸ hp
  have ht1' : t < 1 := by
    refine lt_of_le_of_ne ht1 fun heq => hd ?_
    rw [heq, lineMap_apply_one] at hplace
    exact hplace ▸ hp
  have hne : cross a b c ≠ 0 := by
    intro hflat
    have hflat' : cross a b d = 0 := by
      rw [hflat, mul_zero, zero_add] at hzero
      exact (mul_eq_zero.mp hzero).resolve_left ht0'.ne'
    by_cases hab : a = b
    · subst hab
      rw [segment_same, Set.mem_singleton_iff] at hp
      rw [segmentsIntersect_comm, segmentsIntersect_of_left (hp ▸ hp')] at h
      exact nomatch h
    · exact nomatch h.symm.trans (segmentsIntersect_of_line hab hflat hflat' hp hp')
  have hsub : 0 < 1 - t := sub_pos.mpr ht1'
  have hsquare : 0 < cross a b c * cross a b c := mul_self_pos.mpr hne
  have hbalance : t * (cross a b c * cross a b d) = -((1 - t) * (cross a b c * cross a b c)) := by
    linear_combination cross a b c * hzero
  have hneg : t * (cross a b c * cross a b d) < 0 := by
    rw [hbalance]
    exact neg_lt_zero.mpr (mul_pos hsub hsquare)
  exact (pos_iff_neg_of_mul_neg hneg).mp ht0'

/-- **Two segments that meet unnoticed are overlooked.** -/
theorem overlooked_of_meet (hp : p ∈ segment 𝕜 a b) (hp' : p ∈ segment 𝕜 c d)
    (h : segmentsIntersect a b c d = false) : Overlooked a b c d := by
  have hfirst := cross_mul_neg_of_meet hp hp' h
  have hsecond := cross_mul_neg_of_meet hp' hp (by rw [segmentsIntersect_comm]; exact h)
  refine ⟨hfirst, hsecond, ?_⟩
  by_cases heq : orientation a b c = orientation a b d
  · exact Or.inl (collinear_of_eq hfirst heq)
  · by_cases heq' : orientation c d a = orientation c d b
    · exact Or.inr (collinear_of_eq hsecond heq')
    · unfold segmentsIntersect at h
      dsimp only at h
      rw [if_pos ⟨heq, heq'⟩] at h
      exact nomatch h

theorem Overlooked.exists_meet (h : Overlooked a b c d) : ∃ p ∈ segment 𝕜 a b, p ∈ segment 𝕜 c d := by
  obtain ⟨hfirst, hsecond, -⟩ := h
  have hbalance : cross a b c - cross a b d = cross c d b - cross c d a := by
    simp only [cross]
    ring
  have hwlog : ∀ {c d : 𝕜 × 𝕜}, 0 < cross a b c → cross a b d < 0 → cross c d a < 0 → 0 < cross c d b →
      ∃ p ∈ segment 𝕜 a b, p ∈ segment 𝕜 c d := by
    intro c d hc hd ha hb
    obtain ⟨w, hw, hwe⟩ := exists_mem_of_crosses (crosses_of_signs hc hd ha hb)
    exact ⟨w, hwe, hw⟩
  rcases mul_neg_iff.mp hfirst with ⟨hc, hd⟩ | ⟨hc, hd⟩
  · rcases mul_neg_iff.mp hsecond with ⟨ha, hb⟩ | ⟨ha, hb⟩
    · linarith
    · exact hwlog hc hd ha hb
  · rcases mul_neg_iff.mp hsecond with ⟨ha, hb⟩ | ⟨ha, hb⟩
    · obtain ⟨w, hw, hwe⟩ := hwlog hd hc (by rw [cross_swap]; linarith) (by rw [cross_swap]; linarith)
      rw [segment_symm] at hwe
      exact ⟨w, hw, hwe⟩
    · linarith

/-! ## The whole polygon -/

/-- Two sides that follow one another and meet away from their common corner run back on one another. -/
theorem spike (hab : a ≠ b) (hp : p ∈ segment 𝕜 a b) (hp' : p ∈ segment 𝕜 b c) (hne : p ≠ b) :
    c ∈ segment 𝕜 a b ∨ a ∈ segment 𝕜 b c := by
  obtain ⟨t, ht0, ht1, hplace⟩ := mem_segment_iff.mp hp'
  have ht : 0 < t := by
    refine lt_of_le_of_ne ht0 fun hzero => hne ?_
    rw [hplace, ← hzero, lineMap_apply_zero]
  have hline : cross a b c = 0 := by
    have hzero := cross_eq_zero_of_mem_segment hp
    rw [hplace, cross_lineMap, cross_right, mul_zero, zero_add] at hzero
    exact (mul_eq_zero.mp hzero).resolve_left ht.ne'
  obtain ⟨γ, rfl⟩ := exists_lineMap_of_cross_eq_zero hab hline
  obtain ⟨θ, hθ0, hθ1, rfl⟩ := mem_segment_iff.mp hp
  have hmeet : θ = 1 + t * (γ - 1) := by
    have hback := lineMap_between a b 1 γ t
    rw [lineMap_apply_one] at hback
    rw [hback] at hplace
    exact lineMap_injective 𝕜 hab hplace
  have hθ : θ < 1 := by
    refine lt_of_le_of_ne hθ1 fun hone => hne ?_
    rw [hone, lineMap_apply_one]
  have hγ : γ < 1 := by
    by_contra hge
    have hstep : 0 ≤ t * (γ - 1) := mul_nonneg ht0 (sub_nonneg.mpr (not_lt.mp hge))
    linarith
  rcases le_total 0 γ with hnonneg | hneg
  · exact Or.inl (mem_segment_iff.mpr ⟨γ, hnonneg, hγ.le, rfl⟩)
  · -- the turn lies behind `a`: the part of the way back at which `a` lies is `1 / (1 - γ)`
    have hsub : 0 < 1 - γ := sub_pos.mpr hγ
    refine Or.inr (mem_segment_iff.mpr ⟨1 / (1 - γ), (div_pos one_pos hsub).le, ?_, ?_⟩)
    · rw [div_le_one hsub]
      linarith
    · have hback := lineMap_between a b 1 γ (1 / (1 - γ))
      rw [lineMap_apply_one] at hback
      have hplace' : 1 + 1 / (1 - γ) * (γ - 1) = 0 := by
        rw [← neg_sub 1 γ, mul_neg, div_mul_cancel₀ _ hsub.ne']
        ring
      rw [hback, hplace', lineMap_apply_zero]

omit [IsStrictOrderedRing 𝕜] in
theorem sidesIntersect_of_apart (h : polygonSelfIntersects polygon = false) (hapart : Apart polygon.length i j) :
    sidesIntersect polygon i j = false := by
  obtain ⟨hij, hj, hnext, hlast⟩ := hapart
  have hmod : (i + 1) % polygon.length = i + 1 := Nat.mod_eq_of_lt (by omega)
  have hmod' : (j + 1) % polygon.length ≠ i := by
    by_cases hwhole : j + 1 = polygon.length
    · rw [hwhole, Nat.mod_self]
      exact fun hi => hlast ⟨hi.symm, hwhole⟩
    · rw [Nat.mod_eq_of_lt (by omega)]
      omega
  have hmem : j ∈ (List.range polygon.length).drop (i + 1) := by
    refine List.mem_drop_iff_getElem.mpr ⟨j - (i + 1), ?_, ?_⟩
    · rw [List.length_range]
      omega
    · rw [List.getElem_range]
      omega
  unfold polygonSelfIntersects at h
  dsimp only at h
  rw [List.any_eq_false] at h
  have hinner := h i (List.mem_range.mpr (hij.trans hj))
  rw [Bool.not_eq_true, List.any_eq_false] at hinner
  have hpair := hinner j hmem
  rw [hmod, if_neg (by omega), Bool.not_eq_true] at hpair
  exact hpair

omit [IsStrictOrderedRing 𝕜] in
theorem segmentsIntersect_next (hsize : 4 ≤ polygon.length) (h : polygonSelfIntersects polygon = false)
    (k : ℕ) :
    segmentsIntersect (corner polygon k) (corner polygon (k + 1)) (corner polygon (k + 2))
      (corner polygon (k + 3)) = false := by
  set n := polygon.length with hn
  have hlt : k % n < n := Nat.mod_lt _ (by omega)
  have hlt' : (k + 2) % n < n := Nat.mod_lt _ (by omega)
  have hsum : (k + 2) % n = if k % n + 2 < n then k % n + 2 else k % n + 2 - n := by
    rw [← Nat.mod_add_mod]
    split
    · exact Nat.mod_eq_of_lt ‹_›
    · rw [Nat.mod_eq_sub_mod (by omega), Nat.mod_eq_of_lt (by omega)]
  have hsides : ∀ i j, sidesIntersect polygon (i % n) (j % n) = sidesIntersect polygon i j := by
    intro i j
    unfold sidesIntersect
    rw [hn, corner_mod, corner_mod, corner_mod_succ, corner_mod_succ]
  have hcases : Apart n (k % n) ((k + 2) % n) ∨ Apart n ((k + 2) % n) (k % n) := by
    unfold Apart
    rw [hsum]
    split <;> omega
  rcases hcases with hapart | hapart
  · have hpair := sidesIntersect_of_apart h hapart
    rw [hsides] at hpair
    exact hpair
  · have hpair := sidesIntersect_of_apart h hapart
    rw [hsides, sidesIntersect, segmentsIntersect_comm] at hpair
    exact hpair

theorem polygonArea_triangle (hsize : polygon.length = 3) (k : ℕ) :
    polygonArea polygon =
      1 / 2 * cross (corner polygon k) (corner polygon (k + 1)) (corner polygon (k + 2)) := by
  have hwrap : ∀ m, corner polygon (m + 3) = corner polygon m := by
    intro m
    rw [← hsize, corner_add_length]
  have hfirst : polygonArea polygon =
      1 / 2 * cross (corner polygon 0) (corner polygon 1) (corner polygon 2) := by
    unfold polygonArea
    rw [hsize]
    simp only [List.range_succ, List.range_zero, List.nil_append, List.map_append, List.map_cons, List.map_nil,
      List.sum_append, List.sum_cons, List.sum_nil, Nat.reduceAdd, hwrap 0, cross]
    ring
  rw [hfirst]
  induction k with
  | zero => rfl
  | succ k ih =>
    rw [ih, hwrap k]
    simp only [cross]
    ring

theorem proper_of_checks (hsize : 3 ≤ polygon.length) (harea : polygonArea polygon ≠ 0)
    (h : polygonSelfIntersects polygon = false) (k : ℕ) : corner polygon (k + 1) ≠ corner polygon (k + 2) := by
  intro heq
  rcases hsize.eq_or_lt with hthree | hmore
  · refine harea ?_
    rw [polygonArea_triangle hthree.symm k, heq, cross_right, mul_zero]
  · -- the beginning of the next side but one would be the end of this one
    have hnext := segmentsIntersect_next hmore h k
    rw [← heq, segmentsIntersect_of_left (right_mem_segment 𝕜 _ _)] at hnext
    exact nomatch hnext

theorem joined_of_checks (hsize : 3 ≤ polygon.length) (harea : polygonArea polygon ≠ 0)
    (h : polygonSelfIntersects polygon = false) (hp : p ∈ side polygon (k + 1)) (hp' : p ∈ side polygon (k + 2)) :
    p = corner polygon (k + 2) := by
  by_contra hne
  have hproper := proper_of_checks hsize harea h k
  rcases hsize.eq_or_lt with hthree | hmore
  · have hflat : cross (corner polygon (k + 1)) (corner polygon (k + 2)) (corner polygon (k + 3)) = 0 := by
      rcases spike hproper hp hp' hne with hback | hback
      · exact cross_eq_zero_of_mem_segment hback
      · have hzero := cross_eq_zero_of_mem_segment hback
        rw [cross_swap_right, cross_swap, neg_neg] at hzero
        exact hzero
    refine harea ?_
    rw [polygonArea_triangle hthree.symm (k + 1), hflat, mul_zero]
  · rcases spike hproper hp hp' hne with hback | hback
    · have hnext := segmentsIntersect_next hmore h (k + 1)
      rw [segmentsIntersect_of_left hback] at hnext
      exact nomatch hnext
    · have hnext := segmentsIntersect_next hmore h k
      rw [segmentsIntersect_comm, segmentsIntersect_of_right hback] at hnext
      exact nomatch hnext

/-- **What the checks accept is simple, but for sides that are overlooked.** -/
theorem simple_iff (hsize : 3 ≤ polygon.length) (harea : polygonArea polygon ≠ 0)
    (h : polygonSelfIntersects polygon = false) : Simple polygon ↔ NothingOverlooked polygon := by
  constructor
  · intro hsimple i j hapart hoverlooked
    obtain ⟨p, hp, hp'⟩ := hoverlooked.exists_meet
    exact hsimple.apart i j hapart p hp hp'
  · intro hnothing
    -- counted around, every corner is the next of another
    have hback : ∀ k, k + (polygon.length - 1) + 1 = k + polygon.length := fun k => by omega
    have hcorner : ∀ k, corner polygon (k + (polygon.length - 1) + 1) = corner polygon k := by
      intro k
      rw [hback, corner_add_length]
    have hcorner' : ∀ k, corner polygon (k + (polygon.length - 1) + 2) = corner polygon (k + 1) := by
      intro k
      rw [← hcorner (k + 1), Nat.add_right_comm k 1]
    refine ⟨hsize, fun k => ?_, fun k p hp hp' => ?_, fun i j hapart p hp hp' => ?_⟩
    · have hproper := proper_of_checks hsize harea h (k + (polygon.length - 1))
      rw [hcorner, hcorner'] at hproper
      exact hproper
    · rw [← side_add_length, ← hback] at hp
      rw [← side_add_length, ← hback, Nat.add_right_comm k] at hp'
      rw [← hcorner', joined_of_checks hsize harea h hp hp']
    · exact hnothing i j hapart (overlooked_of_meet hp hp' (sidesIntersect_of_apart h hapart))

end NavigationBoundaryService

end RoamerX
