import RoamerX.Lib.SimpleChain
import Mathlib.Analysis.Normed.Affine.AddTorsor
import Mathlib.Analysis.Normed.Module.Convex
import Mathlib.Topology.Connected.Clopen

set_option autoImplicit false

/-! # The region of a chain

The region of a closed chain in the real plane: the points that the even-odd rule puts inside, and those on
the chain. Where the chain is simple, its outside is connected along it, so that a chain whose sides stay in
the region encloses nothing else. -/

namespace EvenOdd

open AffineMap

/-! ## The region and its parts -/

open Topology

/-- The points inside the chain and those on it. -/
def region (chain : List (ℝ × ℝ)) : Set (ℝ × ℝ) := {p | OnChain chain p ∨ inside chain p = true}

variable {chain : List (ℝ × ℝ)} {a b p u x : ℝ × ℝ} {W : Set (ℝ × ℝ)} {k : ℕ}

theorem isClosed_segment (a b : ℝ × ℝ) : IsClosed (segment ℝ a b) := by
  rw [segment_eq_image_lineMap]
  exact (isCompact_Icc.image lineMap_continuous).isClosed

theorem isClosed_onChain (chain : List (ℝ × ℝ)) : IsClosed {p | OnChain chain p} := by
  have hunion : {p | OnChain chain p} = ⋃ k ∈ Finset.range chain.length, side chain k := by
    ext p
    rw [Set.mem_ofPred_eq, onChain_iff, Set.mem_iUnion₂]
    exact exists_congr fun k => by rw [Finset.mem_range, exists_prop]
  rw [hunion]
  exact isClosed_biUnion_finset fun k _ => isClosed_segment _ _

theorem inside_eq_of_convex (hW : Convex ℝ W) (hfree : ∀ w ∈ W, ¬OnChain chain w) (hp : p ∈ W) (hu : u ∈ W) :
    inside chain p = inside chain u :=
  inside_eq_of_disjoint fun w hw => hfree w (hW.segment_subset hp hu hw)

/-- The points off the chain that the even-odd rule answers with `value`. -/
def part (chain : List (ℝ × ℝ)) (value : Bool) : Set (ℝ × ℝ) :=
  {p | ¬OnChain chain p ∧ inside chain p = value}

theorem exists_ball_of_not_onChain (h : ¬OnChain chain p) :
    ∃ r > 0, ∀ w ∈ Metric.ball p r, ¬OnChain chain w :=
  Metric.isOpen_iff.mp (isClosed_onChain chain).isOpen_compl p h

theorem isOpen_part (chain : List (ℝ × ℝ)) (value : Bool) : IsOpen (part chain value) := by
  rw [Metric.isOpen_iff]
  rintro p ⟨hoff, hvalue⟩
  obtain ⟨r, hr, hball⟩ := exists_ball_of_not_onChain hoff
  refine ⟨r, hr, fun u hu => ⟨hball u hu, ?_⟩⟩
  rw [← hvalue]
  exact inside_eq_of_convex (convex_ball p r) hball hu (Metric.mem_ball_self hr)

/-! ## The two banks of a side -/

theorem Simple.exists_banks (h : Simple chain) (hk : k < chain.length)
    (hx : x ∈ openSegment ℝ (corner chain k) (corner chain (k + 1))) (hW : W ∈ 𝓝 x) :
    ∃ p ∈ W, ∃ u ∈ W, 0 < cross (corner chain k) (corner chain (k + 1)) p ∧
      cross (corner chain k) (corner chain (k + 1)) u < 0 ∧ ¬OnChain chain p ∧ ¬OnChain chain u ∧
        inside chain p ≠ inside chain u := by
  set a := corner chain k with ha
  set b := corner chain (k + 1) with hb
  -- the other sides leave a ball around the point free
  have hothers : ∃ r > 0, Metric.ball x r ⊆ W ∧
      ∀ w ∈ Metric.ball x r, ∀ j < chain.length, j ≠ k → w ∉ side chain j := by
    have hclosed : IsClosed (⋃ j ∈ (Finset.range chain.length).filter (· ≠ k), side chain j) :=
      isClosed_biUnion_finset fun j _ => isClosed_segment _ _
    have hfree : x ∈ (⋃ j ∈ (Finset.range chain.length).filter (· ≠ k), side chain j)ᶜ := by
      intro hmem
      obtain ⟨j, hj, hxj⟩ := Set.mem_iUnion₂.mp hmem
      rw [Finset.mem_filter, Finset.mem_range] at hj
      exact h.notMem_side hk hj.1 (Ne.symm hj.2) hx hxj
    obtain ⟨r, hr, hball⟩ := Metric.mem_nhds_iff.mp
      (Filter.inter_mem hW (hclosed.isOpen_compl.mem_nhds hfree))
    refine ⟨r, hr, fun w hw => (hball hw).1, fun w hw j hj hjk hwj => (hball hw).2 ?_⟩
    exact Set.mem_iUnion₂.mpr ⟨j, Finset.mem_filter.mpr ⟨Finset.mem_range.mpr hj, hjk⟩, hwj⟩
  obtain ⟨r, hr, hWball, hfree⟩ := hothers
  rw [openSegment_eq_image_lineMap] at hx
  obtain ⟨t, ⟨ht0, ht1⟩, rfl⟩ := hx
  -- a step to the left of the side, and one to the right
  set n : ℝ × ℝ := (-(b.2 - a.2), b.1 - a.1) with hn
  set d : ℝ := (b.1 - a.1) ^ 2 + (b.2 - a.2) ^ 2 with hd
  have hdpos : 0 < d := by
    have hproper : a ≠ b := h.proper k
    by_contra hle
    have hfst := sq_nonneg (b.1 - a.1)
    have hsnd := sq_nonneg (b.2 - a.2)
    refine hproper (Prod.ext ?_ ?_)
    · have hzero : (b.1 - a.1) ^ 2 = 0 := by linarith
      linarith [pow_eq_zero_iff (two_ne_zero) |>.mp hzero]
    · have hzero : (b.2 - a.2) ^ 2 = 0 := by linarith
      linarith [pow_eq_zero_iff (two_ne_zero) |>.mp hzero]
  obtain ⟨δ, hδ, hstep⟩ : ∃ δ : ℝ, 0 < δ ∧ ‖δ • n‖ < r := by
    refine ⟨r / (2 * (‖n‖ + 1)), by positivity, ?_⟩
    rw [norm_smul, Real.norm_of_nonneg (by positivity), div_mul_eq_mul_div, div_lt_iff₀ (by positivity)]
    nlinarith [norm_nonneg n]
  set m : ℝ × ℝ := lineMap a b t with hm
  have hp : m + δ • n ∈ Metric.ball m r := by
    rw [Metric.mem_ball, dist_eq_norm, add_sub_cancel_left]
    exact hstep
  have hu : m - δ • n ∈ Metric.ball m r := by
    rw [Metric.mem_ball, dist_eq_norm, sub_sub_cancel_left, norm_neg]
    exact hstep
  have hleft : cross a b (m + δ • n) = δ * d := by
    simp only [cross, hm, Prod.fst_add, Prod.snd_add, Prod.smul_fst, Prod.smul_snd, lineMap_fst, lineMap_snd,
      smul_eq_mul, hn, hd]
    ring
  have hright : cross a b (m - δ • n) = -(δ * d) := by
    simp only [cross, hm, Prod.fst_sub, Prod.snd_sub, Prod.smul_fst, Prod.smul_snd, lineMap_fst, lineMap_snd,
      smul_eq_mul, hn, hd]
    ring
  have hbefore : cross (m + δ • n) (m - δ • n) a = -(2 * δ * t * d) := by
    simp only [cross, hm, Prod.fst_sub, Prod.snd_sub, Prod.fst_add, Prod.snd_add, Prod.smul_fst, Prod.smul_snd,
      lineMap_fst, lineMap_snd, smul_eq_mul, hn, hd]
    ring
  have hbehind : cross (m + δ • n) (m - δ • n) b = 2 * δ * (1 - t) * d := by
    simp only [cross, hm, Prod.fst_sub, Prod.snd_sub, Prod.fst_add, Prod.snd_add, Prod.smul_fst, Prod.smul_snd,
      lineMap_fst, lineMap_snd, smul_eq_mul, hn, hd]
    ring
  have hδd : 0 < δ * d := mul_pos hδ hdpos
  have hsub : 0 < 1 - t := sub_pos.mpr ht1
  have hoff : ∀ w ∈ Metric.ball m r, cross a b w ≠ 0 → ¬OnChain chain w := by
    intro w hw hcross hchain
    obtain ⟨j, hj, hwj⟩ := onChain_iff.mp hchain
    by_cases hjk : j = k
    · subst hjk
      exact hcross (cross_eq_zero_of_mem_segment hwj)
    · exact hfree w hw j hj hjk hwj
  refine ⟨_, hWball hp, _, hWball hu, ?_, ?_, hoff _ hp ?_, hoff _ hu ?_, ?_⟩
  · rw [hleft]
    exact hδd
  · rw [hright]
    linarith
  · rw [hleft]
    exact hδd.ne'
  · rw [hright]
    linarith
  · refine inside_ne_of_unique hk (crosses_of_signs ?_ ?_ ?_ ?_) fun j hj hjk w hw => ?_
    · rw [← ha, ← hb, hleft]
      exact hδd
    · rw [← ha, ← hb, hright]
      linarith
    · rw [← ha, hbefore]
      have hpos : 0 < 2 * δ * t * d := by positivity
      linarith
    · rw [← hb, hbehind]
      positivity
    · exact hfree w ((convex_ball m r).segment_subset hp hu hw) j hj hjk

/-! ## Around a point of the chain -/

/-- Points on both banks of the way from `x` to `a`, between which the even-odd rule changes. -/
def Banks (chain : List (ℝ × ℝ)) (x a : ℝ × ℝ) : Prop :=
  ∀ m ∈ openSegment ℝ x a, ∀ W ∈ 𝓝 m, ∃ p ∈ W, ∃ u ∈ W, 0 < cross x a p ∧ cross x a u < 0 ∧
    ¬OnChain chain p ∧ ¬OnChain chain u ∧ inside chain p ≠ inside chain u

/-- Near `x` the chain consists of two ways, to `a` and to `b`. -/
structure Arms (chain : List (ℝ × ℝ)) (x a b : ℝ × ℝ) : Prop where
  left_ne : a ≠ x
  right_ne : b ≠ x
  meet : ∀ p ∈ segment ℝ x a, p ∈ segment ℝ x b → p = x
  near : ∀ᶠ p in 𝓝 x, OnChain chain p → p ∈ segment ℝ x a ∨ p ∈ segment ℝ x b
  left_on : ∀ p ∈ segment ℝ x a, OnChain chain p
  right_on : ∀ p ∈ segment ℝ x b, OnChain chain p
  left_banks : Banks chain x a
  right_banks : Banks chain x b

theorem Arms.symm (h : Arms chain x a b) : Arms chain x b a where
  left_ne := h.right_ne
  right_ne := h.left_ne
  meet p hb ha := h.meet p ha hb
  near := h.near.mono fun _ hp hon => (hp hon).symm
  left_on := h.right_on
  right_on := h.left_on
  left_banks := h.right_banks
  right_banks := h.left_banks

theorem lineMap_mem_segment {t r : ℝ} (ht : 0 ≤ t) (hball : lineMap x a t ∈ Metric.ball x r)
    (hr : r ≤ dist a x) : lineMap x a t ∈ segment ℝ x a := by
  refine mem_segment_iff.mpr ⟨t, ht, ?_, rfl⟩
  rw [Metric.mem_ball, dist_lineMap_left, Real.norm_of_nonneg ht, dist_comm] at hball
  by_contra hlt
  have hdist := mul_le_mul_of_nonneg_right (not_le.mp hlt).le (dist_nonneg (x := a) (y := x))
  linarith

theorem Arms.opposite (h : Arms chain x a b) (hflat : cross x a b = 0) :
    ∃ s : ℝ, s < 0 ∧ b = lineMap x a s := by
  obtain ⟨s, hs⟩ := exists_lineMap_of_cross_eq_zero h.left_ne.symm hflat
  refine ⟨s, ?_, hs⟩
  by_contra hnonneg
  rw [not_lt] at hnonneg
  rcases hnonneg.eq_or_lt with hzero | hpos
  · rw [← hzero, lineMap_apply_zero] at hs
    exact h.right_ne hs
  · -- the nearer of the two ends is on both ways
    rcases le_total s 1 with hle | hge
    · have hb : b ∈ segment ℝ x a := mem_segment_iff.mpr ⟨s, hnonneg, hle, hs⟩
      exact h.right_ne (h.meet b hb (right_mem_segment ℝ x b))
    · have ha : a ∈ segment ℝ x b := by
        refine mem_segment_iff.mpr ⟨s⁻¹, inv_nonneg.mpr hnonneg, inv_le_one_of_one_le₀ hge, ?_⟩
        refine Prod.ext ?_ ?_
        · rw [hs, lineMap_fst, lineMap_fst]
          field_simp
          ring
        · rw [hs, lineMap_snd, lineMap_snd]
          field_simp
          ring
      exact h.left_ne (h.meet a (right_mem_segment ℝ x a) ha)

/-! ### Sectors -/

/-- The points from the way to `a` around to the left, up to the way to `b`. -/
def between (x a b : ℝ × ℝ) : Set (ℝ × ℝ) := {p | 0 < cross x a p ∧ cross x b p < 0}

/-- The points from the way to `b` around to the left, up to the way to `a`. -/
def beyond (x a b : ℝ × ℝ) : Set (ℝ × ℝ) := {p | cross x a p < 0 ∨ 0 < cross x b p}

theorem convex_left (a b : ℝ × ℝ) : Convex ℝ {p | 0 < cross a b p} :=
  convex_iff_segment_subset.mpr fun _ hp _ hu _ hv => cross_pos_of_mem_segment hp hu hv

theorem convex_right (a b : ℝ × ℝ) : Convex ℝ {p | cross a b p < 0} :=
  convex_iff_segment_subset.mpr fun _ hp _ hu _ hv => cross_neg_of_mem_segment hp hu hv

theorem continuous_cross (a b : ℝ × ℝ) : Continuous (cross a b) := by
  unfold cross
  fun_prop

theorem exists_near (x y : ℝ × ℝ) {r : ℝ} (hr : 0 < r) :
    ∃ t : ℝ, 0 < t ∧ t < 1 ∧ lineMap x y t ∈ Metric.ball x r := by
  have hdist : 0 ≤ dist x y := dist_nonneg
  refine ⟨r / (2 * (r + dist x y)), by positivity, ?_, ?_⟩
  · rw [div_lt_one (by positivity)]
    linarith
  · rw [Metric.mem_ball, dist_lineMap_left, Real.norm_of_nonneg (by positivity), div_mul_eq_mul_div,
      div_lt_iff₀ (by positivity)]
    nlinarith [mul_nonneg hr.le hdist, mul_pos hr hr]

theorem between_free {p : ℝ × ℝ} (hp : p ∈ between x a b) : p ∉ segment ℝ x a ∧ p ∉ segment ℝ x b := by
  constructor
  · intro hmem
    exact hp.1.ne' (cross_eq_zero_of_mem_segment hmem)
  · intro hmem
    exact hp.2.ne (cross_eq_zero_of_mem_segment hmem)

theorem beyond_free (hturn : 0 ≤ cross x a b) {p : ℝ × ℝ} (hp : p ∈ beyond x a b) :
    p ∉ segment ℝ x a ∧ p ∉ segment ℝ x b := by
  constructor
  · intro hmem
    rcases hp with hleft | hright
    · exact hleft.ne (cross_eq_zero_of_mem_segment hmem)
    · obtain ⟨t, ht, -, rfl⟩ := mem_segment_iff.mp hmem
      rw [cross_lineMap, cross_left, cross_swap_right] at hright
      have hpos := mul_nonneg ht hturn
      linarith
  · intro hmem
    rcases hp with hleft | hright
    · obtain ⟨t, ht, -, rfl⟩ := mem_segment_iff.mp hmem
      rw [cross_lineMap, cross_left] at hleft
      have hpos := mul_nonneg ht hturn
      linarith
    · exact hright.ne' (cross_eq_zero_of_mem_segment hmem)

theorem Arms.sectors (h : Arms chain x a b) (hturn : 0 ≤ cross x a b) :
    ∃ r > 0, ∀ p ∈ Metric.ball x r, ¬OnChain chain p ↔ p ∈ between x a b ∨ p ∈ beyond x a b := by
  obtain ⟨ε, hε, hnear⟩ := Metric.mem_nhds_iff.mp h.near
  have hdista : 0 < dist a x := dist_pos.mpr h.left_ne
  have hdistb : 0 < dist b x := dist_pos.mpr h.right_ne
  refine ⟨min ε (min (dist a x) (dist b x)), lt_min hε (lt_min hdista hdistb), fun p hp => ?_⟩
  set r := min ε (min (dist a x) (dist b x))
  have hra : r ≤ dist a x := (min_le_right _ _).trans (min_le_left _ _)
  have hrb : r ≤ dist b x := (min_le_right _ _).trans (min_le_right _ _)
  constructor
  · intro hoff
    by_contra hneither
    rw [not_or] at hneither
    obtain ⟨hbetween, hbeyond⟩ := hneither
    have hleft : 0 ≤ cross x a p := not_lt.mp fun hlt => hbeyond (Or.inl hlt)
    have hright : cross x b p ≤ 0 := not_lt.mp fun hlt => hbeyond (Or.inr hlt)
    have hline : cross x a p = 0 ∨ cross x b p = 0 := by
      by_contra hboth
      rw [not_or] at hboth
      exact hbetween ⟨lt_of_le_of_ne hleft (Ne.symm hboth.1), lt_of_le_of_ne hright hboth.2⟩
    -- a point of the line through an arm is on that arm, or the arms are opposite and it is on the other
    have honline : ∀ {a b : ℝ × ℝ}, Arms chain x a b → r ≤ dist a x → r ≤ dist b x → cross x a p = 0 →
        0 ≤ cross x a b * cross x p b → False := by
      intro a b harms hra hrb hzero hsame
      obtain ⟨t, rfl⟩ := exists_lineMap_of_cross_eq_zero harms.left_ne.symm hzero
      rcases le_or_gt 0 t with hnonneg | hneg
      · exact hoff (harms.left_on _ (lineMap_mem_segment hnonneg hp hra))
      · have hcross : cross x (lineMap x a t) b = t * cross x a b := by
          have hpart := cross_of_lineMap x a b 0 t
          rwa [lineMap_apply_zero, sub_zero] at hpart
        rw [hcross] at hsame
        have hflat : cross x a b = 0 := by
          by_contra hne
          have hsquare := mul_pos_of_neg_of_neg hneg (neg_lt_zero.mpr (mul_self_pos.mpr hne))
          linarith
        obtain ⟨s, hs, rfl⟩ := harms.opposite hflat
        have hsame : lineMap x a t = lineMap x (lineMap x a s : ℝ × ℝ) (t / s) := by
          refine Prod.ext ?_ ?_
          · rw [lineMap_fst, lineMap_fst, lineMap_fst]
            field_simp [hs.ne]
            ring
          · rw [lineMap_snd, lineMap_snd, lineMap_snd]
            field_simp [hs.ne]
            ring
        rw [hsame] at hp hoff
        exact hoff (harms.right_on _ (lineMap_mem_segment (div_nonneg_of_nonpos hneg.le hs.le) hp hrb))
    rcases hline with hzero | hzero
    · refine honline h hra hrb hzero ?_
      rw [cross_swap_right x b p, mul_neg, ← mul_neg]
      exact mul_nonneg hturn (neg_nonneg.mpr hright)
    · refine honline h.symm hrb hra hzero ?_
      rw [cross_swap_right x a b, cross_swap_right x a p, neg_mul_neg]
      exact mul_nonneg hturn hleft
  · intro hsector hon
    have harm := hnear (Metric.ball_subset_ball (min_le_left _ _) hp) hon
    rcases hsector with hin | hout
    · exact harm.elim (between_free hin).1 (between_free hin).2
    · exact harm.elim (beyond_free hturn hout).1 (beyond_free hturn hout).2

/-- What does not change on convex sets of free points. -/
def Steady (free : Set (ℝ × ℝ)) (g : ℝ × ℝ → Bool) : Prop :=
  ∀ V : Set (ℝ × ℝ), Convex ℝ V → V ⊆ free → ∀ p ∈ V, ∀ u ∈ V, g p = g u

theorem steady_inside (chain : List (ℝ × ℝ)) : Steady {p | ¬OnChain chain p} (inside chain) :=
  fun _ hV hfree _ hp _ hu => inside_eq_of_convex hV hfree hp hu

section Sectors

variable {g : ℝ × ℝ → Bool} {free : Set (ℝ × ℝ)} {r : ℝ}

theorem between_steady (hg : Steady free g) (hfree : between x a b ∩ Metric.ball x r ⊆ free)
    (hp : p ∈ between x a b ∩ Metric.ball x r) (hu : u ∈ between x a b ∩ Metric.ball x r) : g p = g u :=
  hg _ (((convex_left x a).inter (convex_right x b)).inter (convex_ball x r)) hfree p hp u hu

theorem Arms.exists_overlap (h : Arms chain x a b) (hturn : 0 ≤ cross x a b) (hr : 0 < r) :
    ∃ q ∈ Metric.ball x r, cross x a q < 0 ∧ 0 < cross x b q := by
  rcases hturn.eq_or_lt with hflat | hpos
  · obtain ⟨s, hs, hb⟩ := h.opposite hflat.symm
    obtain ⟨t, ht0, ht1, hm⟩ := exists_near x a hr
    have hopen : lineMap x a t ∈ openSegment ℝ x a := by
      rw [openSegment_eq_image_lineMap]
      exact ⟨t, ⟨ht0, ht1⟩, rfl⟩
    obtain ⟨-, -, q, hq, -, hneg, -⟩ := h.left_banks _ hopen _ (Metric.isOpen_ball.mem_nhds hm)
    refine ⟨q, hq, hneg, ?_⟩
    have hpart := cross_of_lineMap x a q 0 s
    rw [lineMap_apply_zero, sub_zero, ← hb] at hpart
    rw [hpart]
    exact mul_pos_of_neg_of_neg hs hneg
  · -- away from both ends
    set y : ℝ × ℝ := (3 * x.1 - a.1 - b.1, 3 * x.2 - a.2 - b.2) with hy
    obtain ⟨t, ht, -, hq⟩ := exists_near x y hr
    refine ⟨_, hq, ?_, ?_⟩
    · have harea : cross x a y = -cross x a b := by
        simp only [cross, hy]
        ring
      rw [cross_lineMap, cross_left, harea]
      have hmul := mul_pos ht hpos
      linarith
    · have harea : cross x b y = cross x a b := by
        simp only [cross, hy]
        ring
      rw [cross_lineMap, cross_left, harea]
      have hmul := mul_pos ht hpos
      linarith

theorem Arms.beyond_steady (h : Arms chain x a b) (hturn : 0 ≤ cross x a b) (hr : 0 < r)
    (hg : Steady free g) (hfree : beyond x a b ∩ Metric.ball x r ⊆ free)
    (hp : p ∈ beyond x a b ∩ Metric.ball x r) (hu : u ∈ beyond x a b ∩ Metric.ball x r) : g p = g u := by
  obtain ⟨q, hq, hleft, hright⟩ := h.exists_overlap hturn hr
  have hsame : ∀ p ∈ beyond x a b ∩ Metric.ball x r, g p = g q := by
    rintro p ⟨hside | hside, hball⟩
    · refine hg _ ((convex_right x a).inter (convex_ball x r)) ?_ p ⟨hside, hball⟩ q ⟨hleft, hq⟩
      exact fun w hw => hfree ⟨Or.inl hw.1, hw.2⟩
    · refine hg _ ((convex_left x b).inter (convex_ball x r)) ?_ p ⟨hside, hball⟩ q ⟨hright, hq⟩
      exact fun w hw => hfree ⟨Or.inr hw.1, hw.2⟩
  rw [hsame p hp, hsame u hu]

theorem Arms.sectors_differ (h : Arms chain x a b) (hturn : 0 ≤ cross x a b) (hr : 0 < r) :
    ∃ p ∈ between x a b ∩ Metric.ball x r, ∃ u ∈ beyond x a b ∩ Metric.ball x r,
      inside chain p ≠ inside chain u := by
  obtain ⟨t, ht0, ht1, hm⟩ := exists_near x a hr
  set m : ℝ × ℝ := lineMap x a t with hmdef
  have hopen : m ∈ openSegment ℝ x a := by
    rw [openSegment_eq_image_lineMap]
    exact ⟨t, ⟨ht0, ht1⟩, rfl⟩
  have hball : Metric.ball x r ∈ 𝓝 m := Metric.isOpen_ball.mem_nhds hm
  rcases hturn.eq_or_lt with hflat | hpos
  · obtain ⟨s, hs, hb⟩ := h.opposite hflat.symm
    obtain ⟨p, hp, u, hu, hleft, hright, -, -, hne⟩ := h.left_banks m hopen _ hball
    refine ⟨p, ⟨⟨hleft, ?_⟩, hp⟩, u, ⟨Or.inl hright, hu⟩, hne⟩
    have hpart := cross_of_lineMap x a p 0 s
    rw [lineMap_apply_zero, sub_zero, ← hb] at hpart
    rw [hpart]
    exact mul_neg_of_neg_of_pos hs hleft
  · have hbefore : {p | cross x b p < 0} ∈ 𝓝 m := by
      refine (isOpen_lt (continuous_cross x b) continuous_const).mem_nhds ?_
      change cross x b m < 0
      rw [hmdef, cross_lineMap, cross_left, cross_swap_right x a b]
      have hmul := mul_pos ht0 hpos
      linarith
    obtain ⟨p, hp, u, hu, hleft, hright, -, -, hne⟩ :=
      h.left_banks m hopen _ (Filter.inter_mem hball hbefore)
    exact ⟨p, ⟨⟨hleft, hp.2⟩, hp.1⟩, u, ⟨Or.inl hright, hu.1⟩, hne⟩

/-- **Near a point of the chain, a part is a single sector**: what is steady on a part does not change on it
    there. -/
theorem Arms.part_steady (h : Arms chain x a b) {value : Bool} (hg : Steady (part chain value) g) :
    ∃ r > 0, ∀ p ∈ Metric.ball x r ∩ part chain value, ∀ u ∈ Metric.ball x r ∩ part chain value,
      g p = g u := by
  have hwlog : ∀ {a b : ℝ × ℝ}, Arms chain x a b → 0 ≤ cross x a b →
      ∃ r > 0, ∀ p ∈ Metric.ball x r ∩ part chain value, ∀ u ∈ Metric.ball x r ∩ part chain value,
        g p = g u := by
    intro a b h hturn
    obtain ⟨r, hr, hsectors⟩ := h.sectors hturn
    obtain ⟨p₀, hp₀, u₀, hu₀, hne⟩ := h.sectors_differ hturn hr
    have hbetween : between x a b ∩ Metric.ball x r ⊆ {p | ¬OnChain chain p} :=
      fun w hw => (hsectors w hw.2).mpr (Or.inl hw.1)
    have hbeyond : beyond x a b ∩ Metric.ball x r ⊆ {p | ¬OnChain chain p} :=
      fun w hw => (hsectors w hw.2).mpr (Or.inr hw.1)
    have hparity : ∀ w ∈ between x a b ∩ Metric.ball x r, inside chain w = inside chain p₀ :=
      fun w hw => between_steady (steady_inside chain) hbetween hw hp₀
    have hparity' : ∀ w ∈ beyond x a b ∩ Metric.ball x r, inside chain w = inside chain u₀ :=
      fun w hw => h.beyond_steady hturn hr (steady_inside chain) hbeyond hw hu₀
    refine ⟨r, hr, ?_⟩
    rintro p ⟨hp, hpoff, hpvalue⟩ u ⟨hu, huoff, huvalue⟩
    -- both are in the one sector with the value
    rcases (hsectors p hp).mp hpoff with hpin | hpout
    · have hvalue : inside chain p₀ = value := by rw [← hparity p ⟨hpin, hp⟩, hpvalue]
      rcases (hsectors u hu).mp huoff with huin | huout
      · refine between_steady hg (fun w hw => ⟨hbetween hw, ?_⟩) ⟨hpin, hp⟩ ⟨huin, hu⟩
        rw [hparity w hw, hvalue]
      · exact absurd (by rw [hvalue, ← huvalue, hparity' u ⟨huout, hu⟩]) hne
    · have hvalue : inside chain u₀ = value := by rw [← hparity' p ⟨hpout, hp⟩, hpvalue]
      rcases (hsectors u hu).mp huoff with huin | huout
      · exact absurd (by rw [hvalue, ← huvalue, hparity u ⟨huin, hu⟩]) hne
      · refine h.beyond_steady hturn hr hg (fun w hw => ⟨hbeyond hw, ?_⟩) ⟨hpout, hp⟩ ⟨huout, hu⟩
        rw [hparity' w hw, hvalue]
  rcases le_total 0 (cross x a b) with hturn | hturn
  · exact hwlog h hturn
  · refine hwlog h.symm ?_
    rw [cross_swap_right x a b]
    exact neg_nonneg.mpr hturn

end Sectors

theorem Arms.exists_mem_part (h : Arms chain x a b) (value : Bool) (hW : W ∈ 𝓝 x) :
    ∃ p ∈ W, p ∈ part chain value := by
  obtain ⟨r, hr, hball⟩ := Metric.mem_nhds_iff.mp hW
  obtain ⟨t, ht0, ht1, hm⟩ := exists_near x a hr
  have hopen : lineMap x a t ∈ openSegment ℝ x a := by
    rw [openSegment_eq_image_lineMap]
    exact ⟨t, ⟨ht0, ht1⟩, rfl⟩
  obtain ⟨p, hp, u, hu, -, -, hpoff, huoff, hne⟩ :=
    h.left_banks _ hopen _ (Metric.isOpen_ball.mem_nhds hm)
  by_cases hvalue : inside chain p = value
  · exact ⟨p, hball hp, hpoff, hvalue⟩
  · refine ⟨u, hball hu, huoff, ?_⟩
    revert hne hvalue
    cases inside chain p <;> cases inside chain u <;> cases value <;> decide

/-! ### Simple chains -/

theorem eventually_side (chain : List (ℝ × ℝ)) (x : ℝ × ℝ) :
    ∀ᶠ p in 𝓝 x, ∀ i ∈ Finset.range chain.length, p ∈ side chain i → x ∈ side chain i := by
  rw [Filter.eventually_all_finset]
  intro i _
  by_cases hx : x ∈ side chain i
  · exact Filter.Eventually.of_forall fun _ _ => hx
  · have hopen : IsOpen (side chain i)ᶜ := (isClosed_segment _ _).isOpen_compl
    have hoff : ∀ᶠ p in 𝓝 x, p ∈ (side chain i)ᶜ := hopen.mem_nhds hx
    exact hoff.mono fun p hp hmem => absurd hmem hp

theorem Simple.banks (h : Simple chain) (k : ℕ) {s t : ℝ} (hs0 : 0 ≤ s) (hs1 : s ≤ 1) (ht0 : 0 ≤ t)
    (ht1 : t ≤ 1) (hne : s ≠ t) :
    Banks chain (lineMap (corner chain k) (corner chain (k + 1)) s)
      (lineMap (corner chain k) (corner chain (k + 1)) t) := by
  intro m hm W hW
  have hlt : k % chain.length < chain.length := Nat.mod_lt _ (List.length_pos_iff.mpr h.ne_nil)
  have hnext : corner chain (k % chain.length + 1) = corner chain (k + 1) := by
    rw [← corner_mod, Nat.mod_add_mod, corner_mod]
  rw [openSegment_eq_image_lineMap] at hm
  obtain ⟨τ, ⟨hτ0, hτ1⟩, rfl⟩ := hm
  rw [lineMap_between] at hW
  have hopen : lineMap (corner chain k) (corner chain (k + 1)) (s + τ * (t - s)) ∈
      openSegment ℝ (corner chain k) (corner chain (k + 1)) := by
    rw [openSegment_eq_image_lineMap]
    refine ⟨_, ⟨?_, ?_⟩, rfl⟩
    · rcases lt_or_gt_of_ne hne with hlt | hgt
      · nlinarith [mul_pos hτ0 (sub_pos.mpr hlt)]
      · nlinarith [mul_pos (sub_pos.mpr hτ1) (sub_pos.mpr hgt)]
    · rcases lt_or_gt_of_ne hne with hlt | hgt
      · nlinarith [mul_pos (sub_pos.mpr hτ1) (sub_pos.mpr hlt)]
      · nlinarith [mul_pos hτ0 (sub_pos.mpr hgt)]
  have hbanks := h.exists_banks hlt (x := lineMap (corner chain k) (corner chain (k + 1)) (s + τ * (t - s)))
    (W := W) (by rw [corner_mod, hnext]; exact hopen) hW
  rw [corner_mod, hnext] at hbanks
  obtain ⟨p, hp, u, hu, hleft, hright, hpoff, huoff, hparity⟩ := hbanks
  simp only [cross_of_lineMap]
  rcases lt_or_gt_of_ne hne with hlt | hgt
  · have hpos := sub_pos.mpr hlt
    exact ⟨p, hp, u, hu, mul_pos hpos hleft, mul_neg_of_pos_of_neg hpos hright, hpoff, huoff, hparity⟩
  · have hneg := sub_neg.mpr hgt
    exact ⟨u, hu, p, hp, mul_pos_of_neg_of_neg hneg hright, mul_neg_of_neg_of_pos hneg hleft, huoff, hpoff,
      hparity.symm⟩

theorem Simple.arms_of_open (h : Simple chain) (hk : k < chain.length)
    (hx : x ∈ openSegment ℝ (corner chain k) (corner chain (k + 1))) :
    Arms chain x (corner chain k) (corner chain (k + 1)) := by
  have hside : x ∈ side chain k := openSegment_subset_segment ℝ _ _ hx
  have hon : ∀ p ∈ side chain k, OnChain chain p := fun p hp => onChain_iff.mpr ⟨k, hk, hp⟩
  have honly : ∀ i < chain.length, x ∈ side chain i → i = k := by
    intro i hi hxi
    by_contra hne
    exact h.notMem_side hk hi (Ne.symm hne) hx hxi
  have hconvex : Convex ℝ (side chain k) := convex_segment _ _
  have hproper := h.proper k
  rw [openSegment_eq_image_lineMap] at hx
  obtain ⟨s, ⟨hs0, hs1⟩, rfl⟩ := hx
  set a := corner chain k with ha
  set b := corner chain (k + 1) with hb
  have hinj := AffineMap.lineMap_injective ℝ hproper
  have hleft : lineMap a b (0 : ℝ) = a := lineMap_apply_zero a b
  have hright : lineMap a b (1 : ℝ) = b := lineMap_apply_one a b
  refine
    { left_ne := ?_, right_ne := ?_, meet := ?_, near := ?_, left_on := ?_, right_on := ?_,
      left_banks := ?_, right_banks := ?_ }
  · intro heq
    exact hs0.ne (hinj (hleft.trans heq))
  · intro heq
    exact hs1.ne' (hinj (hright.trans heq))
  · intro p hpa hpb
    obtain ⟨τ, hτ0, hτ1, rfl⟩ := mem_segment_iff.mp hpa
    obtain ⟨τ', hτ0', hτ1', heq⟩ := mem_segment_iff.mp hpb
    rw [lineMap_back, lineMap_onwards] at heq
    have hparam := hinj heq
    have hback := mul_nonneg hτ0 hs0.le
    have honwards := mul_nonneg hτ0' (sub_pos.mpr hs1).le
    have hzero : τ * s = 0 := by linarith
    rw [lineMap_back, hzero, sub_zero]
  · refine (eventually_side chain _).mono fun p hp hpon => ?_
    obtain ⟨i, hi, hpi⟩ := onChain_iff.mp hpon
    obtain rfl := honly i hi (hp i (Finset.mem_range.mpr hi) hpi)
    obtain ⟨t, ht0, ht1, rfl⟩ := mem_segment_iff.mp hpi
    rcases le_total t s with hle | hge
    · refine Or.inl (mem_segment_iff.mpr ⟨(s - t) / s, div_nonneg (sub_nonneg.mpr hle) hs0.le, ?_, ?_⟩)
      · rw [div_le_one hs0]
        linarith
      · rw [lineMap_back, div_mul_cancel₀ _ hs0.ne', sub_sub_cancel]
    · have hpos : 0 < 1 - s := sub_pos.mpr hs1
      refine Or.inr (mem_segment_iff.mpr ⟨(t - s) / (1 - s), div_nonneg (sub_nonneg.mpr hge) hpos.le, ?_, ?_⟩)
      · rw [div_le_one hpos]
        linarith
      · rw [lineMap_onwards, div_mul_cancel₀ _ hpos.ne', add_sub_cancel]
  · exact fun p hp => hon p (hconvex.segment_subset hside (left_mem_segment ℝ a b) hp)
  · exact fun p hp => hon p (hconvex.segment_subset hside (right_mem_segment ℝ a b) hp)
  · have hbanks := h.banks k hs0.le hs1.le le_rfl zero_le_one hs0.ne'
    rwa [hleft] at hbanks
  · have hbanks := h.banks k hs0.le hs1.le zero_le_one le_rfl hs1.ne
    rwa [hright] at hbanks

theorem Simple.arms_of_corner (h : Simple chain) (k : ℕ) :
    Arms chain (corner chain (k + 1)) (corner chain k) (corner chain (k + 2)) := by
  have hon : ∀ j, ∀ p ∈ side chain j, OnChain chain p := fun j p hp => onChain_of_side h.ne_nil j hp
  have hbefore : segment ℝ (corner chain (k + 1)) (corner chain k) = side chain k := segment_symm ℝ _ _
  have hbehind : segment ℝ (corner chain (k + 1)) (corner chain (k + 2)) = side chain (k + 1) := rfl
  have hpos : 0 < chain.length := List.length_pos_iff.mpr h.ne_nil
  have hcorner : corner chain (k + 1) ∈ side chain k := right_mem_segment ℝ _ _
  -- no other side goes through the corner
  have honly : ∀ i < chain.length, corner chain (k + 1) ∈ side chain i →
      side chain i = side chain k ∨ side chain i = side chain (k + 1) := by
    intro i hi hmem
    by_contra hneither
    rw [not_or] at hneither
    have hne : i ≠ k % chain.length := by
      intro heq
      exact hneither.1 (by rw [heq, side_mod])
    rcases side_cases hi (Nat.mod_lt k hpos) hne with hnext | hprev | hapart | hapart
    · have hjoined := h.joined i _ hmem (by rw [← side_mod chain (i + 1), ← hnext, side_mod]; exact hcorner)
      have hsame : corner chain (i + 1) = corner chain k := by
        rw [← corner_mod chain (i + 1), ← hnext, corner_mod]
      exact h.proper k (hjoined.trans hsame).symm
    · refine hneither.2 ?_
      rw [hprev, side_mod, ← side_mod, Nat.mod_add_mod, side_mod]
    · refine h.apart _ _ hapart _ hmem ?_
      rw [side_mod]
      exact hcorner
    · refine h.apart _ _ hapart _ ?_ hmem
      rw [side_mod]
      exact hcorner
  refine
    { left_ne := h.proper k, right_ne := (h.proper (k + 1)).symm, meet := ?_, near := ?_, left_on := ?_,
      right_on := ?_, left_banks := ?_, right_banks := ?_ }
  · intro p hpa hpb
    rw [hbefore] at hpa
    exact h.joined k p hpa hpb
  · refine (eventually_side chain _).mono fun p hp hpon => ?_
    obtain ⟨i, hi, hpi⟩ := onChain_iff.mp hpon
    rw [hbefore, hbehind]
    rcases honly i hi (hp i (Finset.mem_range.mpr hi) hpi) with heq | heq
    · exact Or.inl (heq ▸ hpi)
    · exact Or.inr (heq ▸ hpi)
  · intro p hp
    rw [hbefore] at hp
    exact hon k p hp
  · exact fun p hp => hon (k + 1) p hp
  · have hbanks := h.banks k zero_le_one le_rfl le_rfl zero_le_one (one_ne_zero (α := ℝ))
    rwa [lineMap_apply_zero, lineMap_apply_one] at hbanks
  · have hbanks := h.banks (k + 1) le_rfl zero_le_one zero_le_one le_rfl (zero_ne_one (α := ℝ))
    rwa [lineMap_apply_zero, lineMap_apply_one] at hbanks

theorem Simple.exists_arms (h : Simple chain) (hx : OnChain chain x) : ∃ a b, Arms chain x a b := by
  obtain ⟨k, hk, hxk⟩ := onChain_iff.mp hx
  by_cases hleft : x = corner chain k
  · -- the corner `k` is behind the corner before it
    have hpos : 0 < chain.length := List.length_pos_iff.mpr h.ne_nil
    have hsum : k + (chain.length - 1) + 1 = k + chain.length := by omega
    have harms := h.arms_of_corner (k + (chain.length - 1))
    rw [hsum, corner_add_length, ← hleft] at harms
    exact ⟨_, _, harms⟩
  · by_cases hright : x = corner chain (k + 1)
    · rw [hright]
      exact ⟨_, _, h.arms_of_corner k⟩
    · exact ⟨_, _, h.arms_of_open hk (mem_openSegment_of_ne_left_right (Ne.symm hleft) (Ne.symm hright) hxk)⟩

/-! ## To the right of a chain -/

theorem inside_of_right (hp : ∀ v ∈ chain, v.1 ≤ p.1) : inside chain p = false := by
  refine oddly_eq_false fun e he => ?_
  rw [edges_eq_map] at he
  obtain ⟨k, hk, rfl⟩ := List.mem_map.mp he
  have hne : chain ≠ [] := by
    rintro rfl
    exact absurd hk List.not_mem_nil
  set a := corner chain (k + (chain.length - 1))
  set b := corner chain (k + (chain.length - 1) + 1)
  have ha : a.1 ≤ p.1 := hp _ (corner_mem hne _)
  have hb : b.1 ≤ p.1 := hp _ (corner_mem hne _)
  by_contra hhit
  rw [Bool.not_eq_false, hit, Bool.and_eq_true, decide_eq_true_iff] at hhit
  obtain ⟨hlevel, hlt⟩ := hhit
  -- the meeting point lies between the corners
  have hmeet : (a.1 - b.1) * (p.2 - b.2) / (a.2 - b.2) + b.1 ≤ p.1 := by
    by_cases hpa : p.2 < a.2
    · by_cases hpb : p.2 < b.2
      · rw [decide_eq_true hpa, decide_eq_true hpb] at hlevel
        exact absurd hlevel (by decide)
      · have hpos : 0 < a.2 - b.2 := by linarith
        rw [div_add' _ _ _ hpos.ne', div_le_iff₀ hpos]
        nlinarith
    · by_cases hpb : p.2 < b.2
      · have hpos : a.2 - b.2 < 0 := by linarith
        rw [div_add' _ _ _ hpos.ne, div_le_iff_of_neg hpos]
        nlinarith
      · rw [decide_eq_false hpa, decide_eq_false hpb] at hlevel
        exact absurd hlevel (by decide)
  exact absurd hlt hmeet.not_gt

theorem le_of_onChain {bound : ℝ} (hbound : ∀ v ∈ chain, v.1 ≤ bound) (hp : OnChain chain p) : p.1 ≤ bound := by
  obtain ⟨k, hk, hpk⟩ := onChain_iff.mp hp
  have hne : chain ≠ [] := List.length_pos_iff.mp (Nat.zero_lt_of_lt hk)
  obtain ⟨t, ht0, ht1, rfl⟩ := mem_segment_iff.mp hpk
  have hfirst := hbound _ (corner_mem hne k)
  have hsecond := hbound _ (corner_mem hne (k + 1))
  rw [lineMap_fst]
  nlinarith

theorem le_of_mem_region {bound : ℝ} (hbound : ∀ v ∈ chain, v.1 ≤ bound) (hp : p ∈ region chain) :
    p.1 ≤ bound := by
  by_contra hlt
  rcases hp with hon | hinside
  · exact hlt (le_of_onChain hbound hon)
  · rw [inside_of_right fun v hv => (hbound v hv).trans (not_le.mp hlt).le] at hinside
    exact nomatch hinside

/-! ## Chains in the region of a simple chain -/

theorem isPreconnected_onChain (h : chain ≠ []) : IsPreconnected {p | OnChain chain p} := by
  have hunion : {p | OnChain chain p} = ⋃ k, side chain k := by
    ext p
    rw [Set.mem_iUnion]
    constructor
    · intro hp
      obtain ⟨k, -, hpk⟩ := onChain_iff.mp hp
      exact ⟨k, hpk⟩
    · rintro ⟨k, hpk⟩
      exact onChain_of_side h k hpk
  rw [hunion]
  refine IsPreconnected.iUnion_of_chain (fun k => (convex_segment _ _).isPreconnected) fun k => ?_
  exact ⟨corner chain (k + 1), right_mem_segment ℝ _ _, left_mem_segment ℝ _ _⟩

theorem isOpen_steady {g : ℝ × ℝ → Bool} {free : Set (ℝ × ℝ)} (hfree : IsOpen free) (hg : Steady free g)
    (value : Bool) : IsOpen {p | p ∈ free ∧ g p = value} := by
  rw [Metric.isOpen_iff]
  rintro p ⟨hp, hvalue⟩
  obtain ⟨r, hr, hball⟩ := Metric.isOpen_iff.mp hfree p hp
  refine ⟨r, hr, fun u hu => ⟨hball hu, ?_⟩⟩
  rw [← hvalue]
  exact hg _ (convex_ball p r) hball u hu p (Metric.mem_ball_self hr)

/-- **What stays in the region of a simple chain encloses nothing outside it.** -/
theorem Simple.region_subset {outer zone : List (ℝ × ℝ)} (h : Simple outer)
    (hzone : ∀ p, OnChain zone p → p ∈ region outer) : region zone ⊆ region outer := by
  intro p hp
  by_contra hpout
  -- the outside of `outer`, with and without what `zone` encloses
  have hmem : ∀ w, w ∉ region outer ↔ w ∈ part outer false := by
    intro w
    unfold region part
    rw [Set.mem_ofPred_eq, Set.mem_ofPred_eq, not_or, Bool.not_eq_true]
  have hg : Steady (part outer false) (inside zone) := by
    intro V hV hfree p hp u hu
    exact inside_eq_of_convex hV (fun w hw hon => (hmem w).mpr (hfree hw) (hzone w hon)) hp hu
  set enclosed : Set (ℝ × ℝ) := {w | w ∈ part outer false ∧ inside zone w = true} with henclosed
  set free : Set (ℝ × ℝ) := {w | w ∈ part outer false ∧ inside zone w = false} with hfree
  have hopen : IsOpen enclosed := isOpen_steady (isOpen_part outer false) hg true
  have hopen' : IsOpen free := isOpen_steady (isOpen_part outer false) hg false
  have hpenclosed : p ∈ enclosed :=
    ⟨(hmem p).mp hpout, hp.resolve_left fun hon => hpout (hzone p hon)⟩
  -- the chain borders on what is free, at its rightmost corner
  obtain ⟨k, -, hmax⟩ := Finset.exists_max_image (Finset.range outer.length) (fun k => (corner outer k).1)
    ⟨0, Finset.mem_range.mpr (List.length_pos_iff.mpr h.ne_nil)⟩
  set v := corner outer k with hv
  have hbound : ∀ w ∈ outer, w.1 ≤ v.1 := by
    intro w hw
    obtain ⟨j, hj, rfl⟩ := exists_corner hw
    exact hmax j (Finset.mem_range.mpr hj)
  have hright : ∀ w : ℝ × ℝ, v.1 < w.1 → w ∈ free := by
    intro w hw
    refine ⟨(hmem w).mp fun hin => hw.not_ge (le_of_mem_region hbound hin), inside_of_right ?_⟩
    intro z hz
    exact (le_of_mem_region hbound (hzone z (onChain_of_mem hz))).trans hw.le
  have hvfree : v ∈ closure free := by
    refine mem_closure_iff_nhds.mpr fun W hW => ?_
    obtain ⟨r, hr, hball⟩ := Metric.mem_nhds_iff.mp hW
    obtain ⟨t, ht, -, hq⟩ := exists_near v (v.1 + 1, v.2) hr
    refine ⟨_, hball hq, hright _ ?_⟩
    rw [lineMap_fst]
    linarith
  have hvon : OnChain outer v := onChain_of_side h.ne_nil k (left_mem_segment ℝ _ _)
  -- it borders on what is enclosed, too
  have hborder : ∃ y, OnChain outer y ∧ y ∈ closure enclosed := by
    have hfrontier : (frontier enclosed).Nonempty := by
      rw [Set.nonempty_iff_ne_empty]
      intro hempty
      rcases isClopen_iff.mp (isClopen_iff_frontier_eq_empty.mpr hempty) with hnone | hall
      · rw [hnone] at hpenclosed
        exact hpenclosed
      · have hw := hright (v.1 + 1, v.2) (by dsimp only; linarith)
        have hw' : ((v.1 + 1, v.2) : ℝ × ℝ) ∈ enclosed := hall ▸ Set.mem_univ _
        exact nomatch hw.2.symm.trans hw'.2
    obtain ⟨y, hy, hynot⟩ := hfrontier
    rw [hopen.interior_eq] at hynot
    refine ⟨y, ?_, hy⟩
    by_contra hoff
    have hdisjoint : ∀ S : Set (ℝ × ℝ), IsOpen S → y ∈ S → (∀ w ∈ S, w ∉ enclosed) → False := by
      intro S hS hyS hnone
      obtain ⟨w, hw, hwe⟩ := mem_closure_iff_nhds.mp hy S (hS.mem_nhds hyS)
      exact hnone w hw hwe
    cases hin : inside outer y with
    | true =>
      refine hdisjoint _ (isOpen_part outer true) ⟨hoff, hin⟩ fun w hw hwe => ?_
      exact nomatch hw.2.symm.trans hwe.1.2
    | false =>
      cases hin' : inside zone y with
      | true => exact hynot ⟨⟨hoff, hin⟩, hin'⟩
      | false =>
        refine hdisjoint _ hopen' ⟨⟨hoff, hin⟩, hin'⟩ fun w hw hwe => ?_
        exact nomatch hw.2.symm.trans hwe.2
  -- so somewhere along the chain it borders on both, but a part is a single sector there
  have hcover : {w | OnChain outer w} ⊆ closure enclosed ∪ closure free := by
    intro x hx
    obtain ⟨a, b, harms⟩ := h.exists_arms hx
    rw [← closure_union, mem_closure_iff_nhds]
    intro W hW
    obtain ⟨w, hw, hwpart⟩ := harms.exists_mem_part false hW
    refine ⟨w, hw, ?_⟩
    cases hin : inside zone w with
    | true => exact Or.inl ⟨hwpart, hin⟩
    | false => exact Or.inr ⟨hwpart, hin⟩
  obtain ⟨y, hyon, hyenclosed⟩ := hborder
  obtain ⟨x, hxon, hxenclosed, hxfree⟩ := isPreconnected_closed_iff.mp (isPreconnected_onChain h.ne_nil)
    _ _ isClosed_closure isClosed_closure hcover ⟨y, hyon, hyenclosed⟩ ⟨v, hvon, hvfree⟩
  obtain ⟨a, b, harms⟩ := h.exists_arms hxon
  obtain ⟨r, hr, hsame⟩ := harms.part_steady hg
  obtain ⟨w, hw, hwe⟩ := mem_closure_iff_nhds.mp hxenclosed _ (Metric.ball_mem_nhds x hr)
  obtain ⟨w', hw', hwf⟩ := mem_closure_iff_nhds.mp hxfree _ (Metric.ball_mem_nhds x hr)
  have heq := hsame w ⟨hw, hwe.1⟩ w' ⟨hw', hwf.1⟩
  rw [hwe.2, hwf.2] at heq
  exact nomatch heq

/-! ## Segments in a region -/

theorem eventually_onChain {t : ℝ} (hne : chain ≠ []) (ht0 : 0 ≤ t) (ht1 : t ≤ 1)
    (hon : OnChain chain (lineMap a b t)) (hcut : ¬Cut chain a b t) :
    ∀ᶠ s in 𝓝 t, OnChain chain (lineMap a b s) := by
  obtain ⟨k, -, hk⟩ := onChain_iff.mp hon
  set c := corner chain k with hc
  set d := corner chain (k + 1) with hd
  have hcorner : ∀ j, lineMap a b t ≠ corner chain j :=
    fun j hj => hcut ⟨ht0, ht1, Or.inr (Or.inr ⟨j, Or.inl hj⟩)⟩
  have hparallel : cross a b c = cross a b d := by
    by_contra hcross
    exact hcut ⟨ht0, ht1, Or.inr (Or.inr ⟨k, Or.inr ⟨hk, hcross⟩⟩)⟩
  obtain ⟨σ, hσ0, hσ1, hσ⟩ := mem_segment_iff.mp hk
  have hσ0' : 0 < σ := by
    refine lt_of_le_of_ne hσ0 fun hzero => hcorner k ?_
    rw [hσ, ← hzero, lineMap_apply_zero]
  have hσ1' : σ < 1 := by
    refine lt_of_le_of_ne hσ1 fun hone => hcorner (k + 1) ?_
    rw [hσ, hone, lineMap_apply_one]
  have hcd : c ≠ d := by
    intro hcd
    refine hcorner k ?_
    rw [hσ, ← hd, ← hcd, lineMap_same_apply]
  -- a step on the way is a step on the side
  obtain ⟨ρ, hρ⟩ : ∃ ρ : ℝ, ((c.1 + (b.1 - a.1), c.2 + (b.2 - a.2)) : ℝ × ℝ) = lineMap c d ρ := by
    refine exists_lineMap_of_cross_eq_zero hcd ?_
    simp only [cross] at hparallel ⊢
    linear_combination hparallel
  have hfst : b.1 - a.1 = ρ * (d.1 - c.1) := by
    have hcoord := congrArg Prod.fst hρ
    rw [lineMap_fst] at hcoord
    dsimp only at hcoord
    linarith
  have hsnd : b.2 - a.2 = ρ * (d.2 - c.2) := by
    have hcoord := congrArg Prod.snd hρ
    rw [lineMap_snd] at hcoord
    dsimp only at hcoord
    linarith
  have hstep : ∀ s : ℝ, (lineMap a b s : ℝ × ℝ) = lineMap c d (σ + (s - t) * ρ) := by
    intro s
    have hfst' := congrArg Prod.fst hσ
    have hsnd' := congrArg Prod.snd hσ
    rw [lineMap_fst, lineMap_fst] at hfst'
    rw [lineMap_snd, lineMap_snd] at hsnd'
    refine Prod.ext ?_ ?_
    · rw [lineMap_fst, lineMap_fst]
      linear_combination hfst' + (s - t) * hfst
    · rw [lineMap_snd, lineMap_snd]
      linear_combination hsnd' + (s - t) * hsnd
  have hcontinuous : Continuous fun s : ℝ => σ + (s - t) * ρ := by fun_prop
  have hinside : ∀ᶠ s in 𝓝 t, σ + (s - t) * ρ ∈ Set.Ioo (0 : ℝ) 1 := by
    refine hcontinuous.continuousAt.eventually_mem (Ioo_mem_nhds ?_ ?_)
    · rw [sub_self, zero_mul, add_zero]
      exact hσ0'
    · rw [sub_self, zero_mul, add_zero]
      exact hσ1'
  refine hinside.mono fun s hs => ?_
  rw [hstep s]
  exact onChain_of_side hne k (mem_segment_iff.mpr ⟨_, hs.1.le, hs.2.le, rfl⟩)

theorem exists_last_cut {t : ℝ} (hne : chain ≠ []) (ht0 : 0 ≤ t) (ht1 : t ≤ 1)
    (hoff : ¬OnChain chain (lineMap a b t)) :
    ∃ l, Cut chain a b l ∧ l ≤ t ∧ ∀ s, l < s → s ≤ t → ¬OnChain chain (lineMap a b s) := by
  have hcontinuous : Continuous fun s : ℝ => (lineMap a b s : ℝ × ℝ) := lineMap_continuous
  have hclosed : IsClosed {s : ℝ | OnChain chain (lineMap a b s)} :=
    (isClosed_onChain chain).preimage hcontinuous
  rcases (Set.Icc 0 t ∩ {s | OnChain chain (lineMap a b s)}).eq_empty_or_nonempty with hnone | hsome
  · refine ⟨0, ⟨le_rfl, zero_le_one, Or.inl rfl⟩, ht0, fun s hs hst hon => ?_⟩
    exact Set.eq_empty_iff_forall_notMem.mp hnone s ⟨⟨hs.le, hst⟩, hon⟩
  · obtain ⟨l, ⟨⟨hl0, hlt⟩, hlon⟩, hgreatest⟩ :=
      (isCompact_Icc.inter_right hclosed).exists_isGreatest hsome
    have hfree : ∀ s, l < s → s ≤ t → ¬OnChain chain (lineMap a b s) :=
      fun s hs hst hon => hs.not_ge (hgreatest ⟨⟨hl0.trans hs.le, hst⟩, hon⟩)
    refine ⟨l, ?_, hlt, hfree⟩
    by_contra hcut
    have hlt' : l < t := lt_of_le_of_ne hlt fun heq => hoff (heq ▸ hlon)
    have hstays := (eventually_onChain hne hl0 (hlt.trans ht1) hlon hcut).filter_mono
      (nhdsWithin_le_nhds (s := Set.Ioi l))
    have hbehind : ∀ᶠ s in 𝓝[>] l, s ∈ Set.Ioc l t := Ioc_mem_nhdsGT hlt'
    obtain ⟨s, hs, hstay⟩ := (hbehind.and hstays).exists
    exact hfree s hs.1 hs.2 hstay

theorem Cut.symm {t : ℝ} (h : Cut chain b a t) : Cut chain a b (1 - t) := by
  obtain ⟨h0, h1, hcut⟩ := h
  refine ⟨sub_nonneg.mpr h1, by linarith, ?_⟩
  have hplace : (lineMap a b (1 - t) : ℝ × ℝ) = lineMap b a t := lineMap_apply_one_sub a b t
  rcases hcut with hzero | hone | ⟨k, hcorner | ⟨hside, hcross⟩⟩
  · exact Or.inr (Or.inl (by rw [hzero, sub_zero]))
  · exact Or.inl (by rw [hone, sub_self])
  · exact Or.inr (Or.inr ⟨k, Or.inl (hplace.trans hcorner)⟩)
  · refine Or.inr (Or.inr ⟨k, Or.inr ⟨hplace ▸ hside, fun heq => hcross ?_⟩⟩)
    rw [cross_swap, cross_swap a b, heq]

/-- **A segment stays in the region exactly where it does halfway between any two cuts.** -/
theorem segment_subset_region_iff (hne : chain ≠ []) :
    segment ℝ a b ⊆ region chain ↔
      ∀ t t', Cut chain a b t → Cut chain a b t' → lineMap a b ((t + t') / 2) ∈ region chain := by
  constructor
  · intro hsubset t t' ht ht'
    exact hsubset (mem_segment_iff.mpr ⟨_, by linarith [ht.1, ht'.1], by linarith [ht.2.1, ht'.2.1], rfl⟩)
  · intro hhalf w hw
    obtain ⟨t, ht0, ht1, rfl⟩ := mem_segment_iff.mp hw
    by_contra hout
    unfold region at hout
    rw [Set.mem_ofPred_eq, not_or, Bool.not_eq_true] at hout
    obtain ⟨hoff, hparity⟩ := hout
    -- between the last cut before the place and the first behind it, the way is off the chain
    obtain ⟨l, hlcut, hlt, hlfree⟩ := exists_last_cut hne ht0 ht1 hoff
    have hplace : (lineMap b a (1 - t) : ℝ × ℝ) = lineMap a b t := lineMap_apply_one_sub b a t
    obtain ⟨u, hucut, hut, hufree⟩ := exists_last_cut hne (sub_nonneg.mpr ht1) (sub_le_self 1 ht0)
      (by rw [hplace]; exact hoff)
    have hfree : ∀ s, l < s → s < 1 - u → ¬OnChain chain (lineMap a b s) := by
      intro s hls hsu
      rcases le_total s t with hle | hge
      · exact hlfree s hls hle
      · have hback := hufree (1 - s) (by linarith) (by linarith)
        rwa [lineMap_apply_one_sub] at hback
    have hmiddle := hhalf l (1 - u) hlcut hucut.symm
    rcases hlt.eq_or_lt with rfl | hlt'
    · -- the place is itself a cut
      have hself := hhalf l l hlcut hlcut
      rw [add_self_div_two] at hself
      exact hself.elim hoff fun hin => nomatch hin.symm.trans hparity
    · rcases hut.eq_or_lt with heq | hut'
      · rw [heq] at hucut
        have htcut := hucut.symm
        rw [sub_sub_cancel] at htcut
        have hself := hhalf t t htcut htcut
        rw [add_self_div_two] at hself
        exact hself.elim hoff fun hin => nomatch hin.symm.trans hparity
      · have hsame : inside chain (lineMap a b ((l + (1 - u)) / 2)) = inside chain (lineMap a b t) := by
          refine inside_eq_of_disjoint fun w hw => ?_
          obtain ⟨τ, hτ0, hτ1, rfl⟩ := mem_segment_iff.mp hw
          rw [lineMap_between]
          refine hfree _ ?_ ?_
          · nlinarith
          · nlinarith
        rcases hmiddle with hon | hin
        · exact hfree _ (by linarith) (by linarith) hon
        · rw [hsame, hparity] at hin
          exact nomatch hin

end EvenOdd
