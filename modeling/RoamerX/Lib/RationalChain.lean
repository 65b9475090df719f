import RoamerX.Lib.ChainRegion

set_option autoImplicit false

/-! # Chains with rational corners

The even-odd rule and the areas are the same, whether the corners of a chain are read as rational points or
as points of the real plane. -/

namespace EvenOdd

open AffineMap

/-- A rational point in the real plane. -/
def toReal (p : ℚ × ℚ) : ℝ × ℝ := (p.1, p.2)

def outline (chain : List (ℚ × ℚ)) : List (ℝ × ℝ) := chain.map toReal

variable {chain : List (ℚ × ℚ)} {a b c p q : ℚ × ℚ}

@[simp] theorem toReal_zero : toReal 0 = 0 := by
  simp [toReal]

theorem toReal_injective : Function.Injective toReal := by
  intro p q h
  simp only [toReal, Prod.mk.injEq, Rat.cast_inj] at h
  exact Prod.ext h.1 h.2

@[simp] theorem length_outline (chain : List (ℚ × ℚ)) : (outline chain).length = chain.length :=
  List.length_map _

@[simp] theorem corner_outline (chain : List (ℚ × ℚ)) (k : ℕ) :
    corner (outline chain) k = toReal (corner chain k) := by
  unfold corner
  rw [length_outline, outline, ← toReal_zero, List.getD_map]

@[simp] theorem cross_toReal (a b c : ℚ × ℚ) :
    cross (toReal a) (toReal b) (toReal c) = (cross a b c : ℚ) := by
  simp only [cross, toReal]
  push_cast
  rfl

theorem edges_map {α β : Type*} (f : α → β) (chain : List α) :
    edges (chain.map f) = (edges chain).map (Prod.map f f) := by
  unfold edges
  rw [List.getLast?_map]
  cases chain.getLast? with
  | none => rfl
  | some z =>
    show (f z :: chain.map f).zip (chain.map f) = _
    rw [← List.map_cons, List.zip_map]

theorem oddly_map {α β : Type*} (f : β → Bool) (g : α → β) (es : List α) :
    oddly f (es.map g) = oddly (f ∘ g) es := by
  induction es with
  | nil => rfl
  | cons e es ih => rw [List.map_cons, oddly_cons, oddly_cons, ih, Function.comp_apply]

theorem hit_toReal (p : ℚ × ℚ) (e : (ℚ × ℚ) × (ℚ × ℚ)) :
    hit (toReal p) (Prod.map toReal toReal e) = hit p e := by
  have hplace : ((e.1.1 : ℝ) - e.2.1) * (p.2 - e.2.2) / (e.1.2 - e.2.2) + e.2.1 =
      (((e.1.1 - e.2.1) * (p.2 - e.2.2) / (e.1.2 - e.2.2) + e.2.1 : ℚ) : ℝ) := by
    push_cast
    rfl
  simp only [hit, toReal, Prod.map_fst, Prod.map_snd, hplace, Rat.cast_lt]

/-- **The even-odd rule at a rational point.** -/
@[simp] theorem inside_outline (chain : List (ℚ × ℚ)) (p : ℚ × ℚ) :
    inside (outline chain) (toReal p) = inside chain p := by
  unfold inside outline
  rw [edges_map, oddly_map]
  exact congrArg (fun f => oddly f (edges chain)) (funext fun e => hit_toReal p e)

/-! ## Segments and cuts -/

theorem lineMap_toReal (a b : ℚ × ℚ) (t : ℚ) :
    (lineMap (toReal a) (toReal b) (t : ℝ) : ℝ × ℝ) = toReal (lineMap a b t) := by
  refine Prod.ext ?_ ?_
  · rw [lineMap_fst]
    simp only [toReal, lineMap_fst]
    push_cast
    rfl
  · rw [lineMap_snd]
    simp only [toReal, lineMap_snd]
    push_cast
    rfl

theorem mem_segment_toReal : toReal p ∈ segment ℝ (toReal a) (toReal b) ↔ p ∈ segment ℚ a b := by
  rw [mem_segment_iff, mem_segment_iff]
  constructor
  · rintro ⟨t, ht0, ht1, hplace⟩
    by_cases hab : a = b
    · subst hab
      rw [lineMap_same_apply] at hplace
      exact ⟨0, le_rfl, zero_le_one, by rw [lineMap_apply_zero, toReal_injective hplace]⟩
    · have hline : cross a b p = 0 := by
        have hzero : cross (toReal a) (toReal b) (toReal p) = 0 :=
          cross_eq_zero_of_mem_segment (mem_segment_iff.mpr ⟨t, ht0, ht1, hplace⟩)
        rw [cross_toReal] at hzero
        exact_mod_cast hzero
      obtain ⟨s, rfl⟩ := exists_lineMap_of_cross_eq_zero hab hline
      rw [← lineMap_toReal] at hplace
      have hst : (s : ℝ) = t := lineMap_injective ℝ (fun h => hab (toReal_injective h)) hplace
      refine ⟨s, ?_, ?_, rfl⟩
      · exact_mod_cast hst ▸ ht0
      · exact_mod_cast hst ▸ ht1
  · rintro ⟨t, ht0, ht1, rfl⟩
    exact ⟨t, by exact_mod_cast ht0, by exact_mod_cast ht1, (lineMap_toReal a b t).symm⟩

@[simp] theorem onChain_outline : OnChain (outline chain) (toReal p) ↔ OnChain chain p := by
  rw [onChain_iff, onChain_iff]
  simp only [length_outline, side, corner_outline, mem_segment_toReal]

/-- The point is in the region of the chain. -/
def InRegion (chain : List (ℚ × ℚ)) (p : ℚ × ℚ) : Prop := OnChain chain p ∨ inside chain p = true

theorem toReal_mem_region : toReal p ∈ region (outline chain) ↔ InRegion chain p := by
  unfold region InRegion
  rw [Set.mem_ofPred_eq, onChain_outline, inside_outline]

theorem Cut.toReal {t : ℚ} (h : Cut chain a b t) :
    Cut (outline chain) (EvenOdd.toReal a) (EvenOdd.toReal b) (t : ℝ) := by
  obtain ⟨ht0, ht1, hcut⟩ := h
  refine ⟨by exact_mod_cast ht0, by exact_mod_cast ht1, ?_⟩
  rcases hcut with rfl | rfl | ⟨k, hcorner | ⟨hside, hcross⟩⟩
  · exact Or.inl Rat.cast_zero
  · exact Or.inr (Or.inl Rat.cast_one)
  · refine Or.inr (Or.inr ⟨k, Or.inl ?_⟩)
    rw [lineMap_toReal, hcorner, corner_outline]
  · refine Or.inr (Or.inr ⟨k, Or.inr ⟨?_, ?_⟩⟩)
    · rw [lineMap_toReal, side, corner_outline, corner_outline, mem_segment_toReal]
      exact hside
    · rw [corner_outline, corner_outline, cross_toReal, cross_toReal]
      exact_mod_cast hcross

theorem exists_rat_cut {t : ℝ} (hab : a ≠ b) (h : Cut (outline chain) (toReal a) (toReal b) t) :
    ∃ s : ℚ, (s : ℝ) = t ∧ Cut chain a b s := by
  obtain ⟨ht0, ht1, hcut⟩ := h
  have hreal : toReal a ≠ toReal b := fun heq => hab (toReal_injective heq)
  have hbounds : ∀ s : ℚ, (s : ℝ) = t → 0 ≤ s ∧ s ≤ 1 := by
    rintro s rfl
    exact ⟨by exact_mod_cast ht0, by exact_mod_cast ht1⟩
  rcases hcut with rfl | rfl | ⟨k, hcorner | ⟨hside, hcross⟩⟩
  · exact ⟨0, Rat.cast_zero, le_rfl, zero_le_one, Or.inl rfl⟩
  · exact ⟨1, Rat.cast_one, zero_le_one, le_rfl, Or.inr (Or.inl rfl)⟩
  · rw [corner_outline] at hcorner
    have hline : cross a b (corner chain k) = 0 := by
      have hzero : cross (toReal a) (toReal b) (toReal (corner chain k)) = 0 := by
        rw [← hcorner, cross_lineMap, cross_left, cross_right, mul_zero, mul_zero, add_zero]
      rw [cross_toReal] at hzero
      exact_mod_cast hzero
    obtain ⟨s, hs⟩ := exists_lineMap_of_cross_eq_zero hab hline
    rw [hs, ← lineMap_toReal] at hcorner
    have hst : (s : ℝ) = t := (lineMap_injective ℝ hreal hcorner).symm
    exact ⟨s, hst, (hbounds s hst).1, (hbounds s hst).2, Or.inr (Or.inr ⟨k, Or.inl hs.symm⟩)⟩
  · rw [side, corner_outline, corner_outline] at hside
    rw [corner_outline, corner_outline, cross_toReal, cross_toReal] at hcross
    set c := corner chain k
    set d := corner chain (k + 1)
    have hne : cross a b c ≠ cross a b d := by exact_mod_cast hcross
    -- the place at which the way meets the line of the side solves a linear equation
    have hzero := cross_eq_zero_of_mem_segment hside
    rw [cross_lineMap, cross_toReal, cross_toReal] at hzero
    have hbalance : cross c d a - cross c d b = cross a b d - cross a b c := by
      simp only [cross]
      ring
    have hdiff : cross c d a - cross c d b ≠ 0 := by
      rw [hbalance]
      exact sub_ne_zero.mpr hne.symm
    have hst : ((cross c d a / (cross c d a - cross c d b) : ℚ) : ℝ) = t := by
      have hdiff' : ((cross c d a : ℚ) : ℝ) - (cross c d b : ℚ) ≠ 0 := by exact_mod_cast hdiff
      push_cast
      rw [div_eq_iff hdiff']
      linear_combination hzero
    refine ⟨_, hst, (hbounds _ hst).1, (hbounds _ hst).2, Or.inr (Or.inr ⟨k, Or.inr ⟨?_, hne⟩⟩)⟩
    rw [side, ← mem_segment_toReal, ← lineMap_toReal, hst]
    exact hside

/-- **The segment between rational points stays in the region exactly where it does halfway between any two
    cuts.** -/
theorem segment_subset_region_outline_iff (hne : chain ≠ []) (hab : a ≠ b) :
    segment ℝ (toReal a) (toReal b) ⊆ region (outline chain) ↔
      ∀ t t' : ℚ, Cut chain a b t → Cut chain a b t' → InRegion chain (lineMap a b ((t + t') / 2)) := by
  have houtline : outline chain ≠ [] := fun hnil => hne (List.map_eq_nil_iff.mp hnil)
  have hmiddle : ∀ t t' : ℚ, (lineMap (toReal a) (toReal b) (((t : ℝ) + t') / 2) : ℝ × ℝ) =
      toReal (lineMap a b ((t + t') / 2)) := by
    intro t t'
    rw [← lineMap_toReal]
    push_cast
    rfl
  rw [segment_subset_region_iff houtline]
  constructor
  · intro h t t' ht ht'
    rw [← toReal_mem_region, ← hmiddle]
    exact h t t' ht.toReal ht'.toReal
  · intro h t t' ht ht'
    obtain ⟨s, rfl, hs⟩ := exists_rat_cut hab ht
    obtain ⟨s', rfl, hs'⟩ := exists_rat_cut hab ht'
    rw [hmiddle, toReal_mem_region]
    exact h s s' hs hs'

end EvenOdd
