import Mathlib.Algebra.Order.Ring.Rat
import Mathlib.Data.Int.Log
import Mathlib.Data.List.Range
import Mathlib.Data.Rat.Floor
import Mathlib.Tactic.Linarith
import Mathlib.Tactic.Positivity

set_option autoImplicit false

/-! # Every n-th index

The indices that a stride divides, in one go or block by block, and the ceiling of a quotient of whole numbers that is
computed as a `double`. -/

namespace EveryNth

/-! ## Indices -/

def range (start stop step : ℕ) : List ℕ :=
  (List.range ((stop - start + step - 1) / step)).map fun j => start + j * step

/-- The multiples of the stride from one index up to another. -/
def multiples (stride start stop : ℕ) : List ℕ :=
  (List.range' start (stop - start)).filter fun index => index % stride == 0

variable {stride : ℕ}

@[simp] theorem multiples_self (start : ℕ) : multiples stride start start = [] := by simp [multiples]

theorem multiples_append {start middle stop : ℕ} (h : start ≤ middle) (h' : middle ≤ stop) :
    multiples stride start middle ++ multiples stride middle stop = multiples stride start stop := by
  rw [multiples, multiples, multiples, ← List.filter_append]
  congr 1
  have hmiddle : start + (middle - start) = middle := by omega
  have hstop : middle - start + (stop - middle) = stop - start := by omega
  calc List.range' start (middle - start) ++ List.range' middle (stop - middle)
      = List.range' start (middle - start) ++ List.range' (start + (middle - start)) (stop - middle) := by rw [hmiddle]
    _ = List.range' start (stop - start) := by rw [List.range'_append_1, hstop]

theorem mem_multiples {start stop index : ℕ} :
    index ∈ multiples stride start stop ↔ start ≤ index ∧ index < stop ∧ stride ∣ index := by
  rw [multiples, List.mem_filter, List.mem_range'_1, beq_iff_eq, Nat.dvd_iff_mod_eq_zero]
  omega

theorem range_zero_succ (hstride : 0 < stride) (stop : ℕ) :
    range 0 (stop + 1) stride = 0 :: (range (stride - 1) stop stride).map (· + 1) := by
  have hcount : (stop + 1 - 0 + stride - 1) / stride = (stop - (stride - 1) + stride - 1) / stride + 1 := by
    rw [← Nat.add_div_right _ hstride]
    by_cases h : stride - 1 ≤ stop
    · congr 1
      omega
    · have hone : (stop + 1 - 0 + stride - 1) / stride = 1 := Nat.div_eq_of_lt_le (by omega) (by omega)
      have hone' : (stop - (stride - 1) + stride - 1 + stride) / stride = 1 := Nat.div_eq_of_lt_le (by omega) (by omega)
      rw [hone, hone']
  rw [range, range, hcount, List.range_succ_eq_map, List.map_cons, List.map_map, List.map_map, Nat.zero_mul]
  congr 1
  apply List.map_congr_left
  intro j _
  simp only [Function.comp_apply]
  rw [Nat.succ_mul]
  omega

theorem range_succ_succ (start stop step : ℕ) :
    range (start + 1) (stop + 1) step = (range start stop step).map (· + 1) := by
  rw [range, range, List.map_map, Nat.add_sub_add_right]
  apply List.map_congr_left
  intro j _
  simp only [Function.comp_apply]
  omega

theorem first_eq (hstride : 0 < stride) (start : ℕ) :
    ((-(start : ℤ)) % stride).toNat = (stride - start % stride) % stride := by
  have hlt : start % stride < stride := Nat.mod_lt start hstride
  have hsplit : -(start : ℤ) = (stride - start % stride : ℕ) + stride * (-(start / stride : ℕ) - 1) := by
    have hdiv : (start : ℤ) = stride * (start / stride : ℕ) + (start % stride : ℕ) := by
      exact_mod_cast (Nat.div_add_mod start stride).symm
    rw [Nat.cast_sub hlt.le]
    linarith [mul_sub (stride : ℤ) (-(start / stride : ℕ)) 1, mul_neg (stride : ℤ) ((start / stride : ℕ) : ℤ)]
  rw [hsplit, Int.add_mul_emod_self_left, ← Int.natCast_mod, Int.toNat_natCast]

/-- The local indices that a block starting at `start` samples are the multiples of the stride in it. -/
theorem map_range_first (hstride : 0 < stride) (start count : ℕ) :
    (range ((-(start : ℤ)) % stride).toNat count stride).map (start + ·) = multiples stride start (start + count) := by
  induction count generalizing start with
  | zero =>
    have hempty : (0 - ((-(start : ℤ)) % stride).toNat + stride - 1) / stride = 0 :=
      Nat.div_eq_of_lt (by omega)
    rw [range, hempty, Nat.add_zero, multiples_self]
    rfl
  | succ count ih =>
    have hlist : multiples stride start (start + (count + 1)) =
        (if stride ∣ start then [start] else []) ++ multiples stride (start + 1) (start + 1 + count) := by
      rw [multiples, multiples, show start + (count + 1) - start = count + 1 by omega,
        show start + 1 + count - (start + 1) = count by omega, List.range'_succ, List.filter_cons]
      simp only [beq_iff_eq, ← Nat.dvd_iff_mod_eq_zero]
      split_ifs
      · rfl
      · rfl
    have hlater := ih (start + 1)
    rw [first_eq hstride] at hlater ⊢
    rw [hlist, ← hlater]
    by_cases hdvd : stride ∣ start
    · have hnow : (stride - start % stride) % stride = 0 := by
        rw [Nat.mod_eq_zero_of_dvd hdvd, Nat.sub_zero, Nat.mod_self]
      have hnext : (stride - (start + 1) % stride) % stride = stride - 1 := by
        obtain ⟨k, rfl⟩ := hdvd
        rw [Nat.mul_add_mod]
        by_cases hone : stride = 1
        · subst hone
          rfl
        · rw [Nat.mod_eq_of_lt (show 1 < stride by omega), Nat.mod_eq_of_lt (show stride - 1 < stride by omega)]
      rw [hnow, hnext, range_zero_succ hstride, if_pos hdvd, List.map_cons, List.map_map]
      congr 1
      apply List.map_congr_left
      intro index _
      simp only [Function.comp_apply]
      omega
    · have hnow : (stride - start % stride) % stride = (stride - (start + 1) % stride) % stride + 1 := by
        have hlt : start % stride < stride := Nat.mod_lt start hstride
        have hpos : 0 < start % stride := Nat.pos_of_ne_zero fun h => hdvd (Nat.dvd_of_mod_eq_zero h)
        rw [Nat.mod_eq_of_lt (show stride - start % stride < stride by omega), ← Nat.mod_add_mod start stride 1]
        by_cases hlast : start % stride + 1 = stride
        · rw [hlast, Nat.mod_self, Nat.sub_zero, Nat.mod_self]
          omega
        · rw [Nat.mod_eq_of_lt (show start % stride + 1 < stride by omega),
            Nat.mod_eq_of_lt (show stride - (start % stride + 1) < stride by omega)]
          omega
      rw [hnow, range_succ_succ, if_neg hdvd, List.map_map, List.nil_append]
      apply List.map_congr_left
      intro index _
      simp only [Function.comp_apply]
      omega

theorem multiples_zero (hstride : 0 < stride) (stop : ℕ) :
    multiples stride 0 stop = (List.range ((stop + stride - 1) / stride)).map (· * stride) := by
  have hmap := map_range_first hstride 0 stop
  rw [Nat.zero_add, Nat.cast_zero, neg_zero, Int.zero_emod, Int.toNat_zero] at hmap
  rw [← hmap, range, List.map_map, Nat.sub_zero]
  apply List.map_congr_left
  intro j _
  simp only [Function.comp_apply]
  omega

theorem length_multiples_zero (hstride : 0 < stride) (stop : ℕ) :
    (multiples stride 0 stop).length = (stop + stride - 1) / stride := by
  rw [multiples_zero hstride, List.length_map, List.length_range]

/-! ## Quotients of doubles -/

/-- Rounding to the nearest integer, a half to the even one. -/
def nearestEven (q : ℚ) : ℤ :=
  if q - ⌊q⌋ < 1 / 2 then ⌊q⌋
  else if 1 / 2 < q - ⌊q⌋ then ⌊q⌋ + 1
  else if Even ⌊q⌋ then ⌊q⌋ else ⌊q⌋ + 1

/-- The exponent of the last place of the `double` nearest to a number. -/
def lastPlace (q : ℚ) : ℤ := max (Int.log 2 |q| - 52) (-1074)

/-- The `double` nearest to a number; `none` where it would be infinite. -/
def toDouble (q : ℚ) : Option ℚ :=
  let rounded : ℚ := nearestEven (q / 2 ^ lastPlace q) * 2 ^ lastPlace q
  if |rounded| < 2 ^ 1024 then some rounded else none

theorem abs_nearestEven_sub (q : ℚ) : |(nearestEven q : ℚ) - q| ≤ 1 / 2 := by
  have hlow := Int.floor_le q
  have hhigh := Int.lt_floor_add_one q
  rw [abs_le]
  unfold nearestEven
  split_ifs <;> push_cast <;> constructor <;> linarith

theorem nearestEven_le {q : ℚ} {bound : ℤ} (h : q ≤ bound) : nearestEven q ≤ bound := by
  have hnear := (abs_le.mp (abs_nearestEven_sub q)).2
  have hlt : (nearestEven q : ℚ) < bound + 1 := by linarith
  have hlt : nearestEven q < bound + 1 := by exact_mod_cast hlt
  omega

theorem le_nearestEven {q : ℚ} {bound : ℤ} (h : bound ≤ q) : bound ≤ nearestEven q := by
  have hnear := (abs_le.mp (abs_nearestEven_sub q)).1
  have hlt : (bound : ℚ) - 1 < nearestEven q := by linarith
  have hlt : bound - 1 < nearestEven q := by exact_mod_cast hlt
  omega

variable {q : ℚ}

theorem lastPlace_nonpos (hpos : 0 < q) (hlt : q < 2 ^ 53) : lastPlace q ≤ 0 := by
  have hlog : Int.log 2 |q| < 53 := by
    rw [abs_of_pos hpos, ← Int.lt_zpow_iff_log_lt one_lt_two hpos]
    exact_mod_cast hlt
  exact max_le (by omega) (by norm_num)

theorem exists_places (hplace : lastPlace q ≤ 0) (whole : ℤ) :
    ∃ places : ℤ, (whole : ℚ) / 2 ^ lastPlace q = places := by
  refine ⟨whole * 2 ^ (-lastPlace q).toNat, ?_⟩
  have hexponent : (2 : ℚ) ^ (-lastPlace q) = 2 ^ (-lastPlace q).toNat := by
    rw [← zpow_natCast, Int.toNat_of_nonneg (by omega)]
  rw [div_eq_mul_inv, ← zpow_neg, hexponent]
  push_cast
  ring

/-- **Rounding keeps to the side of a whole number.** -/
theorem toDouble_bounds (hpos : 0 < q) (hlt : q < 2 ^ 53) :
    ∃ rounded, toDouble q = some rounded ∧ 0 ≤ rounded ∧ (∀ whole : ℤ, q ≤ whole → rounded ≤ whole) ∧
      (∀ whole : ℤ, whole ≤ q → whole ≤ rounded) ∧ q - 2 ^ lastPlace q / 2 ≤ rounded := by
  have hplace := lastPlace_nonpos hpos hlt
  have hunit : (0 : ℚ) < 2 ^ lastPlace q := zpow_pos two_pos _
  have hhigh (whole : ℤ) (h : q ≤ whole) : (nearestEven (q / 2 ^ lastPlace q) : ℚ) * 2 ^ lastPlace q ≤ whole := by
    obtain ⟨places, hplaces⟩ := exists_places hplace whole
    have hbound : nearestEven (q / 2 ^ lastPlace q) ≤ places := by
      apply nearestEven_le
      rw [← hplaces]
      exact (div_le_div_iff_of_pos_right hunit).mpr h
    rw [← le_div_iff₀ hunit, hplaces]
    exact_mod_cast hbound
  have hlow (whole : ℤ) (h : whole ≤ q) : (whole : ℚ) ≤ nearestEven (q / 2 ^ lastPlace q) * 2 ^ lastPlace q := by
    obtain ⟨places, hplaces⟩ := exists_places hplace whole
    have hbound : places ≤ nearestEven (q / 2 ^ lastPlace q) := by
      apply le_nearestEven
      rw [← hplaces]
      exact (div_le_div_iff_of_pos_right hunit).mpr h
    rw [← div_le_iff₀ hunit, hplaces]
    exact_mod_cast hbound
  have hnonneg : (0 : ℚ) ≤ nearestEven (q / 2 ^ lastPlace q) * 2 ^ lastPlace q := by
    exact_mod_cast hlow 0 (by simpa using hpos.le)
  refine ⟨_, ?_, hnonneg, hhigh, hlow, ?_⟩
  · have hsmall := hhigh (2 ^ 53) (by exact_mod_cast hlt.le)
    rw [toDouble, if_pos]
    rw [abs_of_nonneg hnonneg]
    refine lt_of_le_of_lt hsmall ?_
    rw [Int.cast_pow, Int.cast_ofNat]
    exact pow_lt_pow_right₀ one_lt_two (by decide)
  · have hnear := (abs_le.mp (abs_nearestEven_sub (q / 2 ^ lastPlace q))).1
    calc q - 2 ^ lastPlace q / 2 = (q / 2 ^ lastPlace q - 1 / 2) * 2 ^ lastPlace q := by field_simp
      _ ≤ nearestEven (q / 2 ^ lastPlace q) * 2 ^ lastPlace q :=
        mul_le_mul_of_nonneg_right (by linarith) hunit.le

/-- `math.ceil(points / cap)` for whole numbers, with the quotient a `double`. -/
def ceilQuotient (points : ℤ) (cap : ℕ) : Option ℤ := (toDouble ((points : ℚ) / cap)).map (⌈·⌉)

theorem le_ceil_mul (points : ℕ) {cap : ℕ} (hcap : 0 < cap) : points ≤ (points + cap - 1) / cap * cap := by
  have := Nat.lt_div_mul_add hcap (a := points + cap - 1)
  omega

theorem ceil_mul_lt (points : ℕ) {cap : ℕ} (hcap : 0 < cap) : (points + cap - 1) / cap * cap < points + cap := by
  have := Nat.div_mul_le_self (points + cap - 1) cap
  omega

theorem half_place_lt {points cap : ℕ} (hcap : 0 < cap) (hle : cap ≤ points) (hlt : points < 2 ^ 53) :
    (2 : ℚ) ^ lastPlace (points / cap) / 2 < 1 / cap := by
  have hcap' : (0 : ℚ) < cap := by exact_mod_cast hcap
  have hone : (1 : ℚ) ≤ points / cap := by
    rw [le_div_iff₀ hcap', one_mul]
    exact_mod_cast hle
  have hpos : (0 : ℚ) < points / cap := by linarith
  have hlog : 0 ≤ Int.log 2 ((points : ℚ) / cap) := by
    rw [← Int.zpow_le_iff_le_log one_lt_two hpos, zpow_zero]
    exact hone
  have hplace : lastPlace (points / cap) = Int.log 2 ((points : ℚ) / cap) - 52 := by
    rw [lastPlace, abs_of_pos hpos]
    exact max_eq_left (by omega)
  have hpower : (2 : ℚ) ^ Int.log 2 ((points : ℚ) / cap) ≤ points / cap := by
    exact_mod_cast Int.zpow_log_le_self one_lt_two hpos
  have hpoints : (points : ℚ) < 2 ^ 53 := by exact_mod_cast hlt
  rw [hplace, zpow_sub₀ two_ne_zero, lt_div_iff₀ hcap']
  calc (2 : ℚ) ^ Int.log 2 ((points : ℚ) / cap) / 2 ^ (52 : ℤ) / 2 * cap
      = (2 : ℚ) ^ Int.log 2 ((points : ℚ) / cap) * cap / 2 ^ 53 := by norm_num; ring
    _ ≤ points / cap * cap / 2 ^ 53 := by gcongr
    _ = points / 2 ^ 53 := by rw [div_mul_cancel₀ _ hcap'.ne']
    _ < 1 := by rw [div_lt_one (by positivity)]; exact hpoints

/-- Below `2 ^ 53` the ceiling of the quotient is exact, but for a quotient under one, which may come out as zero. -/
theorem ceilQuotient_eq {points cap : ℕ} (hcap : 0 < cap) (hpoints : 0 < points) (hlt : points < 2 ^ 53) :
    ∃ count, ceilQuotient points cap = some count ∧ max 1 count = ((points + cap - 1) / cap : ℕ) ∧
      (cap ≤ points → count = ((points + cap - 1) / cap : ℕ)) := by
  have hcap' : (0 : ℚ) < cap := by exact_mod_cast hcap
  have hpoints' : (0 : ℚ) < points := by exact_mod_cast hpoints
  have hpos : (0 : ℚ) < points / cap := div_pos hpoints' hcap'
  have hbound : (points : ℚ) / cap < 2 ^ 53 :=
    (div_le_self hpoints'.le (by exact_mod_cast hcap)).trans_lt (by exact_mod_cast hlt)
  obtain ⟨rounded, hrounded, hnonneg, hhigh, hlow, hnear⟩ := toDouble_bounds hpos hbound
  refine ⟨⌈rounded⌉, by rw [ceilQuotient, Int.cast_natCast, hrounded, Option.map_some], ?_⟩
  have habove := le_ceil_mul points hcap
  have hbelow := ceil_mul_lt points hcap
  generalize (points + cap - 1) / cap = ceiling at habove hbelow
  have hle : ⌈rounded⌉ ≤ ceiling := by
    rw [Int.ceil_le]
    apply hhigh
    rw [div_le_iff₀ hcap']
    exact_mod_cast habove
  have hzero : 0 ≤ ⌈rounded⌉ := Int.ceil_nonneg hnonneg
  by_cases hsmall : cap ≤ points
  · have hone : 1 ≤ ⌈rounded⌉ := by
      rw [Int.one_le_ceil_iff]
      have := hlow 1 (by rw [Int.cast_one, le_div_iff₀ hcap', one_mul]; exact_mod_cast hsmall)
      exact lt_of_lt_of_le one_pos (by exact_mod_cast this)
    have hexact : (ceiling : ℤ) ≤ ⌈rounded⌉ := by
      rw [← Int.sub_one_lt_iff, Int.lt_ceil]
      have hhalf := half_place_lt hcap hsmall hlt
      have hgap : ((ceiling : ℚ) - 1) + 1 / cap ≤ points / cap := by
        rw [← sub_nonneg]
        have hwhole : (ceiling : ℚ) * cap + 1 ≤ points + cap := by exact_mod_cast hbelow
        have hrest : (points : ℚ) / cap - ((ceiling - 1) + 1 / cap) = (points + cap - (ceiling * cap + 1)) / cap := by
          field_simp
          ring
        rw [hrest]
        exact div_nonneg (by linarith) hcap'.le
      push_cast
      linarith
    have heq : ⌈rounded⌉ = ceiling := le_antisymm hle hexact
    exact ⟨by rw [heq] at hone ⊢; exact max_eq_right hone, fun _ => heq⟩
  · refine ⟨?_, fun h => absurd h hsmall⟩
    have hone : ceiling = 1 := by
      apply le_antisymm
      · by_contra hmore
        have := Nat.mul_le_mul_right cap (show 2 ≤ ceiling by omega)
        omega
      · exact Nat.pos_of_ne_zero fun h => by rw [h] at habove; omega
    rw [hone] at hle ⊢
    exact max_eq_left (by exact_mod_cast hle)

end EveryNth
