import RoamerX.LoopClosure.ScanContextDatabase

set_option autoImplicit false

/-! # Which way the verifier turns

Where the query saw the cloud of a keyframe, turned by whole sectors, the yaw of the candidate undoes the turn: it is
the heading of the query over that of the keyframe. The verifier turns the points of the keyframe by the yaw
itself, so away from the query, unless the turn is its own inverse. -/

noncomputable section

namespace RoamerX

namespace ScanContext

open Real Matrix ScanContextDatabase

/-- What the query sees of a cloud that it sees turned by `k` sectors. -/
def turnedBySectors (k : ℤ) (points : Cloud) : Cloud := points.map (Point.turn (k * sectorAngle))

/-- A turn by `yaw` takes what the keyframe saw to what the query sees. -/
structure RightWay (query matched : Cloud) (yaw : ℝ) : Prop where
  /-- The points are mapped onto those of the query. -/
  onto : SamePoints (matched.map (Point.turn yaw)) query
  /-- The descriptor of the turned points is the shifted one that was nearest. -/
  descriptor : ∀ shift, BestShift (scanContext query) (scanContext matched) shift →
    scanContext (matched.map (Point.turn yaw)) = shiftDescriptor (scanContext matched) shift
  /-- At the pose that the localization node derives from the same shift, the query sees a turned point where the
  keyframe saw the point. -/
  pose : ∀ shift : Fin sectors, BestShift (scanContext query) (scanContext matched) shift →
    ∀ (heading : ℝ) (p : Point), seedRotation (yawOffset shift) (angleAxisZ heading) *ᵥ
      ![(p.turn yaw).x, (p.turn yaw).y, (p.turn yaw).z] = angleAxisZ heading *ᵥ ![p.x, p.y, p.z]

variable {query matched : Cloud} {shift : Fin sectors} {k : ℤ}

/-! ## The yaw of a candidate -/

theorem descriptor_turnedBySectors (k : ℤ) (matched : Cloud) :
    scanContext (turnedBySectors k matched) = shiftDescriptor (scanContext matched) (shiftFor k) :=
  scanContext_turn k matched

theorem BestShift.eq_shiftFor (h : BestShift (scanContext (turnedBySectors k matched)) (scanContext matched) shift) :
    shift = shiftFor k :=
  (h.eq_of_eq (descriptor_turnedBySectors k matched)).symm

theorem sectors_mul_sectorAngle : (sectors : ℝ) * sectorAngle = 2 * π := by
  have hpos : (sectors : ℝ) ≠ 0 := Nat.cast_ne_zero.mpr (by decide)
  unfold sectorAngle Plane.sectorAngle
  field_simp

theorem yawOf_eq (shift : Fin sectors) :
    ∃ turns : ℤ, yawOf shift = ((shift : ℕ) : ℤ) * sectorAngle + turns * (2 * π) := by
  have hangle : ((shift : ℕ) : ℝ) * (2 * π / sectors) = (((shift : ℕ) : ℤ) : ℝ) * sectorAngle := rfl
  unfold yawOf
  simp only [hangle]
  split
  · exact ⟨-1, by push_cast; ring⟩
  · exact ⟨0, by push_cast; ring⟩

theorem yawOf_shiftFor (k : ℤ) :
    ∃ turns : ℤ, yawOf (shiftFor k) = (-k : ℤ) * sectorAngle + turns * (2 * π) := by
  obtain ⟨turns, hturns⟩ := yawOf_eq (shiftFor k)
  have hmod : ((shiftFor k : ℕ) : ℤ) = -k + sectors * (-(-k / sectors)) := by
    simp only [shiftFor]
    unfold sectors
    omega
  refine ⟨turns - (-k / sectors), ?_⟩
  rw [hturns, hmod, ← sectors_mul_sectorAngle]
  push_cast
  ring

theorem turn_yawOf_shiftFor (k : ℤ) (p : ℝ × ℝ) :
    Plane.turn (yawOf (shiftFor k)) p = Plane.turn ((-k : ℤ) * sectorAngle) p := by
  obtain ⟨turns, hturns⟩ := yawOf_shiftFor k
  rw [hturns, Plane.turn_add_int_mul_two_pi]

theorem point_turn_yawOf_shiftFor (k : ℤ) : Point.turn (yawOf (shiftFor k)) = Point.turn ((-k : ℤ) * sectorAngle) := by
  funext p
  unfold Point.turn
  rw [turn_yawOf_shiftFor]

theorem yaw_of_mem_loopCandidates {clouds : List Cloud} {queryIndex : ℕ} {candidates : List Candidate}
    {candidate : Candidate} (hcandidates : loopCandidates clouds queryIndex = .ok candidates)
    (hmem : candidate ∈ candidates) (hmatch : clouds[candidate.matchIndex]? = some matched)
    (hquery : clouds[queryIndex]? = some (turnedBySectors k matched))
    (hbest : BestShift (scanContext (turnedBySectors k matched)) (scanContext matched) shift) :
    candidate.yaw = yawOf (shiftFor k) := by
  obtain ⟨query', matched', hquery', hmatch', hfound⟩ := mem_loopCandidates hcandidates hmem
  cases hquery.symm.trans hquery'
  cases hmatch.symm.trans hmatch'
  have hnear : descriptorDistance (scanContext (turnedBySectors k matched))
      (shiftDescriptor (scanContext matched) shift) < 1e9 := by
    rw [hbest.eq_shiftFor, ← descriptor_turnedBySectors, descriptorDistance_self]
    norm_num
  rw [hbest.bestYaw_eq hnear, hbest.eq_shiftFor] at hfound
  exact congrArg Prod.snd hfound

/-! ## Turning there and back -/

theorem shiftFor_neg_eq : shiftFor (-k) = shiftFor k ↔ 30 ∣ k := by
  rw [shiftFor_eq_shiftFor]
  unfold sectors
  omega

theorem turn_neg_eq (h : 30 ∣ k) : Point.turn ((-k : ℤ) * sectorAngle) = Point.turn (k * sectorAngle) := by
  have hpos : 0 < sectors := by decide
  funext p
  unfold Point.turn
  rw [sectorAngle_eq, Plane.turn_sectors_congr hpos]
  unfold sectors
  omega

theorem angleAxisZ_mulVec (angle : ℝ) (p : Point) :
    angleAxisZ angle *ᵥ ![p.x, p.y, p.z] = ![(p.turn angle).x, (p.turn angle).y, (p.turn angle).z] := by
  funext i
  fin_cases i <;> simp [angleAxisZ, Point.turn, Plane.turn, Point.xy, Matrix.mulVec, dotProduct, Fin.sum_univ_three]
  ring

theorem point_turn_turn (angle angle' : ℝ) (p : Point) : (p.turn angle').turn angle = p.turn (angle + angle') := by
  have h := Plane.turn_turn angle angle' p.xy
  unfold Point.turn
  exact Point.ext (congrArg Prod.fst h) (congrArg Prod.snd h) rfl

theorem seed_mulVec (offset heading yaw : ℝ) (p : Point) :
    seedRotation offset (angleAxisZ heading) *ᵥ ![(p.turn yaw).x, (p.turn yaw).y, (p.turn yaw).z] =
      angleAxisZ heading *ᵥ ![(p.turn (offset + yaw)).x, (p.turn (offset + yaw)).y, (p.turn (offset + yaw)).z] := by
  unfold seedRotation
  rw [← Matrix.mulVec_mulVec, angleAxisZ_mulVec, angleAxisZ_mulVec, angleAxisZ_mulVec]
  simp only [point_turn_turn]
  have hsum : offset + (heading + yaw) = heading + (offset + yaw) := by ring
  rw [← add_assoc, ← hsum, ← add_assoc]

theorem pose_iff (yaw yaw' : ℝ) :
    (∀ (heading : ℝ) (p : Point), seedRotation yaw' (angleAxisZ heading) *ᵥ
      ![(p.turn yaw).x, (p.turn yaw).y, (p.turn yaw).z] = angleAxisZ heading *ᵥ ![p.x, p.y, p.z]) ↔
      ∃ turns : ℤ, turns * (2 * π) = yaw' + yaw := by
  constructor
  · intro h
    have hunit := h 0 ⟨1, 0, 0⟩
    rw [seed_mulVec, angleAxisZ_mulVec, angleAxisZ_mulVec, point_turn_turn, zero_add] at hunit
    have hcos : cos (yaw' + yaw) = 1 := by
      have hfirst := congrFun hunit 0
      simpa [Point.turn, Plane.turn, Point.xy] using hfirst
    exact (cos_eq_one_iff _).mp hcos
  · rintro ⟨turns, hturns⟩ heading p
    have hback : p.turn (yaw' + yaw) = p := by
      have hplane := Plane.turn_add_int_mul_two_pi 0 turns p.xy
      rw [zero_add, hturns, Plane.turn_zero] at hplane
      unfold Point.turn
      rw [hplane]
      rfl
    rw [seed_mulVec, hback]

theorem full_turns_iff : (∃ turns : ℤ, turns * (2 * π) = yawOf (shiftFor k) + yawOf (shiftFor k)) ↔ 30 ∣ k := by
  have hangle : sectorAngle ≠ 0 := by
    intro hzero
    have hmul := sectors_mul_sectorAngle
    rw [hzero, mul_zero] at hmul
    linarith [pi_pos]
  obtain ⟨wraps, hwraps⟩ := yawOf_shiftFor k
  have hcancel : ∀ turns : ℤ, turns * (2 * π) = yawOf (shiftFor k) + yawOf (shiftFor k) ↔
      turns * (sectors : ℤ) = -k + -k + (wraps + wraps) * (sectors : ℤ) := by
    intro turns
    rw [hwraps, ← sectors_mul_sectorAngle]
    constructor
    · intro h
      refine Int.cast_injective (mul_right_cancel₀ hangle ?_)
      push_cast at h ⊢
      linarith
    · intro h
      have hcast := congrArg (fun n : ℤ => (n : ℝ) * sectorAngle) h
      push_cast at hcast ⊢
      linarith
  simp only [hcancel]
  unfold sectors
  constructor
  · rintro ⟨turns, hturns⟩
    omega
  · rintro ⟨halves, rfl⟩
    exact ⟨wraps + wraps - halves, by push_cast; ring⟩

/-! ## Which way the verifier turns -/

theorem samePoints_rfl (points : Cloud) : SamePoints points points := fun _ => Iff.rfl

theorem subset_occupancyFrom (cells : Finset (ℤ × ℤ)) (points : List (ℝ × ℝ)) :
    cells ⊆ occupancyFrom cells points := by
  induction points generalizing cells with
  | nil => exact subset_rfl
  | cons p points ih =>
    have hinsert := Finset.subset_insert (⌊p.1 / 0.5⌋, ⌊p.2 / 0.5⌋) cells
    unfold occupancyFrom
    dsimp only
    split
    · exact hinsert
    · exact hinsert.trans (ih _)

theorem occupancy_ne_empty {points : List (ℝ × ℝ)} (h : points ≠ []) : occupancy points ≠ ∅ := by
  obtain ⟨⟨x, y⟩, points, rfl⟩ := List.exists_cons_of_ne_nil h
  have hmem : (⌊x / 0.5⌋, ⌊y / 0.5⌋) ∈ occupancy ((x, y) :: points) := by
    unfold occupancy occupancyFrom
    dsimp only
    split
    · exact Finset.mem_insert_self _ _
    · exact subset_occupancyFrom _ _ (Finset.mem_insert_self _ _)
  exact Finset.ne_empty_of_mem hmem

theorem geometricVerify_of_onto {yaw : ℝ} (hne : matched ≠ []) (h : query = matched.map (Point.turn yaw)) :
    geometricVerify query matched yaw = ⟨true, 0, 0, yaw⟩ := by
  have hrotated : (matched.map fun p => (p.turn yaw).xy) = query.map Point.xy := by
    rw [h, List.map_map]
    rfl
  have hquery : query ≠ [] := fun hnil => hne (List.map_eq_nil_iff.mp (h.symm.trans hnil))
  have hocc : occupancy (query.map Point.xy) ≠ ∅ := occupancy_ne_empty (mt List.map_eq_nil_iff.mp hquery)
  have hcard : 0 < (occupancy (query.map Point.xy)).card := Finset.card_pos.mpr (Finset.nonempty_iff_ne_empty.mpr hocc)
  have hoverlap : ((occupancy (query.map Point.xy)).card : ℝ) / (occupancy (query.map Point.xy)).card = 1 :=
    div_self (Nat.cast_ne_zero.mpr hcard.ne')
  have hradius : Plane.radius (0, 0) ≤ geomXyLimit := by norm_num [Plane.radius, geomXyLimit]
  have hmin : geomOverlapMin ≤ 1 := by norm_num [geomOverlapMin]
  unfold geometricVerify
  rw [if_neg (not_or.mpr ⟨hquery, hne⟩)]
  simp only [hrotated, or_self]
  rw [if_neg hocc]
  simp only [Finset.inter_self, min_self, sub_self, Nat.max_eq_right hcard, hoverlap]
  rw [decide_eq_true ⟨hmin, hradius⟩]

theorem descriptor_turned_away (hbest : BestShift (scanContext (turnedBySectors k matched)) (scanContext matched) shift)
    (h : scanContext (matched.map (Point.turn (yawOf (shiftFor k)))) = scanContext (turnedBySectors k matched)) :
    30 ∣ k := by
  rw [point_turn_yawOf_shiftFor, scanContext_turn] at h
  rw [← shiftFor_neg_eq, ← hbest.eq_shiftFor]
  exact hbest.eq_of_eq h.symm

/-- **The verifier turns the points of the keyframe the right way just for half turns.** -/
theorem rightWay_iff_half_turns {clouds : List Cloud} {queryIndex : ℕ} {candidates : List Candidate}
    {candidate : Candidate} (hcandidates : loopCandidates clouds queryIndex = .ok candidates)
    (hmem : candidate ∈ candidates) (hmatch : clouds[candidate.matchIndex]? = some matched)
    (hquery : clouds[queryIndex]? = some (turnedBySectors k matched))
    (hunique : ∃ shift, BestShift (scanContext (turnedBySectors k matched)) (scanContext matched) shift) :
    RightWay (turnedBySectors k matched) matched candidate.yaw ↔ 30 ∣ k := by
  obtain ⟨shift, hbest⟩ := hunique
  rw [yaw_of_mem_loopCandidates hcandidates hmem hmatch hquery hbest]
  constructor
  · intro h
    exact descriptor_turned_away hbest h.onto.scanContext_eq
  · intro h
    have hturn : Point.turn (yawOf (shiftFor k)) = Point.turn (k * sectorAngle) := by
      rw [point_turn_yawOf_shiftFor, turn_neg_eq h]
    constructor
    · rw [hturn]
      exact samePoints_rfl _
    · intro shift hbest
      rw [hturn, hbest.eq_shiftFor]
      exact scanContext_turn k matched
    · intro shift hbest
      rw [wrapAngle_shift, hbest.eq_shiftFor]
      exact (pose_iff _ _).mpr (full_turns_iff.mpr h)

/-! ## A cloud of one point, turned by one sector -/

structure StrictlyInside (p : Point) : Prop where
  near : Plane.radius p.xy < maxRadius
  ring : ∀ n : ℤ, Plane.radius p.xy / maxRadius * rings ≠ n
  sector : ∀ n : ℤ, Plane.place sectors p.xy ≠ n

theorem bestShift_of_ne {query matched : Descriptor} {shift : Fin sectors} (heq : query = shiftDescriptor matched shift)
    (hne : ∀ other, other ≠ shift → query ≠ shiftDescriptor matched other) : BestShift query matched shift := by
  intro other hother
  have hfar : descriptorDistance query (shiftDescriptor matched other) ≠ 0 :=
    fun hzero => hne other hother (descriptorDistance_eq_zero hzero)
  rw [← heq, descriptorDistance_self]
  exact lt_of_le_of_ne (descriptorDistance_nonneg _ _) hfar.symm

theorem cell_scanContext_single {p : Point} (hfar : 1e-6 < Plane.radius p.xy) (hnear : Plane.radius p.xy ≤ maxRadius)
    (hz : 0 < p.z) {ring sector : ℕ} (hring : ring < rings) (hsector : sector < sectors) :
    (scanContext [p]).cell ring sector = if ring = ringOf p ∧ sector = sectorOf p then p.z else 0 := by
  have hrecorded : ¬ (Plane.radius p.xy ≤ 1e-6 ∨ maxRadius < Plane.radius p.xy) :=
    not_or.mpr ⟨not_le.mpr hfar, not_lt.mpr hnear⟩
  have hhigher : unseen.cell (ringOf p) (sectorOf p) < p.z := by
    rw [cell_unseen (ringOf_lt p) (sectorOf_lt p)]
    linarith
  rw [scanContext, Descriptor.cell_map _ _ hring hsector, List.foldl_cons, List.foldl_nil, recordPoint,
    if_neg hrecorded, if_pos hhigher, Descriptor.cell_setCell _ (ringOf_lt p) (sectorOf_lt p)]
  unfold ground
  split
  · exact if_neg (by linarith)
  · rw [cell_unseen hring hsector]
    exact if_pos (by norm_num)

theorem bestShift_single {p : Point} (hfar : 1e-6 < Plane.radius p.xy) (hnear : Plane.radius p.xy ≤ maxRadius)
    (hz : 0 < p.z) (k : ℤ) : BestShift (scanContext (turnedBySectors k [p])) (scanContext [p]) (shiftFor k) := by
  rw [descriptor_turnedBySectors]
  refine bestShift_of_ne rfl fun other hother heq => hother ?_
  have hring := ringOf_lt p
  have hsector := sectorOf_lt p
  have hother' := other.isLt
  have hshift := (shiftFor k).isLt
  -- the sector that the point is shifted to
  have hlt : (sectorOf p + (sectors - shiftFor k)) % sectors < sectors := Nat.mod_lt _ (by decide)
  have hcell := congrArg (fun d => d.cell (ringOf p) ((sectorOf p + (sectors - shiftFor k)) % sectors)) heq
  simp only [cell_shiftDescriptor _ _ hring hlt] at hcell
  have hback : ((sectorOf p + (sectors - shiftFor k)) % sectors + shiftFor k) % sectors = sectorOf p := by
    unfold sectors at *
    omega
  have hmod : ((sectorOf p + (sectors - shiftFor k)) % sectors + other) % sectors < sectors :=
    Nat.mod_lt _ (by decide)
  rw [hback, cell_scanContext_single hfar hnear hz hring hsector, if_pos ⟨rfl, rfl⟩,
    cell_scanContext_single hfar hnear hz hring hmod] at hcell
  by_cases hsame : ((sectorOf p + (sectors - shiftFor k)) % sectors + other) % sectors = sectorOf p
  · refine Fin.ext ?_
    unfold sectors at *
    omega
  · rw [if_neg fun h => hsame h.2] at hcell
    exact absurd hcell (ne_of_gt hz)

theorem scoredKeys_first {queryKey key : List ℝ} {keys : List (List ℝ)} (h : keys.length = 30) :
    scoredKeys 30 queryKey (key :: keys) = [(keyDistance queryKey key, 0)] := by
  let far : List ℝ × ℕ → Bool := fun entry => decide (minKeyframeGap ≤ |(entry.2 : ℤ) - (30 : ℕ)|)
  have hfirst : far (key, 0) = true := by
    change decide (minKeyframeGap ≤ |((0 : ℕ) : ℤ) - (30 : ℕ)|) = true
    decide
  have hrest : (keys.zipIdx 1).filter far = [] := by
    refine List.filter_eq_nil_iff.mpr fun entry hentry => ?_
    have hle := List.le_snd_of_mem_zipIdx hentry
    have hlt := List.snd_lt_add_of_mem_zipIdx hentry
    change ¬ decide (minKeyframeGap ≤ |(entry.2 : ℤ) - (30 : ℕ)|) = true
    rw [decide_eq_true_eq, not_le, abs_lt, minKeyframeGap]
    omega
  have hfilter : (List.zipIdx (key :: keys)).filter far = [(key, 0)] := by
    rw [List.zipIdx_cons, List.filter_cons_of_pos hfirst, Nat.zero_add, hrest]
  exact congrArg (List.map fun entry => (keyDistance queryKey entry.1, entry.2)) hfilter

theorem loopCandidates_first (query matched : Cloud) :
    loopCandidates (matched :: List.replicate 30 query) 30 =
      .ok [⟨0, (bestYaw (scanContext query) (scanContext matched)).1,
        (bestYaw (scanContext query) (scanContext matched)).2⟩] := by
  have hquery : item ((matched :: List.replicate 30 query).map scanContext) 30 = .ok (scanContext query) := rfl
  have hkey : item (((matched :: List.replicate 30 query).map scanContext).map ringKey) 30 =
      .ok (ringKey (scanContext query)) := rfl
  have hfirst : item ((matched :: List.replicate 30 query).map scanContext) 0 = .ok (scanContext matched) := rfl
  rw [loopCandidates, hquery, Excepts.ok_bind, retrieveCandidates, hkey, Excepts.ok_bind, List.map_cons,
    List.map_cons, scoredKeys_first (by simp)]
  have htake : ∀ entry : ℝ × ℕ, List.take (max (candidateTopK * 3) candidateTopK) [entry] = [entry] := fun _ => rfl
  simp only [List.mergeSort_singleton, htake, List.mapM_cons, List.mapM_nil]
  rw [List.map_cons] at hfirst
  rw [hfirst]
  simp only [Excepts.ok_bind, pure_bind, List.mergeSort_singleton]
  rfl

def cornerPoint : Point := ⟨1, 1, 1⟩

theorem radius_cornerPoint : Plane.radius cornerPoint.xy = √2 := by
  norm_num [Plane.radius, cornerPoint, Point.xy]

theorem place_cornerPoint : Plane.place sectors cornerPoint.xy = 75 / 2 := by
  have hpi := pi_pos
  have hpolar : Plane.complex cornerPoint.xy =
      (√2 : ℝ) * (Complex.cos (π / 4 : ℝ) + Complex.sin (π / 4 : ℝ) * Complex.I) := by
    have hsq : √2 * √2 = 2 := mul_self_sqrt (by norm_num)
    rw [← Complex.ofReal_cos, ← Complex.ofReal_sin, cos_pi_div_four, sin_pi_div_four]
    apply Complex.ext
    · simp only [Plane.complex, cornerPoint, Point.xy, Complex.re_ofReal_mul, Complex.add_re, Complex.ofReal_re,
        Complex.mul_I_re, Complex.ofReal_im]
      linarith
    · simp only [Plane.complex, cornerPoint, Point.xy, Complex.im_ofReal_mul, Complex.add_im, Complex.ofReal_re,
        Complex.mul_I_im, Complex.ofReal_im]
      linarith
  have hheading : Plane.heading cornerPoint.xy = π / 4 := by
    rw [Plane.heading, hpolar]
    exact Complex.arg_mul_cos_add_sin_mul_I (by positivity) ⟨by linarith, by linarith⟩
  rw [Plane.place, hheading]
  unfold sectors
  push_cast
  field_simp
  norm_num

theorem cornerPoint_strictlyInside : StrictlyInside cornerPoint := by
  have hpos : 0 < √2 := by positivity
  have hlt : √2 < 2 := by
    rw [sqrt_lt' (by norm_num)]
    norm_num
  refine ⟨?_, fun n hn => ?_, fun n hn => ?_⟩
  · rw [radius_cornerPoint, maxRadius]
    linarith
  · rw [radius_cornerPoint, maxRadius] at hn
    unfold rings at hn
    push_cast at hn
    have hn0 : (0 : ℝ) < n := by linarith
    have hn1 : (n : ℝ) < 1 := by linarith
    have hn0' : 0 < n := Int.cast_pos.mp hn0
    have hn1' : n < 1 := by exact_mod_cast hn1
    omega
  · rw [place_cornerPoint] at hn
    have hdouble : (75 : ℤ) = 2 * n := by
      have hcast : (75 : ℝ) = 2 * n := by linarith
      exact_mod_cast hcast
    omega

/-- Thirty keyframes after one, in which the corner is seen turned by `k` sectors. -/
def cornerClouds (k : ℤ) : List Cloud := [cornerPoint] :: List.replicate 30 (turnedBySectors k [cornerPoint])

theorem bestShift_cornerPoint (k : ℤ) :
    BestShift (scanContext (turnedBySectors k [cornerPoint])) (scanContext [cornerPoint]) (shiftFor k) := by
  have hnear := cornerPoint_strictlyInside.near
  refine bestShift_single ?_ hnear.le one_pos k
  rw [radius_cornerPoint]
  exact lt_of_lt_of_le (by norm_num) (one_le_sqrt.mpr one_le_two)

theorem exists_loopCandidates_cornerClouds (k : ℤ) :
    ∃ candidates candidate, loopCandidates (cornerClouds k) 30 = .ok candidates ∧ candidate ∈ candidates ∧
      (cornerClouds k)[candidate.matchIndex]? = some [cornerPoint] :=
  ⟨_, _, loopCandidates_first _ _, List.mem_singleton_self _, rfl⟩

theorem half_turn_verified : ∃ candidates candidate, loopCandidates (cornerClouds 30) 30 = .ok candidates ∧
    candidate ∈ candidates ∧ RightWay (turnedBySectors 30 [cornerPoint]) [cornerPoint] candidate.yaw := by
  obtain ⟨candidates, candidate, hcandidates, hmem, hmatch⟩ := exists_loopCandidates_cornerClouds 30
  exact ⟨candidates, candidate, hcandidates, hmem,
    (rightWay_iff_half_turns hcandidates hmem hmatch rfl ⟨_, bestShift_cornerPoint 30⟩).mpr (dvd_refl 30)⟩

/-- A point strictly inside its cell, turned by one sector: the best shift is unique, and the verifier turns the
wrong way. -/
theorem one_sector_turned_away : StrictlyInside cornerPoint ∧
    (∃ shift, BestShift (scanContext (turnedBySectors 1 [cornerPoint])) (scanContext [cornerPoint]) shift) ∧
    ∃ candidates candidate, loopCandidates (cornerClouds 1) 30 = .ok candidates ∧ candidate ∈ candidates ∧
      (cornerClouds 1)[candidate.matchIndex]? = some [cornerPoint] ∧
      ¬ RightWay (turnedBySectors 1 [cornerPoint]) [cornerPoint] candidate.yaw := by
  have hbest := bestShift_cornerPoint 1
  obtain ⟨candidates, candidate, hcandidates, hmem, hmatch⟩ := exists_loopCandidates_cornerClouds 1
  refine ⟨cornerPoint_strictlyInside, ⟨_, hbest⟩, candidates, candidate, hcandidates, hmem, hmatch, fun hright => ?_⟩
  rw [yaw_of_mem_loopCandidates hcandidates hmem hmatch rfl hbest] at hright
  have hdvd : (30 : ℤ) ∣ 1 := descriptor_turned_away hbest hright.onto.scanContext_eq
  omega

end ScanContext

end RoamerX

end
