import Mathlib.Data.Rat.Floor
import RoamerX.LoopClosure.NodeDatabase

set_option autoImplicit false

/-! # Asking for more candidates

`queryDescriptor` scores as many places as the prefilter says, or as many as are asked for where that is more. So the
first candidates stay where the places that are scored only for the larger number are not nearer. -/

namespace RoamerX

namespace NodeDatabase

open NearestFirst

variable {K : Type*} [Field K] [LinearOrder K] [IsStrictOrderedRing K] [FloorSemiring K] (a : Arithmetic K)

/-- The candidates for `k` are the first `k` of those for `k'`, and these are near enough and not excluded. -/
structure Monotone (sort : NearestFirst (Candidate K) Candidate.distance) (db : Database K) (query : List K)
    (k k' : ℤ) (maxDistance : K) (excludeIndex minIndexGap : ℤ) (metric : Metric) (prefilter : ℤ) : Prop where
  first : UpToTies Candidate.distance
    (queryDescriptor a sort db query k maxDistance excludeIndex minIndexGap metric prefilter)
    ((queryDescriptor a sort db query k' maxDistance excludeIndex minIndexGap metric prefilter).take k.toNat)
  allowed : ∀ candidate ∈ queryDescriptor a sort db query k' maxDistance excludeIndex minIndexGap metric prefilter,
    (0 < maxDistance → candidate.distance ≤ maxDistance) ∧
      (0 ≤ excludeIndex → max 1 minIndexGap ≤ |candidate.keyframeIndex - excludeIndex|)

/-- Of the places that are scored for `k'` and not for `k`, each is too far, or `k` of the others are as near. -/
def NoneNearer (db : Database K) (query : List K) (k k' : ℤ) (maxDistance : K) (excludeIndex minIndexGap : ℤ)
    (metric : Metric) (prefilter : ℤ) : Prop :=
  let ranked := rankedSlots db query excludeIndex minIndexGap
  let scored := ranked.take (shortlist ranked.length k prefilter)
  let added := (ranked.take (shortlist ranked.length k' prefilter)).drop (shortlist ranked.length k prefilter)
  let distance (slot : ℕ) : K := (scoreSlot a db query metric slot).distance
  (query.length : ℤ) = db.params.rings * db.params.sectors → ∀ slot ∈ added,
    farther maxDistance (distance slot) = true ∨ k.toNat ≤ scored.countP fun other => decide (distance other ≤ distance slot)

variable {a} {sort : NearestFirst (Candidate K) Candidate.distance} {db : Database K} {query : List K} {k k' : ℤ}
  {maxDistance : K} {excludeIndex minIndexGap : ℤ} {metric : Metric} {prefilter : ℤ}

omit [IsStrictOrderedRing K] [FloorSemiring K] in
theorem upward_farther (maxDistance : K) : Upward (farther maxDistance) := by
  intro d e hde hd
  simp only [farther, Bool.and_eq_true, decide_eq_true_eq] at hd ⊢
  exact ⟨hd.1, hd.2.trans_le hde⟩

theorem shortlist_mono (places : ℕ) (hle : k ≤ k') (hprefilter : 1 ≤ prefilter) :
    shortlist places k prefilter ≤ shortlist places k' prefilter := by
  unfold shortlist
  simp only [show 0 < prefilter from hprefilter, if_true]
  omega

omit [IsStrictOrderedRing K] [FloorSemiring K] in
theorem not_excluded_of_mem_rankedSlots {slot : ℕ} (h : slot ∈ rankedSlots db query excludeIndex minIndexGap) :
    excluded excludeIndex minIndexGap (db.keyframeIndices.getD slot (-1)) = false := by
  unfold rankedSlots at h
  obtain ⟨ranked, hranked, rfl⟩ := List.mem_map.mp h
  obtain ⟨slot, -, hslot⟩ := List.mem_filterMap.mp ((List.mem_insertionSort _).mp hranked)
  split at hslot
  · exact nomatch hslot
  next hfree =>
  obtain rfl := Option.some.inj hslot
  exact Bool.eq_false_iff.mpr hfree

theorem queryDescriptor_allowed {candidate : Candidate K}
    (h : candidate ∈ queryDescriptor a sort db query k maxDistance excludeIndex minIndexGap metric prefilter) :
    (0 < maxDistance → candidate.distance ≤ maxDistance) ∧
      (0 ≤ excludeIndex → max 1 minIndexGap ≤ |candidate.keyframeIndex - excludeIndex|) := by
  unfold queryDescriptor at h
  split at h
  · exact absurd h List.not_mem_nil
  obtain ⟨hscored, hnear⟩ := collect_subset _ _ _ h
  obtain ⟨slot, hslot, rfl⟩ := List.mem_map.mp (sort.mem_order.mp hscored)
  have hfree := not_excluded_of_mem_rankedSlots (List.mem_of_mem_take hslot)
  constructor
  · intro hlimit
    rw [farther, decide_eq_true hlimit, Bool.true_and] at hnear
    exact not_lt.mp (of_decide_eq_false hnear)
  · intro hexclude
    rw [excluded, decide_eq_true hexclude, Bool.true_and] at hfree
    exact not_lt.mp (of_decide_eq_false hfree)

/-- **The first candidates stay exactly where none of the added places is nearer.** -/
theorem monotone_iff (a : Arithmetic K) (sort : NearestFirst (Candidate K) Candidate.distance) (db : Database K)
    (query : List K) (maxDistance : K) (excludeIndex minIndexGap : ℤ) (metric : Metric) (hle : k ≤ k')
    (hprefilter : 1 ≤ prefilter) :
    Monotone a sort db query k k' maxDistance excludeIndex minIndexGap metric prefilter ↔
      NoneNearer a db query k k' maxDistance excludeIndex minIndexGap metric prefilter := by
  have hsplit : Monotone a sort db query k k' maxDistance excludeIndex minIndexGap metric prefilter ↔
      UpToTies Candidate.distance
        (queryDescriptor a sort db query k maxDistance excludeIndex minIndexGap metric prefilter)
        ((queryDescriptor a sort db query k' maxDistance excludeIndex minIndexGap metric prefilter).take k.toNat) :=
    ⟨Monotone.first, fun hfirst => ⟨hfirst, fun _ h => queryDescriptor_allowed h⟩⟩
  have hnothing : UpToTies (Candidate.distance (K := K)) [] [] :=
    ⟨rfl, fun _ h => absurd h List.not_mem_nil, fun _ h => absurd h List.not_mem_nil⟩
  rw [hsplit]
  by_cases hempty : db.descriptors.isEmpty = true
  · have hranked : rankedSlots db query excludeIndex minIndexGap = [] := by
      rw [List.isEmpty_iff] at hempty
      simp [rankedSlots, hempty]
    refine iff_of_true ?_ fun _ slot hslot => ?_
    · simpa [queryDescriptor, hempty] using hnothing
    · simp [hranked] at hslot
  by_cases hpos : k ≤ 0
  · refine iff_of_true ?_ fun _ slot _ => Or.inr ?_
    · simpa [queryDescriptor, hpos, Int.toNat_of_nonpos hpos] using hnothing
    · rw [Int.toNat_of_nonpos hpos]
      exact Nat.zero_le _
  by_cases hlength : (query.length : ℤ) = db.params.rings * db.params.sectors
  · have hguard : ∀ top : ℤ, k ≤ top →
        ¬ (db.descriptors.isEmpty = true ∨ top ≤ 0 ∨ (query.length : ℤ) ≠ db.params.rings * db.params.sectors) := by
      intro top htop
      rintro (h | h | h)
      · exact hempty h
      · omega
      · exact h hlength
    unfold queryDescriptor
    rw [if_neg (hguard k le_rfl), if_neg (hguard k' hle)]
    dsimp only
    generalize hranked : rankedSlots db query excludeIndex minIndexGap = ranked
    have hmono := shortlist_mono ranked.length hle hprefilter
    -- the places that are scored for the smaller number come first
    have happend : ranked.take (shortlist ranked.length k' prefilter) =
        ranked.take (shortlist ranked.length k prefilter) ++
          (ranked.take (shortlist ranked.length k' prefilter)).drop (shortlist ranked.length k prefilter) := by
      conv_lhs => rw [← List.take_append_drop (shortlist ranked.length k prefilter)
        (ranked.take (shortlist ranked.length k' prefilter)), List.take_take, min_eq_left hmono]
    rw [happend, List.map_append, NearestFirst.upToTies_iff sort (upward_farther maxDistance)
      (Int.toNat_le_toNat hle)]
    unfold NoneNearer
    rw [hranked]
    simp only [List.forall_mem_map, List.countP_map, Function.comp_def, hlength, forall_const]
  · refine iff_of_true ?_ fun h => absurd h hlength
    simpa [queryDescriptor, hlength] using hnothing

theorem monotone_of_prefilter (a : Arithmetic K) (db : Database K) (query : List K) (maxDistance : K) (excludeIndex minIndexGap : ℤ) (metric : Metric)
    (hle : k ≤ k') (hprefilter : 1 ≤ prefilter) (hlarge : k' ≤ prefilter) :
    NoneNearer a db query k k' maxDistance excludeIndex minIndexGap metric prefilter := by
  intro _ slot hslot
  have hsame : ∀ places, shortlist places k' prefilter = shortlist places k prefilter := by
    intro places
    unfold shortlist
    simp only [show 0 < prefilter from hprefilter, if_true]
    omega
  rw [hsame] at hslot
  simp at hslot

/-- Two keyframes: heights of 1 and -1 on the two sides, and of 1/2 on both. -/
def twoPlaces : MapDirectory ℚ where
  path := "map"
  indexJson := some "\x7b\"rings\": 1, \"sectors\": 2, \"max_radius_m\": 80\x7d"
  keyframesCsv := some ["index,x,y,z", "0,0,0,0", "1,0,0,0"]
  manifest := none
  optimizedCsv := none
  cloud file :=
    if file = "map/keyframes/scan_00000.pcd" then some [⟨some (-1), some 0, some 1⟩, ⟨some 1, some 0, some (-1)⟩]
    else some [⟨some (-1), some 0, some (1 / 2)⟩, ⟨some 1, some 0, some (1 / 2)⟩]

/-- The database that `load` makes of the two keyframes. -/
def twoPlacesDatabase : Database ℚ :=
  match load alongAxes twoPlaces with
  | .ok db => db
  | .error _ => { params := ⟨1, 2, 80⟩ }

theorem monotone_twoPlaces : Monotone alongAxes (NewestFirst.byInsertion _) twoPlacesDatabase [0, 0] 1 2 0 (-1) 0
    .meanAbsoluteHeight 2 :=
  (monotone_iff alongAxes (NewestFirst.byInsertion _) twoPlacesDatabase [0, 0] 0 (-1) 0 .meanAbsoluteHeight
    (by decide) (by decide)).mpr
    (monotone_of_prefilter alongAxes twoPlacesDatabase [0, 0] 0 (-1) 0 .meanAbsoluteHeight (by decide) (by decide)
      (by decide))

/-- With a prefilter of one place, the second candidate that is asked for brings a nearer first one. -/
theorem not_monotone_twoPlaces : load alongAxes twoPlaces = .ok twoPlacesDatabase ∧
    ¬ Monotone alongAxes (NewestFirst.byInsertion _) twoPlacesDatabase [0, 0] 1 2 0 (-1) 0 .meanAbsoluteHeight 1 := by
  constructor
  · have hloads : (load alongAxes twoPlaces).toOption.isSome = true := by decide +kernel
    unfold twoPlacesDatabase
    cases hload : load alongAxes twoPlaces with
    | error message =>
      rw [hload] at hloads
      exact Bool.noConfusion hloads
    | ok db => rfl
  · intro h
    exact absurd h.first.distances (by decide +kernel)

end NodeDatabase

end RoamerX
