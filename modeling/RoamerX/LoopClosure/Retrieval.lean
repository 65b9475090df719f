import RoamerX.LoopClosure.ScanContext
import RoamerX.Lib.Excepts
import Mathlib
import RoamerX.Lib.Numerals

set_option autoImplicit false

/-! # Retrieval of loop candidates

`_descriptor_distance`, `_retrieve_candidates` and `_geometric_verify` of `map_loop_closure.py`. The descriptor of
the query is compared with that of an earlier keyframe at every shift; the shift of the least distance gives the
yaw of the candidate. The verifier turns the points of the keyframe by that yaw and compares where they lie. -/

noncomputable section

namespace RoamerX

open scoped Numerals

namespace ScanContext

open Real

def minKeyframeGap : ℤ := 30

def candidateTopK : ℕ := 5

def yawSearchSteps : ℕ := 60

def descriptorDistance (left right : Descriptor) : ℝ :=
  (∑ ring ∈ Finset.range rings, ∑ sector ∈ Finset.range sectors,
    |left.cell ring sector - right.cell ring sector|) / max 1 (rings * sectors : ℕ)

/-- A row of `ring_keys`. -/
def ringKey (d : Descriptor) : List ℝ := d.rows.map fun row => row.sum / max 1 (row.length : ℝ)

/-! ## The search for the yaw -/

/-- `int(round(step * SECTORS / YAW_SEARCH_STEPS)) % SECTORS`. The quotient is whole, so it does not matter how
`round` breaks ties. -/
def stepShift (step : ℕ) : Fin sectors :=
  ⟨(round ((step * sectors : ℕ) / yawSearchSteps : ℚ) % (sectors : ℤ)).toNat, by unfold sectors; omega⟩

/-- `best_yaw` of a shift. -/
def yawOf (shift : Fin sectors) : ℝ :=
  let yaw := shift * (2 * π / sectors)
  if π < yaw then yaw - 2 * π else yaw

/-- `best_distance` and `best_yaw`. -/
def bestYaw (query matched : Descriptor) : ℝ × ℝ :=
  firstBest (fun step => descriptorDistance query (shiftDescriptor matched (stepShift step)))
    (fun step => yawOf (stepShift step)) (1e9, 0) (List.range yawSearchSteps)

/-! ## Candidates -/

structure Candidate where
  matchIndex : ℕ
  distance : ℝ
  yaw : ℝ

/-- `IndexError`, for lists that are not of one length. -/
inductive IndexError
  | listIndexOutOfRange

/-- `items[index]` -/
def item {α : Type} (items : List α) (index : ℕ) : Except IndexError α :=
  match items[index]? with
  | some value => .ok value
  | none => .error .listIndexOutOfRange

def keyDistance (queryKey matchKey : List ℝ) : ℝ :=
  ((queryKey.zip matchKey).map fun (a, b) => |a - b|).sum / max 1 (queryKey.length : ℝ)

/-- `scored`, before it is sorted. -/
def scoredKeys (queryIndex : ℕ) (queryKey : List ℝ) (ringKeys : List (List ℝ)) : List (ℝ × ℕ) :=
  (ringKeys.zipIdx.filter fun (_, matchIndex) => decide (minKeyframeGap ≤ |(matchIndex : ℤ) - queryIndex|)).map
    fun (matchKey, matchIndex) => (keyDistance queryKey matchKey, matchIndex)

def retrieveCandidates (queryIndex : ℕ) (query : Descriptor) (descriptors : List Descriptor)
    (ringKeys : List (List ℝ)) : Except IndexError (List Candidate) := do
  let queryKey ← item ringKeys queryIndex
  let scored := (scoredKeys queryIndex queryKey ringKeys).mergeSort
    fun a b => decide (a.1 < b.1 ∨ a.1 = b.1 ∧ a.2 ≤ b.2)
  let results ← (scored.take (max (candidateTopK * 3) candidateTopK)).mapM fun (_, matchIndex) => do
    let descriptor ← item descriptors matchIndex
    let best := bestYaw query descriptor
    pure { matchIndex := matchIndex, distance := best.1, yaw := best.2 : Candidate }
  pure ((results.mergeSort fun a b => decide (a.distance ≤ b.distance)).take candidateTopK)

/-- The candidates that `finalize_loop_closure` retrieves for a keyframe. -/
def loopCandidates (clouds : List Cloud) (queryIndex : ℕ) : Except IndexError (List Candidate) := do
  let descriptors := clouds.map scanContext
  let descriptor ← item descriptors queryIndex
  retrieveCandidates queryIndex descriptor descriptors (descriptors.map ringKey)

/-! ## Verification -/

/-- `_occupancy`, from the cells so far. -/
def occupancyFrom (cells : Finset (ℤ × ℤ)) : List (ℝ × ℝ) → Finset (ℤ × ℤ)
  | [] => cells
  | (x, y) :: points =>
    let cells := insert (⌊x / 0.5⌋, ⌊y / 0.5⌋) cells
    if 20000 < cells.card then cells else occupancyFrom cells points

def occupancy (points : List (ℝ × ℝ)) : Finset (ℤ × ℤ) := occupancyFrom ∅ points

/-- `GEOM_XY_LIMIT_M` -/
def geomXyLimit : ℝ := 2.5

def geomOverlapMin : ℝ := 0.35

def centre (points : List (ℝ × ℝ)) : ℝ × ℝ :=
  ((points.map Prod.fst).sum / points.length, (points.map Prod.snd).sum / points.length)

/-- What `_geometric_verify` returns. -/
@[ext]
structure Verified where
  ok : Bool
  dx : ℝ
  dy : ℝ
  dyaw : ℝ

def geometricVerify (query matched : Cloud) (yaw : ℝ) : Verified :=
  if query = [] ∨ matched = [] then ⟨false, 0, 0, yaw⟩
  else
    let rotated := matched.map fun p => (p.turn yaw).xy
    let queryXy := query.map Point.xy
    let queryOcc := occupancy queryXy
    let matchOcc := occupancy rotated
    if queryOcc = ∅ ∨ matchOcc = ∅ then ⟨false, 0, 0, yaw⟩
    else
      let overlap : ℝ := (queryOcc ∩ matchOcc).card / max 1 (min queryOcc.card matchOcc.card : ℕ)
      let dx := (centre queryXy).1 - (centre rotated).1
      let dy := (centre queryXy).2 - (centre rotated).2
      ⟨decide (geomOverlapMin ≤ overlap ∧ Plane.radius (dx, dy) ≤ geomXyLimit), dx, dy, yaw⟩

/-! ## Distances -/

variable {query matched d d' : Descriptor} {shift : Fin sectors} {queryIndex : ℕ}

theorem descriptorDistance_nonneg (left right : Descriptor) : 0 ≤ descriptorDistance left right :=
  div_nonneg (Finset.sum_nonneg fun _ _ => Finset.sum_nonneg fun _ _ => abs_nonneg _)
    (Nat.cast_nonneg _)

theorem descriptorDistance_self (d : Descriptor) : descriptorDistance d d = 0 := by
  simp [descriptorDistance]

theorem descriptorDistance_eq_zero (h : descriptorDistance d d' = 0) : d = d' := by
  have hcount : ((max 1 (rings * sectors) : ℕ) : ℝ) ≠ 0 := Nat.cast_ne_zero.mpr (by decide)
  have hsum := (div_eq_zero_iff.mp h).resolve_right hcount
  refine Descriptor.ext_cell fun ring hring sector hsector => ?_
  rw [Finset.sum_eq_zero_iff_of_nonneg fun _ _ => Finset.sum_nonneg fun _ _ => abs_nonneg _] at hsum
  have hrow := hsum ring (Finset.mem_range.mpr hring)
  rw [Finset.sum_eq_zero_iff_of_nonneg fun _ _ => abs_nonneg _] at hrow
  exact sub_eq_zero.mp (abs_eq_zero.mp (hrow sector (Finset.mem_range.mpr hsector)))

/-! ## The best shift -/

def BestShift (query matched : Descriptor) (shift : Fin sectors) : Prop :=
  ∀ other, other ≠ shift → descriptorDistance query (shiftDescriptor matched shift) <
    descriptorDistance query (shiftDescriptor matched other)

theorem stepShift_val {step : ℕ} (h : step < sectors) : (stepShift step).val = step := by
  have hquotient : ((step * sectors : ℕ) / yawSearchSteps : ℚ) = ((step : ℤ) : ℚ) := by
    unfold sectors yawSearchSteps
    push_cast
    ring
  simp only [stepShift]
  rw [hquotient, round_intCast]
  unfold sectors at *
  omega

theorem stepShift_fin (shift : Fin sectors) : stepShift shift = shift := Fin.ext (stepShift_val shift.isLt)

theorem BestShift.bestYaw_eq (h : BestShift query matched shift)
    (hnear : descriptorDistance query (shiftDescriptor matched shift) < 1e9) :
    bestYaw query matched = (descriptorDistance query (shiftDescriptor matched shift), yawOf shift) := by
  have hmem : shift.val ∈ List.range yawSearchSteps := List.mem_range.mpr shift.isLt
  rw [bestYaw, firstBest_eq hmem]
  · rw [stepShift_fin]
  · rw [stepShift_fin]
    exact hnear
  · intro step hstep hne
    rw [stepShift_fin]
    refine h _ fun heq => hne ?_
    rw [← heq, stepShift_val (List.mem_range.mp hstep)]

theorem BestShift.eq_of_eq {other : Fin sectors} (h : BestShift query matched shift)
    (heq : query = shiftDescriptor matched other) : other = shift := by
  by_contra hne
  have hlt := h other hne
  rw [← heq, descriptorDistance_self] at hlt
  exact absurd (descriptorDistance_nonneg _ _) (not_le.mpr hlt)

/-! ## What a candidate is -/

theorem item_eq_ok {α : Type} {items : List α} {index : ℕ} {value : α} (h : item items index = .ok value) :
    items[index]? = some value := by
  unfold item at h
  split at h
  · next found hfound =>
    cases h
    exact hfound
  · exact nomatch h

theorem mem_retrieveCandidates {descriptors : List Descriptor} {ringKeys : List (List ℝ)}
    {candidates : List Candidate} {candidate : Candidate}
    (h : retrieveCandidates queryIndex query descriptors ringKeys = .ok candidates)
    (hmem : candidate ∈ candidates) :
    ∃ descriptor, descriptors[candidate.matchIndex]? = some descriptor ∧
      (candidate.distance, candidate.yaw) = bestYaw query descriptor := by
  obtain ⟨queryKey, -, h⟩ := Excepts.bind_eq_ok h
  obtain ⟨results, hresults, h⟩ := Excepts.bind_eq_ok h
  cases h
  have hresult := List.mem_mergeSort.mp (List.mem_of_mem_take hmem)
  obtain ⟨⟨key, matchIndex⟩, -, hstep⟩ := Excepts.exists_of_mem_mapM hresults hresult
  obtain ⟨descriptor, hitem, hstep⟩ := Excepts.bind_eq_ok hstep
  cases hstep
  exact ⟨descriptor, item_eq_ok hitem, rfl⟩

theorem mem_loopCandidates {clouds : List Cloud} {candidates : List Candidate} {candidate : Candidate}
    (h : loopCandidates clouds queryIndex = .ok candidates) (hmem : candidate ∈ candidates) :
    ∃ query matched, clouds[queryIndex]? = some query ∧ clouds[candidate.matchIndex]? = some matched ∧
      (candidate.distance, candidate.yaw) = bestYaw (scanContext query) (scanContext matched) := by
  obtain ⟨descriptor, hquery, h⟩ := Excepts.bind_eq_ok h
  obtain ⟨descriptor', hmatch, hbest⟩ := mem_retrieveCandidates h hmem
  replace hquery := item_eq_ok hquery
  rw [List.getElem?_map, Option.map_eq_some_iff] at hquery hmatch
  obtain ⟨query, hquery, rfl⟩ := hquery
  obtain ⟨matched, hmatch, rfl⟩ := hmatch
  exact ⟨query, matched, hquery, hmatch, hbest⟩

end ScanContext

end RoamerX

end
