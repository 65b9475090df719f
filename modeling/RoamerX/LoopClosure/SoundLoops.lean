import Mathlib
import RoamerX.LoopClosure.Selection
import RoamerX.Lib.Numerals

set_option autoImplicit false

/-! # Which loops are selected

A loop is selected for the top candidate of a keyframe that passes every check, unless the other keyframe of the pair
has it already, and unless thirty are nearer. The reasons of the other candidates are right, but for a candidate just
at the greatest distance and for one whose yaw is not consistent. -/

noncomputable section

namespace RoamerX

open scoped Numerals

namespace LoopSelection

open Classical Real ScanContext

variable (keyframes : List LoopKeyframe)

/-! ## What is promised -/

/-- The ranked candidates of a keyframe. -/
def candidatesOf (queryIndex : ℕ) : List Candidate :=
  match loopCandidates (lidarClouds keyframes) queryIndex with
  | .ok ranked => ranked
  | .error _ => []

def Ranked (queryIndex rank : ℕ) (candidate : Candidate) : Prop :=
  (candidate, rank) ∈ (candidatesOf keyframes queryIndex).zipIdx 1

/-- How much of the lesser cloud lies in cells of both. -/
def overlap (query matched : Cloud) (yaw : ℝ) : ℝ :=
  (occupancy (query.map Point.xy) ∩ occupancy (matched.map fun p => (p.turn yaw).xy)).card /
    max 1 (min (occupancy (query.map Point.xy)).card (occupancy (matched.map fun p => (p.turn yaw).xy)).card : ℕ)

structure MeetsThresholds (queryIndex : ℕ) (candidate : Candidate) : Prop where
  gap : minKeyframeGap ≤ |(candidate.matchIndex : ℤ) - queryIndex|
  distance : candidate.distance ≤ acceptDistance
  overlap : geomOverlapMin ≤ overlap (keyframeAt keyframes queryIndex).lidarCloud
    (keyframeAt keyframes candidate.matchIndex).lidarCloud candidate.yaw
  translation : Plane.radius ((verify keyframes queryIndex candidate).dx, (verify keyframes queryIndex candidate).dy) ≤
    geomXyLimit
  near : loopMinSlamXy ≤ (slamOf keyframes queryIndex candidate).1
  far : (slamOf keyframes queryIndex candidate).1 ≤ loopMaxSlamXy
  yaw : |wrapAngle ((verify keyframes queryIndex candidate).dyaw - (slamOf keyframes queryIndex candidate).2)| ≤
    geomYawLimit

/-- The other keyframe has the pair as its loop. -/
def Taken (queryIndex matchIndex : ℕ) : Prop :=
  matchIndex < queryIndex ∧ ∃ other, Ranked keyframes matchIndex 1 other ∧ other.matchIndex = queryIndex ∧
    acceptable keyframes matchIndex 1 other = true

/-- The top candidate of a keyframe that passes every check, and whose pair is not taken. -/
def Chosen (queryIndex : ℕ) (candidate : Candidate) : Prop :=
  queryIndex < keyframes.length ∧ Ranked keyframes queryIndex 1 candidate ∧
    acceptable keyframes queryIndex 1 candidate = true ∧ ¬ Taken keyframes queryIndex candidate.matchIndex

/-- The candidate fails the check that the reason names. -/
def Fails (selection : Selection) (queryIndex rank : ℕ) (candidate : Candidate) : RejectionReason → Prop
  | .notTopRank => rank ≠ 1
  | .descriptorDistance => acceptDistance < candidate.distance
  | .geometricVerification => (verify keyframes queryIndex candidate).ok = false
  | .slamDistanceTooNear => (slamOf keyframes queryIndex candidate).1 < loopMinSlamXy
  | .slamDistanceTooFar => loopMaxSlamXy < (slamOf keyframes queryIndex candidate).1
  | .duplicatePair => Taken keyframes queryIndex candidate.matchIndex
  | .acceptedLoopLimit => selection.accepted.length = maxAcceptedLoops
  | .none | .rejectedOther => False

/-- The selection is sound, and accounted for. -/
structure SelectsSoundly (selection : Selection) : Prop where
  loops : ∀ row ∈ selection.accepted, ∃ candidate, Ranked keyframes row.queryIndex 1 candidate ∧
    candidate.matchIndex = row.matchIndex ∧ MeetsThresholds keyframes row.queryIndex candidate
  pairs : (selection.accepted.map fun row => pairOf row.queryIndex row.matchIndex).Nodup
  limit : selection.accepted.length ≤ maxAcceptedLoops
  /-- No candidate that was dropped is nearer than a loop that was kept. -/
  nearest : ∀ queryIndex candidate, Chosen keyframes queryIndex candidate →
    (∀ row ∈ selection.accepted, row.queryIndex ≠ queryIndex) →
      ∀ row ∈ selection.accepted, ∀ kept, Ranked keyframes row.queryIndex 1 kept → kept.distance ≤ candidate.distance
  listed : ∀ row ∈ selection.accepted, row ∈ selection.candidates
  flags : ∀ row ∈ selection.candidates, row.accepted = true ↔ row ∈ selection.accepted
  reasons : ∀ row ∈ selection.candidates, row.accepted = false →
    ∃ candidate, Ranked keyframes row.queryIndex row.rank candidate ∧ candidate.matchIndex = row.matchIndex ∧
      Fails keyframes selection row.queryIndex row.rank candidate row.rejectionReason

/-- Fewer than thirty chosen loops come before this one, by the rounded distances. -/
def AmongFirst (queryIndex : ℕ) (candidate : Candidate) : Prop :=
  (List.range keyframes.length).countP (fun other => ∃ nearer, Chosen keyframes other nearer ∧
    (roundTo 6 nearer.distance < roundTo 6 candidate.distance ∨
      roundTo 6 nearer.distance = roundTo 6 candidate.distance ∧ other < queryIndex)) < maxAcceptedLoops

/-- No top candidate is rejected by its yaw alone, or at the greatest distance by something else; and the rounding of
the distances does not matter for which loops are kept. -/
structure Clear : Prop where
  named : ∀ queryIndex < keyframes.length, ∀ candidate, Ranked keyframes queryIndex 1 candidate →
    candidate.distance ≤ acceptDistance → acceptable keyframes queryIndex 1 candidate = false →
      candidate.distance < acceptDistance ∧
        ((verify keyframes queryIndex candidate).ok = false ∨
          (slamOf keyframes queryIndex candidate).1 < loopMinSlamXy ∨
          loopMaxSlamXy < (slamOf keyframes queryIndex candidate).1)
  rounding : ∀ queryIndex candidate other farther, Chosen keyframes queryIndex candidate →
    Chosen keyframes other farther → AmongFirst keyframes queryIndex candidate →
      ¬ AmongFirst keyframes other farther → candidate.distance ≤ farther.distance

/-! ## The candidates -/

variable {keyframes} {queryIndex rank : ℕ} {candidate : Candidate}

theorem item_of_lt {α : Type} (items : List α) {index : ℕ} (h : index < items.length) :
    ∃ value, item items index = .ok value := by
  unfold item
  rw [List.getElem?_eq_getElem h]
  exact ⟨_, rfl⟩

theorem exists_loopCandidates (clouds : List Cloud) (h : queryIndex < clouds.length) :
    ∃ ranked, loopCandidates clouds queryIndex = .ok ranked := by
  obtain ⟨descriptor, hdescriptor⟩ := item_of_lt (clouds.map scanContext) (by rwa [List.length_map])
  obtain ⟨key, hkey⟩ := item_of_lt ((clouds.map scanContext).map ringKey)
    (show queryIndex < _ by rwa [List.length_map, List.length_map])
  have hindex : ∀ entry ∈ scoredKeys queryIndex key ((clouds.map scanContext).map ringKey),
      entry.2 < clouds.length := by
    intro entry hentry
    obtain ⟨⟨matchKey, matchIndex⟩, hmem, rfl⟩ := List.mem_map.mp hentry
    have hlt := List.snd_lt_of_mem_zipIdx (List.mem_filter.mp hmem).1
    simpa using hlt
  let scored := (scoredKeys queryIndex key ((clouds.map scanContext).map ringKey)).mergeSort
    fun a b => decide (a.1 < b.1 ∨ a.1 = b.1 ∧ a.2 ≤ b.2)
  obtain ⟨results, hresults⟩ : ∃ results, (scored.take (max (candidateTopK * 3) candidateTopK)).mapM
      (fun entry : ℝ × ℕ => do
        let matched ← item (clouds.map scanContext) entry.2
        let best := bestYaw descriptor matched
        pure { matchIndex := entry.2, distance := best.1, yaw := best.2 : Candidate }) = .ok results := by
    refine Excepts.exists_mapM_iff.mpr fun entry hentry => ?_
    have hmem := List.mem_mergeSort.mp (List.mem_of_mem_take hentry)
    obtain ⟨matched, hmatched⟩ := item_of_lt (clouds.map scanContext)
      (by rw [List.length_map]; exact hindex entry hmem)
    rw [hmatched]
    exact ⟨_, rfl⟩
  unfold loopCandidates
  dsimp only
  rw [hdescriptor, Excepts.ok_bind]
  unfold retrieveCandidates
  rw [hkey, Excepts.ok_bind]
  dsimp only
  rw [hresults]
  exact ⟨_, rfl⟩

theorem loopCandidates_ok (h : queryIndex < keyframes.length) :
    loopCandidates (lidarClouds keyframes) queryIndex = .ok (candidatesOf keyframes queryIndex) := by
  obtain ⟨ranked, hranked⟩ := exists_loopCandidates (lidarClouds keyframes)
    (show queryIndex < _ by rw [lidarClouds, List.length_map]; exact h)
  rw [candidatesOf, hranked]

theorem gap_of_mem {query : Descriptor} {descriptors : List Descriptor} {ringKeys : List (List ℝ)}
    {ranked : List Candidate} (h : retrieveCandidates queryIndex query descriptors ringKeys = .ok ranked)
    (hmem : candidate ∈ ranked) : minKeyframeGap ≤ |(candidate.matchIndex : ℤ) - queryIndex| := by
  obtain ⟨queryKey, -, h⟩ := Excepts.bind_eq_ok h
  obtain ⟨results, hresults, h⟩ := Excepts.bind_eq_ok h
  cases h
  have hresult := List.mem_mergeSort.mp (List.mem_of_mem_take hmem)
  obtain ⟨⟨key, matchIndex⟩, hentry, hstep⟩ := Excepts.exists_of_mem_mapM hresults hresult
  obtain ⟨descriptor, -, hstep⟩ := Excepts.bind_eq_ok hstep
  cases hstep
  obtain ⟨⟨matchKey, index⟩, hscored, heq⟩ := List.mem_map.mp (List.mem_mergeSort.mp (List.mem_of_mem_take hentry))
  cases heq
  exact of_decide_eq_true (List.mem_filter.mp hscored).2

theorem gap_of_ranked (h : Ranked keyframes queryIndex rank candidate) :
    minKeyframeGap ≤ |(candidate.matchIndex : ℤ) - queryIndex| := by
  have hmem : candidate ∈ candidatesOf keyframes queryIndex := List.fst_mem_of_mem_zipIdx h
  unfold candidatesOf at hmem
  split at hmem
  · rename_i ranked hranked
    obtain ⟨descriptor, -, hretrieved⟩ := Excepts.bind_eq_ok hranked
    exact gap_of_mem hretrieved hmem
  · exact absurd hmem List.not_mem_nil

theorem ranked_unique {other : Candidate} (h : Ranked keyframes queryIndex rank candidate)
    (h' : Ranked keyframes queryIndex rank other) : candidate = other := by
  have hget := List.mem_zipIdx_iff_le_and_getElem?_sub.mp h
  have hget' := List.mem_zipIdx_iff_le_and_getElem?_sub.mp h'
  exact Option.some.inj (hget.2.symm.trans hget'.2)

/-! ## The rows -/

theorem rank_of_acceptable (h : acceptable keyframes queryIndex rank candidate = true) : rank = 1 := by
  by_contra hrank
  unfold acceptable shouldAcceptLoop at h
  rw [if_pos (Or.inl hrank)] at h
  cases h

def rowsOf (keyframes : List LoopKeyframe) (queryIndex : ℕ) : List Row :=
  ((candidatesOf keyframes queryIndex).zipIdx 1).map fun (candidate, rank) =>
    rowOf keyframes queryIndex rank candidate (decide (Taken keyframes queryIndex candidate.matchIndex))

/-- The pairs of the loops before a keyframe. -/
def PairBefore (keyframes : List LoopKeyframe) (n : ℕ) (pair : ℕ × ℕ) : Prop :=
  ∃ queryIndex < n, ∃ candidate, Ranked keyframes queryIndex 1 candidate ∧
    acceptable keyframes queryIndex 1 candidate = true ∧ pair = pairOf queryIndex candidate.matchIndex

/-- What the loop has come to before a keyframe. -/
structure Detected (keyframes : List LoopKeyframe) (n : ℕ) (s : LoopState) : Prop where
  candidates : s.candidates = (List.range n).flatMap (rowsOf keyframes)
  accepted : s.accepted = s.candidates.filter Row.accepted
  seenPairs : ∀ pair, pair ∈ s.seenPairs ↔ PairBefore keyframes n pair

theorem pairBefore_iff_taken : PairBefore keyframes queryIndex (pairOf queryIndex candidate.matchIndex) ↔
    Taken keyframes queryIndex candidate.matchIndex := by
  constructor
  · rintro ⟨other, hlt, nearer, hranked, haccept, hpair⟩
    simp only [pairOf, Prod.mk.injEq] at hpair
    obtain ⟨hmatch, hquery⟩ : other = candidate.matchIndex ∧ nearer.matchIndex = queryIndex := by omega
    subst hmatch
    exact ⟨hlt, nearer, hranked, hquery, haccept⟩
  · rintro ⟨hlt, other, hranked, hquery, haccept⟩
    refine ⟨candidate.matchIndex, hlt, other, hranked, haccept, ?_⟩
    simp only [pairOf, Prod.mk.injEq]
    omega

theorem rowOf_of_not_acceptable (h : acceptable keyframes queryIndex rank candidate = false) (seen seen' : Bool) :
    rowOf keyframes queryIndex rank candidate seen = rowOf keyframes queryIndex rank candidate seen' := by
  unfold rowOf
  rw [h]
  rfl

theorem rowOf_accepted (seen : Bool) : (rowOf keyframes queryIndex rank candidate seen).accepted =
    (acceptable keyframes queryIndex rank candidate && !seen) := rfl

theorem foldl_below_top (ranked : List (Candidate × ℕ)) (s : LoopState) (hrank : ∀ entry ∈ ranked, entry.2 ≠ 1) :
    ranked.foldl (addCandidate keyframes queryIndex) s =
      { s with candidates := s.candidates ++ ranked.map fun (candidate, rank) =>
          rowOf keyframes queryIndex rank candidate (decide (Taken keyframes queryIndex candidate.matchIndex)) } := by
  induction ranked generalizing s with
  | nil => simp
  | cons entry ranked ih =>
    obtain ⟨candidate, rank⟩ := entry
    have hnot : acceptable keyframes queryIndex rank candidate = false := by
      rw [Bool.eq_false_iff]
      exact fun h => hrank (candidate, rank) List.mem_cons_self (rank_of_acceptable h)
    rw [List.foldl_cons, ih _ fun entry hentry => hrank entry (List.mem_cons_of_mem _ hentry)]
    unfold addCandidate
    dsimp only
    rw [rowOf_accepted, hnot, Bool.false_and, if_neg Bool.false_ne_true, if_neg Bool.false_ne_true,
      rowOf_of_not_acceptable hnot _ (decide (Taken keyframes queryIndex candidate.matchIndex)), List.map_cons,
      List.append_assoc]
    rfl

theorem pairBefore_succ {n : ℕ} {pair : ℕ × ℕ} : PairBefore keyframes (n + 1) pair ↔
    PairBefore keyframes n pair ∨ ∃ candidate, Ranked keyframes n 1 candidate ∧
      acceptable keyframes n 1 candidate = true ∧ pair = pairOf n candidate.matchIndex := by
  constructor
  · rintro ⟨queryIndex, hlt, h⟩
    rcases Nat.lt_succ_iff_lt_or_eq.mp hlt with hbefore | rfl
    · exact Or.inl ⟨queryIndex, hbefore, h⟩
    · exact Or.inr h
  · rintro (⟨queryIndex, hlt, h⟩ | h)
    · exact ⟨queryIndex, Nat.lt_succ_of_lt hlt, h⟩
    · exact ⟨n, Nat.lt_succ_self n, h⟩

theorem ranked_one_iff {top : Candidate} {rest : List Candidate}
    (hranked : candidatesOf keyframes queryIndex = top :: rest) :
    Ranked keyframes queryIndex 1 candidate ↔ candidate = top := by
  unfold Ranked
  rw [hranked, List.mem_zipIdx_iff_le_and_getElem?_sub]
  simp [eq_comm]

theorem addCandidate_top {s : LoopState} (h : Detected keyframes queryIndex s) (top : Candidate)
    (htop : ∀ candidate, Ranked keyframes queryIndex 1 candidate ↔ candidate = top) :
    let row := rowOf keyframes queryIndex 1 top (decide (Taken keyframes queryIndex top.matchIndex))
    let s' := addCandidate keyframes queryIndex s (top, 1)
    s'.candidates = s.candidates ++ [row] ∧ s'.accepted = (s.candidates ++ [row]).filter Row.accepted ∧
      ∀ pair, pair ∈ s'.seenPairs ↔ PairBefore keyframes (queryIndex + 1) pair := by
  have hseen : decide (pairOf queryIndex top.matchIndex ∈ s.seenPairs) =
      decide (Taken keyframes queryIndex top.matchIndex) :=
    decide_eq_decide.mpr ((h.seenPairs _).trans pairBefore_iff_taken)
  dsimp only
  unfold addCandidate
  dsimp only
  rw [hseen]
  refine ⟨rfl, ?_, fun pair => ?_⟩
  · rw [List.filter_append, ← h.accepted, List.filter_singleton]
    split
    · rename_i haccepted
      rw [haccepted]
      rfl
    · rename_i haccepted
      rw [Bool.not_eq_true] at haccepted
      rw [haccepted]
      exact (List.append_nil _).symm
  · rw [pairBefore_succ, rowOf_accepted]
    have hlast : (∃ candidate, Ranked keyframes queryIndex 1 candidate ∧
        acceptable keyframes queryIndex 1 candidate = true ∧ pair = pairOf queryIndex candidate.matchIndex) ↔
        acceptable keyframes queryIndex 1 top = true ∧ pair = pairOf queryIndex top.matchIndex := by
      constructor
      · rintro ⟨candidate, hranked, hrest⟩
        rw [(htop candidate).mp hranked] at hrest
        exact hrest
      · intro hrest
        exact ⟨top, (htop top).mpr rfl, hrest⟩
    rw [hlast]
    by_cases haccept : acceptable keyframes queryIndex 1 top = true
    · by_cases htaken : Taken keyframes queryIndex top.matchIndex
      · -- the pair was seen
        rw [decide_eq_true htaken, Bool.not_true, Bool.and_false, if_neg Bool.false_ne_true, h.seenPairs]
        constructor
        · exact Or.inl
        · rintro (hbefore | ⟨-, rfl⟩)
          · exact hbefore
          · exact pairBefore_iff_taken.mpr htaken
      · rw [haccept, decide_eq_false htaken, Bool.not_false, Bool.and_true, if_pos rfl, List.mem_cons, h.seenPairs,
          or_comm]
        simp only [true_and]
    · rw [Bool.not_eq_true] at haccept
      rw [haccept, Bool.false_and, if_neg Bool.false_ne_true, h.seenPairs]
      simp

theorem addQuery_detected {s : LoopState} (h : Detected keyframes queryIndex s)
    (hlt : queryIndex < keyframes.length) :
    ∃ s', addQuery keyframes s queryIndex = .ok s' ∧ Detected keyframes (queryIndex + 1) s' := by
  unfold addQuery
  rw [loopCandidates_ok hlt, Excepts.ok_bind]
  refine ⟨_, rfl, ?_⟩
  cases hranked : candidatesOf keyframes queryIndex with
  | nil =>
    have hnone : rowsOf keyframes queryIndex = [] := by rw [rowsOf, hranked, List.zipIdx_nil, List.map_nil]
    refine ⟨?_, h.accepted, fun pair => ?_⟩
    · rw [List.range_succ, List.flatMap_append, List.flatMap_singleton, hnone, List.append_nil]
      exact h.candidates
    · rw [pairBefore_succ]
      constructor
      · exact fun hseen => Or.inl ((h.seenPairs pair).mp hseen)
      · rintro (hbefore | ⟨candidate, hcandidate, -⟩)
        · exact (h.seenPairs pair).mpr hbefore
        · rw [Ranked, hranked, List.zipIdx_nil] at hcandidate
          exact absurd hcandidate List.not_mem_nil
  | cons top rest =>
    obtain ⟨hcandidates, haccepted, hpairs⟩ := addCandidate_top h top fun candidate => ranked_one_iff hranked
    have hrank : ∀ entry ∈ rest.zipIdx 2, entry.2 ≠ 1 := by
      intro entry hentry
      have hle := List.le_snd_of_mem_zipIdx hentry
      omega
    have hrows : rowsOf keyframes queryIndex =
        rowOf keyframes queryIndex 1 top (decide (Taken keyframes queryIndex top.matchIndex)) ::
          (rest.zipIdx 2).map fun (candidate, rank) =>
            rowOf keyframes queryIndex rank candidate (decide (Taken keyframes queryIndex candidate.matchIndex)) := by
      rw [rowsOf, hranked, List.zipIdx_cons, List.map_cons]
    rw [List.zipIdx_cons, List.foldl_cons, foldl_below_top _ _ hrank]
    refine ⟨?_, ?_, hpairs⟩
    · dsimp only
      rw [hcandidates, List.range_succ, List.flatMap_append, List.flatMap_singleton, hrows, ← h.candidates,
        List.append_assoc, List.singleton_append]
    · dsimp only
      rw [haccepted, hcandidates, List.filter_append _ (List.map _ _)]
      have hnone : ((rest.zipIdx 2).map fun (candidate, rank) => rowOf keyframes queryIndex rank candidate
          (decide (Taken keyframes queryIndex candidate.matchIndex))).filter Row.accepted = [] := by
        refine List.filter_eq_nil_iff.mpr fun row hrow => ?_
        obtain ⟨⟨candidate, rank⟩, hentry, rfl⟩ := List.mem_map.mp hrow
        rw [rowOf_accepted, Bool.and_eq_true, not_and_or]
        exact Or.inl fun haccept => hrank _ hentry (rank_of_acceptable haccept)
      rw [hnone, List.append_nil]

theorem detectLoops_detected (keyframes : List LoopKeyframe) :
    ∃ s, detectLoops keyframes = .ok s ∧ Detected keyframes keyframes.length s := by
  have hrun : ∀ n ≤ keyframes.length, ∃ s,
      (List.range n).foldlM (addQuery keyframes) {} = .ok s ∧ Detected keyframes n s := by
    intro n
    induction n with
    | zero =>
      intro _
      refine ⟨{}, rfl, rfl, rfl, fun pair => ⟨fun h => absurd h List.not_mem_nil, ?_⟩⟩
      rintro ⟨queryIndex, hlt, -⟩
      exact absurd hlt (Nat.not_lt_zero _)
    | succ n ih =>
      intro hle
      obtain ⟨s, hs, hdetected⟩ := ih (Nat.le_of_succ_le hle)
      obtain ⟨s', hs', hdetected'⟩ := addQuery_detected hdetected hle
      refine ⟨s', ?_, hdetected'⟩
      rw [List.range_succ, List.foldlM_append, hs, Excepts.ok_bind, List.foldlM_cons, hs', Excepts.ok_bind]
      rfl
  exact hrun _ le_rfl

/-! ## The loops before the limit -/

theorem filter_below_top (rest : List Candidate) :
    ((rest.zipIdx 2).map fun (candidate, rank) => rowOf keyframes queryIndex rank candidate
      (decide (Taken keyframes queryIndex candidate.matchIndex))).filter Row.accepted = [] := by
  refine List.filter_eq_nil_iff.mpr fun row hrow => ?_
  obtain ⟨⟨candidate, rank⟩, hentry, rfl⟩ := List.mem_map.mp hrow
  rw [rowOf_accepted, Bool.and_eq_true, not_and_or]
  refine Or.inl fun haccept => ?_
  have hle := List.le_snd_of_mem_zipIdx hentry
  have hrank := rank_of_acceptable haccept
  dsimp only at hle
  omega

theorem filter_rowsOf (hlt : queryIndex < keyframes.length) :
    (∃ candidate, Chosen keyframes queryIndex candidate ∧
        (rowsOf keyframes queryIndex).filter Row.accepted = [rowOf keyframes queryIndex 1 candidate false]) ∨
      ((∀ candidate, ¬ Chosen keyframes queryIndex candidate) ∧
        (rowsOf keyframes queryIndex).filter Row.accepted = []) := by
  unfold rowsOf
  cases hranked : candidatesOf keyframes queryIndex with
  | nil =>
    refine Or.inr ⟨fun candidate hchosen => ?_, rfl⟩
    have hmem := hchosen.2.1
    rw [Ranked, hranked, List.zipIdx_nil] at hmem
    exact absurd hmem List.not_mem_nil
  | cons top rest =>
    rw [List.zipIdx_cons, List.map_cons, List.filter_cons, filter_below_top]
    dsimp only
    by_cases hchosen : Chosen keyframes queryIndex top
    · obtain ⟨-, -, haccept, htaken⟩ := id hchosen
      refine Or.inl ⟨top, hchosen, ?_⟩
      rw [if_pos (by rw [rowOf_accepted, haccept, decide_eq_false htaken]; rfl), decide_eq_false htaken]
    · refine Or.inr ⟨fun candidate hother => ?_, if_neg fun haccepted => hchosen ?_⟩
      · rw [(ranked_one_iff hranked).mp hother.2.1] at hother
        exact hchosen hother
      · rw [rowOf_accepted, Bool.and_eq_true, Bool.not_eq_true', decide_eq_false_iff_not] at haccepted
        exact ⟨hlt, (ranked_one_iff hranked).mpr rfl, haccepted⟩

theorem Chosen.unique {other : Candidate} (h : Chosen keyframes queryIndex candidate)
    (h' : Chosen keyframes queryIndex other) : candidate = other := ranked_unique h.2.1 h'.2.1

/-- The loops, in the order of their keyframes. -/
def loopRows (keyframes : List LoopKeyframe) : List Row :=
  (List.range keyframes.length).flatMap fun queryIndex => (rowsOf keyframes queryIndex).filter Row.accepted

theorem mem_loopRows {row : Row} : row ∈ loopRows keyframes ↔
    ∃ queryIndex candidate, Chosen keyframes queryIndex candidate ∧
      row = rowOf keyframes queryIndex 1 candidate false := by
  unfold loopRows
  rw [List.mem_flatMap]
  constructor
  · rintro ⟨queryIndex, hmem, hrow⟩
    rcases filter_rowsOf (List.mem_range.mp hmem) with ⟨candidate, hchosen, hrows⟩ | ⟨-, hrows⟩
    · rw [hrows, List.mem_singleton] at hrow
      exact ⟨queryIndex, candidate, hchosen, hrow⟩
    · rw [hrows] at hrow
      exact absurd hrow List.not_mem_nil
  · rintro ⟨queryIndex, candidate, hchosen, rfl⟩
    refine ⟨queryIndex, List.mem_range.mpr hchosen.1, ?_⟩
    rcases filter_rowsOf hchosen.1 with ⟨other, hother, hrows⟩ | ⟨hnone, -⟩
    · rw [hrows, hchosen.unique hother]
      exact List.mem_singleton_self _
    · exact absurd hchosen (hnone candidate)

theorem loopRows_places (keyframes : List LoopKeyframe) :
    (loopRows keyframes).Pairwise fun a b => a.queryIndex < b.queryIndex := by
  have hquery : ∀ queryIndex ∈ List.range keyframes.length,
      ∀ row ∈ (rowsOf keyframes queryIndex).filter Row.accepted, row.queryIndex = queryIndex := by
    intro queryIndex _ row hrow
    obtain ⟨entry, -, rfl⟩ := List.mem_map.mp (List.mem_filter.mp hrow).1
    rfl
  unfold loopRows
  rw [List.pairwise_flatMap]
  constructor
  · intro queryIndex hmem
    rcases filter_rowsOf (List.mem_range.mp hmem) with ⟨candidate, -, hrows⟩ | ⟨-, hrows⟩
    · rw [hrows]
      exact List.pairwise_singleton _ _
    · rw [hrows]
      exact List.Pairwise.nil
  · refine List.pairwise_lt_range.imp_of_mem ?_
    intro q q' hq hq' hlt row hrow row' hrow'
    rw [hquery q hq row hrow, hquery q' hq' row' hrow']
    exact hlt

theorem countP_flatMap_eq {f : ℕ → List Row} {p : Row → Bool} {P : ℕ → Prop} {l : List ℕ}
    (h : ∀ q ∈ l, (f q).countP p = if P q then 1 else 0) :
    (l.flatMap f).countP p = l.countP fun q => decide (P q) := by
  induction l with
  | nil => rfl
  | cons q l ih =>
    rw [List.flatMap_cons, List.countP_append, List.countP_cons, h q List.mem_cons_self,
      ih fun q' hq' => h q' (List.mem_cons_of_mem _ hq'), add_comm]
    simp

theorem countP_loopRows (keyframes : List LoopKeyframe) (queryIndex : ℕ) (candidate : Candidate) :
    (loopRows keyframes).countP (fun row => decide (StableFirst.Before Row.distance Row.queryIndex row
      (rowOf keyframes queryIndex 1 candidate false))) < maxAcceptedLoops ↔
      AmongFirst keyframes queryIndex candidate := by
  unfold loopRows AmongFirst
  rw [countP_flatMap_eq fun q hq => ?_]
  rcases filter_rowsOf (List.mem_range.mp hq) with ⟨nearer, hnearer, hrows⟩ | ⟨hnone, hrows⟩
  · rw [hrows, List.countP_singleton]
    refine if_congr ?_ rfl rfl
    rw [decide_eq_true_iff]
    constructor
    · intro hbefore
      exact ⟨nearer, hnearer, hbefore⟩
    · rintro ⟨other, hother, hbefore⟩
      rw [hnearer.unique hother]
      exact hbefore
  · rw [hrows, List.countP_nil, if_neg]
    rintro ⟨nearer, hnearer, -⟩
    exact hnone nearer hnearer

/-! ## The selection -/

theorem finalize_eq (keyframes : List LoopKeyframe) :
    ∃ s, finalizeLoopClosure keyframes = .ok (limitLoops s) ∧
      s.candidates = (List.range keyframes.length).flatMap (rowsOf keyframes) ∧ s.accepted = loopRows keyframes := by
  obtain ⟨s, hs, hdetected⟩ := detectLoops_detected keyframes
  refine ⟨s, ?_, hdetected.candidates, ?_⟩
  · unfold finalizeLoopClosure
    rw [hs, Excepts.ok_bind]
    rfl
  · rw [hdetected.accepted, hdetected.candidates, List.filter_flatMap]
    rfl

theorem kept_eq (s : LoopState) :
    (limitLoops s).accepted = (StableFirst.sorted Row.distance s.accepted).take maxAcceptedLoops := by
  unfold limitLoops
  dsimp only
  split
  · rfl
  · rename_i hfew
    exact (List.take_of_length_le (not_lt.mp hfew)).symm

theorem mem_kept (row : Row) {s : LoopState} (haccepted : s.accepted = loopRows keyframes) :
    row ∈ (limitLoops s).accepted ↔
      ∃ queryIndex candidate, Chosen keyframes queryIndex candidate ∧ AmongFirst keyframes queryIndex candidate ∧
        row = rowOf keyframes queryIndex 1 candidate false := by
  rw [kept_eq, haccepted, StableFirst.mem_first_iff (loopRows_places keyframes), mem_loopRows]
  constructor
  · rintro ⟨⟨queryIndex, candidate, hchosen, rfl⟩, hcount⟩
    exact ⟨queryIndex, candidate, hchosen, (countP_loopRows _ _ _).mp hcount, rfl⟩
  · rintro ⟨queryIndex, candidate, hchosen, hfirst, rfl⟩
    exact ⟨⟨queryIndex, candidate, hchosen, rfl⟩, (countP_loopRows _ _ _).mpr hfirst⟩

def finalRow (keyframes : List LoopKeyframe) (queryIndex rank : ℕ) (candidate : Candidate) : Row :=
  let row := rowOf keyframes queryIndex rank candidate (decide (Taken keyframes queryIndex candidate.matchIndex))
  if row.accepted ∧ ¬ AmongFirst keyframes queryIndex candidate then
    { row with accepted := false, rejectionReason := .acceptedLoopLimit }
  else row

theorem chosen_of_accepted (hlt : queryIndex < keyframes.length) (hranked : Ranked keyframes queryIndex rank candidate)
    (haccepted : (rowOf keyframes queryIndex rank candidate
      (decide (Taken keyframes queryIndex candidate.matchIndex))).accepted = true) :
    rank = 1 ∧ Chosen keyframes queryIndex candidate := by
  rw [rowOf_accepted, Bool.and_eq_true, Bool.not_eq_true', decide_eq_false_iff_not] at haccepted
  obtain rfl := rank_of_acceptable haccepted.1
  exact ⟨rfl, hlt, hranked, haccepted⟩

theorem limited_eq_finalRow {kept : List Row}
    (hkept : ∀ row, row ∈ kept ↔ ∃ queryIndex candidate, Chosen keyframes queryIndex candidate ∧
      AmongFirst keyframes queryIndex candidate ∧ row = rowOf keyframes queryIndex 1 candidate false)
    (hlt : queryIndex < keyframes.length) (hranked : Ranked keyframes queryIndex rank candidate) :
    let row := rowOf keyframes queryIndex rank candidate (decide (Taken keyframes queryIndex candidate.matchIndex))
    (if row.accepted ∧ (row.queryIndex, row.matchIndex) ∉ kept.map fun row => (row.queryIndex, row.matchIndex) then
        { row with accepted := false, rejectionReason := .acceptedLoopLimit }
      else row) = finalRow keyframes queryIndex rank candidate := by
  dsimp only
  unfold finalRow
  dsimp only
  refine if_congr (and_congr_right fun haccepted => not_congr ?_) rfl rfl
  obtain ⟨rfl, hchosen⟩ := chosen_of_accepted hlt hranked haccepted
  rw [List.mem_map]
  constructor
  · rintro ⟨row, hrow, hpair⟩
    obtain ⟨other, nearer, hnearer, hfirst, rfl⟩ := (hkept row).mp hrow
    obtain rfl : other = queryIndex := congrArg Prod.fst hpair
    rw [hchosen.unique hnearer]
    exact hfirst
  · intro hfirst
    exact ⟨_, (hkept _).mpr ⟨queryIndex, candidate, hchosen, hfirst, rfl⟩, rfl⟩

theorem mem_candidates {row : Row} {s : LoopState} (haccepted : s.accepted = loopRows keyframes)
    (hcandidates : s.candidates = (List.range keyframes.length).flatMap (rowsOf keyframes)) :
    row ∈ (limitLoops s).candidates ↔ ∃ queryIndex rank candidate, queryIndex < keyframes.length ∧
      Ranked keyframes queryIndex rank candidate ∧ row = finalRow keyframes queryIndex rank candidate := by
  have hrows : ∀ row, row ∈ s.candidates ↔ ∃ queryIndex rank candidate, queryIndex < keyframes.length ∧
      Ranked keyframes queryIndex rank candidate ∧
      row = rowOf keyframes queryIndex rank candidate (decide (Taken keyframes queryIndex candidate.matchIndex)) := by
    intro row
    rw [hcandidates, List.mem_flatMap]
    constructor
    · rintro ⟨queryIndex, hmem, hrow⟩
      obtain ⟨⟨candidate, rank⟩, hranked, rfl⟩ := List.mem_map.mp hrow
      exact ⟨queryIndex, rank, candidate, List.mem_range.mp hmem, hranked, rfl⟩
    · rintro ⟨queryIndex, rank, candidate, hlt, hranked, rfl⟩
      exact ⟨queryIndex, List.mem_range.mpr hlt, List.mem_map.mpr ⟨(candidate, rank), hranked, rfl⟩⟩
  have hfinal := fun row => mem_kept row haccepted
  unfold limitLoops at hfinal ⊢
  dsimp only at hfinal ⊢
  split
  · rename_i hmany
    rw [if_pos hmany] at hfinal
    rw [List.mem_map]
    constructor
    · rintro ⟨before, hbefore, rfl⟩
      obtain ⟨queryIndex, rank, candidate, hlt, hranked, rfl⟩ := (hrows before).mp hbefore
      exact ⟨queryIndex, rank, candidate, hlt, hranked, limited_eq_finalRow hfinal hlt hranked⟩
    · rintro ⟨queryIndex, rank, candidate, hlt, hranked, rfl⟩
      exact ⟨_, (hrows _).mpr ⟨queryIndex, rank, candidate, hlt, hranked, rfl⟩,
        limited_eq_finalRow hfinal hlt hranked⟩
  · rename_i hfew
    rw [if_neg hfew] at hfinal
    have hsame : ∀ queryIndex rank candidate, queryIndex < keyframes.length →
        Ranked keyframes queryIndex rank candidate →
        rowOf keyframes queryIndex rank candidate (decide (Taken keyframes queryIndex candidate.matchIndex)) =
          finalRow keyframes queryIndex rank candidate := by
      intro queryIndex rank candidate hlt hranked
      unfold finalRow
      dsimp only
      rw [if_neg]
      rintro ⟨hrow, hnot⟩
      obtain ⟨rfl, hchosen⟩ := chosen_of_accepted hlt hranked hrow
      have hmem : rowOf keyframes queryIndex 1 candidate false ∈ StableFirst.sorted Row.distance s.accepted := by
        rw [(StableFirst.sorted_perm _ _).mem_iff, haccepted]
        exact mem_loopRows.mpr ⟨queryIndex, candidate, hchosen, rfl⟩
      obtain ⟨other, nearer, hnearer, hfirst, hrow'⟩ := (hfinal _).mp hmem
      obtain rfl : queryIndex = other := congrArg Row.queryIndex hrow'
      rw [hchosen.unique hnearer] at hnot
      exact hnot hfirst
    rw [hrows]
    constructor
    · rintro ⟨queryIndex, rank, candidate, hlt, hranked, rfl⟩
      exact ⟨queryIndex, rank, candidate, hlt, hranked, hsame _ _ _ hlt hranked⟩
    · rintro ⟨queryIndex, rank, candidate, hlt, hranked, rfl⟩
      exact ⟨queryIndex, rank, candidate, hlt, hranked, (hsame _ _ _ hlt hranked).symm⟩

/-! ## Soundness -/

theorem acceptable_iff : acceptable keyframes queryIndex 1 candidate = true ↔
    (verify keyframes queryIndex candidate).ok = true ∧ candidate.distance ≤ acceptDistance ∧
      loopMinSlamXy ≤ (slamOf keyframes queryIndex candidate).1 ∧
      (slamOf keyframes queryIndex candidate).1 ≤ loopMaxSlamXy ∧
      |wrapAngle ((verify keyframes queryIndex candidate).dyaw - (slamOf keyframes queryIndex candidate).2)| ≤
        geomYawLimit ∧
      Plane.radius ((verify keyframes queryIndex candidate).dx, (verify keyframes queryIndex candidate).dy) ≤
        geomXyLimit := by
  unfold acceptable shouldAcceptLoop
  constructor
  · intro h
    split_ifs at h with hfirst hslam hyaw hxy
    rw [not_or, not_or] at hfirst
    rw [not_or] at hslam
    exact ⟨by simpa using hfirst.2.1, not_lt.mp hfirst.2.2, not_lt.mp hslam.1, not_lt.mp hslam.2, not_lt.mp hyaw,
      not_lt.mp hxy⟩
  · rintro ⟨hok, hdistance, hnear, hfar, hyaw, hxy⟩
    rw [if_neg (by rw [hok]; simpa using hdistance), if_neg (not_or.mpr ⟨not_lt.mpr hnear, not_lt.mpr hfar⟩),
      if_neg (not_lt.mpr hyaw), if_neg (not_lt.mpr hxy)]

theorem overlap_of_ok (h : (verify keyframes queryIndex candidate).ok = true) :
    geomOverlapMin ≤ overlap (keyframeAt keyframes queryIndex).lidarCloud
      (keyframeAt keyframes candidate.matchIndex).lidarCloud candidate.yaw := by
  unfold verify geometricVerify at h
  split at h
  · cases h
  · dsimp only at h
    split at h
    · cases h
    · exact (of_decide_eq_true h).1

theorem Chosen.meetsThresholds (h : Chosen keyframes queryIndex candidate) :
    MeetsThresholds keyframes queryIndex candidate := by
  obtain ⟨hok, hdistance, hnear, hfar, hyaw, hxy⟩ := acceptable_iff.mp h.2.2.1
  exact ⟨gap_of_ranked h.2.1, hdistance, overlap_of_ok hok, hxy, hnear, hfar, hyaw⟩

theorem Chosen.pair_ne {other : ℕ} {nearer : Candidate} (h : Chosen keyframes queryIndex candidate)
    (h' : Chosen keyframes other nearer) (hlt : queryIndex < other) :
    pairOf queryIndex candidate.matchIndex ≠ pairOf other nearer.matchIndex := by
  intro hpair
  refine h'.2.2.2 (pairBefore_iff_taken.mp ⟨queryIndex, hlt, candidate, h.2.1, h.2.2.1, hpair.symm⟩)

theorem fails_reason_iff (selection : Selection) :
    Fails keyframes selection queryIndex 1 candidate
        (loopRejectionReason 1 candidate.distance (verify keyframes queryIndex candidate).ok
          (slamOf keyframes queryIndex candidate).1) ↔
      (candidate.distance ≤ acceptDistance → candidate.distance < acceptDistance ∧
        ((verify keyframes queryIndex candidate).ok = false ∨
          (slamOf keyframes queryIndex candidate).1 < loopMinSlamXy ∨
          loopMaxSlamXy < (slamOf keyframes queryIndex candidate).1)) := by
  unfold loopRejectionReason
  rw [if_neg (not_not.mpr rfl)]
  split_ifs with hdistance hok hnear hfar
  · constructor
    · intro hlt hle
      exact absurd hle (not_le.mpr hlt)
    · intro h
      by_contra hnot
      exact absurd (h (not_lt.mp hnot)).1 (not_lt.mpr hdistance)
  · exact ⟨fun _ _ => ⟨not_le.mp hdistance, Or.inl hok⟩, fun _ => hok⟩
  · exact ⟨fun _ _ => ⟨not_le.mp hdistance, Or.inr (Or.inl hnear)⟩, fun _ => hnear⟩
  · exact ⟨fun _ _ => ⟨not_le.mp hdistance, Or.inr (Or.inr hfar)⟩, fun _ => hfar⟩
  · constructor
    · exact fun h => h.elim
    · intro h
      rcases (h (not_le.mp hdistance).le).2 with hfails | hfails | hfails
      · exact hok hfails
      · exact hnear hfails
      · exact hfar hfails

theorem finalRow_of_chosen (hchosen : Chosen keyframes queryIndex candidate)
    (hfirst : AmongFirst keyframes queryIndex candidate) :
    finalRow keyframes queryIndex 1 candidate = rowOf keyframes queryIndex 1 candidate false := by
  unfold finalRow
  dsimp only
  rw [if_neg fun h => h.2 hfirst, decide_eq_false hchosen.2.2.2]

theorem rowOf_reason_of_not_acceptable (h : acceptable keyframes queryIndex rank candidate = false) (seen : Bool) :
    (rowOf keyframes queryIndex rank candidate seen).rejectionReason =
      loopRejectionReason rank candidate.distance (verify keyframes queryIndex candidate).ok
        (slamOf keyframes queryIndex candidate).1 := by
  unfold rowOf
  rw [h]
  rfl

theorem finalRow_of_not_acceptable (h : acceptable keyframes queryIndex rank candidate = false) :
    finalRow keyframes queryIndex rank candidate = rowOf keyframes queryIndex rank candidate
      (decide (Taken keyframes queryIndex candidate.matchIndex)) := by
  unfold finalRow
  dsimp only
  rw [if_neg]
  rintro ⟨haccepted, -⟩
  rw [rowOf_accepted, h] at haccepted
  cases haccepted

theorem length_kept_of_dropped {s : LoopState} (haccepted : s.accepted = loopRows keyframes)
    (hdropped : ¬ AmongFirst keyframes queryIndex candidate) : (limitLoops s).accepted.length = maxAcceptedLoops := by
  rw [← countP_loopRows, not_lt] at hdropped
  rw [kept_eq, List.length_take, haccepted, (StableFirst.sorted_perm _ _).length_eq]
  exact min_eq_left (hdropped.trans List.countP_le_length)

theorem fails_finalRow {s : LoopState} (haccepted : s.accepted = loopRows keyframes) (hclear : Clear keyframes)
    (hlt : queryIndex < keyframes.length) (hranked : Ranked keyframes queryIndex rank candidate)
    (hnot : (finalRow keyframes queryIndex rank candidate).accepted = false) :
    Fails keyframes (limitLoops s) queryIndex rank candidate
      (finalRow keyframes queryIndex rank candidate).rejectionReason := by
  by_cases hacceptable : acceptable keyframes queryIndex rank candidate = true
  · obtain rfl := rank_of_acceptable hacceptable
    by_cases htaken : Taken keyframes queryIndex candidate.matchIndex
    · have hrow : finalRow keyframes queryIndex 1 candidate = rowOf keyframes queryIndex 1 candidate true := by
        unfold finalRow
        dsimp only
        rw [decide_eq_true htaken, if_neg]
        rintro ⟨hrow, -⟩
        rw [rowOf_accepted, Bool.not_true, Bool.and_false] at hrow
        cases hrow
      have hreason : (rowOf keyframes queryIndex 1 candidate true).rejectionReason = .duplicatePair := by
        unfold rowOf
        rw [hacceptable]
        rfl
      rw [hrow, hreason]
      exact htaken
    · have hchosen : Chosen keyframes queryIndex candidate := ⟨hlt, hranked, hacceptable, htaken⟩
      by_cases hfirst : AmongFirst keyframes queryIndex candidate
      · rw [finalRow_of_chosen hchosen hfirst, rowOf_accepted, hacceptable] at hnot
        cases hnot
      · have hreason : (finalRow keyframes queryIndex 1 candidate).rejectionReason = .acceptedLoopLimit := by
          unfold finalRow
          dsimp only
          rw [if_pos]
          exact ⟨by rw [rowOf_accepted, hacceptable, decide_eq_false htaken]; rfl, hfirst⟩
        rw [hreason]
        exact length_kept_of_dropped haccepted hfirst
  · rw [Bool.not_eq_true] at hacceptable
    rw [finalRow_of_not_acceptable hacceptable, rowOf_reason_of_not_acceptable hacceptable]
    by_cases hrank : rank = 1
    · subst hrank
      exact (fails_reason_iff _).mpr fun hdistance => hclear.named queryIndex hlt candidate hranked hdistance hacceptable
    · unfold loopRejectionReason
      rw [if_pos hrank]
      exact hrank

theorem loopRows_pairs (keyframes : List LoopKeyframe) :
    ((loopRows keyframes).map fun row => pairOf row.queryIndex row.matchIndex).Nodup := by
  rw [List.Nodup, List.pairwise_map]
  refine (loopRows_places keyframes).imp_of_mem fun {a b} ha hb hlt => ?_
  obtain ⟨queryIndex, candidate, hchosen, rfl⟩ := mem_loopRows.mp ha
  obtain ⟨other, nearer, hnearer, rfl⟩ := mem_loopRows.mp hb
  exact hchosen.pair_ne hnearer hlt

theorem SelectsSoundly.clear {s : LoopState} (haccepted : s.accepted = loopRows keyframes)
    (hcandidates : s.candidates = (List.range keyframes.length).flatMap (rowsOf keyframes))
    (h : SelectsSoundly keyframes (limitLoops s)) : Clear keyframes := by
  constructor
  · intro queryIndex hlt candidate hranked hdistance hnot
    have hrow := (mem_candidates haccepted hcandidates).mpr ⟨queryIndex, 1, candidate, hlt, hranked, rfl⟩
    rw [finalRow_of_not_acceptable hnot] at hrow
    obtain ⟨other, hother, -, hfails⟩ := h.reasons _ hrow (by rw [rowOf_accepted, hnot]; rfl)
    rw [rowOf_reason_of_not_acceptable hnot] at hfails
    obtain rfl := ranked_unique hranked hother
    exact (fails_reason_iff _).mp hfails hdistance
  · intro queryIndex candidate other farther hchosen hother hfirst hlast
    refine h.nearest other farther hother (fun row hrow hquery => ?_) _
      ((mem_kept _ haccepted).mpr ⟨queryIndex, candidate, hchosen, hfirst, rfl⟩) candidate hchosen.2.1
    obtain ⟨kept, nearer, hnearer, hamong, rfl⟩ := (mem_kept _ haccepted).mp hrow
    obtain rfl : kept = other := hquery
    rw [hnearer.unique hother] at hamong
    exact hlast hamong

theorem Clear.selectsSoundly {s : LoopState} (haccepted : s.accepted = loopRows keyframes)
    (hcandidates : s.candidates = (List.range keyframes.length).flatMap (rowsOf keyframes))
    (h : Clear keyframes) : SelectsSoundly keyframes (limitLoops s) := by
  refine ⟨?_, ?_, ?_, ?_, ?_, ?_, ?_⟩
  · intro row hrow
    obtain ⟨queryIndex, candidate, hchosen, -, rfl⟩ := (mem_kept _ haccepted).mp hrow
    exact ⟨candidate, hchosen.2.1, rfl, hchosen.meetsThresholds⟩
  · have hnodup := ((StableFirst.sorted_perm Row.distance (loopRows keyframes)).map
      fun row => pairOf row.queryIndex row.matchIndex).nodup_iff.mpr (loopRows_pairs keyframes)
    rw [kept_eq, haccepted]
    exact hnodup.sublist ((List.take_sublist _ _).map _)
  · rw [kept_eq]
    exact List.length_take_le _ _
  · intro queryIndex candidate hchosen hdropped row hrow kept hkept
    obtain ⟨other, nearer, hnearer, hfirst, rfl⟩ := (mem_kept _ haccepted).mp hrow
    rw [ranked_unique hkept hnearer.2.1]
    refine h.rounding other nearer queryIndex candidate hnearer hchosen hfirst fun hamong => ?_
    exact hdropped _ ((mem_kept _ haccepted).mpr ⟨queryIndex, candidate, hchosen, hamong, rfl⟩) rfl
  · intro row hrow
    obtain ⟨queryIndex, candidate, hchosen, hfirst, rfl⟩ := (mem_kept _ haccepted).mp hrow
    exact (mem_candidates haccepted hcandidates).mpr ⟨queryIndex, 1, candidate, hchosen.1, hchosen.2.1,
      (finalRow_of_chosen hchosen hfirst).symm⟩
  · intro row hrow
    rw [mem_kept _ haccepted]
    constructor
    · intro htrue
      obtain ⟨queryIndex, rank, candidate, hlt, hranked, rfl⟩ := (mem_candidates haccepted hcandidates).mp hrow
      unfold finalRow at htrue
      dsimp only at htrue
      split at htrue
      · cases htrue
      · rename_i hkept
        obtain ⟨rfl, hchosen⟩ := chosen_of_accepted hlt hranked htrue
        have hfirst : AmongFirst keyframes queryIndex candidate := by
          by_contra hlast
          exact hkept ⟨htrue, hlast⟩
        exact ⟨queryIndex, candidate, hchosen, hfirst, finalRow_of_chosen hchosen hfirst⟩
    · rintro ⟨queryIndex, candidate, hchosen, -, rfl⟩
      rw [rowOf_accepted, hchosen.2.2.1]
      rfl
  · intro row hrow hnot
    obtain ⟨queryIndex, rank, candidate, hlt, hranked, rfl⟩ := (mem_candidates haccepted hcandidates).mp hrow
    have hfields : (finalRow keyframes queryIndex rank candidate).queryIndex = queryIndex ∧
        (finalRow keyframes queryIndex rank candidate).rank = rank ∧
        (finalRow keyframes queryIndex rank candidate).matchIndex = candidate.matchIndex := by
      unfold finalRow
      dsimp only
      split
      · exact ⟨rfl, rfl, rfl⟩
      · exact ⟨rfl, rfl, rfl⟩
    rw [hfields.1, hfields.2.1, hfields.2.2]
    exact ⟨candidate, hranked, rfl, fails_finalRow haccepted h hlt hranked hnot⟩

/-- For every list of keyframes and clouds loops are selected, and soundly exactly where every reason is one that
`_loop_rejection_reason` gets right and the rounding does not matter. -/
theorem selectsSoundly_iff_clear (keyframes : List LoopKeyframe) :
    ∃ selection, finalizeLoopClosure keyframes = .ok selection ∧
      (SelectsSoundly keyframes selection ↔ Clear keyframes) := by
  obtain ⟨s, hs, hcandidates, haccepted⟩ := finalize_eq keyframes
  exact ⟨limitLoops s, hs, fun h => h.clear haccepted hcandidates, fun h => h.selectsSoundly haccepted hcandidates⟩

/-! ## A corner seen twice, with another heading -/

/-- A keyframe that sees the corner, though its yaw is another than that of its lidar. -/
def cornerKeyframe (x yaw : ℝ) : LoopKeyframe := { pose := ⟨x, 0, 0, 0, 0, 0, 1⟩, yaw := yaw, cloud := [(x + 1, 1, 1)] }

/-- Thirty keyframes after one, five meters on, whose yaw is off by one. -/
def twistedCorner : List LoopKeyframe := cornerKeyframe 0 0 :: List.replicate 30 (cornerKeyframe 5 1)

theorem lidarCloud_cornerKeyframe (x yaw : ℝ) : (cornerKeyframe x yaw).lidarCloud = [cornerPoint] := by
  have hrotation : LidarFrame.quatToRotation Real.sqrt 0 0 0 1 = (1 : Matrix (Fin 3) (Fin 3) ℝ) := by
    have hunit : ¬ Real.sqrt 1 ≤ 1 / 10 ^ 12 := by
      rw [sqrt_one]
      norm_num
    unfold LidarFrame.quatToRotation LidarFrame.quatNormalize
    simp only [mul_zero, mul_one, zero_add, sqrt_one, div_one]
    rw [Matrix.one_fin_three]
    norm_num
  have hone : LidarFrame.valueOr (1 : ℝ) 1 = 1 := by
    unfold LidarFrame.valueOr
    exact if_neg one_ne_zero
  unfold LoopKeyframe.lidarCloud LidarFrame.worldToLidarFrame cornerKeyframe
  simp only [LidarFrame.valueOr_zero, hone, hrotation, List.map_cons, List.map_nil]
  simp [cornerPoint]

theorem lidarClouds_twistedCorner : lidarClouds twistedCorner = [cornerPoint] :: List.replicate 30 [cornerPoint] := by
  unfold lidarClouds twistedCorner
  rw [List.map_cons, List.map_replicate, lidarCloud_cornerKeyframe, lidarCloud_cornerKeyframe]

theorem point_turn_zero : Point.turn 0 = id := by
  funext p
  unfold Point.turn
  rw [Plane.turn_zero]
  rfl

theorem bestYaw_cornerPoint : bestYaw (scanContext [cornerPoint]) (scanContext [cornerPoint]) = (0, 0) := by
  have hbest := bestShift_cornerPoint 0
  have hcloud : turnedBySectors 0 [cornerPoint] = [cornerPoint] := by
    unfold turnedBySectors
    rw [Int.cast_zero, zero_mul, point_turn_zero, List.map_id]
  have hself : shiftDescriptor (scanContext [cornerPoint]) (shiftFor 0) = scanContext [cornerPoint] := by
    rw [← descriptor_turnedBySectors, hcloud]
  rw [hcloud] at hbest
  have hnear : descriptorDistance (scanContext [cornerPoint])
      (shiftDescriptor (scanContext [cornerPoint]) (shiftFor 0)) < 1e9 := by
    rw [hself, descriptorDistance_self]
    norm_num
  rw [hbest.bestYaw_eq hnear, hself, descriptorDistance_self]
  refine Prod.ext rfl ?_
  have hpi := pi_pos
  change yawOf (shiftFor 0) = 0
  unfold yawOf
  have hzero : ((shiftFor 0 : Fin sectors) : ℕ) = 0 := rfl
  simp only [hzero, Nat.cast_zero, zero_mul]
  exact if_neg (not_lt.mpr hpi.le)

theorem candidatesOf_twistedCorner : candidatesOf twistedCorner 30 = [⟨0, 0, 0⟩] := by
  unfold candidatesOf
  rw [lidarClouds_twistedCorner, loopCandidates_first, bestYaw_cornerPoint]

theorem wrapAngle_of_small {angle : ℝ} (hlow : -π ≤ angle) (hhigh : angle ≤ π) : wrapAngle angle = angle := by
  unfold wrapAngle
  rw [ScanContextDatabase.wrapDown, if_neg (not_lt.mpr hhigh), wrapUp, if_neg (not_lt.mpr hlow)]

theorem slamOf_twistedCorner : slamOf twistedCorner 30 ⟨0, 0, 0⟩ = (5, -1) := by
  have hpi := Real.pi_gt_three
  have hquery : keyframeAt twistedCorner 30 = cornerKeyframe 5 1 := rfl
  have hmatched : keyframeAt twistedCorner 0 = cornerKeyframe 0 0 := rfl
  have hsq : (cos 1 * -5) * (cos 1 * -5) + (-sin 1 * -5) * (-sin 1 * -5) = 5 * 5 := by
    linear_combination 25 * sin_sq_add_cos_sq 1
  unfold slamOf slamRelativeXyYaw
  rw [hquery, hmatched]
  unfold cornerKeyframe Plane.radius
  refine Prod.ext ?_ ?_
  · simp only [zero_sub, sub_self, mul_zero, add_zero]
    rw [show ∀ a b : ℝ, a ^ 2 + b ^ 2 = a * a + b * b from fun a b => by ring, hsq]
    exact sqrt_mul_self (by norm_num)
  · change wrapAngle (0 - 1) = -1
    rw [zero_sub]
    exact wrapAngle_of_small (by linarith) (by linarith)

theorem verify_twistedCorner : verify twistedCorner 30 ⟨0, 0, 0⟩ = ⟨true, 0, 0, 0⟩ := by
  have hquery : keyframeAt twistedCorner 30 = cornerKeyframe 5 1 := rfl
  have hmatched : keyframeAt twistedCorner 0 = cornerKeyframe 0 0 := rfl
  unfold verify
  rw [hquery, hmatched, lidarCloud_cornerKeyframe, lidarCloud_cornerKeyframe]
  exact geometricVerify_of_onto (List.cons_ne_nil _ _) (by rw [point_turn_zero, List.map_id])

/-- The top candidate lies on the query, five meters off by odometry, and fails by its yaw alone: its row says no more
than that it was rejected. -/
theorem not_twistedCorner_selectsSoundly :
    ∃ selection, finalizeLoopClosure twistedCorner = .ok selection ∧ ¬ SelectsSoundly twistedCorner selection := by
  obtain ⟨s, hs, hcandidates, haccepted⟩ := finalize_eq twistedCorner
  refine ⟨limitLoops s, hs, fun hsound => ?_⟩
  have hranked : Ranked twistedCorner 30 1 ⟨0, 0, 0⟩ := by
    unfold Ranked
    rw [candidatesOf_twistedCorner]
    exact List.mem_singleton_self _
  have hturned : wrapAngle (0 - -1) = 1 := by
    have hpi := Real.pi_gt_three
    rw [zero_sub, neg_neg]
    exact wrapAngle_of_small (by linarith) (by linarith)
  have hnot : acceptable twistedCorner 30 1 ⟨0, 0, 0⟩ = false := by
    rw [Bool.eq_false_iff]
    intro hacceptable
    have hyaw := (acceptable_iff.mp hacceptable).2.2.2.2.1
    rw [verify_twistedCorner, slamOf_twistedCorner, hturned] at hyaw
    norm_num [geomYawLimit] at hyaw
  have hnamed := (hsound.clear haccepted hcandidates).named 30 (by decide) _ hranked
    (by norm_num [acceptDistance]) hnot
  rw [verify_twistedCorner, slamOf_twistedCorner] at hnamed
  rcases hnamed.2 with hfails | hfails | hfails
  · cases hfails
  · norm_num [loopMinSlamXy] at hfails
  · norm_num [loopMaxSlamXy] at hfails

end LoopSelection

end RoamerX

end
