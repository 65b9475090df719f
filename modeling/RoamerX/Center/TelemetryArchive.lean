import RoamerX.Center.Trajectory
import RoamerX.Lib.PathLength
import Mathlib.Algebra.BigOperators.Group.List.Basic
import Mathlib.Data.Rat.Floor

set_option autoImplicit false

/-! # The archive of telemetry

`RobotTelemetryRetentionService._archive_and_delete_day`: the rows of one robot and day go into the
summary of the day, which may hold earlier rows already. Archived rows are deleted, so a day that is
archived in batches meets each row once. Times are microseconds; `_haversine_km` is a parameter. -/

namespace RoamerX

namespace TelemetryArchive

open Path

/-! ## Rows and summaries -/

abbrev Position : Type := ℚ × ℚ

/-- `RobotTelemetry`, as it is read here. -/
structure TelemetryRow where
  id : ℕ
  reportedAt : ℤ
  latitude : Option ℚ := none
  longitude : Option ℚ := none
  deriving DecidableEq

/-- `RobotTelemetryDailySummary` of one robot and day. The two columns of a position are written
    together. -/
structure DailySummary where
  sampleCount : ℕ
  firstReportedAt : ℤ
  lastReportedAt : ℤ
  activeSeconds : ℕ
  distanceKm : ℚ
  first : Option Position
  last : Option Position
  deriving DecidableEq

/-- The position of a row that has both coordinates. -/
def TelemetryRow.position (row : TelemetryRow) : Option Position :=
  match row.latitude, row.longitude with
  | some latitude, some longitude => some (latitude, longitude)
  | _, _ => none

/-- `order_by("reported_at", "id")`. -/
def precedes (a b : TelemetryRow) : Bool :=
  decide (a.reportedAt < b.reportedAt) || (decide (a.reportedAt = b.reportedAt) && decide (a.id ≤ b.id))

/-- `max(0, int((last_reported_at - first_reported_at).total_seconds()))`. -/
def secondsBetween (firstReportedAt lastReportedAt : ℤ) : ℕ :=
  (Int.tdiv (lastReportedAt - firstReportedAt) 1000000).toNat

/-! ## The archive -/

/-- The variables of the loop over the rows. -/
structure Walk where
  distanceKm : ℚ := 0
  firstPoint : Option Position := none
  lastPoint : Option Position := none
  previous : Option Position := none

variable (haversine : Position → Position → ℚ)

/-- The distance between two points, where both are there. -/
def step : Option Position → Option Position → ℚ
  | some p, some q => haversine p q
  | _, _ => 0

def Walk.take (walk : Walk) (row : TelemetryRow) : Walk :=
  match row.position with
  | none => walk
  | some point =>
    { distanceKm := walk.distanceKm + step haversine walk.previous (some point)
      firstPoint := walk.firstPoint <|> some point
      lastPoint := some point
      previous := some point }

/-- The distance between the summary and the rows beside it. -/
def bridge (summary : DailySummary) (firstReportedAt lastReportedAt : ℤ) (walk : Walk) : ℚ :=
  if summary.lastReportedAt ≤ firstReportedAt ∧ summary.last.isSome ∧ walk.firstPoint.isSome then
    step haversine summary.last walk.firstPoint
  else if lastReportedAt ≤ summary.firstReportedAt ∧ walk.lastPoint.isSome ∧ summary.first.isSome then
    step haversine walk.lastPoint summary.first
  else 0

def DailySummary.extend (summary : DailySummary) (count : ℕ) (firstReportedAt lastReportedAt : ℤ)
    (walk : Walk) : DailySummary :=
  let distanceKm := walk.distanceKm + bridge haversine summary firstReportedAt lastReportedAt walk
  let first := min firstReportedAt summary.firstReportedAt
  let last := max lastReportedAt summary.lastReportedAt
  { sampleCount := summary.sampleCount + count
    firstReportedAt := first
    lastReportedAt := last
    activeSeconds := secondsBetween first last
    distanceKm := summary.distanceKm + quantize distanceKm
    first := if firstReportedAt < summary.firstReportedAt ∧ walk.firstPoint.isSome then walk.firstPoint
      else summary.first
    last := if summary.lastReportedAt < lastReportedAt ∧ walk.lastPoint.isSome then walk.lastPoint
      else summary.last }

/-- `_archive_and_delete_day`. -/
def archiveDay (summary : Option DailySummary) (rows : List TelemetryRow) : Option DailySummary :=
  match rows.mergeSort precedes with
  | [] => summary
  | first :: rest =>
    let walk := (first :: rest).foldl (Walk.take haversine) {}
    let firstReportedAt := first.reportedAt
    let lastReportedAt := (rest.getLastD first).reportedAt
    match summary with
    | some summary =>
      some (summary.extend haversine (rest.length + 1) firstReportedAt lastReportedAt walk)
    | none =>
      some
        { sampleCount := rest.length + 1
          firstReportedAt := firstReportedAt
          lastReportedAt := lastReportedAt
          activeSeconds := secondsBetween firstReportedAt lastReportedAt
          distanceKm := quantize walk.distanceKm
          first := walk.firstPoint
          last := walk.lastPoint }

def archiveAll (batches : List (List TelemetryRow)) : Option DailySummary :=
  batches.foldl (archiveDay haversine) none

/-! ## The loop over the rows -/

/-- The positions of the rows that have one. -/
def positions (rows : List TelemetryRow) : List Position := rows.filterMap TelemetryRow.position

theorem positions_append (l r : List TelemetryRow) : positions (l ++ r) = positions l ++ positions r :=
  List.filterMap_append

variable {haversine}

theorem step_eq_link (haversine : Position → Position → ℚ) (l r : List Position) : step haversine l.getLast? r.head? = link haversine l r := by
  unfold step link
  cases l.getLast? with
  | none => rfl
  | some p =>
    cases r.head? with
    | none => rfl
    | some q => rfl

theorem foldl_take (rows : List TelemetryRow) :
    rows.foldl (Walk.take haversine) {} =
      { distanceKm := pathLength haversine (positions rows)
        firstPoint := (positions rows).head?
        lastPoint := (positions rows).getLast?
        previous := (positions rows).getLast? } := by
  induction rows using List.reverseRecOn with
  | nil => rfl
  | append_singleton rows row ih =>
    rw [List.foldl_append, ih, List.foldl_cons, List.foldl_nil, positions_append]
    unfold Walk.take
    cases hposition : row.position with
    | none =>
      have hnone : positions [row] = [] := by simp [positions, hposition]
      rw [hnone, List.append_nil]
    | some point =>
      have hone : positions [row] = [point] := by simp [positions, hposition]
      have hstep := step_eq_link haversine (positions rows) [point]
      rw [List.head?_cons] at hstep
      rw [hone, pathLength_append]
      dsimp only
      rw [hstep, List.getLast?_concat, List.head?_append]
      simp [pathLength]

/-! ## One batch -/

/-- The summary of rows that are archived already. -/
def summaryOf (rows : List TelemetryRow) (first last : Option Position) (distanceKm : ℚ) :
    Option DailySummary :=
  match rows with
  | [] => none
  | row :: rest =>
    some
      { sampleCount := rest.length + 1
        firstReportedAt := row.reportedAt
        lastReportedAt := (rest.getLastD row).reportedAt
        activeSeconds := secondsBetween row.reportedAt (rest.getLastD row).reportedAt
        distanceKm := distanceKm
        first := first
        last := last }

theorem summaryOf_cons (row : TelemetryRow) (rest : List TelemetryRow) (first last : Option Position)
    (distanceKm : ℚ) :
    summaryOf (row :: rest) first last distanceKm =
      some
        { sampleCount := rest.length + 1
          firstReportedAt := row.reportedAt
          lastReportedAt := (rest.getLastD row).reportedAt
          activeSeconds := secondsBetween row.reportedAt (rest.getLastD row).reportedAt
          distanceKm := distanceKm
          first := first
          last := last } := rfl

/-- The rows are in the order of the archive. -/
def Chronological (rows : List TelemetryRow) : Prop := rows.Pairwise fun a b => precedes a b = true

/-- The rows of the batch end later than those before it, or are the first. -/
def endsLater (before batch : List TelemetryRow) : Bool :=
  match before.getLast?, batch.getLast? with
  | some p, some q => decide (p.reportedAt < q.reportedAt)
  | none, _ => true
  | some _, none => false

theorem reportedAt_le_of_precedes {a b : TelemetryRow} (h : precedes a b = true) :
    a.reportedAt ≤ b.reportedAt := by
  unfold precedes at h
  rw [Bool.or_eq_true, Bool.and_eq_true, decide_eq_true_iff, decide_eq_true_iff] at h
  rcases h with hlt | ⟨heq, _⟩
  · exact hlt.le
  · exact heq.le

theorem Chronological.head_le {row : TelemetryRow} {rest : List TelemetryRow}
    (h : Chronological (row :: rest)) {other : TelemetryRow} (hmem : other ∈ row :: rest) :
    row.reportedAt ≤ other.reportedAt := by
  rcases List.mem_cons.mp hmem with rfl | hrest
  · exact le_refl _
  · exact reportedAt_le_of_precedes ((List.pairwise_cons.mp h).1 other hrest)

theorem getLast?_cons_eq (row : TelemetryRow) (rest : List TelemetryRow) :
    (row :: rest).getLast? = some (rest.getLastD row) := by
  rw [List.getLast?_cons, List.getLastD_eq_getLast?]

theorem bridge_of_later {summary : DailySummary} {firstReportedAt : ℤ}
    (hlater : summary.lastReportedAt ≤ firstReportedAt) (hfirst : summary.last = none → summary.first = none)
    (lastReportedAt : ℤ) (rows : List TelemetryRow) :
    bridge haversine summary firstReportedAt lastReportedAt (rows.foldl (Walk.take haversine) {}) =
      step haversine summary.last (positions rows).head? := by
  rw [foldl_take]
  unfold bridge
  dsimp only
  by_cases hboth : summary.last.isSome = true ∧ (positions rows).head?.isSome = true
  · rw [if_pos ⟨hlater, hboth⟩]
  · rw [if_neg fun h => hboth h.2]
    have hback : ¬(lastReportedAt ≤ summary.firstReportedAt ∧ (positions rows).getLast?.isSome = true ∧
        summary.first.isSome = true) := by
      rintro ⟨-, hpoint, hsome⟩
      refine hboth ⟨?_, ?_⟩
      · rw [Option.isSome_iff_ne_none]
        exact fun hnone => Option.isSome_iff_ne_none.mp hsome (hfirst hnone)
      · rw [List.getLast?_isSome] at hpoint
        rwa [List.isSome_head?]
    rw [if_neg hback]
    unfold step
    cases hlast : summary.last with
    | none => rfl
    | some p =>
      cases hhead : (positions rows).head? with
      | none => rfl
      | some q => exact absurd ⟨by rw [hlast]; rfl, by rw [hhead]; rfl⟩ hboth

theorem archiveDay_first {row : TelemetryRow} {rest : List TelemetryRow}
    (h : Chronological (row :: rest)) :
    archiveDay haversine none (row :: rest) =
      summaryOf (row :: rest) (positions (row :: rest)).head? (positions (row :: rest)).getLast?
        (quantize (pathLength haversine (positions (row :: rest)))) := by
  unfold archiveDay
  rw [List.mergeSort_of_pairwise h]
  dsimp only
  rw [foldl_take]
  rfl

theorem archiveDay_next {p q : TelemetryRow} {ps qs : List TelemetryRow}
    (h : Chronological (p :: ps ++ q :: qs)) {first last : Option Position}
    (hfirst : last = none → first = none) (distanceKm : ℚ) :
    archiveDay haversine (summaryOf (p :: ps) first last distanceKm) (q :: qs) =
      summaryOf (p :: ps ++ q :: qs) first
        (if endsLater (p :: ps) (q :: qs) then (positions (q :: qs)).getLast? <|> last else last)
        (distanceKm + quantize (pathLength haversine (positions (q :: qs)) +
          step haversine last (positions (q :: qs)).head?)) := by
  obtain ⟨hbefore, hbatch, hcross⟩ := List.pairwise_append.mp h
  -- the times of the two batches
  have hstart := Chronological.head_le hbefore List.getLastD_mem_cons
  have hend := Chronological.head_le hbatch List.getLastD_mem_cons
  have hgap : (ps.getLastD p).reportedAt ≤ q.reportedAt :=
    reportedAt_le_of_precedes (hcross _ List.getLastD_mem_cons q List.mem_cons_self)
  have hspan : (ps ++ q :: qs).getLastD p = qs.getLastD q := by
    rw [List.getLastD_eq_getLast?, List.getLast?_append, getLast?_cons_eq]
    rfl
  have hends : endsLater (p :: ps) (q :: qs) =
      decide ((ps.getLastD p).reportedAt < (qs.getLastD q).reportedAt) := by
    unfold endsLater
    rw [getLast?_cons_eq, getLast?_cons_eq]
  unfold archiveDay
  rw [List.mergeSort_of_pairwise hbatch, summaryOf_cons, List.cons_append, summaryOf_cons, hspan, hends]
  dsimp only
  unfold DailySummary.extend
  dsimp only
  rw [bridge_of_later (by exact hgap) (by exact hfirst), foldl_take, min_eq_right (hstart.trans hgap),
    max_eq_left (hgap.trans hend), if_neg fun hnew => absurd hnew.1 (hstart.trans hgap).not_gt]
  refine congrArg some (DailySummary.mk.injEq .. ▸ ⟨?_, rfl, rfl, rfl, rfl, rfl, ?_⟩)
  · rw [List.length_append, List.length_cons]
    omega
  · by_cases hlater : (ps.getLastD p).reportedAt < (qs.getLastD q).reportedAt
    · rw [if_pos (decide_eq_true hlater)]
      cases hpoint : (positions (q :: qs)).getLast? with
      | none => exact if_neg fun hnew => nomatch hnew.2
      | some point => exact if_pos ⟨hlater, rfl⟩
    · rw [if_neg fun hdecide => hlater (of_decide_eq_true hdecide), if_neg fun hnew => hlater hnew.1]

/-! ## All batches -/

/-- The rows whose positions reach the summary's last one: those of the first batch and of every batch
    that ends later than all before it. -/
@[simp] def keptFrom (before : List TelemetryRow) : List (List TelemetryRow) → List TelemetryRow
  | [] => []
  | batch :: batches =>
    (if endsLater before batch then batch else []) ++ keptFrom (before ++ batch) batches

/-- The lengths that are rounded one by one: the path through the positions of each batch, walked on from
    the last position that was kept. -/
@[simp] def legsFrom (haversine : Position → Position → ℚ) (before kept : List TelemetryRow) :
    List (List TelemetryRow) → List ℚ
  | [] => []
  | batch :: batches =>
    (pathLength haversine (positions batch) + link haversine (positions kept) (positions batch)) ::
      legsFrom haversine (before ++ batch) (kept ++ if endsLater before batch then batch else []) batches

def firstBatch (batches : List (List TelemetryRow)) : List TelemetryRow :=
  (batches.find? fun batch => !batch.isEmpty).getD []

/-- The summary of a day that is archived in batches. -/
structure Separable (haversine : Position → Position → ℚ) (batches : List (List TelemetryRow)) : Prop where
  /-- The first batch has a position, if any row has one. -/
  first : positions (firstBatch batches) = [] → positions batches.flatten = []
  /-- The last position stands in the first batch, or in one that ends later than all before it. -/
  last : (positions (keptFrom [] batches)).getLast? = (positions batches.flatten).getLast?
  /-- Rounding the legs one by one makes no difference. -/
  distance : ((legsFrom haversine [] [] batches).map quantize).sum =
    quantize (pathLength haversine (positions batches.flatten))

theorem quantize_zero : quantize (0 : ℚ) = 0 := by
  simp [quantize, roundHalfEven]

theorem archiveDay_nil (summary : Option DailySummary) : archiveDay haversine summary [] = summary := by
  unfold archiveDay
  rw [List.mergeSort_nil]

theorem getLast?_kept (before kept batch : List TelemetryRow) :
    (positions (kept ++ if endsLater before batch then batch else [])).getLast? =
      if endsLater before batch then (positions batch).getLast? <|> (positions kept).getLast?
      else (positions kept).getLast? := by
  by_cases hlater : endsLater before batch = true
  · rw [if_pos hlater, if_pos hlater, positions_append, List.getLast?_append]
    cases (positions batch).getLast? with
    | none => rfl
    | some point => rfl
  · rw [if_neg hlater, if_neg hlater, List.append_nil]

theorem foldl_archiveDay {before kept : List TelemetryRow} {batches : List (List TelemetryRow)}
    (h : Chronological (before ++ batches.flatten)) (hbefore : before ≠ []) {first : Option Position}
    (hfirst : (positions kept).getLast? = none → first = none) (distanceKm : ℚ) :
    batches.foldl (archiveDay haversine) (summaryOf before first (positions kept).getLast? distanceKm) =
      summaryOf (before ++ batches.flatten) first (positions (kept ++ keptFrom before batches)).getLast?
        (distanceKm + ((legsFrom haversine before kept batches).map quantize).sum) := by
  induction batches generalizing before kept distanceKm with
  | nil => simp [keptFrom, legsFrom]
  | cons batch batches ih =>
    obtain ⟨p, ps, rfl⟩ := List.exists_cons_of_ne_nil hbefore
    rw [List.foldl_cons, List.flatten_cons, keptFrom, legsFrom, List.map_cons, List.sum_cons]
    rw [List.flatten_cons, ← List.append_assoc] at h
    have hkept : (positions (kept ++ if endsLater (p :: ps) batch then batch else [])).getLast? = none →
        first = none := by
      intro hnone
      refine hfirst ?_
      rw [List.getLast?_eq_none_iff, positions_append, List.append_eq_nil_iff] at hnone
      rw [hnone.1]
      rfl
    cases batch with
    | nil =>
      have hlegs : quantize (pathLength haversine (positions []) +
          link haversine (positions kept) (positions [])) = 0 := by
        rw [show positions [] = [] from rfl, pathLength_nil, link_nil_right, zero_add, quantize_zero]
      have hends : endsLater (p :: ps) [] = false := by
        unfold endsLater
        rw [getLast?_cons_eq]
        rfl
      rw [archiveDay_nil, hlegs, hends]
      simp only [Bool.false_eq_true, if_false, List.append_nil, List.nil_append, zero_add]
      rw [List.append_nil] at h
      exact ih h hbefore hfirst distanceKm
    | cons q qs =>
      rw [archiveDay_next (List.pairwise_append.mp h).1 hfirst, ← getLast?_kept, step_eq_link,
        ih h (by simp) hkept, List.append_assoc, List.append_assoc, add_assoc]

theorem endsLater_nil (batch : List TelemetryRow) : endsLater [] batch = true := rfl

theorem firstBatch_cons_nil (batches : List (List TelemetryRow)) :
    firstBatch ([] :: batches) = firstBatch batches := rfl

theorem firstBatch_cons_cons (row : TelemetryRow) (rest : List TelemetryRow)
    (batches : List (List TelemetryRow)) : firstBatch ((row :: rest) :: batches) = row :: rest := rfl

theorem legsFrom_cons_nil (batches : List (List TelemetryRow)) :
    ((legsFrom haversine [] [] ([] :: batches)).map quantize).sum =
      ((legsFrom haversine [] [] batches).map quantize).sum := by
  have hlegs : quantize (pathLength haversine (positions []) +
      link haversine (positions []) (positions [])) = 0 := by
    rw [show positions [] = [] from rfl, pathLength_nil, link_nil_right, zero_add, quantize_zero]
  rw [legsFrom, List.map_cons, List.sum_cons, hlegs, zero_add]
  rfl

theorem archiveAll_eq {batches : List (List TelemetryRow)} (h : Chronological batches.flatten) :
    archiveAll haversine batches =
      summaryOf batches.flatten (positions (firstBatch batches)).head?
        (positions (keptFrom [] batches)).getLast? ((legsFrom haversine [] [] batches).map quantize).sum := by
  induction batches with
  | nil => rfl
  | cons batch batches ih =>
    cases batch with
    | nil =>
      unfold archiveAll at ih ⊢
      rw [List.foldl_cons, archiveDay_nil, ih h, firstBatch_cons_nil, legsFrom_cons_nil]
      rfl
    | cons q qs =>
      rw [List.flatten_cons] at h ⊢
      unfold archiveAll
      rw [List.foldl_cons, archiveDay_first (List.pairwise_append.mp h).1, foldl_archiveDay h (by simp)]
      · rw [firstBatch_cons_cons, legsFrom, keptFrom, endsLater_nil, if_pos rfl, List.map_cons,
          List.sum_cons, show positions [] = [] from rfl, link_nil_left, add_zero]
        rfl
      · intro hnone
        rw [List.getLast?_eq_none_iff] at hnone
        rw [hnone]
        rfl

theorem archiveAll_whole {rows : List TelemetryRow} (h : Chronological rows) :
    archiveAll haversine [rows] = summaryOf rows (positions rows).head? (positions rows).getLast?
      (quantize (pathLength haversine (positions rows))) := by
  cases rows with
  | nil => exact archiveDay_nil none
  | cons row rest => exact archiveDay_first h

theorem kept_of_flatten_nil (haversine : Position → Position → ℚ) (before kept : List TelemetryRow)
    {batches : List (List TelemetryRow)}
    (h : batches.flatten = []) :
    keptFrom before batches = [] ∧ ((legsFrom haversine before kept batches).map quantize).sum = 0 := by
  induction batches generalizing before kept with
  | nil => exact ⟨rfl, rfl⟩
  | cons batch batches ih =>
    rw [List.flatten_cons, List.append_eq_nil_iff] at h
    obtain ⟨rfl, hrest⟩ := h
    have hleg : pathLength haversine (positions []) + link haversine (positions kept) (positions []) = 0 := by
      rw [show positions [] = [] from rfl, pathLength_nil, link_nil_right, zero_add]
    obtain ⟨hkept, hlegs⟩ := ih (before ++ []) (kept ++ []) hrest
    rw [keptFrom, legsFrom, List.map_cons, List.sum_cons, ite_self, hkept, hlegs, hleg, quantize_zero]
    exact ⟨rfl, zero_add 0⟩

theorem exists_flatten_eq (batches : List (List TelemetryRow)) :
    ∃ rest, batches.flatten = firstBatch batches ++ rest := by
  induction batches with
  | nil => exact ⟨[], rfl⟩
  | cons batch batches ih =>
    cases batch with
    | nil => exact ih
    | cons row rest => exact ⟨batches.flatten, rfl⟩

theorem head?_firstBatch_iff (batches : List (List TelemetryRow)) :
    (positions (firstBatch batches)).head? = (positions batches.flatten).head? ↔
      (positions (firstBatch batches) = [] → positions batches.flatten = []) := by
  obtain ⟨rest, hflatten⟩ := exists_flatten_eq batches
  rw [hflatten, positions_append]
  cases positions (firstBatch batches) with
  | nil =>
    rw [List.nil_append, List.head?_nil, eq_comm, List.head?_eq_none_iff]
    exact ⟨fun h _ => h, fun h => h rfl⟩
  | cons p ps => exact ⟨(fun _ h => nomatch h), fun _ => rfl⟩

theorem summaryOf_inj {rows : List TelemetryRow} (hrows : rows ≠ []) {first first' last last' : Option Position}
    {distanceKm distanceKm' : ℚ} :
    summaryOf rows first last distanceKm = summaryOf rows first' last' distanceKm' ↔
      first = first' ∧ last = last' ∧ distanceKm = distanceKm' := by
  obtain ⟨row, rest, rfl⟩ := List.exists_cons_of_ne_nil hrows
  rw [summaryOf_cons, summaryOf_cons, Option.some.injEq, DailySummary.mk.injEq]
  constructor
  · rintro ⟨-, -, -, -, hdistance, hfirst, hlast⟩
    exact ⟨hfirst, hlast, hdistance⟩
  · rintro ⟨hfirst, hlast, hdistance⟩
    exact ⟨rfl, rfl, rfl, rfl, hdistance, hfirst, hlast⟩

/-- A robot that stands still, its second row archived by itself. -/
def standingBatches : List (List TelemetryRow) :=
  [[{ id := 1, reportedAt := 0, latitude := some 31, longitude := some 121 }],
    [{ id := 2, reportedAt := 600000000, latitude := some 31, longitude := some 121 }]]

/-- The first batch has no position, the second has one. -/
def lateFixBatches : List (List TelemetryRow) :=
  [[{ id := 1, reportedAt := 0 }], [{ id := 2, reportedAt := 1, latitude := some 31, longitude := some 121 }]]

end TelemetryArchive

end RoamerX
