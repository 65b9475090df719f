import RoamerX.Center.Trajectory
import RoamerX.Edge.MapFiles
import RoamerX.Lib.Excepts

set_option autoImplicit false

/-! # Submaps along a route

`build_map_set` of `submap_builder.py`: the route of the keyframes is cut into overlapping segments, and each segment
becomes a map of its own, with its part of the cloud and of the grid and the names of its neighbours. -/

namespace RoamerX

namespace SubmapBuilder

open MapFiles

structure Config where
  segmentLengthM : ℚ := 250
  stepLengthM : ℚ := 190
  marginM : ℚ := 12

/-- A row of `keyframes.csv`. -/
structure Row where
  index : ℤ
  stamp : ℚ
  x : ℚ
  y : ℚ
  z : ℚ

structure Keyframe extends Row where
  distanceM : ℚ

structure Bounds where
  minX : ℚ
  maxX : ℚ
  minY : ℚ
  maxY : ℚ

structure Source where
  rows : List Row
  cloud : Cloud
  image : Image
  metadata : Metadata

/-- The cropped grid of a submap: its image, and what `map.yaml` says of it. -/
structure Crop where
  image : Image
  resolution : ℚ
  originX : ℚ
  originY : ℚ
  yaw : ℚ
  /-- where the image begins in that of the source -/
  row0 : ℕ
  col0 : ℕ

structure Submap where
  submapId : String
  startM : ℚ
  endM : ℚ
  bounds : Bounds
  keyframeIndexes : List ℤ
  neighbors : List String
  cloud : Cloud

/-! ## The route -/

variable (hypot : ℚ → ℚ → ℚ)

def withDistance (row : Row) (distance : ℚ) : Keyframe := { row with distanceM := distance }

@[simp] def loadAfter : Row → ℚ → List Row → List Keyframe
  | _, _, [] => []
  | previous, cumulative, row :: rows =>
    let cumulative := cumulative + hypot (row.x - previous.x) (row.y - previous.y)
    withDistance row cumulative :: loadAfter row cumulative rows

def loadKeyframes : List Row → List Keyframe
  | [] => []
  | row :: rows => withDistance row 0 :: loadAfter hypot row 0 rows

def totalDistance (keyframes : List Keyframe) : ℚ := (keyframes.getLast?.map Keyframe.distanceM).getD 0

/-- How many segments `np.arange` begins. -/
def segmentCount (config : Config) (total : ℚ) : ℕ := ⌈(total + 1 / 1000) / config.stepLengthM⌉₊

def arange (config : Config) (total : ℚ) : List ℚ :=
  (List.range (segmentCount config total)).map fun (k : ℕ) => k * config.stepLengthM

def starts (config : Config) (total : ℚ) : List ℚ :=
  match (arange config total).getLast? with
  | some last =>
    if last + config.segmentLengthM < total then arange config total ++ [max 0 (total - config.segmentLengthM)]
    else arange config total
  | none => arange config total

/-! ## One submap -/

/-- `submap_{index:03d}` -/
def submapId (index : ℕ) : String :=
  let digits := Nat.toDigits 10 index
  "submap_" ++ String.ofList (List.replicate (3 - digits.length) '0' ++ digits)

def window (keyframes : List Keyframe) (startM endM : ℚ) : List Keyframe :=
  keyframes.filter fun item => decide (startM ≤ item.distanceM ∧ item.distanceM ≤ endM)

def minOf (values : List ℚ) : ℚ := values.min?.getD 0

def maxOf (values : List ℚ) : ℚ := values.max?.getD 0

def boundsOf (config : Config) (selected : List Keyframe) : Bounds where
  minX := minOf (selected.map (·.x)) - config.marginM
  maxX := maxOf (selected.map (·.x)) + config.marginM
  minY := minOf (selected.map (·.y)) - config.marginM
  maxY := maxOf (selected.map (·.y)) + config.marginM

def Bounds.keeps (bounds : Bounds) (point : Point) : Bool :=
  match point.x, point.y with
  | some x, some y => decide (bounds.minX ≤ x ∧ x ≤ bounds.maxX ∧ bounds.minY ≤ y ∧ y ≤ bounds.maxY)
  | _, _ => false

/-- The metadata and the cloud of a submap; a segment without a keyframe is skipped. -/
def describe (config : Config) (source : Source) (keyframes : List Keyframe) (index : ℕ) (startM : ℚ) :
    Option Submap :=
  let total := totalDistance keyframes
  let endM := min total (startM + config.segmentLengthM)
  let frameIndexes := (window keyframes startM endM).map (·.index)
  if frameIndexes.isEmpty then none
  else
    let selected := keyframes.filter fun item => frameIndexes.contains item.index
    let bounds := boundsOf config selected
    some
      { submapId := submapId index
        startM, endM, bounds
        keyframeIndexes := frameIndexes
        neighbors := (if 1 < index then [submapId (index - 1)] else []) ++
          (if endM < total then [submapId (index + 1)] else [])
        cloud := { source.cloud with points := source.cloud.points.filter bounds.keeps } }

/-- `"%.8f"` -/
def decimals8 (value : ℚ) : ℚ := roundHalfEven (value * 10 ^ 8) / 10 ^ 8

/-- `resolution` and `origin` of the source. -/
def resolutionOf (metadata : Metadata) : ℚ := if metadata.resolution.getD 0 = 0 then 1 / 20 else metadata.resolution.getD 0

def originOf (metadata : Metadata) : ℚ × ℚ × ℚ :=
  match metadata.origin with
  | some (x :: y :: yaw :: _) => (x, y, yaw)
  | some [x, y] => (x, y, 0)
  | some [x] => (x, 0, 0)
  | _ => (0, 0, 0)

/-- The columns and the rows from the bottom that a crop keeps. -/
structure Cut where
  col0 : ℤ
  col1 : ℤ
  bottom0 : ℤ
  bottom1 : ℤ

def cutOf (image : Image) (resolution : ℚ) (origin : ℚ × ℚ × ℚ) (bounds : Bounds) : Cut where
  col0 := max 0 ⌊(bounds.minX - origin.1) / resolution⌋
  col1 := min image.width ⌈(bounds.maxX - origin.1) / resolution⌉
  bottom0 := max 0 ⌊(bounds.minY - origin.2.1) / resolution⌋
  bottom1 := min image.height ⌈(bounds.maxY - origin.2.1) / resolution⌉

def cropGrid (image : Image) (resolution : ℚ) (origin : ℚ × ℚ × ℚ) (bounds : Bounds) : Except String Crop :=
  let cut := cutOf image resolution origin bounds
  if cut.col1 ≤ cut.col0 ∨ cut.bottom1 ≤ cut.bottom0 then .error "submap bounds do not intersect occupancy grid"
  else
    let row0 := image.height - cut.bottom1.toNat
    let col0 := cut.col0.toNat
    .ok
      { image :=
          { height := (cut.bottom1 - cut.bottom0).toNat
            width := (cut.col1 - cut.col0).toNat
            maxval := image.maxval
            value := fun row col => image.value (row0 + row) (col0 + col) }
        resolution := decimals8 resolution
        originX := decimals8 (origin.1 + cut.col0 * resolution)
        originY := decimals8 (origin.2.1 + cut.bottom0 * resolution)
        yaw := decimals8 origin.2.2
        row0, col0 }

/-! ## The map set -/

def buildSubmaps (config : Config) (source : Source) (keyframes : List Keyframe) :
    List (ℕ × ℚ) → Except String (List (Submap × Crop))
  | [] => .ok []
  | (index, startM) :: rest =>
    match describe config source keyframes index startM with
    | none => buildSubmaps config source keyframes rest
    | some submap => do
      let crop ← cropGrid source.image (resolutionOf source.metadata) (originOf source.metadata) submap.bounds
      let others ← buildSubmaps config source keyframes rest
      return (submap, crop) :: others

def buildMapSet (source : Source) (config : Config) : Except String (List (Submap × Crop)) :=
  let keyframes := loadKeyframes hypot source.rows
  if keyframes.length < 2 then .error "at least two keyframes are required to build a map set"
  else if config.segmentLengthM ≤ 0 ∨ config.stepLengthM ≤ 0 ∨ config.segmentLengthM < config.stepLengthM then
    .error "invalid submap segment/step configuration"
  else
    let starts := starts config (totalDistance keyframes)
    buildSubmaps config source keyframes ((List.range' 1 starts.length).zip starts)

/-! ## What a map set is for -/

variable (cos sin : ℚ → ℚ)

/-- The lower left corner of a cell, in the frame of the map. -/
def corner (grid : Grid) (row col : ℕ) : ℚ × ℚ :=
  let across := col * grid.resolution
  let up := (grid.height - 1 - row) * grid.resolution
  (grid.originX + grid.cosYaw * across - grid.sinYaw * up, grid.originY + grid.sinYaw * across + grid.cosYaw * up)

def Source.grid (source : Source) : Grid :=
  let (originX, originY, yaw) := originOf source.metadata
  { height := source.image.height, width := source.image.width, resolution := resolutionOf source.metadata
    originX, originY, cosYaw := cos yaw, sinYaw := sin yaw }

def Crop.grid (crop : Crop) : Grid where
  height := crop.image.height
  width := crop.image.width
  resolution := crop.resolution
  originX := crop.originX
  originY := crop.originY
  cosYaw := cos crop.yaw
  sinYaw := sin crop.yaw

/-- A cell of a crop is a cell of the source, with its value and in its place. -/
def SameCells (source : Source) (crop : Crop) : Prop :=
  ∀ row < crop.image.height, ∀ col < crop.image.width,
    crop.row0 + row < source.image.height ∧ crop.col0 + col < source.image.width ∧
    crop.image.value row col = source.image.value (crop.row0 + row) (crop.col0 + col) ∧
    corner (crop.grid cos sin) row col = corner (source.grid cos sin) (crop.row0 + row) (crop.col0 + col)

/-- Every neighbour is there and names the submap too, and no submap stands alone among others. -/
structure Linked (submaps : List Submap) : Prop where
  symmetric : ∀ submap ∈ submaps, ∀ name ∈ submap.neighbors, ∃ other ∈ submaps,
    other.submapId = name ∧ submap.submapId ∈ other.neighbors
  joined : 1 < submaps.length → ∀ submap ∈ submaps, submap.neighbors ≠ []

structure Sound (source : Source) (mapSet : List (Submap × Crop)) : Prop where
  covers : ∀ item ∈ loadKeyframes hypot source.rows, ∃ built ∈ mapSet, item.index ∈ built.1.keyframeIndexes
  ordered : mapSet.Pairwise fun a b => a.1.startM < b.1.startM ∧ a.1.endM ≤ b.1.endM
  linked : Linked (mapSet.map Prod.fst)
  cells : ∀ built ∈ mapSet, SameCells cos sin source built.2

/-- The crop begins where the source has its cells, also turned by the yaw and after eight decimals. -/
structure Placed (source : Source) (cut : Cut) : Prop where
  originX : decimals8 ((source.grid cos sin).originX + cut.col0 * (source.grid cos sin).resolution) =
    (source.grid cos sin).originX + ((source.grid cos sin).cosYaw * cut.col0 -
      (source.grid cos sin).sinYaw * cut.bottom0) * (source.grid cos sin).resolution
  originY : decimals8 ((source.grid cos sin).originY + cut.bottom0 * (source.grid cos sin).resolution) =
    (source.grid cos sin).originY + ((source.grid cos sin).sinYaw * cut.col0 +
      (source.grid cos sin).cosYaw * cut.bottom0) * (source.grid cos sin).resolution
  direction : cut.col0 + 1 < cut.col1 ∨ cut.bottom0 + 1 < cut.bottom1 →
    cos (decimals8 (originOf source.metadata).2.2) * decimals8 (source.grid cos sin).resolution =
      (source.grid cos sin).cosYaw * (source.grid cos sin).resolution ∧
    sin (decimals8 (originOf source.metadata).2.2) * decimals8 (source.grid cos sin).resolution =
      (source.grid cos sin).sinYaw * (source.grid cos sin).resolution

/-- No segment is without a keyframe, only the last segment reaches the end of the route, and the crops are placed. -/
structure Regular (source : Source) (config : Config) : Prop where
  windows : ∀ k : ℕ, k * config.stepLengthM ≤ totalDistance (loadKeyframes hypot source.rows) →
    ∃ item ∈ loadKeyframes hypot source.rows,
      k * config.stepLengthM ≤ item.distanceM ∧ item.distanceM ≤ k * config.stepLengthM + config.segmentLengthM
  reaches : ∀ k : ℕ, (k + 1) * config.stepLengthM ≤ totalDistance (loadKeyframes hypot source.rows) →
    k * config.stepLengthM + config.segmentLengthM < totalDistance (loadKeyframes hypot source.rows)
  placed : ∀ (k : ℕ) (submap : Submap),
    describe config source (loadKeyframes hypot source.rows) (k + 1) (k * config.stepLengthM) = some submap →
    Placed cos sin source (cutOf source.image (resolutionOf source.metadata) (originOf source.metadata) submap.bounds)

/-! ## The distances -/

section Distances

variable {hypot}

theorem le_of_mem_loadAfter (hhypot : ∀ dx dy, 0 ≤ hypot dx dy) {previous : Row} {cumulative : ℚ} {rows : List Row}
    {item : Keyframe} (h : item ∈ loadAfter hypot previous cumulative rows) : cumulative ≤ item.distanceM := by
  induction rows generalizing previous cumulative with
  | nil => cases h
  | cons row rows ih =>
    have hstep := hhypot (row.x - previous.x) (row.y - previous.y)
    rw [loadAfter] at h
    rcases List.mem_cons.mp h with rfl | hrest
    · exact le_add_of_nonneg_right hstep
    · have := ih hrest
      linarith

theorem pairwise_loadAfter (hhypot : ∀ dx dy, 0 ≤ hypot dx dy) (previous : Row) (cumulative : ℚ) (rows : List Row) :
    (loadAfter hypot previous cumulative rows).Pairwise fun a b => a.distanceM ≤ b.distanceM := by
  induction rows generalizing previous cumulative with
  | nil => exact List.Pairwise.nil
  | cons row rows ih => exact List.Pairwise.cons (fun item h => le_of_mem_loadAfter hhypot h) (ih _ _)

theorem pairwise_loadKeyframes (hhypot : ∀ dx dy, 0 ≤ hypot dx dy) (rows : List Row) :
    (loadKeyframes hypot rows).Pairwise fun a b => a.distanceM ≤ b.distanceM := by
  cases rows with
  | nil => exact List.Pairwise.nil
  | cons row rows =>
    exact List.Pairwise.cons (fun item h => le_of_mem_loadAfter hhypot h) (pairwise_loadAfter hhypot row 0 rows)

theorem distance_nonneg (hhypot : ∀ dx dy, 0 ≤ hypot dx dy) {rows : List Row} {item : Keyframe}
    (h : item ∈ loadKeyframes hypot rows) : 0 ≤ item.distanceM := by
  cases rows with
  | nil => cases h
  | cons row rows =>
    rcases List.mem_cons.mp h with rfl | hrest
    · exact le_refl (0 : ℚ)
    · exact le_of_mem_loadAfter hhypot hrest

theorem le_totalDistance {keyframes : List Keyframe} (h : keyframes.Pairwise fun a b => a.distanceM ≤ b.distanceM)
    (item : Keyframe) (hitem : item ∈ keyframes) : item.distanceM ≤ totalDistance keyframes := by
  induction keyframes generalizing item with
  | nil => cases hitem
  | cons first rest ih =>
    obtain ⟨hfirst, hrest⟩ := List.pairwise_cons.mp h
    cases rest with
    | nil =>
      obtain rfl := List.mem_singleton.mp hitem
      exact le_refl _
    | cons second rest =>
      have hsame : totalDistance (first :: second :: rest) = totalDistance (second :: rest) := rfl
      rw [hsame]
      rcases List.mem_cons.mp hitem with rfl | hitem
      · exact (hfirst second List.mem_cons_self).trans (ih hrest second List.mem_cons_self)
      · exact ih hrest item hitem

theorem exists_last {keyframes : List Keyframe} (h : keyframes ≠ []) :
    ∃ item ∈ keyframes, item.distanceM = totalDistance keyframes := by
  refine ⟨keyframes.getLast h, List.getLast_mem h, ?_⟩
  unfold totalDistance
  rw [List.getLast?_eq_getLast_of_ne_nil h]
  rfl

end Distances

/-! ## The starts -/

section Starts

variable {config : Config} {total : ℚ}

theorem lt_segmentCount_iff (hstep : 0 < config.stepLengthM) {k : ℕ} :
    k < segmentCount config total ↔ k * config.stepLengthM < total + 1 / 1000 := by
  unfold segmentCount
  rw [Nat.lt_ceil, lt_div_iff₀ hstep]

theorem starts_eq (hstep : 0 < config.stepLengthM) (hle : config.stepLengthM ≤ config.segmentLengthM) :
    starts config total = arange config total := by
  unfold starts
  split
  · rename_i last hlast
    refine if_neg (not_lt.mpr ?_)
    unfold arange at hlast
    cases hcount : segmentCount config total with
    | zero =>
      rw [hcount] at hlast
      cases hlast
    | succ count =>
      have hend := (lt_segmentCount_iff hstep : count + 1 < segmentCount config total ↔ _)
      rw [hcount, iff_false_left (lt_irrefl _), not_lt] at hend
      push_cast at hend
      rw [hcount, List.range_succ, List.map_append, List.map_singleton, List.getLast?_append] at hlast
      have hlast : last = count * config.stepLengthM := (Option.some.inj hlast).symm
      linarith
  · rfl

theorem zip_starts (hstep : 0 < config.stepLengthM) (hle : config.stepLengthM ≤ config.segmentLengthM) :
    (List.range' 1 (starts config total).length).zip (starts config total) =
      (List.range (segmentCount config total)).map fun (k : ℕ) => (k + 1, k * config.stepLengthM) := by
  rw [starts_eq hstep hle]
  unfold arange
  rw [List.length_map, List.length_range, List.range'_eq_map_range, List.zip_map']
  refine List.map_congr_left fun k _ => ?_
  rw [Nat.add_comm]

end Starts

theorem submapId_injective : Function.Injective submapId := by
  intro a b h
  have hvalue : ∀ n, Nat.ofDigitChars 10 (List.replicate (3 - (Nat.toDigits 10 n).length) '0' ++ Nat.toDigits 10 n) 0 = n := by
    intro n
    rw [Nat.ofDigitChars_append, Nat.ofDigitChars_replicate_zero, Nat.mul_zero]
    exact Nat.ofDigitChars_toDigits (by decide) (by decide)
  unfold submapId at h
  have hdigits := String.ofList_injective (String.append_right_inj _ |>.mp h)
  rw [← hvalue a, hdigits, hvalue b]

/-! ## The submaps -/

section Submaps

variable {config : Config} {source : Source} {keyframes : List Keyframe}

/-- The submap of the segment `k`. -/
def segment (config : Config) (source : Source) (keyframes : List Keyframe) (k : ℕ) : Option Submap :=
  describe config source keyframes (k + 1) (k * config.stepLengthM)

/-- The segment `k` has a keyframe. -/
def Present (config : Config) (keyframes : List Keyframe) (k : ℕ) : Prop :=
  ∃ item ∈ keyframes,
    k * config.stepLengthM ≤ item.distanceM ∧ item.distanceM ≤ k * config.stepLengthM + config.segmentLengthM

theorem mem_window {startM endM : ℚ} {item : Keyframe} :
    item ∈ window keyframes startM endM ↔ item ∈ keyframes ∧ startM ≤ item.distanceM ∧ item.distanceM ≤ endM := by
  unfold window
  rw [List.mem_filter, decide_eq_true_eq]

structure Describes (config : Config) (keyframes : List Keyframe) (k : ℕ) (submap : Submap) : Prop where
  submapId : submap.submapId = submapId (k + 1)
  startM : submap.startM = k * config.stepLengthM
  endM : submap.endM = min (totalDistance keyframes) (k * config.stepLengthM + config.segmentLengthM)
  indexes : submap.keyframeIndexes =
    (window keyframes (k * config.stepLengthM)
      (min (totalDistance keyframes) (k * config.stepLengthM + config.segmentLengthM))).map (·.index)
  neighbors : ∀ name, name ∈ submap.neighbors ↔ (0 < k ∧ name = SubmapBuilder.submapId k) ∨
    (k * config.stepLengthM + config.segmentLengthM < totalDistance keyframes ∧ name = SubmapBuilder.submapId (k + 2))

theorem describes_segment {k : ℕ} {submap : Submap} (h : segment config source keyframes k = some submap) :
    Describes config keyframes k submap := by
  unfold segment describe at h
  dsimp only at h
  split at h
  · cases h
  cases h
  refine ⟨rfl, rfl, rfl, rfl, fun name => ?_⟩
  have hend : min (totalDistance keyframes) (k * config.stepLengthM + config.segmentLengthM) < totalDistance keyframes ↔
      k * config.stepLengthM + config.segmentLengthM < totalDistance keyframes := by
    rw [min_lt_iff]
    exact or_iff_right (lt_irrefl _)
  dsimp only
  rw [List.mem_append]
  refine or_congr ?_ ?_
  · split
    · rename_i hfirst
      rw [List.mem_singleton, and_iff_right (by omega)]
      rfl
    · rename_i hfirst
      exact iff_of_false List.not_mem_nil fun hname => hfirst (by omega)
  · split
    · rename_i hlast
      rw [List.mem_singleton, and_iff_right (hend.mp hlast)]
    · rename_i hlast
      exact iff_of_false List.not_mem_nil fun hname => hlast (hend.mpr hname.1)

variable (source) in
theorem exists_segment_iff (hsorted : keyframes.Pairwise fun a b => a.distanceM ≤ b.distanceM) (k : ℕ) :
    (∃ submap, segment config source keyframes k = some submap) ↔ Present config keyframes k := by
  have hwindow : (window keyframes (k * config.stepLengthM)
      (min (totalDistance keyframes) (k * config.stepLengthM + config.segmentLengthM)) ≠ []) ↔
      Present config keyframes k := by
    have hne : ∀ items : List Keyframe, items ≠ [] ↔ ∃ item, item ∈ items := fun items =>
      ⟨List.exists_mem_of_ne_nil items, fun ⟨_, h⟩ => List.ne_nil_of_mem h⟩
    rw [hne]
    refine exists_congr fun item => ?_
    rw [mem_window, le_min_iff]
    exact and_congr_right fun hitem => and_congr_right fun _ => and_iff_right (le_totalDistance hsorted item hitem)
  rw [← hwindow]
  unfold segment describe
  dsimp only
  split
  · rename_i hempty
    refine iff_of_false (fun h => by obtain ⟨_, h⟩ := h; cases h) fun h => h ?_
    rwa [List.isEmpty_iff, List.map_eq_nil_iff] at hempty
  · rename_i hempty
    refine iff_of_true ⟨_, rfl⟩ fun h => hempty ?_
    rw [h]
    rfl

theorem Present.on_route (hsorted : keyframes.Pairwise fun a b => a.distanceM ≤ b.distanceM) {k : ℕ}
    (h : Present config keyframes k) : k * config.stepLengthM ≤ totalDistance keyframes := by
  obtain ⟨item, hitem, hstart, -⟩ := h
  exact hstart.trans (le_totalDistance hsorted item hitem)

theorem buildSubmaps_ok {parts : List (ℕ × ℚ)} {mapSet : List (Submap × Crop)}
    (h : buildSubmaps config source keyframes parts = .ok mapSet) :
    mapSet.map Prod.fst = parts.filterMap (fun part => describe config source keyframes part.1 part.2) ∧
    ∀ built ∈ mapSet, cropGrid source.image (resolutionOf source.metadata) (originOf source.metadata) built.1.bounds =
      .ok built.2 := by
  induction parts generalizing mapSet with
  | nil =>
    cases h
    exact ⟨rfl, fun _ hbuilt => absurd hbuilt List.not_mem_nil⟩
  | cons part parts ih =>
    obtain ⟨index, startM⟩ := part
    rw [buildSubmaps] at h
    rw [List.filterMap_cons]
    split at h
    · rename_i hskip
      dsimp only
      rw [hskip]
      exact ih h
    · rename_i submap hsubmap
      obtain ⟨crop, hcrop, h⟩ := Excepts.bind_eq_ok h
      obtain ⟨others, hothers, h⟩ := Excepts.bind_eq_ok h
      cases h
      obtain ⟨hmetas, hcrops⟩ := ih hothers
      dsimp only
      rw [hsubmap]
      refine ⟨congrArg (submap :: ·) hmetas, fun built hbuilt => ?_⟩
      rcases List.mem_cons.mp hbuilt with rfl | hbuilt
      · exact hcrop
      · exact hcrops built hbuilt

end Submaps

section Map

variable {config : Config} {source : Source} {keyframes : List Keyframe} {mapSet : List (Submap × Crop)}

/-- The submaps of a map set are those of its segments. -/
structure Built (config : Config) (source : Source) (keyframes : List Keyframe) (mapSet : List (Submap × Crop)) :
    Prop where
  step_pos : 0 < config.stepLengthM
  step_le : config.stepLengthM ≤ config.segmentLengthM
  nonempty : keyframes ≠ []
  submaps : mapSet.map Prod.fst =
    (List.range (segmentCount config (totalDistance keyframes))).filterMap (segment config source keyframes)
  crops : ∀ built ∈ mapSet,
    cropGrid source.image (resolutionOf source.metadata) (originOf source.metadata) built.1.bounds = .ok built.2

theorem built_of_ok (h : buildMapSet hypot source config = .ok mapSet) :
    Built config source (loadKeyframes hypot source.rows) mapSet := by
  unfold buildMapSet at h
  dsimp only at h
  split at h
  · cases h
  rename_i hlength
  split at h
  · cases h
  rename_i hvalid
  obtain ⟨-, hstep, hle⟩ : 0 < config.segmentLengthM ∧ 0 < config.stepLengthM ∧
      config.stepLengthM ≤ config.segmentLengthM := by
    simpa only [not_or, not_le, not_lt] using hvalid
  rw [zip_starts hstep hle] at h
  obtain ⟨hsubmaps, hcrops⟩ := buildSubmaps_ok h
  refine ⟨hstep, hle, fun hnil => hlength (by rw [hnil]; decide), ?_, hcrops⟩
  rw [hsubmaps, List.filterMap_map]
  rfl

namespace Built

variable (hbuilt : Built config source keyframes mapSet)
  (hsorted : keyframes.Pairwise fun a b => a.distanceM ≤ b.distanceM)

include hbuilt

theorem mem_iff {submap : Submap} :
    submap ∈ mapSet.map Prod.fst ↔
      ∃ k < segmentCount config (totalDistance keyframes), segment config source keyframes k = some submap := by
  rw [hbuilt.submaps, List.mem_filterMap]
  simp only [List.mem_range]

include hsorted

theorem exists_submap {k : ℕ} (h : Present config keyframes k) :
    ∃ submap ∈ mapSet.map Prod.fst, segment config source keyframes k = some submap := by
  obtain ⟨submap, hsubmap⟩ := (exists_segment_iff source hsorted k).mpr h
  have hcount := (lt_segmentCount_iff hbuilt.step_pos : _ < segmentCount config (totalDistance keyframes) ↔ _).mpr
    (lt_of_le_of_lt (h.on_route hsorted) (by norm_num))
  exact ⟨submap, hbuilt.mem_iff.mpr ⟨k, hcount, hsubmap⟩, hsubmap⟩

theorem covers (hnonneg : ∀ item ∈ keyframes, 0 ≤ item.distanceM) {item : Keyframe} (hitem : item ∈ keyframes) :
    ∃ built ∈ mapSet, item.index ∈ built.1.keyframeIndexes := by
  have hstep := hbuilt.step_pos
  have hle := hbuilt.step_le
  have hdiv : 0 ≤ item.distanceM / config.stepLengthM := div_nonneg (hnonneg item hitem) hstep.le
  have hstart : (⌊item.distanceM / config.stepLengthM⌋₊ : ℚ) * config.stepLengthM ≤ item.distanceM :=
    (le_div_iff₀ hstep).mp (Nat.floor_le hdiv)
  have hend : item.distanceM < (⌊item.distanceM / config.stepLengthM⌋₊ + 1 : ℚ) * config.stepLengthM :=
    (div_lt_iff₀ hstep).mp (Nat.lt_floor_add_one _)
  have hwithin : item.distanceM ≤
      ⌊item.distanceM / config.stepLengthM⌋₊ * config.stepLengthM + config.segmentLengthM := by linarith
  obtain ⟨submap, hsubmap, hsegment⟩ := hbuilt.exists_submap hsorted ⟨item, hitem, hstart, hwithin⟩
  obtain ⟨built, hmem, rfl⟩ := List.mem_map.mp hsubmap
  refine ⟨built, hmem, ?_⟩
  rw [(describes_segment hsegment).indexes]
  exact List.mem_map_of_mem
    (mem_window.mpr ⟨hitem, hstart, le_min (le_totalDistance hsorted item hitem) hwithin⟩)

omit hsorted in
theorem ordered : mapSet.Pairwise fun a b => a.1.startM < b.1.startM ∧ a.1.endM ≤ b.1.endM := by
  have hsubmaps : (mapSet.map Prod.fst).Pairwise fun a b => a.startM < b.startM ∧ a.endM ≤ b.endM := by
    rw [hbuilt.submaps, List.pairwise_filterMap]
    refine List.pairwise_lt_range.imp fun {k l} hlt a ha b hb => ?_
    have hdescribesA := describes_segment ha
    have hdescribesB := describes_segment hb
    have hstart : (k : ℚ) * config.stepLengthM < l * config.stepLengthM :=
      mul_lt_mul_of_pos_right (by exact_mod_cast hlt) hbuilt.step_pos
    rw [hdescribesA.startM, hdescribesB.startM, hdescribesA.endM, hdescribesB.endM]
    exact ⟨hstart, min_le_min_left _ (by linarith)⟩
  exact List.pairwise_map.mp hsubmaps

theorem present_of_succ (hlinked : Linked (mapSet.map Prod.fst)) {k : ℕ} (h : Present config keyframes (k + 1)) :
    Present config keyframes k ∧ k * config.stepLengthM + config.segmentLengthM < totalDistance keyframes := by
  obtain ⟨submap, hsubmap, hsegment⟩ := hbuilt.exists_submap hsorted h
  have hdescribes := describes_segment hsegment
  obtain ⟨other, hother, hname, hback⟩ := hlinked.symmetric submap hsubmap (submapId (k + 1))
    ((hdescribes.neighbors _).mpr (Or.inl ⟨k.succ_pos, rfl⟩))
  obtain ⟨k', -, hsegment'⟩ := hbuilt.mem_iff.mp hother
  have hdescribes' := describes_segment hsegment'
  obtain rfl : k' = k := Nat.succ_injective (submapId_injective (hdescribes'.submapId.symm.trans hname))
  refine ⟨(exists_segment_iff _ hsorted k').mp ⟨other, hsegment'⟩, ?_⟩
  rw [hdescribes.submapId] at hback
  rcases (hdescribes'.neighbors _).mp hback with ⟨-, hsame⟩ | ⟨hreaches, -⟩
  · have := submapId_injective hsame
    omega
  · exact hreaches

theorem windows_of_linked (hnonneg : ∀ item ∈ keyframes, 0 ≤ item.distanceM)
    (hlinked : Linked (mapSet.map Prod.fst)) {k : ℕ} (hk : k * config.stepLengthM ≤ totalDistance keyframes) :
    Present config keyframes k := by
  have hstep := hbuilt.step_pos
  have hle := hbuilt.step_le
  obtain ⟨last, hlast, htotal⟩ := exists_last hbuilt.nonempty
  have hdiv : 0 ≤ totalDistance keyframes / config.stepLengthM :=
    div_nonneg (htotal ▸ hnonneg last hlast) hstep.le
  -- downwards from the segment that begins last
  have hkle : k ≤ ⌊totalDistance keyframes / config.stepLengthM⌋₊ := Nat.le_floor ((le_div_iff₀ hstep).mpr hk)
  refine Nat.decreasingInduction (motive := fun k _ => Present config keyframes k)
    (fun j _ hj => (hbuilt.present_of_succ hsorted hlinked hj).1) ?_ hkle
  have hstart := (le_div_iff₀ hstep).mp (Nat.floor_le hdiv)
  have hend := (div_lt_iff₀ hstep).mp (Nat.lt_floor_add_one (totalDistance keyframes / config.stepLengthM))
  exact ⟨last, hlast, htotal ▸ hstart, by linarith⟩

/-- A set is linked exactly when every segment on the route has a keyframe and only the last reaches the end. -/
theorem linked_iff (hnonneg : ∀ item ∈ keyframes, 0 ≤ item.distanceM) :
    Linked (mapSet.map Prod.fst) ↔
      (∀ k : ℕ, k * config.stepLengthM ≤ totalDistance keyframes → Present config keyframes k) ∧
      ∀ k : ℕ, (k + 1) * config.stepLengthM ≤ totalDistance keyframes →
        k * config.stepLengthM + config.segmentLengthM < totalDistance keyframes := by
  have hstep := hbuilt.step_pos
  have hle := hbuilt.step_le
  constructor
  · intro hlinked
    refine ⟨fun k hk => hbuilt.windows_of_linked hsorted hnonneg hlinked hk, fun k hk => ?_⟩
    have hnext := hbuilt.windows_of_linked hsorted hnonneg hlinked (k := k + 1) (by exact_mod_cast hk)
    exact (hbuilt.present_of_succ hsorted hlinked hnext).2
  · rintro ⟨hwindows, hreaches⟩
    constructor
    · intro submap hsubmap name hname
      obtain ⟨k, -, hsegment⟩ := hbuilt.mem_iff.mp hsubmap
      have hroute := ((exists_segment_iff _ hsorted k).mp ⟨submap, hsegment⟩).on_route hsorted
      have hdescribes := describes_segment hsegment
      rw [hdescribes.submapId]
      rcases (hdescribes.neighbors name).mp hname with ⟨hpos, rfl⟩ | ⟨hend, rfl⟩
      · obtain ⟨j, rfl⟩ := Nat.exists_eq_succ_of_ne_zero hpos.ne'
        push_cast at hroute
        obtain ⟨other, hother, hsegment'⟩ := hbuilt.exists_submap hsorted (hwindows j (by linarith))
        have hdescribes' := describes_segment hsegment'
        exact ⟨other, hother, hdescribes'.submapId,
          (hdescribes'.neighbors _).mpr (Or.inr ⟨hreaches j hroute, rfl⟩)⟩
      · obtain ⟨other, hother, hsegment'⟩ := hbuilt.exists_submap hsorted
          (hwindows (k + 1) (by push_cast; linarith))
        have hdescribes' := describes_segment hsegment'
        exact ⟨other, hother, hdescribes'.submapId, (hdescribes'.neighbors _).mpr (Or.inl ⟨k.succ_pos, rfl⟩)⟩
    · intro hmany submap hsubmap hnone
      obtain ⟨k, -, hsegment⟩ := hbuilt.mem_iff.mp hsubmap
      have hdescribes := describes_segment hsegment
      have hno : ∀ name, name ∉ submap.neighbors := by
        rw [hnone]
        exact fun name => List.not_mem_nil
      have hfirst : k = 0 := by
        by_contra hpos
        exact hno _ ((hdescribes.neighbors _).mpr (Or.inl ⟨Nat.pos_of_ne_zero hpos, rfl⟩))
      subst hfirst
      -- there is a segment after the first one
      obtain ⟨later, hlater, hafter⟩ : ∃ later ∈ mapSet.map Prod.fst, 0 < later.startM := by
        have hordered : (mapSet.map Prod.fst).Pairwise fun a b => a.startM < b.startM :=
          List.pairwise_map.mpr (hbuilt.ordered.imp fun h => h.1)
        match hmaps : mapSet.map Prod.fst, hmany with
        | a :: b :: rest, _ =>
          rw [hmaps] at hordered
          refine ⟨b, by simp, ?_⟩
          obtain ⟨k, -, hsegment⟩ := hbuilt.mem_iff.mp (hmaps ▸ List.mem_cons_self : a ∈ mapSet.map Prod.fst)
          have hstart := (describes_segment hsegment).startM
          have hlt := (List.pairwise_cons.mp hordered).1 b List.mem_cons_self
          have hnonneg : 0 ≤ (k : ℚ) * config.stepLengthM := mul_nonneg (Nat.cast_nonneg k) hstep.le
          linarith
      obtain ⟨k, -, hsegment'⟩ := hbuilt.mem_iff.mp hlater
      have hstart := (describes_segment hsegment').startM
      have hroute := ((exists_segment_iff _ hsorted k).mp ⟨later, hsegment'⟩).on_route hsorted
      have hpos : 1 ≤ k := by
        by_contra hzero
        have : k = 0 := by omega
        rw [hstart, this, Nat.cast_zero, zero_mul] at hafter
        exact lt_irrefl _ hafter
      have hone : (1 : ℚ) * config.stepLengthM ≤ k * config.stepLengthM :=
        mul_le_mul_of_nonneg_right (by exact_mod_cast hpos) hstep.le
      have hreach := hreaches 0 (by push_cast; linarith)
      exact hno _ ((hdescribes.neighbors _).mpr (Or.inr ⟨hreach, rfl⟩))

end Built

end Map

/-! ## The cells -/

section Cells

variable {cos sin : ℚ → ℚ} {source : Source} {bounds : Bounds} {crop : Crop}

/-- Two grids agree on their corners when they agree on one corner and, if there is another, on the direction. -/
theorem corners_iff {w h : ℕ} (hw : 0 < w) (hh : 0 < h) (x y c s x' y' c' s' col0 bottom0 : ℚ) :
    (∀ a < w, ∀ b < h, x' + c' * a - s' * b = x + c * (col0 + a) - s * (bottom0 + b) ∧
        y' + s' * a + c' * b = y + s * (col0 + a) + c * (bottom0 + b)) ↔
      x' = x + (c * col0 - s * bottom0) ∧ y' = y + (s * col0 + c * bottom0) ∧
        (1 < w ∨ 1 < h → c' = c ∧ s' = s) := by
  constructor
  · intro hall
    obtain ⟨hx, hy⟩ := hall 0 hw 0 hh
    simp only [Nat.cast_zero, mul_zero, add_zero, sub_zero] at hx hy
    refine ⟨by linarith, by linarith, fun hmore => ?_⟩
    rcases hmore with hmore | hmore
    · obtain ⟨hx', hy'⟩ := hall 1 hmore 0 hh
      simp only [Nat.cast_zero, Nat.cast_one, mul_zero, mul_one, add_zero, sub_zero] at hx' hy'
      exact ⟨by linarith, by linarith⟩
    · obtain ⟨hx', hy'⟩ := hall 0 hw 1 hmore
      simp only [Nat.cast_zero, Nat.cast_one, mul_zero, mul_one, add_zero] at hx' hy'
      exact ⟨by linarith, by linarith⟩
  · rintro ⟨hx, hy, hdirection⟩ a ha b hb
    by_cases hmore : 1 < w ∨ 1 < h
    · obtain ⟨rfl, rfl⟩ := hdirection hmore
      exact ⟨by linarith, by linarith⟩
    · obtain ⟨rfl, rfl⟩ : a = 0 ∧ b = 0 := by omega
      simp only [Nat.cast_zero, mul_zero, add_zero, sub_zero]
      exact ⟨by linarith, by linarith⟩

theorem sameCells_iff (h : cropGrid source.image (resolutionOf source.metadata) (originOf source.metadata) bounds =
      .ok crop) :
    SameCells cos sin source crop ↔
      Placed cos sin source
        (cutOf source.image (resolutionOf source.metadata) (originOf source.metadata) bounds) := by
  unfold cropGrid at h
  dsimp only at h
  split at h
  · cases h
  rename_i hcut
  have hcol0 : 0 ≤ (cutOf source.image (resolutionOf source.metadata) (originOf source.metadata) bounds).col0 :=
    le_max_left _ _
  have hbottom0 : 0 ≤ (cutOf source.image (resolutionOf source.metadata) (originOf source.metadata) bounds).bottom0 :=
    le_max_left _ _
  have hcol1 : (cutOf source.image (resolutionOf source.metadata) (originOf source.metadata) bounds).col1 ≤
      source.image.width := min_le_left _ _
  have hbottom1 : (cutOf source.image (resolutionOf source.metadata) (originOf source.metadata) bounds).bottom1 ≤
      source.image.height := min_le_left _ _
  generalize cutOf source.image (resolutionOf source.metadata) (originOf source.metadata) bounds = cut at *
  obtain ⟨col0, col1, bottom0, bottom1⟩ := cut
  dsimp only at *
  obtain ⟨left, rfl⟩ := Int.eq_ofNat_of_zero_le hcol0
  obtain ⟨below, rfl⟩ := Int.eq_ofNat_of_zero_le hbottom0
  obtain ⟨width, rfl⟩ : ∃ width : ℕ, col1 = left + width := ⟨(col1 - left).toNat, by omega⟩
  obtain ⟨height, rfl⟩ : ∃ height : ℕ, bottom1 = below + height := ⟨(bottom1 - below).toNat, by omega⟩
  have hcrop := (Except.ok.inj h).symm
  have hheight : crop.image.height = height := by
    rw [hcrop]
    dsimp only
    omega
  have hwidth : crop.image.width = width := by
    rw [hcrop]
    dsimp only
    omega
  have hrow0 : crop.row0 + (below + height) = source.image.height := by
    rw [hcrop]
    dsimp only
    omega
  have hleft : crop.col0 = left := by
    rw [hcrop]
    rfl
  have hvalue : ∀ row col, crop.image.value row col = source.image.value (crop.row0 + row) (crop.col0 + col) := by
    rw [hcrop]
    exact fun _ _ => rfl
  have hpositive : 0 < width ∧ 0 < height := by omega
  -- the cell `b` rows above the lowest one
  have hcorner : ∀ row col b, row + b + 1 = height →
      (corner (crop.grid cos sin) row col = corner (source.grid cos sin) (crop.row0 + row) (crop.col0 + col) ↔
        crop.originX + (cos crop.yaw * crop.resolution) * col - (sin crop.yaw * crop.resolution) * b =
            (source.grid cos sin).originX +
              ((source.grid cos sin).cosYaw * (source.grid cos sin).resolution) * (left + col) -
              ((source.grid cos sin).sinYaw * (source.grid cos sin).resolution) * (below + b) ∧
          crop.originY + (sin crop.yaw * crop.resolution) * col + (cos crop.yaw * crop.resolution) * b =
            (source.grid cos sin).originY +
              ((source.grid cos sin).sinYaw * (source.grid cos sin).resolution) * (left + col) +
              ((source.grid cos sin).cosYaw * (source.grid cos sin).resolution) * (below + b)) := by
    intro row col b hb
    have hup : ((crop.grid cos sin).height : ℚ) - 1 - row = b := by
      have : ((crop.grid cos sin).height : ℚ) = row + b + 1 := by
        exact_mod_cast hheight.trans hb.symm
      linarith
    have hup' : ((source.grid cos sin).height : ℚ) - 1 - (crop.row0 + row : ℕ) = below + b := by
      have hrows : (source.grid cos sin).height = crop.row0 + (below + (row + b + 1)) := by
        rw [hb]
        exact hrow0.symm
      rw [hrows]
      push_cast
      ring
    unfold corner
    dsimp only
    rw [hup, hup', hleft, Prod.mk.injEq]
    push_cast
    refine and_congr ?_ ?_
    · refine Eq.congr ?_ (by ring)
      unfold Crop.grid
      dsimp only
      ring
    · refine Eq.congr ?_ (by ring)
      unfold Crop.grid
      dsimp only
      ring
  have hcells : SameCells cos sin source crop ↔ ∀ col < width, ∀ b < height,
      crop.originX + (cos crop.yaw * crop.resolution) * col - (sin crop.yaw * crop.resolution) * b =
            (source.grid cos sin).originX +
              ((source.grid cos sin).cosYaw * (source.grid cos sin).resolution) * (left + col) -
              ((source.grid cos sin).sinYaw * (source.grid cos sin).resolution) * (below + b) ∧
          crop.originY + (sin crop.yaw * crop.resolution) * col + (cos crop.yaw * crop.resolution) * b =
            (source.grid cos sin).originY +
              ((source.grid cos sin).sinYaw * (source.grid cos sin).resolution) * (left + col) +
              ((source.grid cos sin).cosYaw * (source.grid cos sin).resolution) * (below + b) := by
    unfold SameCells
    rw [hheight, hwidth]
    constructor
    · intro hsame col hcol b hb
      exact (hcorner (height - 1 - b) col b (by omega)).mp (hsame (height - 1 - b) (by omega) col hcol).2.2.2
    · intro hsame row hrow col hcol
      exact ⟨by omega, by omega, hvalue row col,
        (hcorner row col (height - 1 - row) (by omega)).mpr (hsame col hcol (height - 1 - row) (by omega))⟩
  rw [hcells, corners_iff hpositive.1 hpositive.2]
  have hdirection : ((left : ℤ) + 1 < left + width ∨ (below : ℤ) + 1 < below + height) ↔ 1 < width ∨ 1 < height := by
    omega
  constructor
  · rintro ⟨hx, hy, hmore⟩
    rw [hcrop] at hx hy hmore
    refine ⟨hx.trans ?_, hy.trans ?_, fun h => hmore (hdirection.mp h)⟩ <;> push_cast <;> ring
  · intro hplaced
    rw [hcrop]
    refine ⟨hplaced.originX.trans ?_, hplaced.originY.trans ?_, fun h => hplaced.direction (hdirection.mpr h)⟩ <;>
      push_cast <;> ring

end Cells

/-! ## The whole set -/

/-- A map set is sound exactly for a regular route. -/
theorem sound_iff {hypot : ℚ → ℚ → ℚ} (hhypot : ∀ dx dy, 0 ≤ hypot dx dy) (cos sin : ℚ → ℚ) {source : Source}
    {config : Config} {mapSet : List (Submap × Crop)} (h : buildMapSet hypot source config = .ok mapSet) :
    Sound hypot cos sin source mapSet ↔ Regular hypot cos sin source config := by
  have hbuilt := built_of_ok hypot h
  have hsorted := pairwise_loadKeyframes hhypot source.rows
  have hnonneg : ∀ item ∈ loadKeyframes hypot source.rows, 0 ≤ item.distanceM := fun _ => distance_nonneg hhypot
  have hlinked := hbuilt.linked_iff hsorted hnonneg
  have hcells : (∀ built ∈ mapSet, SameCells cos sin source built.2) ↔
      ∀ (k : ℕ) (submap : Submap), segment config source (loadKeyframes hypot source.rows) k = some submap →
        Placed cos sin source
          (cutOf source.image (resolutionOf source.metadata) (originOf source.metadata) submap.bounds) := by
    constructor
    · intro hsame k submap hsegment
      obtain ⟨other, hother, hsegment'⟩ := hbuilt.exists_submap hsorted
        ((exists_segment_iff _ hsorted k).mp ⟨submap, hsegment⟩)
      obtain rfl := Option.some.inj (hsegment.symm.trans hsegment')
      obtain ⟨built, hmem, rfl⟩ := List.mem_map.mp hother
      exact (sameCells_iff (hbuilt.crops built hmem)).mp (hsame built hmem)
    · intro hplaced built hmem
      obtain ⟨k, -, hsegment⟩ := hbuilt.mem_iff.mp (List.mem_map_of_mem hmem)
      exact (sameCells_iff (hbuilt.crops built hmem)).mpr (hplaced k built.1 hsegment)
  constructor
  · intro hsound
    obtain ⟨hwindows, hreaches⟩ := hlinked.mp hsound.linked
    exact ⟨hwindows, hreaches, hcells.mp hsound.cells⟩
  · intro hregular
    exact ⟨fun item hitem => hbuilt.covers hsorted hnonneg hitem, hbuilt.ordered,
      hlinked.mpr ⟨hregular.windows, hregular.reaches⟩, hcells.mpr hregular.placed⟩

/-- A straight route with keyframes at these distances. -/
def straight (places : List ℚ) : Source where
  rows := places.map fun x => ⟨0, 0, x, 0, 0⟩
  cloud := ⟨["x", "y", "z"], "binary", []⟩
  image := ⟨600, 800, 255, fun _ _ => 254⟩
  metadata := ⟨some 1, some [-100, -100, 0], "map.pgm"⟩

theorem sound_iff_straight : ∃ mapSet,
    buildMapSet (fun dx dy => |dx| + |dy|) (straight [0, 100, 200, 300, 375]) {} = .ok mapSet ∧
      (Sound (fun dx dy => |dx| + |dy|) (fun _ => 1) (fun _ => 0) (straight [0, 100, 200, 300, 375]) mapSet ↔
        Regular (fun dx dy => |dx| + |dy|) (fun _ => 1) (fun _ => 0) (straight [0, 100, 200, 300, 375]) {}) := by
  have hok : (buildMapSet (fun dx dy => |dx| + |dy|) (straight [0, 100, 200, 300, 375]) {}).isOk = true := by
    decide +kernel
  match h : buildMapSet (fun dx dy => |dx| + |dy|) (straight [0, 100, 200, 300, 375]) {}, hok with
  | .ok mapSet, _ => exact ⟨mapSet, rfl, sound_iff (fun dx dy => by positivity) _ _ h⟩

/-- On a route of 240 m the first submap names no neighbour, and the second names the first. -/
theorem not_sound_shortTail : ∃ mapSet,
    buildMapSet (fun dx dy => |dx| + |dy|) (straight [0, 120, 240]) {} = .ok mapSet ∧
      ¬ Sound (fun dx dy => |dx| + |dy|) (fun _ => 1) (fun _ => 0) (straight [0, 120, 240]) mapSet := by
  have hneighbors : (buildMapSet (fun dx dy => |dx| + |dy|) (straight [0, 120, 240]) {}).toOption.map
      (List.map fun built => built.1.neighbors) = some [[], ["submap_001"]] := by decide +kernel
  cases h : buildMapSet (fun dx dy => |dx| + |dy|) (straight [0, 120, 240]) {} with
  | error message =>
    rw [h] at hneighbors
    cases hneighbors
  | ok mapSet =>
    rw [h] at hneighbors
    have hlist : mapSet.map (fun built => built.1.neighbors) = [[], ["submap_001"]] := Option.some.inj hneighbors
    refine ⟨mapSet, rfl, fun hsound => ?_⟩
    have hlength : mapSet.length = 2 := by simpa using congrArg List.length hlist
    obtain ⟨built, hmem, hnone⟩ := List.mem_map.mp (hlist ▸ List.mem_cons_self : [] ∈ mapSet.map _)
    exact hsound.linked.joined (by rw [List.length_map, hlength]; decide) built.1 (List.mem_map_of_mem hmem) hnone

end SubmapBuilder

end RoamerX
