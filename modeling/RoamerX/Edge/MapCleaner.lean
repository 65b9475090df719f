import Mathlib.Data.List.Dedup
import RoamerX.Edge.MapFiles
import RoamerX.Lib.Buckets

set_option autoImplicit false

/-! # Removing sparse points from a saved map

`clean_dynamic_points` of `map_cleaner.py`: the points of a cloud whose voxel holds too few are dropped, and the cells of
the image they lie in are cleared. What is filtered is a raw copy of the map that the first run has made. Coordinates
are rationals, without the rounding of floats. -/

namespace RoamerX

namespace MapCleaner

open MapFiles

/-- `astype(np.int64)`, of a floor that may not be finite; what it makes of anything else than a 64-bit integer depends
on the platform. -/
structure Int64Cast where
  toInt64 : Option ℤ → ℤ
  exact : ∀ n, -2 ^ 63 ≤ n → n < 2 ^ 63 → toInt64 (some n) = n

/-- The files of a map directory that are read or written, `map.raw_dynamic_unfiltered.*` among them. -/
structure MapDirectory where
  pcd : Option Cloud := none
  pgm : Option Image := none
  yaml : Option Metadata := none
  rawPcd : Option Cloud := none
  rawPgm : Option Image := none

structure CleanParameters where
  voxelSizeM : ℚ := 3 / 25
  minPointsPerVoxel : ℤ := 3
  clearRadiusCells : ℤ := 1

inductive CleanOutcome
  | skipped (reason : String)
  | raised (error : String)
  | cleaned (sourcePoints keptPoints removedPoints clearedGridCells : ℕ)
  deriving DecidableEq

/-! ## Voxels -/

/-- A key of `_voxel_keys`: an integer, or a structured value where the ranges are too large. -/
inductive VoxelKey
  | mixed (key : ℤ)
  | structured (x y z : ℤ)
  deriving DecidableEq

structure VoxelIndex where
  x : ℤ
  y : ℤ
  z : ℤ
  deriving DecidableEq

def least (values : List ℤ) : ℤ := values.min?.getD 0

def greatest (values : List ℤ) : ℤ := values.max?.getD 0

/-- How many values there are between the least and the greatest. -/
def extent (values : List ℤ) : ℤ := greatest values - least values + 1

/-- `_voxel_keys`, for one of the indexes. Under the bound the keys are 64-bit integers. -/
def voxelKey (indexes : List VoxelIndex) (index : VoxelIndex) : VoxelKey :=
  let xs := indexes.map VoxelIndex.x
  let ys := indexes.map VoxelIndex.y
  let zs := indexes.map VoxelIndex.z
  if extent xs ≤ 0 ∨ extent ys ≤ 0 ∨ extent zs ≤ 0 ∨ 2 ^ 63 - 1 ≤ extent xs * extent ys * extent zs then
    .structured index.x index.y index.z
  else
    .mixed (Buckets.pack (extent xs) (extent ys) (index.x - least xs) (index.y - least ys) (index.z - least zs))

variable (cast : Int64Cast)

/-- The place of a coordinate in a row of intervals of one length. -/
def slot (size offset : ℚ) (coordinate : Option ℚ) : Option ℤ := coordinate.map fun v => ⌊(v - offset) / size⌋

/-- `np.floor(points[..] / voxel_size_m).astype(np.int64)` -/
def voxelIndex (size : ℚ) (point : Point) : VoxelIndex where
  x := cast.toInt64 (slot size 0 point.x)
  y := cast.toInt64 (slot size 0 point.y)
  z := cast.toInt64 (slot size 0 point.z)

/-- `keep_mask` at a point: it is finite, and the count of its key is high enough. -/
def keeps (parameters : CleanParameters) (points : List Point) (point : Point) : Bool :=
  let indexes := (points.filter Point.isFinite).map (voxelIndex cast parameters.voxelSizeM)
  let keys := indexes.map (voxelKey indexes)
  point.isFinite &&
    decide (parameters.minPointsPerVoxel ≤ keys.count (voxelKey indexes (voxelIndex cast parameters.voxelSizeM point)))

/-! ## Cells -/

/-- `_project_points_to_cells`, for one point. A row that does not fit 64 bits is in no image. -/
def projectedCell (grid : Grid) (point : Point) : Option (ℕ × ℕ) :=
  let col := cast.toInt64 (slot grid.resolution grid.originX point.x)
  let row := (grid.height : ℤ) - 1 - cast.toInt64 (slot grid.resolution grid.originY point.y)
  if 0 ≤ row ∧ row < grid.height ∧ 0 ≤ col ∧ col < grid.width then some (row.toNat, col.toNat) else none

/-- `cells_to_clear`: a cell of a removed point and of no kept one. -/
def cellsToClear (grid : Grid) (kept removed : List Point) : List (ℕ × ℕ) :=
  (removed.filterMap (projectedCell cast grid)).dedup.filter (· ∉ kept.filterMap (projectedCell cast grid))

/-- `range(-radius, radius + 1)` -/
def shifts (radius : ℕ) : List ℤ := (List.range (2 * radius + 1)).map fun i : ℕ => (i : ℤ) - radius

/-- The cells at one distance from these that are in the image. -/
def shifted (height width : ℕ) (cells : List (ℕ × ℕ)) (dy dx : ℤ) : List (ℕ × ℕ) :=
  cells.filterMap fun cell =>
    let rr := (cell.1 : ℤ) + dy
    let cc := (cell.2 : ℤ) + dx
    if 0 ≤ rr ∧ rr < height ∧ 0 ≤ cc ∧ cc < width then some (rr.toNat, cc.toNat) else none

/-- The cells that the loops over `dy` and `dx` reach. -/
def clearedCells (height width radius : ℕ) (cells : List (ℕ × ℕ)) : List (ℕ × ℕ) :=
  (shifts radius).flatMap fun dy => (shifts radius).flatMap fun dx => shifted height width cells dy dx

/-- `image[rr, cc] = maxval` -/
def clearCell (image : Image) (cell : ℕ × ℕ) : Image :=
  { image with value := fun row col => if (row, col) = cell then image.maxval else image.value row col }

/-- `metadata.get("resolution") or 0.05` -/
def resolutionOf (metadata : Metadata) : ℚ :=
  match metadata.resolution with
  | some resolution => if resolution = 0 then 1 / 20 else resolution
  | none => 1 / 20

/-- `metadata.get("origin") or [0.0, 0.0, 0.0]` -/
def originOf (metadata : Metadata) : List ℚ :=
  match metadata.origin with
  | some (x :: rest) => x :: rest
  | _ => [0, 0, 0]

/-- The grid of an image; `none` is an `IndexError`. -/
def gridOf (image : Image) (metadata : Metadata) : Option Grid :=
  match originOf metadata with
  | x :: y :: _ => some
      { height := image.height, width := image.width, resolution := resolutionOf metadata, originX := x, originY := y }
  | _ => none

/-- `_clear_removed_points_from_pgm`: the image it writes, and what it returns. -/
def clearRemovedPoints (image : Image) (grid : Grid) (kept removed : List Point) (clearRadiusCells : ℤ) : Image × ℕ :=
  let cells := cellsToClear cast grid kept removed
  ((clearedCells image.height image.width clearRadiusCells.toNat cells).foldl clearCell image, cells.length)

/-! ## Cleaning -/

def outcome (parameters : CleanParameters) (points : List Point) (clearedGridCells : ℕ) : CleanOutcome :=
  .cleaned points.length (points.countP (keeps cast parameters points))
    (points.length - points.countP (keeps cast parameters points)) clearedGridCells

/-- `clean_dynamic_points`: the directory it leaves and how it ends. -/
def cleanDynamicPoints (directory : MapDirectory) (parameters : CleanParameters) : MapDirectory × CleanOutcome :=
  match directory.pcd with
  | none => (directory, .skipped "map.pcd missing")
  | some map =>
    if parameters.voxelSizeM ≤ 0 ∨ parameters.minPointsPerVoxel ≤ 1 then
      (directory, .skipped "invalid filter parameters")
    else
      -- `_backup_once`
      let raw := directory.rawPcd.getD map
      let directory := { directory with rawPcd := some raw }
      if raw.data ≠ "binary" then (directory, .skipped ("unsupported PCD DATA " ++ raw.data))
      else if raw.points = [] then (directory, .skipped "empty point cloud")
      else
        match ["x", "y", "z"].find? (· ∉ raw.fields) with
        | some field => (directory, .raised ("map.pcd missing required field " ++ field))
        | none =>
          let kept := raw.points.filter (keeps cast parameters raw.points)
          let removed := raw.points.filter fun point => !keeps cast parameters raw.points point
          let directory := { directory with pcd := some { raw with points := kept } }
          match directory.pgm, directory.yaml with
          | some image, some metadata =>
            let rawImage := directory.rawPgm.getD image
            let directory := { directory with rawPgm := some rawImage }
            match gridOf rawImage metadata with
            | none => (directory, .raised "IndexError")
            | some grid =>
              let (cleared, count) :=
                clearRemovedPoints cast rawImage grid kept removed parameters.clearRadiusCells
              ({ directory with pgm := some cleared }, outcome cast parameters raw.points count)
          | _, _ => (directory, outcome cast parameters raw.points 0)

/-! ## What cleaning is for -/

def voxelOf (size : ℚ) (point : Point) : Option ℤ × Option ℤ × Option ℤ :=
  (slot size 0 point.x, slot size 0 point.y, slot size 0 point.z)

/-- The finite points whose voxel holds enough of them. -/
def densePoints (parameters : CleanParameters) (points : List Point) : List Point :=
  Buckets.dense (voxelOf parameters.voxelSizeM) parameters.minPointsPerVoxel (points.filter Point.isFinite)

/-- The map that is there is filtered, not skipped. -/
structure Filters (directory : MapDirectory) (parameters : CleanParameters) (map : Cloud) : Prop where
  pcd : directory.pcd = some map
  voxel : 0 < parameters.voxelSizeM
  count : 1 < parameters.minPointsPerVoxel
  binary : (directory.rawPcd.getD map).data = "binary"
  nonempty : (directory.rawPcd.getD map).points ≠ []
  fields : ∀ field ∈ ["x", "y", "z"], field ∈ (directory.rawPcd.getD map).fields
  origin : ∀ metadata, directory.yaml = some metadata → 2 ≤ (originOf metadata).length

/-- A cell lies within the radius of another. -/
def Near (radius : ℕ) (cell other : ℕ × ℕ) : Prop :=
  other.1 ≤ cell.1 + radius ∧ cell.1 ≤ other.1 + radius ∧ other.2 ≤ cell.2 + radius ∧ cell.2 ≤ other.2 + radius

/-- A cell that may be cleared: no point that is kept projects into it, and it lies within the radius of the cell of a
finite point that is removed. -/
def Artefact (grid : Grid) (parameters : CleanParameters) (points : List Point) (cell : ℕ × ℕ) : Prop :=
  (∀ point ∈ densePoints parameters points, projectedCell cast grid point ≠ some cell) ∧
    ∃ point ∈ points, point.isFinite = true ∧ point ∉ densePoints parameters points ∧
      ∃ other, projectedCell cast grid point = some other ∧ Near parameters.clearRadiusCells.toNat other cell

/-- Cleaning removes artefacts only, of the map that is there. -/
structure CleansArtefacts (directory : MapDirectory) (parameters : CleanParameters) (map : Cloud) : Prop where
  /-- Distinct voxels never share a key. -/
  keys : ∀ a ∈ (directory.rawPcd.getD map).points.filter Point.isFinite,
    ∀ b ∈ (directory.rawPcd.getD map).points.filter Point.isFinite,
      let indexes := ((directory.rawPcd.getD map).points.filter Point.isFinite).map
        (voxelIndex cast parameters.voxelSizeM)
      voxelKey indexes (voxelIndex cast parameters.voxelSizeM a) =
          voxelKey indexes (voxelIndex cast parameters.voxelSizeM b) →
        voxelOf parameters.voxelSizeM a = voxelOf parameters.voxelSizeM b
  kept : ∃ cloud, (cleanDynamicPoints cast directory parameters).1.pcd = some cloud ∧
    cloud.points = densePoints parameters map.points
  cleared : ∀ image metadata, directory.pgm = some image → directory.yaml = some metadata →
    ∃ out grid, (cleanDynamicPoints cast directory parameters).1.pgm = some out ∧
      out.height = image.height ∧ out.width = image.width ∧ out.maxval = image.maxval ∧
      gridOf image metadata = some grid ∧
      ∀ row < image.height, ∀ col < image.width, out.value row col ≠ image.value row col →
        out.value row col = image.maxval ∧ Artefact cast grid parameters map.points (row, col)

/-- A cell loses its value: it lies within the radius of a cell into which points project that are not dense, and no
dense one. -/
def Doomed (grid : Grid) (parameters : CleanParameters) (points : List Point) (cell : ℕ × ℕ) : Prop :=
  ∃ other, Near parameters.clearRadiusCells.toNat other cell ∧
    (∃ point ∈ points, point ∉ densePoints parameters points ∧ projectedCell cast grid point = some other) ∧
    ∀ point ∈ densePoints parameters points, projectedCell cast grid point ≠ some other

/-- Nothing is in the way of a cleaning. -/
structure Clear (directory : MapDirectory) (parameters : CleanParameters) (map : Cloud) : Prop where
  /-- The 64-bit indexes tell the voxels of the filtered cloud apart. -/
  indexes : ∀ a ∈ (directory.rawPcd.getD map).points.filter Point.isFinite,
    ∀ b ∈ (directory.rawPcd.getD map).points.filter Point.isFinite,
      voxelIndex cast parameters.voxelSizeM a = voxelIndex cast parameters.voxelSizeM b →
        voxelOf parameters.voxelSizeM a = voxelOf parameters.voxelSizeM b
  /-- A raw copy that is left has the dense points of the map. -/
  cloud : densePoints parameters (directory.rawPcd.getD map).points = densePoints parameters map.points
  /-- A raw image that is left has the size of the image. -/
  size : ∀ image, directory.pgm = some image → directory.yaml.isSome = true →
    (directory.rawPgm.getD image).height = image.height ∧ (directory.rawPgm.getD image).width = image.width ∧
      (directory.rawPgm.getD image).maxval = image.maxval
  /-- The cells that lose their value are free already or those of an artefact. -/
  doomed : ∀ image metadata grid, directory.pgm = some image → directory.yaml = some metadata →
    gridOf image metadata = some grid → ∀ row < image.height, ∀ col < image.width,
      Doomed cast grid parameters (directory.rawPcd.getD map).points (row, col) →
        image.value row col = image.maxval ∨ Artefact cast grid parameters map.points (row, col)
  /-- In the other cells a raw image that is left has the value of the image, or they are those of an artefact, too. -/
  others : ∀ image metadata grid, directory.pgm = some image → directory.yaml = some metadata →
    gridOf image metadata = some grid → ∀ row < image.height, ∀ col < image.width,
      ¬ Doomed cast grid parameters (directory.rawPcd.getD map).points (row, col) →
        (directory.rawPgm.getD image).value row col = image.value row col ∨
          (directory.rawPgm.getD image).value row col = image.maxval ∧
            Artefact cast grid parameters map.points (row, col)

/-! ## Keys -/

theorem least_le {values : List ℤ} {v : ℤ} (h : v ∈ values) : least values ≤ v := by
  unfold least
  cases hmin : values.min? with
  | none =>
    rw [List.min?_eq_none_iff.mp hmin] at h
    exact absurd h List.not_mem_nil
  | some m => exact (List.min?_eq_some_iff.mp hmin).2 v h

theorem le_greatest {values : List ℤ} {v : ℤ} (h : v ∈ values) : v ≤ greatest values := by
  unfold greatest
  cases hmax : values.max? with
  | none =>
    rw [List.max?_eq_none_iff.mp hmax] at h
    exact absurd h List.not_mem_nil
  | some m => exact (List.max?_eq_some_iff.mp hmax).2 v h

theorem digit_of_mem {values : List ℤ} {v : ℤ} (h : v ∈ values) :
    0 ≤ v - least values ∧ v - least values < extent values := by
  have hlow := least_le h
  have hhigh := le_greatest h
  unfold extent
  omega

theorem voxelKey_inj {indexes : List VoxelIndex} {a b : VoxelIndex} (ha : a ∈ indexes) (hb : b ∈ indexes) :
    voxelKey indexes a = voxelKey indexes b ↔ a = b := by
  constructor
  · intro h
    unfold voxelKey at h
    dsimp only at h
    split at h
    · obtain ⟨hx, hy, hz⟩ := VoxelKey.structured.inj h
      cases a
      cases b
      simp_all
    · obtain ⟨hx, hy, hz⟩ := Buckets.pack_injective (digit_of_mem (List.mem_map_of_mem ha))
        (digit_of_mem (List.mem_map_of_mem ha)) (digit_of_mem (List.mem_map_of_mem hb))
        (digit_of_mem (List.mem_map_of_mem hb)) (VoxelKey.mixed.inj h)
      cases a
      cases b
      simp only [VoxelIndex.mk.injEq]
      exact ⟨by simpa using hx, by simpa using hy, by simpa using hz⟩
  · rintro rfl
    rfl

/-! ## Points -/

variable {cast} {directory : MapDirectory} {parameters : CleanParameters} {map : Cloud} {points : List Point}

theorem filter_keeps (points : List Point) :
    points.filter (keeps cast parameters points) =
      Buckets.dense (voxelIndex cast parameters.voxelSizeM) parameters.minPointsPerVoxel
        (points.filter Point.isFinite) := by
  let indexes := (points.filter Point.isFinite).map (voxelIndex cast parameters.voxelSizeM)
  have hkeys : Buckets.dense (fun point => voxelKey indexes (voxelIndex cast parameters.voxelSizeM point))
      parameters.minPointsPerVoxel (points.filter Point.isFinite) =
      Buckets.dense (voxelIndex cast parameters.voxelSizeM) parameters.minPointsPerVoxel
        (points.filter Point.isFinite) :=
    Buckets.dense_congr (fun a ha b hb => voxelKey_inj (List.mem_map_of_mem ha) (List.mem_map_of_mem hb)) _
  rw [← hkeys, Buckets.dense, List.filter_filter]
  refine List.filter_congr fun point _ => ?_
  have hcount : (indexes.map (voxelKey indexes)).count
      (voxelKey indexes (voxelIndex cast parameters.voxelSizeM point)) =
      Buckets.occupancy (fun point => voxelKey indexes (voxelIndex cast parameters.voxelSizeM point))
        (points.filter Point.isFinite) point := by
    rw [List.count, List.countP_map, List.countP_map, Buckets.occupancy]
    exact List.countP_congr fun b _ => by simp
  unfold keeps
  dsimp only
  rw [hcount, Bool.and_comm]

theorem filter_keeps_eq
    (hindexes : ∀ a ∈ points.filter Point.isFinite, ∀ b ∈ points.filter Point.isFinite,
      voxelIndex cast parameters.voxelSizeM a = voxelIndex cast parameters.voxelSizeM b →
        voxelOf parameters.voxelSizeM a = voxelOf parameters.voxelSizeM b) :
    points.filter (keeps cast parameters points) = densePoints parameters points := by
  rw [filter_keeps, densePoints]
  refine Buckets.dense_congr (fun a ha b hb => ⟨hindexes a ha b hb, fun h => ?_⟩) _
  simp only [voxelOf, Prod.mk.injEq] at h
  obtain ⟨hx, hy, hz⟩ := h
  simp only [voxelIndex, hx, hy, hz]

/-! ## Cells -/

theorem foldl_clearCell (cells : List (ℕ × ℕ)) (image : Image) :
    let out := cells.foldl clearCell image
    out.height = image.height ∧ out.width = image.width ∧ out.maxval = image.maxval ∧
      ∀ row col, out.value row col = if (row, col) ∈ cells then image.maxval else image.value row col := by
  induction cells generalizing image with
  | nil => simp
  | cons cell cells ih =>
    obtain ⟨hheight, hwidth, hmaxval, hvalue⟩ := ih (clearCell image cell)
    refine ⟨hheight, hwidth, hmaxval, fun row col => ?_⟩
    rw [List.foldl_cons, hvalue]
    by_cases hcell : (row, col) = cell
    · simp [clearCell, hcell]
    · simp [clearCell, hcell]

theorem mem_shifts {radius : ℕ} {d : ℤ} : d ∈ shifts radius ↔ -(radius : ℤ) ≤ d ∧ d ≤ radius := by
  unfold shifts
  rw [List.mem_map]
  constructor
  · rintro ⟨i, hi, rfl⟩
    rw [List.mem_range] at hi
    omega
  · rintro ⟨hlow, hhigh⟩
    exact ⟨(d + radius).toNat, List.mem_range.mpr (by omega), by omega⟩

theorem mem_clearedCells {height width radius : ℕ} {cells : List (ℕ × ℕ)} {cell : ℕ × ℕ} :
    cell ∈ clearedCells height width radius cells ↔
      cell.1 < height ∧ cell.2 < width ∧ ∃ other ∈ cells, Near radius other cell := by
  obtain ⟨row, col⟩ := cell
  unfold clearedCells Near
  simp only [List.mem_flatMap, mem_shifts]
  constructor
  · rintro ⟨dy, hdy, dx, hdx, hmem⟩
    obtain ⟨other, hother, hcell⟩ := List.mem_filterMap.mp hmem
    dsimp only at hcell
    split at hcell
    · simp only [Option.some.injEq, Prod.mk.injEq] at hcell
      refine ⟨by omega, by omega, other, hother, ?_⟩
      omega
    · cases hcell
  · rintro ⟨hrow, hcol, other, hother, hnear⟩
    refine ⟨(row : ℤ) - other.1, by omega, (col : ℤ) - other.2, by omega, ?_⟩
    refine List.mem_filterMap.mpr ⟨other, hother, ?_⟩
    rw [if_pos (by omega)]
    simp only [Option.some.injEq, Prod.mk.injEq]
    omega

theorem mem_cellsToClear {grid : Grid} {kept removed : List Point} {cell : ℕ × ℕ} :
    cell ∈ cellsToClear cast grid kept removed ↔
      (∃ point ∈ removed, projectedCell cast grid point = some cell) ∧
        ∀ point ∈ kept, projectedCell cast grid point ≠ some cell := by
  unfold cellsToClear
  rw [List.mem_filter, List.mem_dedup, List.mem_filterMap, decide_eq_true_iff, List.mem_filterMap]
  refine and_congr_right fun _ => ⟨fun h point hpoint hcell => h ⟨point, hpoint, hcell⟩, ?_⟩
  rintro h ⟨point, hpoint, hcell⟩
  exact h point hpoint hcell

/-! ## One run -/

theorem gridOf_isSome (image : Image) {metadata : Metadata} (h : 2 ≤ (originOf metadata).length) :
    ∃ grid, gridOf image metadata = some grid := by
  unfold gridOf
  match horigin : originOf metadata, h with
  | x :: y :: rest, _ => exact ⟨_, rfl⟩

theorem gridOf_congr {image other : Image} (hheight : other.height = image.height) (hwidth : other.width = image.width)
    (metadata : Metadata) : gridOf other metadata = gridOf image metadata := by
  unfold gridOf
  rw [hheight, hwidth]

variable (cast) in
theorem clean_of_filters (h : Filters directory parameters map) :
    let raw := directory.rawPcd.getD map
    let kept := raw.points.filter (keeps cast parameters raw.points)
    let removed := raw.points.filter fun point => !keeps cast parameters raw.points point
    (cleanDynamicPoints cast directory parameters).1.pcd = some { raw with points := kept } ∧
      ∀ image metadata, directory.pgm = some image → directory.yaml = some metadata →
        ∃ grid, gridOf (directory.rawPgm.getD image) metadata = some grid ∧
          (cleanDynamicPoints cast directory parameters).1.pgm =
            some (clearRemovedPoints cast (directory.rawPgm.getD image) grid kept removed
              parameters.clearRadiusCells).1 := by
  have hfields : ["x", "y", "z"].find? (· ∉ (directory.rawPcd.getD map).fields) = none :=
    List.find?_eq_none.mpr fun field hfield => by simpa using h.fields field hfield
  have hparameters : ¬ (parameters.voxelSizeM ≤ 0 ∨ parameters.minPointsPerVoxel ≤ 1) :=
    not_or.mpr ⟨not_le.mpr h.voxel, not_le.mpr h.count⟩
  dsimp only
  unfold cleanDynamicPoints
  rw [h.pcd]
  dsimp only
  rw [if_neg hparameters, if_neg (not_not.mpr h.binary), if_neg h.nonempty, hfields]
  dsimp only
  cases hpgm : directory.pgm with
  | none => exact ⟨rfl, fun image metadata himage => nomatch himage⟩
  | some image =>
    cases hyaml : directory.yaml with
    | none => exact ⟨rfl, fun image metadata _ hmetadata => nomatch hmetadata⟩
    | some metadata =>
      obtain ⟨grid, hgrid⟩ := gridOf_isSome (directory.rawPgm.getD image) (h.origin metadata hyaml)
      dsimp only
      rw [hgrid]
      refine ⟨rfl, fun image' metadata' himage hmetadata => ?_⟩
      cases himage
      cases hmetadata
      exact ⟨grid, hgrid, rfl⟩

theorem mem_removed {point : Point}
    (hkept : points.filter (keeps cast parameters points) = densePoints parameters points) :
    point ∈ points.filter (fun point => !keeps cast parameters points point) ↔
      point ∈ points ∧ point ∉ densePoints parameters points := by
  rw [← hkept, List.mem_filter, List.mem_filter]
  refine and_congr_right fun hpoint => ?_
  simp [hpoint]

/-- Where the voxels are told apart, the cells of the image that a run clears are those that are doomed. -/
theorem mem_clearedCells_iff {grid : Grid} {height width : ℕ}
    (hkept : points.filter (keeps cast parameters points) = densePoints parameters points) {row col : ℕ}
    (hrow : row < height) (hcol : col < width) :
    (row, col) ∈ clearedCells height width parameters.clearRadiusCells.toNat
        (cellsToClear cast grid (points.filter (keeps cast parameters points))
          (points.filter fun point => !keeps cast parameters points point)) ↔
      Doomed cast grid parameters points (row, col) := by
  rw [mem_clearedCells]
  constructor
  · rintro ⟨-, -, other, hother, hnear⟩
    obtain ⟨⟨point, hpoint, hcell⟩, hnone⟩ := mem_cellsToClear.mp hother
    obtain ⟨hmem, hsparse⟩ := (mem_removed hkept).mp hpoint
    exact ⟨other, hnear, ⟨point, hmem, hsparse, hcell⟩, hkept ▸ hnone⟩
  · rintro ⟨other, hnear, ⟨point, hpoint, hsparse, hcell⟩, hnone⟩
    refine ⟨hrow, hcol, other, mem_cellsToClear.mpr ⟨⟨point, ?_, hcell⟩, hkept ▸ hnone⟩, hnear⟩
    exact (mem_removed hkept).mpr ⟨hpoint, hsparse⟩

theorem cleared_value (image : Image) (grid : Grid)
    (hkept : points.filter (keeps cast parameters points) = densePoints parameters points) {row col : ℕ}
    (hrow : row < image.height) (hcol : col < image.width) :
    let out := (clearRemovedPoints cast image grid (points.filter (keeps cast parameters points))
      (points.filter fun point => !keeps cast parameters points point) parameters.clearRadiusCells).1
    (Doomed cast grid parameters points (row, col) → out.value row col = image.maxval) ∧
      (¬ Doomed cast grid parameters points (row, col) → out.value row col = image.value row col) := by
  obtain ⟨-, -, -, hvalue⟩ := foldl_clearCell (clearedCells image.height image.width
    parameters.clearRadiusCells.toNat (cellsToClear cast grid (points.filter (keeps cast parameters points))
      (points.filter fun point => !keeps cast parameters points point))) image
  dsimp only
  unfold clearRemovedPoints
  dsimp only
  rw [hvalue]
  constructor
  · intro hdoomed
    exact if_pos ((mem_clearedCells_iff hkept hrow hcol).mpr hdoomed)
  · intro hdoomed
    exact if_neg fun hmem => hdoomed ((mem_clearedCells_iff hkept hrow hcol).mp hmem)

theorem CleansArtefacts.clear (hfilters : Filters directory parameters map)
    (h : CleansArtefacts cast directory parameters map) : Clear cast directory parameters map := by
  obtain ⟨hpcd, hpgm⟩ := clean_of_filters cast hfilters
  have hindexes : ∀ a ∈ (directory.rawPcd.getD map).points.filter Point.isFinite,
      ∀ b ∈ (directory.rawPcd.getD map).points.filter Point.isFinite,
        voxelIndex cast parameters.voxelSizeM a = voxelIndex cast parameters.voxelSizeM b →
          voxelOf parameters.voxelSizeM a = voxelOf parameters.voxelSizeM b := by
    intro a ha b hb hindex
    exact h.keys a ha b hb (congrArg _ hindex)
  have hkept := filter_keeps_eq hindexes
  obtain ⟨cloud, hcloud, hpoints⟩ := h.kept
  rw [hpcd] at hcloud
  cases hcloud
  have hsize : ∀ image metadata, directory.pgm = some image → directory.yaml = some metadata →
      (directory.rawPgm.getD image).height = image.height ∧ (directory.rawPgm.getD image).width = image.width ∧
        (directory.rawPgm.getD image).maxval = image.maxval := by
    intro image metadata himage hmetadata
    obtain ⟨out, grid, hout, hheight, hwidth, hmaxval, -⟩ := h.cleared image metadata himage hmetadata
    obtain ⟨grid', -, hresult⟩ := hpgm image metadata himage hmetadata
    rw [hresult] at hout
    cases hout
    obtain ⟨hheight', hwidth', hmaxval', -⟩ := foldl_clearCell _ (directory.rawPgm.getD image)
    exact ⟨hheight'.symm.trans hheight, hwidth'.symm.trans hwidth, hmaxval'.symm.trans hmaxval⟩
  -- a cell that differs after the run is that of an artefact
  have hcells : ∀ image metadata grid, directory.pgm = some image → directory.yaml = some metadata →
      gridOf image metadata = some grid → ∀ row < image.height, ∀ col < image.width, ∀ value,
        (clearRemovedPoints cast (directory.rawPgm.getD image) grid
          ((directory.rawPcd.getD map).points.filter (keeps cast parameters (directory.rawPcd.getD map).points))
          ((directory.rawPcd.getD map).points.filter fun point =>
            !keeps cast parameters (directory.rawPcd.getD map).points point)
          parameters.clearRadiusCells).1.value row col = value →
        value = image.value row col ∨
          value = image.maxval ∧ Artefact cast grid parameters map.points (row, col) := by
    intro image metadata grid himage hmetadata hgrid row hrow col hcol value hvalue
    obtain ⟨hheight, hwidth, -⟩ := hsize image metadata himage hmetadata
    obtain ⟨out, grid₀, hout, -, -, -, hgrid₀, hchanged⟩ := h.cleared image metadata himage hmetadata
    obtain ⟨grid', hgrid', hresult⟩ := hpgm image metadata himage hmetadata
    rw [gridOf_congr hheight hwidth, hgrid] at hgrid'
    rw [hgrid] at hgrid₀
    cases hgrid'
    cases hgrid₀
    rw [hresult] at hout
    cases hout
    by_cases hsame : value = image.value row col
    · exact Or.inl hsame
    · rw [← hvalue] at hsame ⊢
      exact Or.inr (hchanged row hrow col hcol hsame)
  have hraw : ∀ image metadata, directory.pgm = some image → directory.yaml = some metadata →
      ∀ row < image.height, ∀ col < image.width, ∀ grid : Grid, _ := fun image metadata himage hmetadata row hrow
      col hcol grid =>
    cleared_value (directory.rawPgm.getD image) grid hkept
      ((hsize image metadata himage hmetadata).1.symm ▸ hrow)
      ((hsize image metadata himage hmetadata).2.1.symm ▸ hcol)
  refine ⟨hindexes, hkept ▸ hpoints, ?_, ?_, ?_⟩
  · intro image himage hyaml
    obtain ⟨metadata, hmetadata⟩ := Option.isSome_iff_exists.mp hyaml
    exact hsize image metadata himage hmetadata
  · intro image metadata grid himage hmetadata hgrid row hrow col hcol hdoomed
    have hvalue := (hraw image metadata himage hmetadata row hrow col hcol grid).1 hdoomed
    rw [(hsize image metadata himage hmetadata).2.2] at hvalue
    rcases hcells image metadata grid himage hmetadata hgrid row hrow col hcol _ hvalue with hsame | ⟨-, hartefact⟩
    · exact Or.inl hsame.symm
    · exact Or.inr hartefact
  · intro image metadata grid himage hmetadata hgrid row hrow col hcol hdoomed
    exact hcells image metadata grid himage hmetadata hgrid row hrow col hcol _
      ((hraw image metadata himage hmetadata row hrow col hcol grid).2 hdoomed)

theorem Clear.cleansArtefacts (hfilters : Filters directory parameters map)
    (h : Clear cast directory parameters map) : CleansArtefacts cast directory parameters map := by
  obtain ⟨hpcd, hpgm⟩ := clean_of_filters cast hfilters
  have hkept := filter_keeps_eq h.indexes
  refine ⟨?_, ⟨_, hpcd, hkept.trans h.cloud⟩, ?_⟩
  · intro a ha b hb indexes hkey
    exact h.indexes a ha b hb ((voxelKey_inj (List.mem_map_of_mem ha) (List.mem_map_of_mem hb)).mp hkey)
  · intro image metadata himage hmetadata
    obtain ⟨grid, hgrid, hresult⟩ := hpgm image metadata himage hmetadata
    obtain ⟨hheight, hwidth, hmaxval⟩ := h.size image himage (by rw [hmetadata]; rfl)
    rw [gridOf_congr hheight hwidth] at hgrid
    obtain ⟨hheight', hwidth', hmaxval', -⟩ := foldl_clearCell
      (clearedCells (directory.rawPgm.getD image).height (directory.rawPgm.getD image).width
        parameters.clearRadiusCells.toNat _) (directory.rawPgm.getD image)
    refine ⟨_, grid, hresult, hheight'.trans hheight, hwidth'.trans hwidth, hmaxval'.trans hmaxval, hgrid, ?_⟩
    intro row hrow col hcol hchanged
    obtain ⟨hdoomed, hother⟩ := cleared_value (directory.rawPgm.getD image) grid hkept
      (hheight.symm ▸ hrow) (hwidth.symm ▸ hcol)
    by_cases hlost : Doomed cast grid parameters (directory.rawPcd.getD map).points (row, col)
    · rw [hdoomed hlost, hmaxval] at hchanged ⊢
      refine ⟨rfl, (h.doomed image metadata grid himage hmetadata hgrid row hrow col hcol hlost).resolve_left ?_⟩
      exact fun hfree => hchanged hfree.symm
    · rw [hother hlost] at hchanged ⊢
      exact (h.others image metadata grid himage hmetadata hgrid row hrow col hcol hlost).resolve_left hchanged

/-- A run that filters removes artefacts only, of the map that is there, exactly when nothing is in its way. -/
theorem cleansArtefacts_iff_clear (cast : Int64Cast) (directory : MapDirectory) (parameters : CleanParameters)
    (map : Cloud) (hfilters : Filters directory parameters map) :
    CleansArtefacts cast directory parameters map ↔ Clear cast directory parameters map :=
  ⟨fun h => h.clear hfilters, fun h => h.cleansArtefacts hfilters⟩

/-! ### Two maps -/

/-- The cast of a platform that answers the least integer for what does not fit. -/
def leastCast : Int64Cast where
  toInt64
    | some n => if -2 ^ 63 ≤ n ∧ n < 2 ^ 63 then n else -2 ^ 63
    | none => -2 ^ 63
  exact _ hlow hhigh := if_pos ⟨hlow, hhigh⟩

def floorPoint (x : ℚ) : Point := { x := some x, y := some (1 / 2), z := some 0 }

/-- A map of one row of cells one metre wide, with two points in the first and one at `x`. -/
def corridor (x : ℚ) (value : ℕ → ℕ → ℕ) : MapDirectory where
  pcd := some { fields := ["x", "y", "z"], data := "binary",
                points := [floorPoint (1 / 2), floorPoint (1 / 2), floorPoint x] }
  pgm := some { height := 1, width := 5, maxval := 255, value := value }
  yaml := some { resolution := some 1, origin := some [0, 0, 0], image := "map.pgm" }

def metreVoxels : CleanParameters where
  voxelSizeM := 1
  minPointsPerVoxel := 2

theorem corridor_filters (x : ℚ) (value : ℕ → ℕ → ℕ) :
    Filters (corridor x value) metreVoxels
      { fields := ["x", "y", "z"], data := "binary",
        points := [floorPoint (1 / 2), floorPoint (1 / 2), floorPoint x] } where
  pcd := rfl
  voxel := by decide
  count := by decide
  binary := rfl
  nonempty := List.cons_ne_nil _ _
  fields _ hfield := hfield
  origin metadata hmetadata := by
    cases hmetadata
    decide

/-- A point four cells away is removed, and its cell is cleared. -/
theorem corridor_cleansArtefacts :
    CleansArtefacts leastCast (corridor (9 / 2) fun _ col => if col = 4 then 0 else 255) metreVoxels
      { fields := ["x", "y", "z"], data := "binary",
        points := [floorPoint (1 / 2), floorPoint (1 / 2), floorPoint (9 / 2)] } := by
  refine (cleansArtefacts_iff_clear leastCast _ _ _ (corridor_filters (9 / 2) _)).mpr ⟨?_, rfl, ?_, ?_, ?_⟩
  · exact by decide +kernel
  · intro image himage _
    cases himage
    exact ⟨rfl, rfl, rfl⟩
  · intro image metadata grid himage hmetadata hgrid row hrow col hcol _
    cases himage
    cases hmetadata
    cases hgrid
    by_cases hcol4 : col = 4
    · obtain rfl : row = 0 := Nat.lt_one_iff.mp hrow
      subst hcol4
      refine Or.inr ⟨by decide +kernel, floorPoint (9 / 2), by decide +kernel, rfl, by decide +kernel, (0, 4),
        by decide +kernel, by unfold Near; decide⟩
    · exact Or.inl (if_neg hcol4)
  · intro image metadata grid himage hmetadata hgrid row hrow col hcol _
    cases himage
    exact Or.inl rfl

/-- A point in the next cell is removed, and the cell of the points that are kept is cleared. -/
theorem not_corridor_cleansArtefacts :
    ¬ CleansArtefacts leastCast (corridor (3 / 2) fun _ _ => 0) metreVoxels
      { fields := ["x", "y", "z"], data := "binary",
        points := [floorPoint (1 / 2), floorPoint (1 / 2), floorPoint (3 / 2)] } := by
  intro h
  obtain ⟨out, grid, hout, -, -, -, hgrid, hcells⟩ := h.cleared _ _ rfl rfl
  cases hgrid
  have hfree : (cleanDynamicPoints leastCast (corridor (3 / 2) fun _ _ => 0) metreVoxels).1.pgm.map
      (fun image => image.value 0 0) = some 255 := by decide +kernel
  rw [hout] at hfree
  have hvalue : out.value 0 0 = 255 := Option.some.inj hfree
  obtain ⟨-, hnone, -⟩ := hcells 0 (by decide) 0 (by decide) (by rw [hvalue]; decide)
  exact hnone (floorPoint (1 / 2)) (by decide +kernel) (by decide +kernel)

end MapCleaner

end RoamerX
