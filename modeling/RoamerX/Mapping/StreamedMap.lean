import Mathlib
import RoamerX.Lib.Saturating
import RoamerX.Lib.Shards

set_option autoImplicit false

/-! # The streamed map

`MappingAlg::streamMapFromKeyframes` writes the map without ever holding it: the points of all keyframes, and the voxels
that each of them hit, go to the files of their shard, and shard after shard the points are kept whose voxel enough
keyframes hit. Arithmetic is exact; the correction of a keyframe is given. -/

namespace RoamerX

namespace StreamedMap

open Saturating Shards

/-- A stored point; `fields` are those that the export carries along. -/
structure Point where
  x : ℚ
  y : ℚ
  z : ℚ
  fields : List ℚ := []
  deriving DecidableEq

/-- The points of a keyframe, unless a coordinate is not finite, how the optimisation moves them, and the height of its
corrected lidar. -/
structure Keyframe where
  points : List (Option Point)
  correct : Point → Point
  referenceZ : ℚ

structure ExportPointRecord where
  point : Point
  referenceZ : ℚ
  deriving DecidableEq

structure VoxelKey where
  x : ℤ
  y : ℤ
  z : ℤ
  deriving DecidableEq

def mix (h : BitVec 64) (value : ℤ) : BitVec 64 :=
  h ^^^ (BitVec.ofInt 64 value + 0x9e3779b97f4a7c15#64 + (h <<< 6) + (h >>> 2))

/-- `DynamicFilterVoxelKeyHash`. -/
def keyHash (key : VoxelKey) : ℕ := (mix (mix (mix 1469598103934665603#64 key.x) key.y) key.z).toNat

structure Config where
  dynamicFilterEnable : Bool
  voxelSize : ℚ
  minScanObservations : ℤ
  shardCount : ℕ
  shardCount_pos : 0 < shardCount

variable (config : Config)

def makeVoxelKey (point : Point) : VoxelKey :=
  ⟨⌊point.x / config.voxelSize⌋, ⌊point.y / config.voxelSize⌋, ⌊point.z / config.voxelSize⌋⟩

def filterEnabled : Bool :=
  config.dynamicFilterEnable && decide (0 < config.voxelSize) && decide (1 < config.minScanObservations)

def shards : ℕ := if filterEnabled config then config.shardCount else 1

def minimumHits : ℕ := (max 1 (min config.minScanObservations 255)).toNat

def shardOf (key : VoxelKey) : ℕ := if filterEnabled config then keyHash key % shards config else 0

/-- The shard of a record, and its voxel, which is found again from the stored point. -/
def ExportPointRecord.shard (record : ExportPointRecord) : ℕ := shardOf config (makeVoxelKey config record.point)

/-! ## Partition -/

def Keyframe.records (keyframe : Keyframe) : List ExportPointRecord :=
  keyframe.points.filterMap fun point => point.map fun point => ⟨keyframe.correct point, keyframe.referenceZ⟩

/-- The voxels that a keyframe hit, each once. -/
def observed (keyframe : Keyframe) : List VoxelKey :=
  (keyframe.records.map fun record => makeVoxelKey config record.point).dedup

structure Files where
  points : ℕ → List ExportPointRecord := fun _ => []
  hits : ℕ → List VoxelKey := fun _ => []

def writeKeyframe (files : Files) (keyframe : Keyframe) : Files where
  points := keyframe.records.foldl (append (ExportPointRecord.shard config)) files.points
  hits :=
    if filterEnabled config then (observed config keyframe).foldl (append (shardOf config)) files.hits else files.hits

/-! ## Join -/

/-- The clouds that are written, and the count for their headers. -/
structure Clouds where
  map : List Point := []
  grid : List Point := []
  written : ℕ := 0
  deriving DecidableEq

def ExportPointRecord.lowered (record : ExportPointRecord) : Point :=
  { record.point with z := record.point.z - record.referenceZ }

def Clouds.write (clouds : Clouds) (record : ExportPointRecord) : Clouds where
  map := clouds.map ++ [record.point]
  grid := clouds.grid ++ [record.lowered]
  written := clouds.written + 1

/-- Whether the hits of a shard keep a record. -/
def keeps (hits : List VoxelKey) (record : ExportPointRecord) : Bool :=
  !filterEnabled config ||
    decide (minimumHits config ≤
      hits.foldl (bump (minimumHits config)) (fun _ => 0) (makeVoxelKey config record.point))

def joinShard (files : Files) (clouds : Clouds) (i : ℕ) : Clouds :=
  (files.points i).foldl
    (fun clouds record => if keeps config (files.hits i) record then clouds.write record else clouds) clouds

/-- The export where no call of the file system fails; an empty map is refused. -/
def streamMapFromKeyframes (keyframes : List Keyframe) : Option Clouds :=
  let files := keyframes.foldl (writeKeyframe config) {}
  let clouds := (List.range (shards config)).foldl (joinShard config files) {}
  if clouds.written = 0 then none else some clouds

/-! ## The plain filter -/

def observations (keyframes : List Keyframe) (key : VoxelKey) : ℕ :=
  keyframes.countP fun keyframe => decide (key ∈ observed config keyframe)

def plainFilter (keyframes : List Keyframe) : List ExportPointRecord :=
  (keyframes.flatMap Keyframe.records).filter fun record =>
    !filterEnabled config ||
      decide (minimumHits config ≤ observations config keyframes (makeVoxelKey config record.point))

def cloudsOf (records : List ExportPointRecord) : Clouds :=
  ⟨records.map ExportPointRecord.point, records.map ExportPointRecord.lowered, records.length⟩

variable {config} {keyframes : List Keyframe}

theorem points_foldl (files : Files) (i : ℕ) :
    (keyframes.foldl (writeKeyframe config) files).points i =
      files.points i ++ Shards.shard (ExportPointRecord.shard config) i (keyframes.flatMap Keyframe.records) := by
  induction keyframes generalizing files with
  | nil => simp [Shards.shard]
  | cons keyframe keyframes ih =>
    rw [List.foldl_cons, ih, List.flatMap_cons, Shards.shard_append, ← List.append_assoc]
    exact congrArg (· ++ _) (foldl_append _ _ _ _)

theorem hits_foldl (henabled : filterEnabled config = true) (files : Files) (i : ℕ) :
    (keyframes.foldl (writeKeyframe config) files).hits i =
      files.hits i ++ Shards.shard (shardOf config) i (keyframes.flatMap (observed config)) := by
  induction keyframes generalizing files with
  | nil => simp [Shards.shard]
  | cons keyframe keyframes ih =>
    have hwrite : (writeKeyframe config files keyframe).hits i =
        files.hits i ++ Shards.shard (shardOf config) i (observed config keyframe) := by
      unfold writeKeyframe
      rw [if_pos henabled]
      exact foldl_append _ _ _ _
    rw [List.foldl_cons, ih, hwrite, List.flatMap_cons, Shards.shard_append, List.append_assoc]

/-- A voxel is among the hits once for each keyframe that hit it. -/
theorem count_observed (key : VoxelKey) :
    (keyframes.flatMap (observed config)).count key = observations config keyframes key := by
  unfold observations
  induction keyframes with
  | nil => rfl
  | cons keyframe keyframes ih =>
    rw [List.flatMap_cons, List.count_append, ih, List.countP_cons, Nat.add_comm]
    congr 1
    unfold observed
    rw [List.count_dedup]
    simp

/-- The hits of its own shard decide about a record as all hits do. -/
theorem keeps_iff (record : ExportPointRecord) :
    keeps config ((keyframes.foldl (writeKeyframe config) {}).hits (record.shard config)) record =
      (!filterEnabled config ||
        decide (minimumHits config ≤ observations config keyframes (makeVoxelKey config record.point))) := by
  unfold keeps
  cases henabled : filterEnabled config with
  | false => rfl
  | true =>
    have hcount : (Shards.shard (shardOf config) (record.shard config) (keyframes.flatMap (observed config))).count
        (makeVoxelKey config record.point) = observations config keyframes (makeVoxelKey config record.point) := by
      rw [← count_observed]
      exact List.count_filter (decide_eq_true rfl)
    rw [foldl_bump_zero, hits_foldl henabled, List.nil_append, hcount]
    simp

theorem write_cloudsOf (records : List ExportPointRecord) (record : ExportPointRecord) :
    (cloudsOf records).write record = cloudsOf (records ++ [record]) := by
  simp [cloudsOf, Clouds.write]

theorem foldl_write (keep : ExportPointRecord → Bool) (records kept : List ExportPointRecord) :
    records.foldl (fun clouds record => if keep record then clouds.write record else clouds) (cloudsOf kept) =
      cloudsOf (kept ++ records.filter keep) := by
  induction records generalizing kept with
  | nil => simp
  | cons record records ih =>
    rw [List.foldl_cons]
    by_cases hkeep : keep record = true
    · rw [if_pos hkeep, write_cloudsOf, ih, List.filter_cons_of_pos hkeep, List.append_assoc, List.singleton_append]
    · rw [if_neg hkeep, ih, List.filter_cons_of_neg hkeep]

/-- The records of the shards that are kept, shard after shard. -/
theorem foldl_joinShard (files : Files) (indices : List ℕ) (kept : List ExportPointRecord) :
    indices.foldl (joinShard config files) (cloudsOf kept) =
      cloudsOf (kept ++ indices.flatMap fun i => (files.points i).filter (keeps config (files.hits i))) := by
  induction indices generalizing kept with
  | nil => simp
  | cons i indices ih =>
    rw [List.foldl_cons]
    unfold joinShard at ih ⊢
    rw [foldl_write, ih, List.flatMap_cons, List.append_assoc]

theorem shard_lt (record : ExportPointRecord) : record.shard config < shards config := by
  unfold ExportPointRecord.shard shardOf shards
  split_ifs
  · exact Nat.mod_lt _ config.shardCount_pos
  · exact Nat.zero_lt_one

/-- The kept records of all shards are those of the plain filter, in another order. -/
theorem kept_perm (keyframes : List Keyframe) :
    ((List.range (shards config)).flatMap fun i =>
      ((keyframes.foldl (writeKeyframe config) {}).points i).filter
        (keeps config ((keyframes.foldl (writeKeyframe config) {}).hits i))).Perm (plainFilter config keyframes) := by
  have hshard : ∀ i, ((keyframes.foldl (writeKeyframe config) {}).points i).filter
      (keeps config ((keyframes.foldl (writeKeyframe config) {}).hits i)) =
      Shards.shard (ExportPointRecord.shard config) i (plainFilter config keyframes) := by
    intro i
    rw [points_foldl, List.nil_append]
    unfold Shards.shard plainFilter
    rw [List.filter_filter, List.filter_filter]
    refine List.filter_congr fun record _ => ?_
    by_cases hi : record.shard config = i
    · subst hi
      rw [keeps_iff, Bool.and_comm]
    · simp [hi]
  simp only [hshard]
  exact flatMap_shard_perm _ _ fun record _ => shard_lt record

/-- **The export is the plain filter.** Its clouds hold the records of the plain filter in some order, each as often as
in the source, and their number; the number of shards decides about nothing but the order. -/
theorem streamMap_plain (config : Config) (keyframes : List Keyframe) :
    ∃ records, records.Perm (plainFilter config keyframes) ∧
      streamMapFromKeyframes config keyframes = if records = [] then none else some (cloudsOf records) := by
  refine ⟨_, kept_perm keyframes, ?_⟩
  have hclouds := @foldl_joinShard config (keyframes.foldl (writeKeyframe config) {}) (List.range (shards config)) []
  rw [List.nil_append] at hclouds
  unfold streamMapFromKeyframes
  refine Eq.trans (congrArg (fun clouds : Clouds => if clouds.written = 0 then none else some clouds) hclouds) ?_
  exact if_congr List.length_eq_zero_iff rfl rfl

end StreamedMap

end RoamerX
