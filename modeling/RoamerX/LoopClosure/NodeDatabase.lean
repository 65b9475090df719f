import Mathlib
import RoamerX.Lib.FirstBest
import RoamerX.Lib.NearestFirst
import RoamerX.Lib.Numerals

set_option autoImplicit false

/-! # The keyframe database of the localization node

`ScanContextDatabase` of `scan_context_db.cpp` from the map directory on: reading the rows of the keyframes, loading,
and the query for the places that look most like a scan. Numbers are exact, and what the standard library computes with
them is a parameter. -/

namespace RoamerX

open scoped Numerals

namespace NodeDatabase

/-- What the standard library computes; `stod` reads the finite numbers. -/
structure Arithmetic (K : Type*) [Zero K] [LT K] where
  stod : String → Option K
  /-- `static_cast<int>` -/
  truncate : K → ℤ
  sqrt : K → K
  cos : K → K
  sin : K → K
  hypot : K → K → K
  atan2 : K → K → K
  pi : K
  pi_pos : 0 < pi

/-- Whole numbers are read, and lengths are taken along the axes. -/
def alongAxes : Arithmetic ℚ where
  stod text :=
    let digits := (text.toList.dropWhile Char.isWhitespace).takeWhile Char.isDigit
    if digits = [] then none else some (digits.foldl (fun n c => 10 * n + (c.toNat - '0'.toNat)) 0 : ℕ)
  truncate x := x.num.tdiv x.den
  sqrt := id
  cos _ := 1
  sin _ := 0
  hypot x y := |x| + |y|
  atan2 _ x := if x < 0 then 22 / 7 else 0
  pi := 22 / 7
  pi_pos := by norm_num

/-! ## Texts -/

def after (needle : List Char) : List Char → Option (List Char)
  | [] => if needle = [] then some [] else none
  | c :: text => if needle.isPrefixOf (c :: text) then some ((c :: text).drop needle.length) else after needle text

/-- What comes after the key and its colon. -/
def afterKey (text key : String) : Option (List Char) :=
  (after ('"' :: key.toList ++ ['"']) text.toList).bind (after [':'])

def jsonString (text key : String) : Option String :=
  ((afterKey text key).bind (after ['"'])).bind fun rest =>
    if '"' ∈ rest then some (String.ofList (rest.takeWhile fun c => c ≠ '"')) else none

/-- `std::getline` takes no empty field at the end. -/
def splitCsv (line : String) : List String :=
  let fields := line.toList.splitOn ','
  (if fields.getLast? = some [] then fields.dropLast else fields).map String.ofList

def withoutReturn (line : String) : String :=
  if line.toList.getLast? = some '\r' then String.ofList line.toList.dropLast else line

/-- `CsvRow`: the names of the columns, and the fields. -/
structure CsvRow where
  header : List String
  fields : List String

namespace CsvRow

variable (row : CsvRow)

/-- The field under a name; of two columns of a name the later one counts. -/
def field (name : String) : Option String :=
  match (row.header.zipIdx.filter fun column => column.1 = name).getLast? with
  | some (_, column) => row.fields[column]?.filter fun value => value ≠ ""
  | none => none

def has (name : String) : Bool := (row.field name).isSome

variable {K : Type*} [Zero K] [LT K] (a : Arithmetic K)

def number (name : String) (fallback : K) : K := ((row.field name).bind a.stod).getD fallback

end CsvRow

/-! ## Parameters and rows -/

structure Params (K : Type*) where
  rings : ℤ
  sectors : ℤ
  maxRadiusM : K

structure Vec (K : Type*) where
  x : K
  y : K
  z : K
  deriving DecidableEq

structure Quat (K : Type*) where
  w : K
  x : K
  y : K
  z : K
  deriving DecidableEq

structure KeyframeRow (K : Type*) where
  index : ℤ
  worldTranslation : Vec K
  worldRotation : Quat K
  lidarTranslation : Vec K
  lidarRotation : Quat K
  deriving DecidableEq

/-- A point of a stored cloud; a coordinate that is not finite is `none`. -/
structure CloudPoint (K : Type*) where
  x : Option K
  y : Option K
  z : Option K

/-- What a map directory holds; a file is its lines, its text, or its points. -/
structure MapDirectory (K : Type*) where
  path : String
  indexJson : Option String
  keyframesCsv : Option (List String)
  manifest : Option String
  optimizedCsv : Option (List String)
  /-- `loadPCDFile` -/
  cloud : String → Option (List (CloudPoint K))

/-- A `Matrix4d` of a rotation and a translation. -/
structure Pose (K : Type*) where
  rotation : Matrix (Fin 3) (Fin 3) K
  translation : Vec K

structure Database (K : Type*) where
  params : Params K
  sourceDir : String := ""
  seedPoseSource : String := "raw"
  keyframeIndices : List ℤ := []
  poses : List (Pose K) := []
  keyframeCloudPaths : List String := []
  rawLidarPoses : List (Pose K) := []
  descriptors : List (List K) := []
  ringKeys : List (List K) := []

section Load

variable {K : Type*} [Field K] [LinearOrder K] (a : Arithmetic K)

def Quat.norm (q : Quat K) : K := a.sqrt (q.w * q.w + q.x * q.x + q.y * q.y + q.z * q.z)

def Quat.normalized (q : Quat K) : Quat K :=
  let norm := q.norm a
  ⟨q.w / norm, q.x / norm, q.y / norm, q.z / norm⟩

def Quat.toRotationMatrix (q : Quat K) : Matrix (Fin 3) (Fin 3) K :=
  !![1 - 2 * (q.y * q.y + q.z * q.z), 2 * (q.x * q.y - q.w * q.z), 2 * (q.x * q.z + q.w * q.y);
    2 * (q.x * q.y + q.w * q.z), 1 - 2 * (q.x * q.x + q.z * q.z), 2 * (q.y * q.z - q.w * q.x);
    2 * (q.x * q.z - q.w * q.y), 2 * (q.y * q.z + q.w * q.x), 1 - 2 * (q.x * q.x + q.y * q.y)]

/-- One line of `readKeyframeCsv`. -/
def readKeyframe (header : List String) (line : String) : Option (KeyframeRow K) :=
  let line := withoutReturn line
  if line = "" then none
  else
    let row : CsvRow := ⟨header, splitCsv line⟩
    if !row.has "index" then none
    else
      let index := a.truncate (row.number a "index" (-1))
      if index < 0 then none
      else
        let either (name : String) (other : K) : K := if row.has name then row.number a name 0 else other
        let yaw := row.number a "yaw" 0
        let lidarX := either "lidar_x" (row.number a "x" 0)
        let lidarY := either "lidar_y" (row.number a "y" 0)
        let lidarZ := either "lidar_z" (row.number a "z" 0)
        let qx := row.number a "lidar_qx" 0
        let qy := row.number a "lidar_qy" 0
        let qz := either "lidar_qz" (a.sin (yaw / 2))
        let qw := either "lidar_qw" (a.cos (yaw / 2))
        let lidarRotation : Quat K := ⟨qw, qx, qy, qz⟩
        let worldRotation : Quat K :=
          ⟨either "world_qw" qw, either "world_qx" qx, either "world_qy" qy, either "world_qz" qz⟩
        if lidarRotation.norm a < 1 / 10 ^ 9 ∨ worldRotation.norm a < 1 / 10 ^ 9 then none
        else some
          { index := index
            worldTranslation := ⟨either "world_x" lidarX, either "world_y" lidarY, either "world_z" lidarZ⟩
            worldRotation := worldRotation.normalized a
            lidarTranslation := ⟨lidarX, lidarY, lidarZ⟩
            lidarRotation := lidarRotation.normalized a }

/-- `readKeyframeCsv`, with the lines of the file. -/
def readKeyframeCsv (file : Option (List String)) : Option (List (KeyframeRow K)) :=
  match file with
  | none | some [] => none
  | some (first :: lines) =>
    let header := splitCsv (withoutReturn first)
    if "index" ∈ header then some (lines.filterMap (readKeyframe a header)) else none

def jsonNumber (text key : String) : Option K := (afterKey text key).bind fun rest => a.stod (String.ofList rest)

/-- `readIndexJson`, over the defaults. -/
def readIndexJson (file : Option String) : Params K :=
  let number (key : String) : Option K := file.bind fun text => jsonNumber a text key
  let whole (key : String) (default : ℤ) : ℤ :=
    (((number key).filter fun value => decide (1 ≤ value)).map a.truncate).getD default
  { rings := whole "rings" 20
    sectors := whole "sectors" 60
    maxRadiusM := ((number "max_radius_m").filter fun value => decide (0 < value)).getD 80 }

/-! ## Descriptors -/

/-- One point of `describe`. -/
def describePoint (params : Params K) (descriptor : List K) (p : Vec K) : List K :=
  let radius := a.hypot p.x p.y
  if radius ≤ 1 / 10 ^ 6 ∨ params.maxRadiusM < radius then descriptor
  else
    let ring := min (params.rings - 1) (a.truncate (radius / params.maxRadiusM * params.rings))
    let yaw := a.atan2 p.y p.x
    let sector := (a.truncate ((yaw + a.pi) / (2 * a.pi) * params.sectors)).tmod params.sectors
    let sector := if sector < 0 then sector + params.sectors else sector
    let cell := (ring * params.sectors + sector).toNat
    if descriptor.getD cell 0 < p.z then descriptor.set cell p.z else descriptor

/-- `describe`, of a scan with finite coordinates. -/
def describe (params : Params K) (scan : List (Vec K)) : List K :=
  (scan.foldl (describePoint a params) (List.replicate (params.rings * params.sectors).toNat (-(10 ^ 9)))).map
    fun cell => if cell < -(10 ^ 8) then 0 else cell

def ringKey (params : Params K) (descriptor : List K) : List K :=
  (List.range params.rings.toNat).map fun ring =>
    ((List.range params.sectors.toNat).map fun sector => descriptor.getD (ring * params.sectors.toNat + sector) 0).sum /
      (max 1 params.sectors : ℤ)

/-! ## `load` -/

/-- `%05d`, of an index that is not negative. -/
def fiveDigits (index : ℤ) : String := String.ofList ((toString index.toNat).toList.leftpad 5 '0')

def cloudPath (dir : MapDirectory K) (row : KeyframeRow K) : String :=
  dir.path ++ "/keyframes/scan_" ++ fiveDigits row.index ++ ".pcd"

/-- A point of the world in the frame of the lidar. -/
def toLidarFrame (row : KeyframeRow K) (p : Vec K) : Vec K :=
  let r := row.lidarRotation.toRotationMatrix
  let dx := p.x - row.lidarTranslation.x
  let dy := p.y - row.lidarTranslation.y
  let dz := p.z - row.lidarTranslation.z
  ⟨r 0 0 * dx + r 1 0 * dy + r 2 0 * dz, r 0 1 * dx + r 1 1 * dy + r 2 1 * dz, r 0 2 * dx + r 1 2 * dy + r 2 2 * dz⟩

/-- The cloud of a keyframe in the frame of its lidar, where it has a finite point. -/
def lidarCloud (dir : MapDirectory K) (row : KeyframeRow K) : Option (List (Vec K)) :=
  let cloud := ((dir.cloud (cloudPath dir row)).getD []).filterMap fun point =>
    match point.x, point.y, point.z with
    | some x, some y, some z => some (toLidarFrame row ⟨x, y, z⟩)
    | _, _, _ => none
  if cloud.isEmpty then none else some cloud

def KeyframeRow.worldPose (row : KeyframeRow K) : Pose K := ⟨row.worldRotation.toRotationMatrix, row.worldTranslation⟩

def KeyframeRow.rawLidarPose (row : KeyframeRow K) : Pose K :=
  ⟨row.lidarRotation.toRotationMatrix, row.lidarTranslation⟩

/-- The row of an index that counts: `optimized_by_index`. -/
def optimizedByIndex (optimized : List (KeyframeRow K)) (index : ℤ) : Option (KeyframeRow K) :=
  (optimized.filter fun row => decide (row.index = index)).getLast?

/-- The rows of the optimized trajectory, where the manifest selects it and it can be read. -/
def selectedTrajectory (dir : MapDirectory K) : Option (List (KeyframeRow K)) :=
  if (dir.manifest.bind fun text => jsonString text "trajectory_source") = some "optimized" then
    readKeyframeCsv a dir.optimizedCsv
  else none

/-- The seed pose of a row is replaced in place. -/
def replaceSeed (optimized : List (KeyframeRow K)) (row : KeyframeRow K) : KeyframeRow K :=
  match optimizedByIndex optimized row.index with
  | none => row
  | some found =>
    { row with
      worldTranslation := found.worldTranslation
      worldRotation := found.worldRotation }

/-- One row of the loop that fills the arrays. -/
def storeRow (dir : MapDirectory K) (db : Database K) (row : KeyframeRow K) : Database K :=
  match lidarCloud dir row with
  | none => db
  | some cloud =>
    let descriptor := describe a db.params cloud
    { db with
      ringKeys := db.ringKeys ++ [ringKey db.params descriptor]
      descriptors := db.descriptors ++ [descriptor]
      poses := db.poses ++ [row.worldPose]
      keyframeIndices := db.keyframeIndices ++ [row.index]
      keyframeCloudPaths := db.keyframeCloudPaths ++ [cloudPath dir row]
      rawLidarPoses := db.rawLidarPoses ++ [row.rawLidarPose] }

def load (dir : MapDirectory K) : Except String (Database K) :=
  let params := readIndexJson a dir.indexJson
  if params.rings < 1 ∨ params.sectors < 1 ∨ params.maxRadiusM ≤ 0 then
    .error "invalid scan context geometry in scan_context/index.json"
  else
    match readKeyframeCsv a dir.keyframesCsv with
    | none => .error "keyframes/keyframes.csv is missing or has no index column"
    | some [] => .error "keyframes/keyframes.csv contains no usable rows"
    | some rows =>
      let (rows, source) :=
        match selectedTrajectory a dir with
        | none => (rows, "raw")
        | some optimized =>
          let replaced := rows.countP fun row : KeyframeRow K => (optimizedByIndex optimized row.index).isSome
          (rows.map (replaceSeed optimized), if replaced = rows.length then "optimized" else "raw")
      let db := rows.foldl (storeRow a dir) { params := params, seedPoseSource := source }
      if db.descriptors.isEmpty then .error "no keyframe cloud under keyframes/ could be read"
      else .ok { db with sourceDir := dir.path }

end Load

/-! ## `queryDescriptor` -/

/-- `ScanContextDistanceMetric` -/
inductive Metric
  | meanAbsoluteHeight | sectorCosine | sectorCosineAbsoluteYaw
  deriving DecidableEq

structure Candidate (K : Type*) where
  keyframeIndex : ℤ
  distance : K
  yawOffsetRad : K
  seedPose : Pose K

section Query

variable {K : Type*} [Field K] [LinearOrder K] (a : Arithmetic K)

def descriptorDistance (params : Params K) (query target : List K) (shift : ℕ) : K :=
  let sectors := params.sectors.toNat
  ((List.range params.rings.toNat).map fun ring => ((List.range sectors).map fun sector =>
    |query.getD (ring * sectors + sector) 0 - target.getD (ring * sectors + (sector + shift) % sectors) 0|).sum).sum /
    (max 1 (params.rings * params.sectors) : ℤ)

def descriptorCosineDistance (params : Params K) (query target : List K) (shift : ℕ) : K :=
  let sectors := params.sectors.toNat
  let rings := List.range params.rings.toNat
  let similarities := (List.range sectors).filterMap fun sector =>
    let queryValue (ring : ℕ) : K := query.getD (ring * sectors + sector) 0
    let targetValue (ring : ℕ) : K := target.getD (ring * sectors + (sector + shift) % sectors) 0
    let dot := (rings.map fun ring => queryValue ring * targetValue ring).sum
    let queryNorm := (rings.map fun ring => queryValue ring * queryValue ring).sum
    let targetNorm := (rings.map fun ring => targetValue ring * targetValue ring).sum
    if queryNorm ≤ 1 / 10 ^ 12 ∨ targetNorm ≤ 1 / 10 ^ 12 then none
    else some (dot / a.sqrt (queryNorm * targetNorm))
  if similarities.isEmpty then 1 else 1 - similarities.sum / similarities.length

/-- The least distance and its shift, from `std::numeric_limits<double>::max()` on. -/
def bestShift (sectors : ℕ) (distance : ℕ → K) : K × ℕ :=
  firstBest distance id (2 ^ 1024 - 2 ^ 971, 0) (List.range sectors)

/-- `while (angle > M_PI) angle -= 2.0 * M_PI` -/
def wrapDown [IsStrictOrderedRing K] [FloorSemiring K] (angle : K) : K := if a.pi < angle then wrapDown (angle - 2 * a.pi) else angle
termination_by ⌈angle / (2 * a.pi)⌉₊
decreasing_by
  next hover =>
  have hpi := a.pi_pos
  have hturn : 0 < 2 * a.pi := by positivity
  have hpos : 0 < ⌈angle / (2 * a.pi)⌉₊ := Nat.ceil_pos.mpr (div_pos (hpi.trans hover) hturn)
  have hless : (angle - 2 * a.pi) / (2 * a.pi) = angle / (2 * a.pi) - 1 := by rw [sub_div, div_self hturn.ne']
  rw [hless, Nat.ceil_sub_one]
  omega

/-- `while (angle <= -M_PI) angle += 2.0 * M_PI` -/
def wrapUp [IsStrictOrderedRing K] [FloorSemiring K] (angle : K) : K := if angle ≤ -a.pi then wrapUp (angle + 2 * a.pi) else angle
termination_by ⌈-angle / (2 * a.pi)⌉₊
decreasing_by
  next hunder =>
  have hpi := a.pi_pos
  have hturn : 0 < 2 * a.pi := by positivity
  have hneg : 0 < -angle := hpi.trans_le (le_neg_of_le_neg hunder)
  have hpos : 0 < ⌈-angle / (2 * a.pi)⌉₊ := Nat.ceil_pos.mpr (div_pos hneg hturn)
  have hless : -(angle + 2 * a.pi) / (2 * a.pi) = -angle / (2 * a.pi) - 1 := by
    rw [neg_add, ← sub_eq_add_neg, sub_div, div_self hturn.ne']
  rw [hless, Nat.ceil_sub_one]
  omega

variable [IsStrictOrderedRing K] [FloorSemiring K]

def wrapAngle (angle : K) : K := wrapUp a (wrapDown a angle)

/-- `AngleAxisd(angle, UnitZ)` -/
def angleAxisZ (angle : K) : Matrix (Fin 3) (Fin 3) K :=
  !![a.cos angle, -a.sin angle, 0; a.sin angle, a.cos angle, 0; 0, 0, 1]

def scoreSlot (db : Database K) (query : List K) (metric : Metric) (slot : ℕ) : Candidate K :=
  let sectors := db.params.sectors.toNat
  let target := db.descriptors.getD slot []
  let absolute := bestShift sectors (descriptorDistance db.params query target)
  let best :=
    match metric with
    | .meanAbsoluteHeight => absolute
    | .sectorCosine | .sectorCosineAbsoluteYaw =>
      bestShift sectors (descriptorCosineDistance a db.params query target)
  let yawShift := if metric = .sectorCosineAbsoluteYaw then absolute.2 else best.2
  let yawOffset := wrapAngle a (yawShift * (2 * a.pi / sectors))
  let pose := db.poses.getD slot ⟨1, ⟨0, 0, 0⟩⟩
  { keyframeIndex := db.keyframeIndices.getD slot (-1)
    distance := best.1
    yawOffsetRad := yawOffset
    seedPose := ⟨angleAxisZ a yawOffset * pose.rotation, pose.translation⟩ }

/-- Whether a keyframe is too near to the excluded one. -/
def excluded (excludeIndex minIndexGap index : ℤ) : Bool :=
  decide (0 ≤ excludeIndex) && decide (|index - excludeIndex| < max 1 minIndexGap)

/-- `ranked`, in its order: `std::pair` compares the distance of the ring keys, and then the slot. -/
def rankedSlots (db : Database K) (query : List K) (excludeIndex minIndexGap : ℤ) : List ℕ :=
  let key := ringKey db.params query
  let ranked := (List.range db.descriptors.length).filterMap fun slot =>
    if excluded excludeIndex minIndexGap (db.keyframeIndices.getD slot (-1)) then none
    else
      let total := ((List.range key.length).map fun ring =>
        |key.getD ring 0 - (db.ringKeys.getD slot []).getD ring 0|).sum
      some (total / (max 1 key.length : ℕ), slot)
  (ranked.insertionSort fun p q => p.1 < q.1 ∨ p.1 = q.1 ∧ p.2 ≤ q.2).map Prod.snd

def shortlist (places : ℕ) (topK prefilterCandidates : ℤ) : ℕ :=
  let requested := if 0 < prefilterCandidates then prefilterCandidates.toNat else topK.toNat * 3
  min places (max topK.toNat requested)

def farther (maxDistance distance : K) : Bool := decide (0 < maxDistance) && decide (maxDistance < distance)

/-- `queryDescriptor`; `std::sort` leaves the order of equal distances open. -/
def queryDescriptor (sort : NearestFirst (Candidate K) Candidate.distance) (db : Database K) (query : List K)
    (topK : ℤ) (maxDistance : K) (excludeIndex minIndexGap : ℤ) (metric : Metric) (prefilterCandidates : ℤ) :
    List (Candidate K) :=
  if db.descriptors.isEmpty ∨ topK ≤ 0 ∨ (query.length : ℤ) ≠ db.params.rings * db.params.sectors then []
  else
    let ranked := rankedSlots db query excludeIndex minIndexGap
    let scored := (ranked.take (shortlist ranked.length topK prefilterCandidates)).map (scoreSlot a db query metric)
    NearestFirst.collect Candidate.distance (farther maxDistance) topK.toNat (sort.order scored)

end Query

end NodeDatabase

end RoamerX
