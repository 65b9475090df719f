import RoamerX.Edge.MapFiles
import RoamerX.Lib.Effects
import RoamerX.Lib.Excepts
import Mathlib.Logic.Function.Basic

set_option autoImplicit false

/-! # Building an edited map

`build_manual_cleanup_map` of `manual_map_cleanup.py`: the edited image and its metadata are downloaded into a temporary
directory, the points in the erased cells are left out of the cloud, and the temporary directory takes the place of the
output directory by two renames. Any call may raise, and the process may crash before any of them. -/

namespace RoamerX

namespace ManualMapCleanup

open MapFiles Effects Effects.Effect

/-- The result that is returned and saved in `manual_cleanup.json`. -/
structure Summary where
  mode : String := "manual_cleanup"
  sourceDir : String
  outputDir : String
  erasedCells : ℕ
  sourcePoints : ℕ
  keptPoints : ℕ
  removedPoints : ℕ
  sourceMaxval : ℕ

inductive Content
  | image (image : Image)
  | metadata (metadata : Metadata)
  /-- a YAML document that is not a mapping -/
  | document
  | cloud (cloud : Cloud)
  | summary (summary : Summary)
  | text (text : String)

abbrev Files := String → Option Content

/-- The output directory and its two siblings. -/
structure Disk where
  output : Option Files
  backup : Option Files := none
  temp : Option Files := none

inductive Call
  | mkdir
  | mkdtemp
  | download (name : String)
  | normalize
  | writeCloud
  | copy (name : String)
  | writeSummary
  | removeBackup
  | setAside
  | replace
  | removePrevious
  | removeTemp
  deriving DecidableEq

/-- Why a call is not done: a `ManualMapCleanupError`, another exception, or a crash before the call or in it. -/
inductive Stop
  | cleanupError (message : String)
  | other (message : String)
  | crash
  deriving DecidableEq

structure Body where
  content : Content
  sha256 : String

structure World where
  stops : Call → Option Stop
  /-- what is left of a directory when a call on it is stopped -/
  left : Call → Option Files
  /-- scheme and network location -/
  urlparse : String → String × String
  respond : String → Except String Body
  cos : ℚ → ℚ
  sin : ℚ → ℚ

structure Request where
  sourceDir : String
  outputDir : String
  pgmUrl : String
  yamlUrl : String
  pgmSha256 : String := ""
  yamlSha256 : String := ""

variable (world : World) (request : Request) (source : Files)

/-! ## The new map -/

def call (c : Call) : Except Stop Unit :=
  match world.stops c with
  | none => .ok ()
  | some stop => .error stop

def download (name url expectedSha256 : String) : Except Stop Content :=
  let (scheme, netloc) := world.urlparse url
  if (scheme ≠ "http" ∧ scheme ≠ "https") ∨ netloc = "" then .error (.cleanupError ("invalid map URL: " ++ url))
  else
    match world.respond url with
    | .error message => .error (.cleanupError ("failed to download " ++ url ++ ": " ++ message))
    | .ok body => do
      call world (.download name)
      if expectedSha256 ≠ "" ∧ body.sha256.toLower ≠ expectedSha256.toLower then
        .error (.cleanupError ("SHA256 mismatch for " ++ url))
      else .ok body.content

def normalizeMapYamlImage : Content → Except Stop Metadata
  | .metadata metadata => .ok { metadata with image := "map.pgm" }
  | .document => .error (.cleanupError "edited map YAML must contain a mapping")
  | _ => .error (.other "YAMLError")

def readImage : Option Content → Except Stop Image
  | some (.image image) => .ok image
  | some _ => .error (.other "MapCleanError")
  | none => .error (.other "FileNotFoundError")

def readCloud : Option Content → Except Stop Cloud
  | some (.cloud cloud) => .ok cloud
  | some _ => .error (.other "MapCleanError")
  | none => .error (.other "FileNotFoundError")

def shapeText (image : Image) : String := "(" ++ toString image.height ++ ", " ++ toString image.width ++ ")"

def erased (original edited : Image) (row col : ℕ) : Bool :=
  decide (max 1 (edited.maxval * 95 / 100) ≤ edited.value row col) &&
    decide (original.value row col < edited.value row col)

def gridOf (image : Image) (metadata : Metadata) : Except Stop Grid :=
  let resolution := metadata.resolution.getD 0
  let origin := (metadata.origin.filter fun origin => !origin.isEmpty).getD [0, 0, 0]
  if resolution ≤ 0 then .error (.cleanupError "edited map YAML has invalid resolution or origin")
  else
    match origin with
    | x :: y :: yaw :: _ =>
      .ok { height := image.height, width := image.width, resolution, originX := x, originY := y,
            cosYaw := world.cos yaw, sinYaw := world.sin yaw }
    | _ => .error (.cleanupError "edited map YAML has invalid resolution or origin")

/-- Whether a point stays in the cloud. -/
def keeps (grid : Grid) (erased : ℕ → ℕ → Bool) (point : Point) : Bool :=
  match point.x, point.y, point.z with
  | some x, some y, some _ =>
    match grid.cell x y with
    | some (row, col) => !erased row col
    | none => true
  | _, _, _ => true

def filterPointCloud (edited : Image) (metadata : Metadata) : Except Stop (Cloud × Summary) := do
  let original ← readImage (source "map.pgm")
  if original.height ≠ edited.height ∨ original.width ≠ edited.width then
    .error (.cleanupError ("edited PGM dimensions " ++ shapeText edited ++ " do not match source " ++ shapeText original))
  else
    let grid ← gridOf world edited metadata
    let cloud ← readCloud (source "map.pcd")
    if cloud.data ≠ "binary" then .error (.cleanupError ("unsupported PCD DATA " ++ cloud.data))
    else
      match ["x", "y", "z"].find? fun field => !cloud.fields.contains field with
      | some field => .error (.cleanupError ("map.pcd missing required field " ++ field))
      | none =>
        let kept := cloud.points.filter (keeps grid (erased original edited))
        .ok ({ cloud with points := kept },
          { sourceDir := request.sourceDir, outputDir := request.outputDir
            erasedCells := edited.cells.countP fun cell => erased original edited cell.1 cell.2
            sourcePoints := cloud.points.length
            keptPoints := kept.length
            removedPoints := cloud.points.length - kept.length
            sourceMaxval := original.maxval })

def requiredFiles : List String := ["map.pgm", "map.yaml", "map.pcd"]

def optionalFiles : List String := ["map.txt", "gnss_origin.yaml"]

def checkSource : Except Stop Unit :=
  match requiredFiles.find? fun name => (source name).isNone with
  | some name => .error (.cleanupError ("source map is missing " ++ name ++ ": " ++ request.sourceDir))
  | none => .ok ()

def newMap (edited : Image) (metadata : Metadata) (cloud : Cloud) (summary : Summary) : Files := fun name =>
  if name = "map.pgm" then some (.image edited)
  else if name = "map.yaml" then some (.metadata metadata)
  else if name = "map.pcd" then some (.cloud cloud)
  else if name ∈ optionalFiles then source name
  else if name = "manual_cleanup.json" then some (.summary summary)
  else none

/-- What the temporary directory is filled with before the renames. -/
def prepare : Except Stop (Files × Summary) := do
  let image ← download world "map.pgm" request.pgmUrl request.pgmSha256
  let yaml ← download world "map.yaml" request.yamlUrl request.yamlSha256
  let metadata ← normalizeMapYamlImage yaml
  call world .normalize
  let edited ← readImage (some image)
  let (cloud, summary) ← filterPointCloud world request source edited metadata
  call world .writeCloud
  (optionalFiles.filter fun name => (source name).isSome).forM fun name => call world (.copy name)
  call world .writeSummary
  return (newMap source edited metadata cloud summary, summary)

/-! ## The renames -/

/-- A call that changes the three directories. -/
def change (c : Call) (done stopped : Disk → Disk) : Effect Stop Disk Unit := fun disk =>
  match world.stops c with
  | none => (.ok (), done disk)
  | some stop => (.error stop, stopped disk)

/-- `shutil.rmtree(backup)`, where there is one. -/
def removeBackup (c : Call) : Effect Stop Disk Unit := do
  if ← get fun disk => disk.backup.isSome then
    change world c (fun disk => { disk with backup := none }) fun disk => { disk with backup := world.left c }

/-- `output_dir.replace(backup)`, where there is an output. -/
def setAside : Effect Stop Disk Unit := do
  if ← get fun disk => disk.output.isSome then
    change world .setAside (fun disk => { disk with output := none, backup := disk.output }) id

def replace : Effect Stop Disk Unit :=
  change world .replace (fun disk => { disk with output := disk.temp, temp := none }) id

def swap : Effect Stop Disk Unit := do
  removeBackup world .removeBackup
  setAside world
  replace world
  removeBackup world .removePrevious

/-- `shutil.rmtree(temp_dir, ignore_errors=True)` -/
def removeTemp : Effect Stop Disk Unit := fun disk =>
  match world.stops .removeTemp with
  | none => (.ok (), { disk with temp := none })
  | some .crash => (.error .crash, { disk with temp := world.left .removeTemp })
  | some _ => (.ok (), { disk with temp := world.left .removeTemp })

/-- The two handlers; no handler runs after a crash. -/
def onStop : Stop → Effect Stop Disk Summary
  | .crash => raise .crash
  | .cleanupError message => do
    removeTemp world
    raise (.cleanupError message)
  | .other message => do
    removeTemp world
    raise (.cleanupError ("failed to build manual cleanup map: " ++ message))

def buildTemp : Effect Stop Disk Summary := do
  match prepare world request source with
  | .error stop =>
    modify fun disk => { disk with temp := world.left .writeSummary }
    raise stop
  | .ok (product, summary) =>
    modify fun disk => { disk with temp := some product }
    swap world
    return summary

def buildManualCleanupMap : Effect Stop Disk Summary := do
  lift (checkSource request source)
  change world .mkdir id id
  change world .mkdtemp (fun disk => { disk with temp := some fun _ => none }) id
  (buildTemp world request source).handle (onStop world)

/-! ## Atomic replacement -/

/-- A finite point projects into an erased cell. -/
def InErased (grid : Grid) (original edited : Image) (point : Point) : Prop :=
  ∃ x y z row col, point.x = some x ∧ point.y = some y ∧ point.z = some z ∧ grid.Contains row col x y ∧
    erased original edited row col = true

/-- The cloud is that of the source without the points in the erased cells of the edited image. -/
def Cleaned (files : Files) : Prop :=
  ∃ original edited metadata grid cloud keep,
    source "map.pgm" = some (.image original) ∧ files "map.pgm" = some (.image edited) ∧
    files "map.yaml" = some (.metadata metadata) ∧ gridOf world edited metadata = .ok grid ∧
    source "map.pcd" = some (.cloud cloud) ∧
    files "map.pcd" = some (.cloud { cloud with points := cloud.points.filter keep }) ∧
    ∀ point, keep point = true ↔ ¬ InErased grid original edited point

/-- All files of the new map are there. -/
structure Whole (files : Files) : Prop where
  image : ∃ body, world.respond request.pgmUrl = .ok body ∧ files "map.pgm" = some body.content
  metadata : ∃ metadata, files "map.yaml" = some (.metadata metadata) ∧ metadata.image = "map.pgm"
  cleaned : Cleaned world source files
  copied : ∀ name ∈ optionalFiles, files name = source name
  summary : ∃ summary, files "manual_cleanup.json" = some (.summary summary)

/-- After a run, whether it returned, raised or crashed. -/
structure Atomic (before : Disk) (run : Except Stop Summary × Disk) : Prop where
  complete : run.2.output = before.output ∨ ∃ files, run.2.output = some files ∧ Whole world request source files
  raised : ∀ stop, run.1 = .error stop → stop ≠ .crash → run.2.output = before.output
  returned : ∀ summary, run.1 = .ok summary → ∃ files, run.2.output = some files ∧ Cleaned world source files

/-- A run comes to put an old map aside. -/
structure SetsAside (before : Disk) (product : Files) : Prop where
  old : before.output.isSome = true
  checked : checkSource request source = .ok ()
  mkdir : world.stops .mkdir = none
  mkdtemp : world.stops .mkdtemp = none
  prepared : ∃ summary, prepare world request source = .ok (product, summary)
  removed : before.backup = none ∨ world.stops .removeBackup = none
  aside : world.stops .setAside = none

/-- An old map that is put aside is replaced, and what is left of it is removed or the process crashes; an error there
is harmless only where the new map is the old one. -/
def Replaces (before : Disk) : Prop :=
  ∀ product, SetsAside world request source before product →
    world.stops .replace = none ∧
      ∀ stop, world.stops .removePrevious = some stop →
        stop = .crash ∨ world.stops .removeTemp = some .crash ∨ before.output = some product

section Product

variable {world request source} {grid : Grid} {original edited : Image}

theorem gridOf_resolution {metadata : Metadata} (h : gridOf world edited metadata = .ok grid) :
    0 < grid.resolution := by
  unfold gridOf at h
  dsimp only at h
  split at h
  · cases h
  rename_i hpos
  split at h
  · cases h
    exact not_le.mp hpos
  · cases h

theorem keeps_iff (hr : 0 < grid.resolution) (point : Point) :
    keeps grid (erased original edited) point = true ↔ ¬ InErased grid original edited point := by
  unfold keeps InErased
  split
  · rename_i x y z hx hy hz
    simp only [hx, hy, hz, Option.some.injEq]
    split
    · rename_i row col hcell
      have hin := (Grid.cell_eq_some_iff hr).mp hcell
      constructor
      · rintro hkeep ⟨_, _, _, row', col', rfl, rfl, rfl, hin', herased⟩
        have hsame := (Grid.cell_eq_some_iff hr).mpr hin'
        rw [hcell] at hsame
        obtain ⟨rfl, rfl⟩ := Prod.mk.inj (Option.some.inj hsame)
        rw [herased] at hkeep
        exact absurd hkeep (by decide)
      · intro hnot
        rw [Bool.not_eq_true']
        refine Bool.eq_false_iff.mpr fun herased => hnot ⟨x, y, z, row, col, rfl, rfl, rfl, hin, herased⟩
    · rename_i hcell
      refine iff_of_true rfl ?_
      rintro ⟨_, _, _, row, col, rfl, rfl, rfl, hin, -⟩
      rw [(Grid.cell_eq_some_iff hr).mpr hin] at hcell
      cases hcell
  · rename_i hfinite
    refine iff_of_true rfl ?_
    rintro ⟨x, y, z, _, _, hx, hy, hz, -⟩
    exact hfinite x y z hx hy hz

theorem readImage_ok {content : Option Content} (h : readImage content = .ok edited) :
    content = some (.image edited) := by
  unfold readImage at h
  split at h <;> cases h
  rfl

theorem readCloud_ok {content : Option Content} {cloud : Cloud} (h : readCloud content = .ok cloud) :
    content = some (.cloud cloud) := by
  unfold readCloud at h
  split at h <;> cases h
  rfl

theorem filterPointCloud_ok {metadata : Metadata} {cloud : Cloud} {summary : Summary}
    (h : filterPointCloud world request source edited metadata = .ok (cloud, summary)) :
    ∃ original grid before, source "map.pgm" = some (.image original) ∧ gridOf world edited metadata = .ok grid ∧
      source "map.pcd" = some (.cloud before) ∧
      cloud = { before with points := before.points.filter (keeps grid (erased original edited)) } := by
  unfold filterPointCloud at h
  obtain ⟨original, horiginal, h⟩ := Excepts.bind_eq_ok h
  dsimp only at h
  split at h
  · cases h
  obtain ⟨grid, hgrid, h⟩ := Excepts.bind_eq_ok h
  obtain ⟨before, hbefore, h⟩ := Excepts.bind_eq_ok h
  split at h
  · cases h
  split at h
  · cases h
  · cases h
    exact ⟨original, grid, before, readImage_ok horiginal, hgrid, readCloud_ok hbefore, rfl⟩

theorem download_ok {name url expected : String} {content : Content}
    (h : download world name url expected = .ok content) :
    ∃ body, world.respond url = .ok body ∧ content = body.content := by
  unfold download at h
  dsimp only at h
  split at h
  · cases h
  split at h
  · cases h
  rename_i body hbody
  obtain ⟨-, -, h⟩ := Excepts.bind_eq_ok h
  split at h
  · cases h
  · cases h
    exact ⟨body, hbody, rfl⟩

theorem normalizeMapYamlImage_ok {content : Content} {metadata : Metadata}
    (h : normalizeMapYamlImage content = .ok metadata) : metadata.image = "map.pgm" := by
  unfold normalizeMapYamlImage at h
  split at h <;> cases h
  rfl

theorem whole_of_prepare {product : Files} {summary : Summary}
    (h : prepare world request source = .ok (product, summary)) :
    Whole world request source product := by
  unfold prepare at h
  obtain ⟨image, himage, h⟩ := Excepts.bind_eq_ok h
  obtain ⟨yaml, -, h⟩ := Excepts.bind_eq_ok h
  obtain ⟨metadata, hmetadata, h⟩ := Excepts.bind_eq_ok h
  obtain ⟨-, -, h⟩ := Excepts.bind_eq_ok h
  obtain ⟨edited, hedited, h⟩ := Excepts.bind_eq_ok h
  obtain ⟨⟨cloud, written⟩, hfilter, h⟩ := Excepts.bind_eq_ok h
  obtain ⟨-, -, h⟩ := Excepts.bind_eq_ok h
  obtain ⟨-, -, h⟩ := Excepts.bind_eq_ok h
  obtain ⟨-, -, h⟩ := Excepts.bind_eq_ok h
  cases h
  obtain ⟨body, hbody, rfl⟩ := download_ok himage
  obtain ⟨original, grid, before, horiginal, hgrid, hbefore, rfl⟩ := filterPointCloud_ok hfilter
  have hread := Option.some.inj (readImage_ok hedited)
  refine ⟨⟨body, hbody, ?_⟩, ⟨metadata, rfl, normalizeMapYamlImage_ok hmetadata⟩, ?_, ?_, ⟨summary, rfl⟩⟩
  · rw [hread]
    rfl
  · exact ⟨original, edited, metadata, grid, before, _, horiginal, rfl, rfl, hgrid, hbefore, rfl,
      keeps_iff (gridOf_resolution hgrid)⟩
  · intro name hname
    rcases List.mem_cons.mp hname with rfl | hname
    · rfl
    · obtain rfl := List.mem_singleton.mp hname
      rfl

end Product

/-! ## The runs -/

section Runs

variable {world request source} {before disk : Disk} {product : Files}

variable (world) in
theorem removeTemp_cases (disk : Disk) :
    (∃ rest, world.stops .removeTemp ≠ some .crash ∧ removeTemp world disk = (.ok (), rest) ∧
      rest.output = disk.output) ∨
    ∃ rest, world.stops .removeTemp = some .crash ∧ removeTemp world disk = (.error .crash, rest) ∧
      rest.output = disk.output := by
  unfold removeTemp
  split
  · rename_i hnone
    exact Or.inl ⟨_, by rw [hnone]; simp, rfl, rfl⟩
  · rename_i hcrash
    exact Or.inr ⟨_, hcrash, rfl, rfl⟩
  · rename_i stop hnot hstop
    exact Or.inl ⟨_, fun hcrash => hnot (Option.some.inj (hstop.symm.trans hcrash)), rfl, rfl⟩

variable (world) in
theorem onStop_spec (stop : Stop) (disk : Disk) :
    ∃ last, (onStop world stop disk).1 = .error last ∧
      (last = .crash ↔ stop = .crash ∨ world.stops .removeTemp = some .crash) ∧
      (onStop world stop disk).2.output = disk.output := by
  have hraise : ∀ message, stop ≠ .crash →
      onStop world stop = (removeTemp world >>= fun _ => raise (.cleanupError message)) →
      ∃ last, (onStop world stop disk).1 = .error last ∧
        (last = .crash ↔ stop = .crash ∨ world.stops .removeTemp = some .crash) ∧
        (onStop world stop disk).2.output = disk.output := by
    intro message hnot heq
    rw [heq]
    rcases removeTemp_cases world disk with ⟨rest, hclean, hrest, houtput⟩ | ⟨rest, hcrash, hrest, houtput⟩
    · rw [bind_of_ok hrest]
      exact ⟨_, rfl, iff_of_false (by simp) fun h => h.elim hnot hclean, houtput⟩
    · rw [bind_of_error hrest]
      exact ⟨_, rfl, iff_of_true rfl (Or.inr hcrash), houtput⟩
  cases stop with
  | crash => exact ⟨.crash, rfl, iff_of_true rfl (Or.inl rfl), rfl⟩
  | cleanupError message => exact hraise message (by simp) rfl
  | other message => exact hraise ("failed to build manual cleanup map: " ++ message) (by simp) rfl

structure Movable (world : World) (disk : Disk) : Prop where
  old : disk.output.isSome = true
  removed : disk.backup = none ∨ world.stops .removeBackup = none
  aside : world.stops .setAside = none

/-- How the exchange of the two directories may end. -/
inductive Exchange (world : World) (disk : Disk) (product : Files) : Except Stop Unit × Disk → Prop
  | kept (stop : Stop) (rest : Disk) : ¬ Movable world disk → rest.output = disk.output →
      Exchange world disk product (.error stop, rest)
  | created (rest : Disk) : ¬ Movable world disk → rest.output = some product →
      Exchange world disk product (.ok (), rest)
  | lost (stop : Stop) (rest : Disk) : Movable world disk → world.stops .replace = some stop → rest.output = none →
      Exchange world disk product (.error stop, rest)
  | replaced (rest : Disk) : Movable world disk → world.stops .replace = none →
      world.stops .removePrevious = none → rest.output = some product → Exchange world disk product (.ok (), rest)
  | leftover (stop : Stop) (rest : Disk) : Movable world disk → world.stops .replace = none →
      world.stops .removePrevious = some stop → rest.output = some product →
      Exchange world disk product (.error stop, rest)

variable (world) in
theorem removeBackup_cases (c : Call) (disk : Disk) :
    ((disk.backup = none ∨ world.stops c = none) ∧ removeBackup world c disk = (.ok (), { disk with backup := none })) ∨
    ∃ stop, disk.backup ≠ none ∧ world.stops c = some stop ∧
      removeBackup world c disk = (.error stop, { disk with backup := world.left c }) := by
  unfold removeBackup
  rw [get_bind]
  rcases disk with ⟨output, _ | backup, temp⟩
  · exact Or.inl ⟨Or.inl rfl, rfl⟩
  · dsimp only [Option.isSome_some, if_true]
    unfold change
    cases hstop : world.stops c with
    | none => exact Or.inl ⟨Or.inr rfl, rfl⟩
    | some stop => exact Or.inr ⟨stop, Option.some_ne_none backup, rfl, rfl⟩

variable (world) in
theorem exchange_swap (htemp : disk.temp = some product) : Exchange world disk product (swap world disk) := by
  unfold swap
  rcases removeBackup_cases world .removeBackup disk with ⟨hremoved, hremove⟩ | ⟨stop, hbackup, hstop, hremove⟩
  swap
  · rw [bind_of_error hremove]
    refine .kept _ _ (fun h => ?_) rfl
    rcases h.removed with hnone | hnone
    · exact hbackup hnone
    · rw [hstop] at hnone
      cases hnone
  rw [bind_of_ok hremove]
  rcases disk with ⟨_ | old, backup, temp⟩
  · -- there is no old map
    obtain rfl : temp = some product := htemp
    have hnone : ¬ Movable world ⟨none, backup, some product⟩ := fun h => Bool.false_ne_true h.old
    have haside : setAside world ⟨none, none, some product⟩ = (.ok (), ⟨none, none, some product⟩) := rfl
    rw [bind_of_ok haside]
    cases hreplace : world.stops .replace with
    | some stop =>
      have hrun : replace world ⟨none, none, some product⟩ = (.error stop, ⟨none, none, some product⟩) := by
        unfold replace change
        rw [hreplace]
        rfl
      rw [bind_of_error hrun]
      exact .kept _ _ hnone rfl
    | none =>
      have hrun : replace world ⟨none, none, some product⟩ = (.ok (), ⟨some product, none, none⟩) := by
        unfold replace change
        rw [hreplace]
      rw [bind_of_ok hrun]
      exact .created _ hnone rfl
  · obtain rfl : temp = some product := htemp
    cases haside : world.stops .setAside with
    | some stop =>
      have hrun : setAside world ⟨some old, none, some product⟩ = (.error stop, ⟨some old, none, some product⟩) := by
        unfold setAside change
        rw [get_bind]
        dsimp only [Option.isSome_some, if_true]
        rw [haside]
        rfl
      rw [bind_of_error hrun]
      refine .kept _ _ (fun h => ?_) rfl
      rw [h.aside] at haside
      cases haside
    | none =>
      have hmovable : Movable world ⟨some old, backup, some product⟩ := ⟨rfl, hremoved, haside⟩
      have hrun : setAside world ⟨some old, none, some product⟩ = (.ok (), ⟨none, some old, some product⟩) := by
        unfold setAside change
        rw [get_bind]
        dsimp only [Option.isSome_some, if_true]
        rw [haside]
        rfl
      rw [bind_of_ok hrun]
      cases hreplace : world.stops .replace with
      | some stop =>
        have hrun : replace world ⟨none, some old, some product⟩ = (.error stop, ⟨none, some old, some product⟩) := by
          unfold replace change
          rw [hreplace]
          rfl
        rw [bind_of_error hrun]
        exact .lost _ _ hmovable hreplace rfl
      | none =>
        have hrun : replace world ⟨none, some old, some product⟩ = (.ok (), ⟨some product, some old, none⟩) := by
          unfold replace change
          rw [hreplace]
        rw [bind_of_ok hrun]
        rcases removeBackup_cases world .removePrevious ⟨some product, some old, none⟩ with
          ⟨hnone | hnone, hlast⟩ | ⟨stop, -, hstop, hlast⟩
        · cases hnone
        · rw [hlast]
          exact .replaced _ hmovable hreplace hnone rfl
        · rw [hlast]
          exact .leftover _ _ hmovable hreplace hstop rfl

theorem Atomic.of_kept {run : Except Stop Summary × Disk} {stop : Stop} (herror : run.1 = .error stop)
    (hkept : run.2.output = before.output) : Atomic world request source before run :=
  ⟨Or.inl hkept, fun _ _ _ => hkept, fun summary hok => by rw [herror] at hok; cases hok⟩

theorem Atomic.of_product {run : Except Stop Summary × Disk} (hproduct : run.2.output = some product)
    (hwhole : Whole world request source product)
    (hraised : ∀ stop, run.1 = .error stop → stop ≠ .crash → before.output = some product) :
    Atomic world request source before run :=
  ⟨Or.inr ⟨product, hproduct, hwhole⟩,
    fun stop herror hcrash => hproduct.trans (hraised stop herror hcrash).symm,
    fun _ _ => ⟨product, hproduct, hwhole.cleaned⟩⟩

theorem SetsAside.movable (h : SetsAside world request source before product) (temp : Option Files) :
    Movable world { before with temp := temp } :=
  ⟨h.old, h.removed, h.aside⟩

theorem handle_of_error {x : Effect Stop Disk Summary} {handler : Stop → Effect Stop Disk Summary} {stop : Stop}
    {rest : Disk} (h : x disk = (.error stop, rest)) : x.handle handler disk = handler stop rest := by
  unfold handle
  rw [h]

theorem handle_of_ok {x : Effect Stop Disk Summary} {handler : Stop → Effect Stop Disk Summary} {summary : Summary}
    {rest : Disk} (h : x disk = (.ok summary, rest)) : x.handle handler disk = (.ok summary, rest) := by
  unfold handle
  rw [h]

theorem change_stopped {c : Call} {stop : Stop} (h : world.stops c = some stop) (done : Disk → Disk) (disk : Disk) :
    change world c done id disk = (.error stop, disk) := by
  unfold change
  rw [h]
  rfl

theorem change_done {c : Call} (h : world.stops c = none) (done stopped : Disk → Disk) (disk : Disk) :
    change world c done stopped disk = (.ok (), done disk) := by
  unfold change
  rw [h]

theorem guarded_iff {summary : Summary} (hcheck : checkSource request source = .ok ())
    (hmkdir : world.stops .mkdir = none) (hmkdtemp : world.stops .mkdtemp = none)
    (hprepare : prepare world request source = .ok (product, summary)) (empty : Files) :
    Atomic world request source before
        ((buildTemp world request source).handle (onStop world) { before with temp := some empty }) ↔
      Replaces world request source before := by
  have hwhole := whole_of_prepare hprepare
  have hruns : ∀ run, swap world { before with temp := some product } = run →
      buildTemp world request source { before with temp := some empty } = (run.1.map fun _ => summary, run.2) := by
    rintro ⟨_ | _, rest⟩ hswap
    · unfold buildTemp
      rw [hprepare]
      dsimp only
      rw [modify_bind, bind_of_error hswap]
      rfl
    · unfold buildTemp
      rw [hprepare]
      dsimp only
      rw [modify_bind, bind_of_ok hswap]
      rfl
  have hsets : ∀ other, SetsAside world request source before other → other = product := by
    rintro other h
    obtain ⟨_, hother⟩ := h.prepared
    rw [hprepare] at hother
    exact (Prod.mk.inj (Except.ok.inj hother)).1.symm
  have haside : Movable world { before with temp := some product } → SetsAside world request source before product :=
    fun h => ⟨h.old, hcheck, hmkdir, hmkdtemp, ⟨summary, hprepare⟩, h.removed, h.aside⟩
  have hunmoved : ¬ Movable world { before with temp := some product } → Replaces world request source before :=
    fun hnot other h => absurd (h.movable _) hnot
  have hexchange := exchange_swap world (show ({ before with temp := some product } : Disk).temp = some product from rfl)
  generalize hswap : swap world { before with temp := some product } = run at hexchange
  have hrun := hruns run hswap
  cases hexchange with
  | kept stop rest hnot hkept =>
    obtain ⟨last, herror, -, houtput⟩ := onStop_spec world stop rest
    rw [handle_of_error hrun]
    exact iff_of_true (Atomic.of_kept herror (houtput.trans hkept)) (hunmoved hnot)
  | created rest hnot houtput =>
    rw [handle_of_ok hrun]
    exact iff_of_true (Atomic.of_product houtput hwhole fun _ herror => by cases herror) (hunmoved hnot)
  | lost stop rest hmovable hstop houtput =>
    -- the directory is absent between the two renames
    obtain ⟨last, -, -, hlast⟩ := onStop_spec world stop rest
    rw [handle_of_error hrun]
    refine iff_of_false (fun h => ?_) fun h => ?_
    · rcases h.complete with hsame | ⟨files, hfiles, -⟩
      · rw [hlast, houtput] at hsame
        have hold := hmovable.old
        rw [← hsame] at hold
        cases hold
      · rw [hlast, houtput] at hfiles
        cases hfiles
    · have hreplace := (h product (haside hmovable)).1
      rw [hstop] at hreplace
      cases hreplace
  | replaced rest hmovable hreplace hremoved houtput =>
    rw [handle_of_ok hrun]
    refine iff_of_true (Atomic.of_product houtput hwhole fun _ herror => by cases herror) fun other _ => ?_
    refine ⟨hreplace, fun stop hstop => ?_⟩
    rw [hremoved] at hstop
    cases hstop
  | leftover stop rest hmovable hreplace hremoved houtput =>
    -- the new map is in its place, and the old one is not removed
    obtain ⟨last, herror, hcrash, hlast⟩ := onStop_spec world stop rest
    rw [handle_of_error hrun]
    constructor
    · intro h other hother
      obtain rfl := hsets other hother
      refine ⟨hreplace, fun stop' hstop' => ?_⟩
      obtain rfl := Option.some.inj (hremoved.symm.trans hstop')
      by_cases hlastCrash : last = .crash
      · exact (hcrash.mp hlastCrash).imp_right Or.inl
      · exact Or.inr (Or.inr ((h.raised last herror hlastCrash).symm.trans (hlast.trans houtput)))
    · intro h
      refine Atomic.of_product (hlast.trans houtput) hwhole fun stop' hstop' hnot => ?_
      obtain rfl := Except.error.inj (herror.symm.trans hstop')
      have hno := mt hcrash.mpr hnot
      rcases (h product (haside hmovable)).2 stop hremoved with hstop | htemp | hsame
      · exact absurd (Or.inl hstop) hno
      · exact absurd (Or.inr htemp) hno
      · exact hsame

/-- A cleanup is atomic exactly where an old map that is put aside is replaced without a failure. -/
theorem atomic_iff (world : World) (request : Request) (source : Files) (before : Disk) :
    Atomic world request source before (buildManualCleanupMap world request source before) ↔
      Replaces world request source before := by
  have hidle : ∀ stop, buildManualCleanupMap world request source before = (.error stop, before) →
      (∀ product, ¬ SetsAside world request source before product) →
      (Atomic world request source before (buildManualCleanupMap world request source before) ↔
        Replaces world request source before) := by
    intro stop hrun hnever
    rw [hrun]
    exact iff_of_true (Atomic.of_kept rfl rfl) fun product h => absurd h (hnever product)
  cases hcheck : checkSource request source with
  | error stop =>
    refine hidle stop ?_ fun product h => ?_
    · unfold buildManualCleanupMap
      rw [hcheck]
      rfl
    · have hok := h.checked
      rw [hcheck] at hok
      cases hok
  | ok =>
  have hlift : lift (checkSource request source) before = (.ok (), before) := by rw [hcheck]; rfl
  cases hmkdir : world.stops .mkdir with
  | some stop =>
    refine hidle stop ?_ fun product h => ?_
    · unfold buildManualCleanupMap
      rw [bind_of_ok hlift, bind_of_error (change_stopped hmkdir id before)]
    · have hnone := h.mkdir
      rw [hmkdir] at hnone
      cases hnone
  | none =>
  cases hmkdtemp : world.stops .mkdtemp with
  | some stop =>
    refine hidle stop ?_ fun product h => ?_
    · unfold buildManualCleanupMap
      rw [bind_of_ok hlift, bind_of_ok (change_done hmkdir id id before), bind_of_error (change_stopped hmkdtemp _ _)]
      rfl
    · have hnone := h.mkdtemp
      rw [hmkdtemp] at hnone
      cases hnone
  | none =>
  have hrun : buildManualCleanupMap world request source before =
      (buildTemp world request source).handle (onStop world) { before with temp := some fun _ => none } := by
    unfold buildManualCleanupMap
    rw [bind_of_ok hlift, bind_of_ok (change_done hmkdir id id before), bind_of_ok (change_done hmkdtemp _ _ _)]
    rfl
  rw [hrun]
  cases hprepare : prepare world request source with
  | ok prepared => exact guarded_iff hcheck hmkdir hmkdtemp hprepare _
  | error stop =>
    have hstopped : buildTemp world request source { before with temp := some fun _ => none } =
        (.error stop, { before with temp := world.left .writeSummary }) := by
      unfold buildTemp
      rw [hprepare]
      rfl
    obtain ⟨last, herror, -, houtput⟩ := onStop_spec world stop { before with temp := world.left .writeSummary }
    rw [handle_of_error hstopped]
    refine iff_of_true (Atomic.of_kept herror houtput) fun product h => ?_
    obtain ⟨_, hok⟩ := h.prepared
    rw [hprepare] at hok
    cases hok

end Runs

/-! ## A crash between the renames -/

section CrashBetween

def cleanImage : Image := ⟨1, 1, 255, fun _ _ => 254⟩

def sampleMetadata : Metadata := ⟨some (1 / 20), some [0, 0, 0], "edited.pgm"⟩

def sampleSource : Files := fun name =>
  if name = "map.pgm" then some (.image ⟨1, 1, 255, fun _ _ => 0⟩)
  else if name = "map.yaml" then some (.metadata sampleMetadata)
  else if name = "map.pcd" then some (.cloud ⟨["x", "y", "z"], "binary", [⟨some 0, some 0, some 0, []⟩]⟩)
  else none

/-- The process stops before the temporary directory takes the place of the output. -/
def crashBeforeReplace : World where
  stops c := if c = .replace then some .crash else none
  left _ := none
  urlparse url := ("https", url)
  respond url := .ok ⟨if url = "map.pgm" then .image cleanImage else .metadata sampleMetadata, ""⟩
  cos _ := 1
  sin _ := 0

/-- The output directory is gone, and its content is in the hidden sibling only. -/
theorem not_atomic_crashBetweenRenames :
    ¬ Atomic crashBeforeReplace ⟨"slam", "edited", "map.pgm", "map.yaml", "", ""⟩ sampleSource ⟨some sampleSource, none, none⟩
      (buildManualCleanupMap crashBeforeReplace ⟨"slam", "edited", "map.pgm", "map.yaml", "", ""⟩ sampleSource
        ⟨some sampleSource, none, none⟩) := by
  intro h
  have hgone : (buildManualCleanupMap crashBeforeReplace ⟨"slam", "edited", "map.pgm", "map.yaml", "", ""⟩ sampleSource
      ⟨some sampleSource, none, none⟩).2.output.isNone = true := by decide +kernel
  rcases h.complete with hsame | ⟨files, hfiles, -⟩
  · rw [hsame] at hgone
    cases hgone
  · rw [hfiles] at hgone
    cases hgone

end CrashBetween

end ManualMapCleanup

end RoamerX
