import RoamerX.Boundary.Manager
import RoamerX.Lib.Effects

set_option autoImplicit false

/-! # Where the application of a boundary may fail

`NavigationBoundaryManager.apply` writes four places in turn: the boundary in memory, the three files of
the keep-out mask, the metadata table, the log. Each write outside the memory may fail by itself. An
application that raises leaves everything as it was exactly where it had written nothing new yet. -/

namespace RoamerX

namespace BoundaryApplication

open BoundaryFilterMask Effects Effect

variable {𝕜 : Type}

/-! ## What is written -/

/-- What `keepout_mask.pgm` holds. -/
structure PgmFile where
  width : ℕ
  height : ℕ
  pixels : List ℕ
  deriving DecidableEq

/-- What `keepout_mask.yaml` holds. -/
structure YamlFile (𝕜 : Type) where
  resolution : 𝕜
  origin : 𝕜 × 𝕜 × 𝕜
  deriving DecidableEq

/-- What `keepout_mask.metadata.json` holds. -/
structure MetadataFile (𝕜 : Type) where
  mapId : String
  revision : ℤ
  width : ℕ
  height : ℕ
  resolution : 𝕜
  origin : 𝕜 × 𝕜 × 𝕜
  occupiedCells : ℕ
  deriving DecidableEq

/-- The files of `mask_dir`. -/
structure MaskFiles (𝕜 : Type) where
  pgm : Option PgmFile := none
  yaml : Option (YamlFile 𝕜) := none
  metadata : Option (MetadataFile 𝕜) := none
  deriving DecidableEq

/-- The mask in the terms of each file. -/
def pgmFile (mask : Mask 𝕜) : PgmFile where
  width := mask.width
  height := mask.height
  pixels := mask.pixels

def yamlFile (mask : Mask 𝕜) : YamlFile 𝕜 where
  resolution := mask.resolution
  origin := mask.origin

def metadataFile (mask : Mask 𝕜) : MetadataFile 𝕜 where
  mapId := mask.mapId
  revision := mask.revision
  width := mask.width
  height := mask.height
  resolution := mask.resolution
  origin := mask.origin
  occupiedCells := mask.occupiedCells

/-- The manager with the files it writes. -/
structure BoundaryState (𝕜 : Type) where
  manager : NavigationBoundaryManager 𝕜
  files : MaskFiles 𝕜 := {}

/-! ## What may fail -/

/-- What `apply` does outside the memory, in its order. -/
inductive Stage
  /-- The map of `map_yaml_path` is read. -/
  | readMap
  | writePgm
  | writeYaml
  | writeMetadata
  /-- `store.set_metadata`. -/
  | setMetadata
  /-- `structured_logs.emit`. -/
  | emit
  /-- `structured_logs.flush`. -/
  | flush
  deriving DecidableEq

/-- What `apply` raises. -/
inductive Raised
  | refused (error : ProtocolError)
  | failed (stage : Stage)
  deriving DecidableEq

abbrev Applying (𝕜 α : Type) : Type := Effect Raised (BoundaryState 𝕜) α

/-- A stage is gone through, where it does not fail. -/
def outside (fails : Stage → Bool) (stage : Stage) : Applying 𝕜 Unit :=
  if fails stage then raise (.failed stage) else pure ()

theorem outside_bind {α : Type} (fails : Stage → Bool) (stage : Stage) (k : Unit → Applying 𝕜 α)
    (s : BoundaryState 𝕜) :
    (outside fails stage >>= k) s =
      if fails stage = true then (.error (.failed stage), s) else k () s := by
  unfold outside
  by_cases hfails : fails stage = true
  · rw [if_pos hfails, if_pos hfails, raise_bind]
  · rw [if_neg hfails, if_neg hfails, pure_bind]

variable [Field 𝕜] [LinearOrder 𝕜]

/-! ## The application -/

/-- `apply` refuses the command before it writes anything. -/
def Refused (command : BoundaryCommand 𝕜) : Prop :=
  command.mapId = "" ∨ command.revision ≤ 0 ∨ command.outerPolygon.length < 3

instance (command : BoundaryCommand 𝕜) : Decidable (Refused command) := by
  unfold Refused
  infer_instance

/-- The metadata of the boundary's map allow a mask. -/
def sized (boundary : NavigationBoundary 𝕜) : Bool :=
  boundary.map.any fun map => !(decide (map.width ≤ 0) || decide (map.height ≤ 0) ||
    decide (map.resolution ≤ 0) || decide (100000000 < map.width * map.height))

/-- The three files of `write_keepout_mask`, each replaced as a whole. -/
def writeFiles (fails : Stage → Bool) (mask : Mask 𝕜) : Applying 𝕜 (Mask 𝕜) := do
  outside fails .writePgm
  modify fun s => { s with files := { s.files with pgm := some (pgmFile mask) } }
  outside fails .writeYaml
  modify fun s => { s with files := { s.files with yaml := some (yamlFile mask) } }
  outside fails .writeMetadata
  modify fun s => { s with files := { s.files with metadata := some (metadataFile mask) } }
  pure mask

/-- `write_keepout_mask` with the files it writes; the map is read once the metadata of the boundary are
    found in order. -/
def writeKeepoutFiles (cos sin : 𝕜 → 𝕜) (fails : Stage → Bool) (localMap : Option (GridMap 𝕜))
    (boundary : NavigationBoundary 𝕜) : Applying 𝕜 (Mask 𝕜) := do
  if sized boundary && localMap.isSome then outside fails .readMap else pure ()
  match writeKeepoutMask cos sin localMap boundary with
  | .error e => raise (.refused e)
  | .ok mask => writeFiles fails mask

/-- The mask of a manager that has a `mask_dir`. -/
def maskOf (cos sin : 𝕜 → 𝕜) (fails : Stage → Bool) (boundary : NavigationBoundary 𝕜) :
    Option (Option (GridMap 𝕜)) → Applying 𝕜 (Option (Mask 𝕜))
  | none => pure none
  | some localMap => do
    let mask ← writeKeepoutFiles cos sin fails localMap boundary
    pure (some mask)

/-- `apply`. -/
def applyBoundary (cos sin : 𝕜 → 𝕜) (fails : Stage → Bool) (command : BoundaryCommand 𝕜) :
    Applying 𝕜 (BoundaryApplied 𝕜) := do
  if Refused command then
    raise (.refused ⟨"BOUNDARY_INVALID", "导航边界缺少地图、版本或外边界"⟩)
  else
    let active := command.boundary
    modify fun s => { s with manager := { s.manager with active := some active } }
    let maskDir ← get fun s => s.manager.mask
    let mask ← maskOf cos sin fails active maskDir
    outside fails .setMetadata
    modify fun s => { s with manager := { s.manager with stored := some active } }
    outside fails .emit
    outside fails .flush
    pure
      { mapId := command.mapId
        activeRevision := command.revision
        zoneCount := active.zones.length
        enforcement := if mask.isSome then "nav2_keepout_filter_and_edge_watchdog"
          else "edge_admission_and_runtime_watchdog"
        keepoutMask := mask }

/-! ## Where it stops -/

def Stage.rank : Stage → ℕ
  | .readMap => 0
  | .writePgm => 1
  | .writeYaml => 2
  | .writeMetadata => 3
  | .setMetadata => 4
  | .emit => 5
  | .flush => 6

/-- The stages of the files that are gone through for a mask that can be drawn. -/
def fileStages (localMap : Option (GridMap 𝕜)) : List Stage :=
  if localMap.isSome then [.readMap, .writePgm, .writeYaml, .writeMetadata]
  else [.writePgm, .writeYaml, .writeMetadata]

/-- The stage of the files at which an application stops; one whose mask is refused stops where the map
    is read. -/
def fileStop (cos sin : 𝕜 → 𝕜) (fails : Stage → Bool) (boundary : NavigationBoundary 𝕜) :
    Option (Option (GridMap 𝕜)) → Option Stage
  | none => none
  | some localMap =>
    match writeKeepoutMask cos sin localMap boundary with
    | .error _ => some .readMap
    | .ok _ => (fileStages localMap).find? fails

/-- The stage at which an application that is not refused stops. -/
def stopsAt (cos sin : 𝕜 → 𝕜) (fails : Stage → Bool) (boundary : NavigationBoundary 𝕜)
    (mask : Option (Option (GridMap 𝕜))) : Option Stage :=
  fileStop cos sin fails boundary mask <|> [.setMetadata, .emit, .flush].find? fails

/-- The files once the writes before a stage are done. -/
def MaskFiles.upTo (stage : Stage) (mask : Mask 𝕜) (files : MaskFiles 𝕜) : MaskFiles 𝕜 where
  pgm := if Stage.writePgm.rank < stage.rank then some (pgmFile mask) else files.pgm
  yaml := if Stage.writeYaml.rank < stage.rank then some (yamlFile mask) else files.yaml
  metadata := if Stage.writeMetadata.rank < stage.rank then some (metadataFile mask) else files.metadata

variable {cos sin : 𝕜 → 𝕜} {fails : Stage → Bool}

theorem sized_of_ok {localMap : Option (GridMap 𝕜)} {boundary : NavigationBoundary 𝕜} {mask : Mask 𝕜}
    (h : writeKeepoutMask cos sin localMap boundary = .ok mask) : sized boundary = true := by
  unfold writeKeepoutMask at h
  unfold sized
  cases hmap : boundary.map with
  | none =>
    rw [hmap] at h
    exact nomatch h
  | some map =>
    rw [hmap] at h
    by_cases hsize : map.width ≤ 0 ∨ map.height ≤ 0 ∨ map.resolution ≤ 0 ∨
        100000000 < map.width * map.height
    · dsimp only at h
      rw [if_pos hsize] at h
      exact nomatch h
    · simpa [not_or, and_assoc] using hsize

omit [Field 𝕜] [LinearOrder 𝕜] in
theorem writeFiles_eq (mask : Mask 𝕜) (s : BoundaryState 𝕜) :
    writeFiles fails mask s =
      match [Stage.writePgm, .writeYaml, .writeMetadata].find? fails with
      | some stage => (.error (.failed stage), { s with files := s.files.upTo stage mask })
      | none => (.ok mask, { s with files := s.files.upTo .setMetadata mask }) := by
  unfold writeFiles
  rw [outside_bind, List.find?_cons]
  cases fails .writePgm with
  | true => rfl
  | false =>
    simp only [Bool.false_eq_true, if_false]
    rw [modify_bind, outside_bind, List.find?_cons]
    cases fails .writeYaml with
    | true => rfl
    | false =>
      simp only [Bool.false_eq_true, if_false]
      rw [modify_bind, outside_bind, List.find?_cons]
      cases fails .writeMetadata with
      | true => rfl
      | false => rfl

theorem writeKeepoutFiles_of_ok (fails : Stage → Bool) {localMap : Option (GridMap 𝕜)} {boundary : NavigationBoundary 𝕜}
    {mask : Mask 𝕜} (h : writeKeepoutMask cos sin localMap boundary = .ok mask) (s : BoundaryState 𝕜) :
    writeKeepoutFiles cos sin fails localMap boundary s =
      match (fileStages localMap).find? fails with
      | some stage => (.error (.failed stage), { s with files := s.files.upTo stage mask })
      | none => (.ok mask, { s with files := s.files.upTo .setMetadata mask }) := by
  unfold writeKeepoutFiles fileStages
  rw [sized_of_ok h, h, Bool.true_and]
  by_cases hthere : localMap.isSome = true
  · rw [if_pos hthere, if_pos hthere, outside_bind, List.find?_cons]
    cases fails .readMap with
    | true => rfl
    | false => exact writeFiles_eq mask s
  · rw [if_neg hthere, if_neg hthere]
    exact writeFiles_eq mask s

/-- The files once an application has come to a stage. -/
def MaskFiles.reach (cos sin : 𝕜 → 𝕜) (boundary : NavigationBoundary 𝕜) (stage : Stage)
    (mask : Option (Option (GridMap 𝕜))) (files : MaskFiles 𝕜) : MaskFiles 𝕜 :=
  match mask with
  | none => files
  | some localMap =>
    match writeKeepoutMask cos sin localMap boundary with
    | .error _ => files
    | .ok mask => files.upTo stage mask

theorem rank_of_fileStop {boundary : NavigationBoundary 𝕜} {mask : Option (Option (GridMap 𝕜))}
    {stage : Stage} (h : fileStop cos sin fails boundary mask = some stage) :
    stage.rank < Stage.setMetadata.rank := by
  unfold fileStop at h
  cases mask with
  | none => exact nomatch h
  | some localMap =>
    dsimp only at h
    cases hmask : writeKeepoutMask cos sin localMap boundary with
    | error e =>
      rw [hmask] at h
      obtain rfl := Option.some.inj h
      decide
    | ok mask =>
      rw [hmask] at h
      have hmem : stage ∈ [Stage.readMap, .writePgm, .writeYaml, .writeMetadata] := by
        have hfound := List.mem_of_find?_eq_some h
        unfold fileStages at hfound
        split_ifs at hfound
        · exact hfound
        · exact List.mem_cons_of_mem _ hfound
      clear h
      revert hmem stage
      decide

theorem maskOf_stops {boundary : NavigationBoundary 𝕜} {mask : Option (Option (GridMap 𝕜))} {stage : Stage}
    (h : fileStop cos sin fails boundary mask = some stage) (s : BoundaryState 𝕜) :
    ∃ e, maskOf cos sin fails boundary mask s =
      (.error e, { s with files := s.files.reach cos sin boundary stage mask }) := by
  unfold fileStop at h
  cases mask with
  | none => exact nomatch h
  | some localMap =>
    dsimp only [maskOf, MaskFiles.reach] at h ⊢
    cases hmask : writeKeepoutMask cos sin localMap boundary with
    | error e =>
      rw [hmask] at h
      -- the map may fail to be read before the mask is refused
      have hfiles : ∃ e, writeKeepoutFiles cos sin fails localMap boundary s = (.error e, s) := by
        unfold writeKeepoutFiles
        rw [hmask]
        by_cases hread : (sized boundary && localMap.isSome) = true
        · rw [if_pos hread, outside_bind]
          by_cases hfails : fails .readMap = true
          · exact ⟨_, if_pos hfails⟩
          · exact ⟨_, if_neg hfails⟩
        · rw [if_neg hread]
          exact ⟨_, rfl⟩
      obtain ⟨e, hfiles⟩ := hfiles
      exact ⟨e, bind_of_error hfiles⟩
    | ok mask =>
      rw [hmask] at h
      dsimp only at h
      have hfiles := writeKeepoutFiles_of_ok fails hmask s
      rw [h] at hfiles
      exact ⟨_, bind_of_error hfiles⟩

theorem maskOf_passes {boundary : NavigationBoundary 𝕜} {mask : Option (Option (GridMap 𝕜))}
    (h : fileStop cos sin fails boundary mask = none) (s : BoundaryState 𝕜) :
    ∃ drawn, maskOf cos sin fails boundary mask s =
      (.ok drawn, { s with files := s.files.reach cos sin boundary .setMetadata mask }) := by
  unfold fileStop at h
  cases mask with
  | none => exact ⟨none, rfl⟩
  | some localMap =>
    dsimp only [maskOf, MaskFiles.reach] at h ⊢
    cases hmask : writeKeepoutMask cos sin localMap boundary with
    | error e =>
      rw [hmask] at h
      exact nomatch h
    | ok mask =>
      rw [hmask] at h
      dsimp only at h
      have hfiles := writeKeepoutFiles_of_ok fails hmask s
      rw [h] at hfiles
      exact ⟨some mask, bind_of_ok hfiles⟩

/-- The state once an application has come to a stage. -/
def BoundaryState.reach (cos sin : 𝕜 → 𝕜) (boundary : NavigationBoundary 𝕜) (stage : Stage)
    (s : BoundaryState 𝕜) : BoundaryState 𝕜 where
  manager :=
    { s.manager with
      active := some boundary
      stored := if Stage.setMetadata.rank < stage.rank then some boundary else s.manager.stored }
  files := s.files.reach cos sin boundary stage s.manager.mask

theorem applyBoundary_stops {command : BoundaryCommand 𝕜} {s : BoundaryState 𝕜} {stage : Stage}
    (hgood : ¬Refused command)
    (h : stopsAt cos sin fails command.boundary s.manager.mask = some stage) :
    ∃ e, applyBoundary cos sin fails command s =
      (.error e, s.reach cos sin command.boundary stage) := by
  unfold stopsAt at h
  unfold applyBoundary
  rw [if_neg hgood]
  dsimp only
  rw [modify_bind, get_bind]
  cases hfile : fileStop cos sin fails command.boundary s.manager.mask with
  | some stage' =>
    rw [hfile] at h
    obtain rfl := Option.some.inj h
    obtain ⟨e, hmask⟩ := maskOf_stops hfile
      { s with manager := { s.manager with active := some command.boundary } }
    refine ⟨e, ?_⟩
    rw [bind_of_error hmask]
    unfold BoundaryState.reach
    rw [if_neg (rank_of_fileStop hfile).le.not_gt]
  | none =>
    rw [hfile] at h
    change [Stage.setMetadata, .emit, .flush].find? fails = some stage at h
    obtain ⟨drawn, hmask⟩ := maskOf_passes hfile
      { s with manager := { s.manager with active := some command.boundary } }
    rw [bind_of_ok hmask, outside_bind]
    unfold BoundaryState.reach
    rw [List.find?_cons] at h
    cases hset : fails .setMetadata with
    | true =>
      rw [hset] at h
      obtain rfl := Option.some.inj h
      exact ⟨_, rfl⟩
    | false =>
      rw [hset] at h
      dsimp only at h
      rw [if_neg Bool.false_ne_true, modify_bind, outside_bind]
      rw [List.find?_cons] at h
      cases hemit : fails .emit with
      | true =>
        rw [hemit] at h
        obtain rfl := Option.some.inj h
        exact ⟨_, rfl⟩
      | false =>
        rw [hemit] at h
        dsimp only at h
        rw [if_neg Bool.false_ne_true, outside_bind]
        rw [List.find?_cons] at h
        cases hflush : fails .flush with
        | true =>
          rw [hflush] at h
          obtain rfl := Option.some.inj h
          exact ⟨_, rfl⟩
        | false =>
          rw [hflush] at h
          exact nomatch h

theorem applyBoundary_returns {command : BoundaryCommand 𝕜} {s : BoundaryState 𝕜}
    (hgood : ¬Refused command)
    (h : stopsAt cos sin fails command.boundary s.manager.mask = none) :
    ∃ r s', applyBoundary cos sin fails command s = (.ok r, s') := by
  unfold stopsAt at h
  unfold applyBoundary
  rw [if_neg hgood]
  dsimp only
  rw [modify_bind, get_bind]
  cases hfile : fileStop cos sin fails command.boundary s.manager.mask with
  | some stage =>
    rw [hfile] at h
    exact nomatch h
  | none =>
    rw [hfile] at h
    obtain ⟨drawn, hmask⟩ := maskOf_passes hfile
      { s with manager := { s.manager with active := some command.boundary } }
    have hfine := List.find?_eq_none.mp h
    rw [bind_of_ok hmask, outside_bind,
      if_neg (hfine .setMetadata (by decide)), modify_bind, outside_bind,
      if_neg (hfine .emit (by decide)), outside_bind, if_neg (hfine .flush (by decide))]
    exact ⟨_, _, rfl⟩

/-! ## Atomicity -/

/-- An application that raises leaves the boundary in memory, the stored one and the mask as they were. -/
def Atomic (cos sin : 𝕜 → 𝕜) (fails : Stage → Bool) (s : BoundaryState 𝕜) (command : BoundaryCommand 𝕜) :
    Prop :=
  ∀ e s', applyBoundary cos sin fails command s = (.error e, s') →
    s'.manager.active = s.manager.active ∧ s'.manager.stored = s.manager.stored ∧ s'.files = s.files

/-- What the application writes before the stage is what was there. -/
structure NothingNew (cos sin : 𝕜 → 𝕜) (s : BoundaryState 𝕜) (boundary : NavigationBoundary 𝕜)
    (stage : Stage) : Prop where
  active : s.manager.active = some boundary
  pgm : ∀ localMap mask, s.manager.mask = some localMap →
    writeKeepoutMask cos sin localMap boundary = .ok mask →
    Stage.writePgm.rank < stage.rank → s.files.pgm = some (pgmFile mask)
  yaml : ∀ localMap mask, s.manager.mask = some localMap →
    writeKeepoutMask cos sin localMap boundary = .ok mask →
    Stage.writeYaml.rank < stage.rank → s.files.yaml = some (yamlFile mask)
  metadata : ∀ localMap mask, s.manager.mask = some localMap →
    writeKeepoutMask cos sin localMap boundary = .ok mask →
    Stage.writeMetadata.rank < stage.rank → s.files.metadata = some (metadataFile mask)
  stored : Stage.setMetadata.rank < stage.rank → s.manager.stored = some boundary

omit [Field 𝕜] [LinearOrder 𝕜] in
theorem upTo_eq_self_iff {stage : Stage} {mask : Mask 𝕜} {files : MaskFiles 𝕜} :
    files.upTo stage mask = files ↔
      (Stage.writePgm.rank < stage.rank → files.pgm = some (pgmFile mask)) ∧
      (Stage.writeYaml.rank < stage.rank → files.yaml = some (yamlFile mask)) ∧
      (Stage.writeMetadata.rank < stage.rank → files.metadata = some (metadataFile mask)) := by
  obtain ⟨pgm, yaml, metadata⟩ := files
  unfold MaskFiles.upTo
  rw [MaskFiles.mk.injEq, ite_eq_right_iff, ite_eq_right_iff, ite_eq_right_iff]
  simp only [eq_comm]

theorem reach_eq_self_iff {boundary : NavigationBoundary 𝕜} {stage : Stage} {s : BoundaryState 𝕜} :
    ((s.reach cos sin boundary stage).manager.active = s.manager.active ∧
      (s.reach cos sin boundary stage).manager.stored = s.manager.stored ∧
      (s.reach cos sin boundary stage).files = s.files) ↔ NothingNew cos sin s boundary stage := by
  constructor
  · rintro ⟨hactive, hstored, hfiles⟩
    have hdrawn : ∀ localMap mask, s.manager.mask = some localMap →
        writeKeepoutMask cos sin localMap boundary = .ok mask → s.files.upTo stage mask = s.files := by
      intro localMap mask hdir hmask
      unfold BoundaryState.reach MaskFiles.reach at hfiles
      rw [hdir] at hfiles
      dsimp only at hfiles
      rwa [hmask] at hfiles
    exact
      { active := hactive.symm
        pgm := fun localMap mask hdir hmask => (upTo_eq_self_iff.mp (hdrawn localMap mask hdir hmask)).1
        yaml := fun localMap mask hdir hmask => (upTo_eq_self_iff.mp (hdrawn localMap mask hdir hmask)).2.1
        metadata := fun localMap mask hdir hmask =>
          (upTo_eq_self_iff.mp (hdrawn localMap mask hdir hmask)).2.2
        stored := fun hlate => hstored.symm.trans (if_pos hlate) }
  · intro hnew
    refine ⟨hnew.active.symm, ?_, ?_⟩
    · change (if Stage.setMetadata.rank < stage.rank then some boundary else s.manager.stored) = _
      by_cases hlate : Stage.setMetadata.rank < stage.rank
      · rw [if_pos hlate, hnew.stored hlate]
      · rw [if_neg hlate]
    · unfold BoundaryState.reach MaskFiles.reach
      cases hdir : s.manager.mask with
      | none => rfl
      | some localMap =>
        dsimp only
        cases hmask : writeKeepoutMask cos sin localMap boundary with
        | error e => rfl
        | ok mask =>
          exact upTo_eq_self_iff.mpr ⟨hnew.pgm localMap mask hdir hmask,
            hnew.yaml localMap mask hdir hmask, hnew.metadata localMap mask hdir hmask⟩

end BoundaryApplication

end RoamerX
