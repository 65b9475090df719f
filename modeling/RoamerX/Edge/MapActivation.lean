import RoamerX.Edge.MapVersionPointer

set_option autoImplicit false

/-! # Map activation

`MapActivationAdapter.activate` of `map_activation_adapter.py`. Five places say which map is active: the paths of the map
directory, the configuration in memory and on disk, the safety state and the pointer. They are updated one after another,
and nothing is undone when a later update fails. -/

namespace RoamerX

namespace MapActivation

open MapVersionPointer

def requiredFiles : List String := ["map.yaml", "map.pgm", "map.pcd"]

def optionalFiles : List String := ["map.txt", "gnss_origin.yaml", "map_manifest.json"]

/-- `current_map_id` and `current_map_version` -/
structure MapIds where
  mapId : String
  mapVersion : String
  deriving DecidableEq

/-- The configuration file, as `_persist_config` meets it. -/
inductive ConfigFile
  /-- It cannot be read, or is no YAML. -/
  | unreadable (text : String)
  /-- A list or a text, which has no `setdefault`. -/
  | notMapping
  /-- `robot` is null, a list or a text, which takes no key. -/
  | robotNotMapping
  | mapping (ids : Option MapIds)
  deriving DecidableEq

/-- What is raised: a `ProtocolError` with its code, or anything else. -/
inductive Raised
  | protocol (code message : String)
  | other (message : String)
  deriving DecidableEq

structure Safety where
  ids : MapIds
  currentMapLocalState : String
  currentMapError : String
  deriving DecidableEq

variable {Dir : Type}

structure State (Dir : Type) where
  files : MapDir Dir String
  robot : MapIds
  disk : ConfigFile
  safety : Safety
  lastActivationError : String

/-- The command, with the directories that its fields name. -/
structure Command (Dir : Type) where
  ids : MapIds
  localMapDir : Option (Place Dir)
  localImageDir : Option (Place Dir)
  sourceVersionDir : Option (Place Dir)
  packageUrl : String
  /-- `.cloud_packages/<map>` -/
  packageDir : Dir
  gnssOriginYaml : String
  manualEdit : Bool
  /-- `manual_edits/<map>` -/
  editedDir : Dir
  /-- The manifest of the command as text, where it is not empty. -/
  mapManifest : Option String

/-- What the code outside of this class answers. -/
structure World (Dir : Type) where
  /-- The package as it is downloaded, checked and unpacked. -/
  package : Except Raised (String → Option String)
  /-- `build_manual_cleanup_map`: what it puts in place of the edited directory. -/
  cleanup : MapDir Dir String → Place Dir → Except String (String → Option String)
  /-- Whether a file can be written in a directory. -/
  writable : Place Dir → Bool
  /-- Whether a text is a JSON object that is not empty. -/
  isManifest : String → Bool
  /-- `_validate_map_constraints`, on the texts of the manifest and of the GNSS origin. -/
  constraints : Option String → Option String → Except Raised Unit
  /-- The system call of the switch that raises an `OSError`. -/
  interrupt : Option ℕ
  /-- What a failed write leaves of the configuration file. -/
  configWrite : Option ConfigFile

/-! ## Files -/

/-- What a file holds that a path names. -/
def content (files : MapDir Dir String) : Place Dir × String → Option String
  | (.version dir, name) => files.products dir name
  | (.root, name) =>
    match (files.file name).node with
    | some (.regular text) => some text
    | _ => none

def isFile (files : MapDir Dir String) (place : Place Dir) (name : String) : Bool :=
  (resolve files maxLinks place name).isSome

def readText (files : MapDir Dir String) (place : Place Dir) (name : String) : Option String :=
  (resolve files maxLinks place name).bind (content files)

/-- The file that a write makes or replaces. -/
def writeTarget (files : MapDir Dir String) : ℕ → Place Dir → String → Option (Place Dir × String)
  | _, .version dir, name => some (.version dir, name)
  | links, .root, name =>
    match (files.file name).node, links with
    | none, _ | some (.regular _), _ => some (.root, name)
    | some (.link (.toFile dir other)), _ + 1 => some (.version dir, other)
    | some (.link (.throughCurrent other)), links + 2 =>
      match files.current.node with
      | some (.link place) => writeTarget files links place other
      | _ => none
    | _, _ => none

variable [DecidableEq Dir]

def writeText (world : World Dir) (files : MapDir Dir String) (place : Place Dir) (name text : String) :
    MapDir Dir String × Except Raised Unit :=
  if world.writable place then
    match writeTarget files maxLinks place name with
    | some (.version dir, other) =>
      ({ files with products := Function.update files.products dir (Function.update (files.products dir) other text) },
        .ok ())
    | some (.root, other) =>
      ({ files with file := Function.update files.file other { files.file other with node := some (.regular text) } },
        .ok ())
    | none => (files, .error (.other "OSError"))
  else (files, .error (.other "OSError"))

/-! ## The source -/

def isComplete (files : MapDir Dir String) (place : Place Dir) : Bool := requiredFiles.all (isFile files place)

def downloadPackageSource (world : World Dir) (command : Command Dir) (files : MapDir Dir String) :
    MapDir Dir String × Except Raised (Place Dir) :=
  if !(command.packageUrl.startsWith "http://" || command.packageUrl.startsWith "https://") then
    (files, .error (.protocol "MAP_PACKAGE_URL_INVALID" "map package URL must use HTTP or HTTPS"))
  else if isComplete files (.version command.packageDir) then (files, .ok (.version command.packageDir))
  else
    match world.package with
    | .error raised => (files, .error raised)
    | .ok unpacked =>
      let missing := requiredFiles.filter fun name => (unpacked name).isNone
      if missing ≠ [] then
        (files, .error (.protocol "MAP_FILES_MISSING" ("downloaded map package is missing: " ++ ", ".intercalate missing)))
      else
        ({ files with products := Function.update files.products command.packageDir unpacked },
          .ok (.version command.packageDir))

def resolveSourceDir (world : World Dir) (command : Command Dir) (files : MapDir Dir String) :
    MapDir Dir String × Except Raised (Place Dir) :=
  match [command.localMapDir, command.localImageDir, command.sourceVersionDir].findSome? fun candidate =>
      candidate.filter (isComplete files) with
  | some place => (files, .ok place)
  | none =>
    if command.packageUrl ≠ "" then downloadPackageSource world command files
    else (files, .error (.protocol "MAP_SOURCE_NOT_FOUND" "selected map has no local source directory on this robot"))

/-! ## Before the switch -/

def containsText (needle text : String) : Bool := (text.splitOn needle).length ≠ 1

/-- The GNSS origin of the command, where the source has none. -/
def storeGnssOrigin (world : World Dir) (command : Command Dir) (files : MapDir Dir String) (source : Place Dir) :
    MapDir Dir String × Except Raised Unit :=
  if command.gnssOriginYaml = "" ∨ isFile files source "gnss_origin.yaml" = true then (files, .ok ())
  else if 16384 < command.gnssOriginYaml.utf8ByteSize ∨
      (!(["origin_latitude:", "origin_longitude:", "alignment_locked:"].all (containsText · command.gnssOriginYaml))) then
    (files, .error (.protocol "MAP_GNSS_METADATA_INVALID" "GNSS map origin metadata is invalid"))
  else writeText world files source "gnss_origin.yaml" command.gnssOriginYaml

/-- The edited revision of the source, where the command asks for one. -/
def editedSource (world : World Dir) (command : Command Dir) (files : MapDir Dir String) (source : Place Dir) :
    MapDir Dir String × Except Raised (Place Dir) :=
  if !command.manualEdit then (files, .ok source)
  else if isComplete files (.version command.editedDir) then (files, .ok (.version command.editedDir))
  else
    match world.cleanup files source with
    | .error message => (files, .error (.protocol "MAP_MANUAL_CLEANUP_FAILED" message))
    | .ok edited =>
      ({ files with products := Function.update files.products command.editedDir edited },
        .ok (.version command.editedDir))

def validateMapConstraints (world : World Dir) (command : Command Dir) (files : MapDir Dir String)
    (source : Place Dir) : MapDir Dir String × Except Raised Unit :=
  let manifest := (readText files source "map_manifest.json").filter world.isManifest
  let (files, written, manifest) :=
    match manifest, command.mapManifest with
    | none, some text =>
      let (files, written) := writeText world files source "map_manifest.json" text
      (files, written, some text)
    | manifest, _ => (files, .ok (), manifest)
  match written with
  | .error raised => (files, .error raised)
  | .ok () => (files, world.constraints manifest (readText files source "gnss_origin.yaml"))

/-- All that happens before the switch. -/
def prepare (world : World Dir) (command : Command Dir) (files : MapDir Dir String) :
    MapDir Dir String × Except Raised (Place Dir) :=
  match resolveSourceDir world command files with
  | (files, .error raised) => (files, .error raised)
  | (files, .ok source) =>
    match storeGnssOrigin world command files source with
    | (files, .error raised) => (files, .error raised)
    | (files, .ok ()) =>
      match editedSource world command files source with
      | (files, .error raised) => (files, .error raised)
      | (files, .ok source) =>
        let missing := requiredFiles.filter fun name => !isFile files source name
        if missing ≠ [] then
          (files, .error (.protocol "MAP_FILES_MISSING"
            ("selected map is missing local files: " ++ ", ".intercalate missing)))
        else
          match validateMapConstraints world command files source with
          | (files, .error raised) => (files, .error raised)
          | (files, .ok ()) => (files, .ok source)

/-! ## The switch and after it -/

def persistConfig (world : World Dir) (ids : MapIds) : ConfigFile → ConfigFile × Except Raised Unit
  | .unreadable text => (.unreadable text, .error (.other "OSError or YAMLError"))
  | .notMapping => (.notMapping, .error (.other "AttributeError"))
  | .robotNotMapping => (.robotNotMapping, .error (.other "TypeError"))
  | .mapping _ =>
    match world.configWrite with
    | none => (.mapping (some ids), .ok ())
    | some left => (left, .error (.other "OSError"))

/-- `status`, in what it writes to the safety state. -/
def withStatus (st : State Dir) : State Dir :=
  let missing := requiredFiles.filter fun name => !isFile st.files .root name
  let sources := (requiredFiles.filterMap fun name => (resolve st.files maxLinks .root name).map Prod.fst).dedup
  let (localState, localError) :=
    if missing ≠ [] then ("missing_files", "missing active map files: " ++ ", ".intercalate missing)
    else if 1 < sources.length then ("mixed_files", "active map files point to different source directories")
    else ("applied", st.lastActivationError)
  { st with safety := { st.safety with currentMapLocalState := localState, currentMapError := localError } }

/-- The handler of `ProtocolError` keeps its text. -/
def raising (st : State Dir) (raised : Raised) : State Dir × Except Raised (Place Dir) :=
  match raised with
  | .protocol code message => ({ st with lastActivationError := code ++ ": " ++ message }, .error raised)
  | .other _ => (st, .error raised)

/-- `activate`, with the source that it activates. -/
def activate (world : World Dir) (command : Command Dir) (st : State Dir) : State Dir × Except Raised (Place Dir) :=
  match prepare world command st.files with
  | (files, .error raised) => raising { st with files := files } raised
  | (files, .ok source) =>
    match activateMapVersion files source requiredFiles optionalFiles with
    | .error message => raising { st with files := files } (.protocol "MAP_ACTIVATION_POINTER_FAILED" message)
    | .ok (states, _) =>
      match world.interrupt.filter fun call => decide (call < states.length) with
      | some call => raising { st with files := (states.take call).getLastD files } (.other "OSError")
      | none =>
        let files := states.getLastD files
        let mismatched := requiredFiles.filter fun name =>
          decide (resolve files maxLinks .root name ≠ resolve files maxLinks source name)
        if mismatched ≠ [] then
          raising { st with files := files } (.protocol "MAP_ACTIVATE_FAILED"
            ("active map files did not switch correctly: " ++ ", ".intercalate mismatched))
        else
          let st := { st with files := files, robot := command.ids, safety := { st.safety with ids := command.ids } }
          match persistConfig world command.ids st.disk with
          | (disk, .error raised) => raising { st with disk := disk } raised
          | (disk, .ok ()) => (withStatus { st with disk := disk, lastActivationError := "" }, .ok source)

/-! ## All or nothing -/

/-- The file that a path of a directory names, and what it holds. -/
def named (files : MapDir Dir String) (place : Place Dir) (name : String) : Option ((Place Dir × String) × Option String) :=
  (resolve files maxLinks place name).map fun found => (found, content files found)

/-- The paths of the map directory name the same files. -/
def SameFiles (before after : MapDir Dir String) : Prop :=
  ∀ name ∈ requiredFiles ++ optionalFiles, named after .root name = named before .root name

structure Unchanged (before after : State Dir) : Prop where
  files : SameFiles before.files after.files
  robot : after.robot = before.robot
  disk : after.disk = before.disk
  safety : after.safety = before.safety

structure Activated (command : Command Dir) (source : Place Dir) (after : State Dir) : Prop where
  required : ∀ name ∈ requiredFiles, resolve after.files maxLinks .root name = some (source, name)
  optional : ∀ name ∈ optionalFiles,
    resolve after.files maxLinks .root name = resolve after.files maxLinks source name
  robot : after.robot = command.ids
  disk : after.disk = .mapping (some command.ids)
  safety : after.safety = ⟨command.ids, "applied", ""⟩

def AllOrNothing (command : Command Dir) (before : State Dir) :
    State Dir × Except Raised (Place Dir) → Prop
  | (after, .error _) => Unchanged before after
  | (after, .ok source) => Activated command source after

/-! ## Where it fails -/

structure Acceptable (files : MapDir Dir String) (source : Place Dir) : Prop where
  notRoot : source ≠ .root
  required : ∀ name ∈ requiredFiles, holds files source name
  pointer : files.current.node ≠ some .notLink

/-- The switch, as far as the system call that fails. -/
def callsOfSwitch (files : MapDir Dir String) (source : Place Dir) : List (MapDir Dir String) :=
  inOrder (changes files source requiredFiles optionalFiles) files

/-- The configuration file takes the new map. -/
structure Persistable (world : World Dir) (disk : ConfigFile) : Prop where
  mapping : ∃ ids, disk = .mapping ids
  write : world.configWrite = none

/-- All places name the map before it is activated, and the failed write leaves the configuration file. -/
structure AlreadyActive (world : World Dir) (command : Command Dir) (st : State Dir) (files : MapDir Dir String)
    (source : Place Dir) : Prop where
  robot : st.robot = command.ids
  safety : st.safety.ids = command.ids
  disk : (∀ ids, st.disk ≠ .mapping ids) ∨ world.configWrite = some st.disk
  files : ∀ name ∈ requiredFiles ++ optionalFiles, named files source name = named st.files .root name

/-- A failure before the switch, in it or after it finds the places as they were. -/
structure Harmless (world : World Dir) (command : Command Dir) (st : State Dir) : Prop where
  before : (∀ source, (prepare world command st.files).2 = .ok source →
    ¬ Acceptable (prepare world command st.files).1 source) → SameFiles st.files (prepare world command st.files).1
  within : ∀ source, (prepare world command st.files).2 = .ok source →
    Acceptable (prepare world command st.files).1 source → ∀ call, world.interrupt = some call →
    call < (callsOfSwitch (prepare world command st.files).1 source).length →
    SameFiles st.files (((callsOfSwitch (prepare world command st.files).1 source).take call).getLastD
      (prepare world command st.files).1)
  after : ∀ source, (prepare world command st.files).2 = .ok source →
    Acceptable (prepare world command st.files).1 source →
    (∀ call, world.interrupt = some call → (callsOfSwitch (prepare world command st.files).1 source).length ≤ call) →
    Persistable world st.disk ∨ AlreadyActive world command st (prepare world command st.files).1 source

variable {world : World Dir} {command : Command Dir} {st before after : State Dir} {files : MapDir Dir String}
  {source : Place Dir} {raised : Raised}

omit [DecidableEq Dir] in
theorem allOrNothing_raising :
    AllOrNothing command before (raising after raised) ↔ Unchanged before after := by
  cases raised with
  | protocol code message =>
    exact ⟨fun h => ⟨h.files, h.robot, h.disk, h.safety⟩, fun h => ⟨h.files, h.robot, h.disk, h.safety⟩⟩
  | other message => exact Iff.rfl

omit [DecidableEq Dir] in
theorem unchanged_withFiles : Unchanged st { st with files := files } ↔ SameFiles st.files files :=
  ⟨Unchanged.files, fun h => ⟨h, rfl, rfl, rfl⟩⟩

theorem activateMapVersion_acceptable (h : Acceptable files source) :
    ∃ switched, activateMapVersion files source requiredFiles optionalFiles =
      .ok (callsOfSwitch files source, switched) := by
  obtain ⟨states, switched, hok⟩ := (activateMapVersion_isOk files source requiredFiles optionalFiles).mpr
    ⟨h.notRoot, h.required, h.pointer⟩
  obtain ⟨rfl, -⟩ := activateMapVersion_ok hok
  exact ⟨switched, hok⟩

theorem activateMapVersion_unacceptable (h : ¬ Acceptable files source) :
    ∃ message, activateMapVersion files source requiredFiles optionalFiles = .error message := by
  rcases hresult : activateMapVersion files source requiredFiles optionalFiles with message | ⟨states, switched⟩
  · exact ⟨message, rfl⟩
  · obtain ⟨-, hroot, hrequired, hpointer⟩ := activateMapVersion_ok hresult
    exact absurd ⟨hroot, hrequired, hpointer⟩ h

theorem named_switched (h : Acceptable files source) {name : String} (hname : name ∈ requiredFiles ++ optionalFiles) :
    named ((callsOfSwitch files source).getLastD files) .root name = named files source name := by
  obtain ⟨hproducts, hswitched⟩ := resolve_switched files requiredFiles optionalFiles h.notRoot
  have hresolve := hswitched name hname
  unfold named callsOfSwitch
  rw [hresolve]
  cases source with
  | root => exact absurd rfl h.notRoot
  | version dir =>
    rw [resolve_version]
    split
    · simp only [Option.map_some, content, hproducts]
    · rfl

theorem resolve_required (h : Acceptable files source) {name : String} (hname : name ∈ requiredFiles) :
    resolve ((callsOfSwitch files source).getLastD files) maxLinks .root name = some (source, name) := by
  obtain ⟨-, hswitched⟩ := resolve_switched files requiredFiles optionalFiles h.notRoot
  obtain ⟨dir, rfl, hproduct⟩ := h.required name hname
  unfold callsOfSwitch
  rw [hswitched name (List.mem_append_left _ hname), resolve_version, if_pos hproduct]

theorem resolve_optional (h : Acceptable files source) {name : String} (hname : name ∈ requiredFiles ++ optionalFiles) :
    resolve ((callsOfSwitch files source).getLastD files) maxLinks .root name =
      resolve ((callsOfSwitch files source).getLastD files) maxLinks source name := by
  obtain ⟨hproducts, hswitched⟩ := resolve_switched files requiredFiles optionalFiles h.notRoot
  unfold callsOfSwitch
  rw [hswitched name hname]
  cases source with
  | root => exact absurd rfl h.notRoot
  | version dir => rw [resolve_version, resolve_version, hproducts]

theorem activate_switched (hprepare : prepare world command st.files = (files, .ok source))
    (h : Acceptable files source)
    (hcall : ∀ call, world.interrupt = some call → (callsOfSwitch files source).length ≤ call) :
    activate world command st =
      let switched := { st with
        files := (callsOfSwitch files source).getLastD files
        robot := command.ids
        safety := { st.safety with ids := command.ids } }
      match persistConfig world command.ids st.disk with
      | (disk, .error raised) => raising { switched with disk := disk } raised
      | (disk, .ok ()) => (withStatus { switched with disk := disk, lastActivationError := "" }, .ok source) := by
  obtain ⟨switched, hok⟩ := activateMapVersion_acceptable h
  have hfilter : (world.interrupt.filter fun call => decide (call < (callsOfSwitch files source).length)) = none := by
    refine Option.filter_eq_none_iff.mpr fun call hsome => ?_
    simpa using hcall call hsome
  have hmatched : requiredFiles.filter (fun name => decide
      (resolve ((callsOfSwitch files source).getLastD files) maxLinks .root name ≠
        resolve ((callsOfSwitch files source).getLastD files) maxLinks source name)) = [] := by
    refine List.filter_eq_nil_iff.mpr fun name hname => ?_
    simpa using resolve_optional h (List.mem_append_left _ hname)
  unfold activate
  rw [hprepare]
  dsimp only
  rw [hok]
  dsimp only
  rw [hfilter]
  dsimp only
  rw [hmatched, if_neg (fun hne => hne rfl)]

theorem activated_withStatus (h : Acceptable files source) (st : State Dir)
    (hfiles : st.files = (callsOfSwitch files source).getLastD files) (hrobot : st.robot = command.ids)
    (hdisk : st.disk = .mapping (some command.ids)) (hsafety : st.safety.ids = command.ids)
    (herror : st.lastActivationError = "") : Activated command source (withStatus st) := by
  have hresolve : ∀ name ∈ requiredFiles, resolve st.files maxLinks .root name = some (source, name) := fun name hname =>
    hfiles ▸ resolve_required h hname
  have hmissing : requiredFiles.filter (fun name => !isFile st.files .root name) = [] := by
    refine List.filter_eq_nil_iff.mpr fun name hname => ?_
    simp [isFile, hresolve name hname]
  have hsources : (requiredFiles.filterMap fun name => (resolve st.files maxLinks .root name).map Prod.fst).dedup =
      [source] := by
    have hall : ∀ found ∈ requiredFiles.filterMap (fun name => (resolve st.files maxLinks .root name).map Prod.fst),
        found = source := by
      intro found hfound
      obtain ⟨name, hname, hsome⟩ := List.mem_filterMap.mp hfound
      rw [hresolve name hname] at hsome
      exact (Option.some.inj hsome).symm
    have hlength : (requiredFiles.filterMap fun name => (resolve st.files maxLinks .root name).map Prod.fst) ≠ [] :=
      List.ne_nil_of_mem (List.mem_filterMap.mpr ⟨"map.yaml", by decide, by rw [hresolve _ (by decide)]; rfl⟩)
    rw [List.eq_replicate_of_mem hall, List.replicate_dedup (fun hzero => hlength (List.length_eq_zero_iff.mp hzero))]
  have hstatus : withStatus st = { st with safety := ⟨command.ids, "applied", ""⟩ } := by
    unfold withStatus
    rw [hmissing, hsources]
    simp [hsafety, herror]
  rw [hstatus]
  refine ⟨hresolve, fun name hname => ?_, hrobot, hdisk, rfl⟩
  dsimp only
  rw [hfiles]
  exact resolve_optional h (List.mem_append_right _ hname)

theorem harmless_of_refused (hrefused : ∀ source, (prepare world command st.files).2 = .ok source →
    ¬ Acceptable (prepare world command st.files).1 source) :
    Harmless world command st ↔ SameFiles st.files (prepare world command st.files).1 :=
  ⟨fun h => h.before hrefused, fun h => ⟨fun _ => h, fun source hsource haccept => absurd haccept (hrefused source hsource),
    fun source hsource haccept => absurd haccept (hrefused source hsource)⟩⟩

theorem harmless_of_accepted (hprepare : prepare world command st.files = (files, .ok source))
    (h : Acceptable files source) : Harmless world command st ↔
      (∀ call, world.interrupt = some call → call < (callsOfSwitch files source).length →
        SameFiles st.files (((callsOfSwitch files source).take call).getLastD files)) ∧
      ((∀ call, world.interrupt = some call → (callsOfSwitch files source).length ≤ call) →
        Persistable world st.disk ∨ AlreadyActive world command st files source) := by
  constructor
  · intro hharmless
    have hwithin := hharmless.within source
    have hafter := hharmless.after source
    rw [hprepare] at hwithin hafter
    exact ⟨hwithin rfl h, hafter rfl h⟩
  · rintro ⟨hwithin, hafter⟩
    refine ⟨fun hrefused => ?_, fun other hother => ?_, fun other hother => ?_⟩
    · rw [hprepare] at hrefused
      exact absurd h (hrefused source rfl)
    · rw [hprepare] at hother ⊢
      obtain rfl := Except.ok.inj hother
      exact fun _ => hwithin
    · rw [hprepare] at hother ⊢
      obtain rfl := Except.ok.inj hother
      exact fun _ => hafter

omit [DecidableEq Dir] in
theorem persistConfig_error (ids : MapIds) {disk : ConfigFile} (h : ¬ Persistable world disk) :
    ∃ left raised, persistConfig world ids disk = (left, .error raised) ∧
      (left = disk ↔ (∀ ids, disk ≠ .mapping ids) ∨ world.configWrite = some disk) := by
  cases disk with
  | unreadable text => exact ⟨_, _, rfl, iff_of_true rfl (Or.inl nofun)⟩
  | notMapping => exact ⟨_, _, rfl, iff_of_true rfl (Or.inl nofun)⟩
  | robotNotMapping => exact ⟨_, _, rfl, iff_of_true rfl (Or.inl nofun)⟩
  | mapping stored =>
    rcases hwrite : world.configWrite with _ | left
    · exact absurd ⟨⟨stored, rfl⟩, hwrite⟩ h
    · refine ⟨left, _, by rw [persistConfig, hwrite], fun hleft => Or.inr (by rw [hleft]), ?_⟩
      rintro (hno | hsame)
      · exact absurd rfl (hno stored)
      · exact Option.some.inj hsame

omit [DecidableEq Dir] in
theorem AllOrNothing.robot {outcome : State Dir × Except Raised (Place Dir)}
    (h : AllOrNothing command before outcome) (hraised : outcome.2.toOption = none) :
    outcome.1.robot = before.robot := by
  obtain ⟨after, raised | source⟩ := outcome
  · exact Unchanged.robot h
  · exact nomatch hraised

/-! ## A full disk -/

/-- Two complete maps, of which the first is active. -/
def firstActive : State Bool where
  files :=
    { path := "map"
      current := { node := some (.link (.version false)) }
      file name := { node := some (.link (.throughCurrent name)) }
      products _ name := if name ∈ requiredFiles then some "" else none }
  robot := ⟨"1", "v1"⟩
  disk := .mapping (some ⟨"1", "v1"⟩)
  safety := ⟨⟨"1", "v1"⟩, "applied", ""⟩
  lastActivationError := ""

def activateSecond : Command Bool where
  ids := ⟨"2", "v2"⟩
  localMapDir := some (.version true)
  localImageDir := none
  sourceVersionDir := none
  packageUrl := ""
  packageDir := false
  gnssOriginYaml := ""
  manualEdit := false
  editedDir := false
  mapManifest := none

/-- The configuration file is emptied and cannot be filled again. -/
def fullDisk : World Bool where
  package := .error (.protocol "MAP_PACKAGE_DOWNLOAD_FAILED" "")
  cleanup _ _ := .error ""
  writable _ := true
  isManifest _ := false
  constraints _ _ := .ok ()
  interrupt := none
  configWrite := some (.mapping none)

end MapActivation

end RoamerX
