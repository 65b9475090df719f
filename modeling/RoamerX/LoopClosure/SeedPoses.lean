import RoamerX.LoopClosure.NodeDatabase

set_option autoImplicit false

/-! # The trajectory of the seed poses

`load` replaces the seed poses row by row, and calls the trajectory optimized only where each row is replaced. So the
poses are of the trajectory that it names where every row is found in the optimized trajectory, or no row that is stored
is moved. -/

namespace RoamerX

namespace NodeDatabase

variable {K : Type*} [Field K] [LinearOrder K] (a : Arithmetic K) (dir : MapDirectory K)

def rawRows : List (KeyframeRow K) := (readKeyframeCsv a dir.keyframesCsv).getD []

/-- The rows of the optimized trajectory. -/
def optimizedRows : List (KeyframeRow K) := (readKeyframeCsv a dir.optimizedCsv).getD []

/-- The raw rows whose cloud can be read. -/
def keptRows : List (KeyframeRow K) := (rawRows a dir).filter fun row => (lidarCloud dir row).isSome

/-- The descriptor of a row that is kept. -/
def descriptorOf (params : Params K) (row : KeyframeRow K) : List K :=
  describe a params ((lidarCloud dir row).getD [])

/-- The row as it stands when it is stored. -/
def seedOf (row : KeyframeRow K) : KeyframeRow K :=
  match selectedTrajectory a dir with
  | none => row
  | some optimized => replaceSeed optimized row

/-- The arrays have one entry for each kept row, in its place, and the poses are of one trajectory. -/
structure OneTrajectory (db : Database K) : Prop where
  keyframeIndices : db.keyframeIndices = (keptRows a dir).map KeyframeRow.index
  keyframeCloudPaths : db.keyframeCloudPaths = (keptRows a dir).map (cloudPath dir)
  rawLidarPoses : db.rawLidarPoses = (keptRows a dir).map KeyframeRow.rawLidarPose
  descriptors : db.descriptors = (keptRows a dir).map (descriptorOf a dir db.params)
  ringKeys : db.ringKeys = (keptRows a dir).map fun row => ringKey db.params (descriptorOf a dir db.params row)
  poses : db.poses.length = (keptRows a dir).length
  named : db.seedPoseSource = "raw" ∨ db.seedPoseSource = "optimized"
  raw : db.seedPoseSource = "raw" → db.poses = (keptRows a dir).map KeyframeRow.worldPose
  optimized : db.seedPoseSource = "optimized" → List.Forall₂ (fun row pose =>
    ∃ found ∈ optimizedRows a dir, found.index = row.index ∧ pose = found.worldPose) (keptRows a dir) db.poses

/-- An optimized trajectory that is selected has every raw row, or leaves the kept rows where they are. -/
def AllOrNone : Prop :=
  ∀ optimized, selectedTrajectory a dir = some optimized →
    (∀ row ∈ rawRows a dir, (optimizedByIndex optimized row.index).isSome = true) ∨
      ∀ row ∈ keptRows a dir, ∀ found, optimizedByIndex optimized row.index = some found →
        found.worldPose = row.worldPose

variable {a dir} {optimized : List (KeyframeRow K)} {row found : KeyframeRow K} {index : ℤ} {db : Database K}

/-! ## Replacing a seed pose -/

omit [Field K] [LinearOrder K] in
theorem optimizedByIndex_some (h : optimizedByIndex optimized index = some found) :
    found ∈ optimized ∧ found.index = index := by
  have hmem := List.mem_of_getLast? h
  exact ⟨(List.mem_filter.mp hmem).1, of_decide_eq_true (List.mem_filter.mp hmem).2⟩

omit [Field K] [LinearOrder K] in
@[simp]
theorem index_replaceSeed : (replaceSeed optimized row).index = row.index := by
  unfold replaceSeed
  split <;> rfl

omit [LinearOrder K] in
@[simp]
theorem rawLidarPose_replaceSeed : (replaceSeed optimized row).rawLidarPose = row.rawLidarPose := by
  unfold replaceSeed
  split <;> rfl

omit [Field K] [LinearOrder K] in
@[simp]
theorem cloudPath_replaceSeed : cloudPath dir (replaceSeed optimized row) = cloudPath dir row := by
  rw [cloudPath, index_replaceSeed, cloudPath]

omit [LinearOrder K] in
@[simp]
theorem lidarCloud_replaceSeed : lidarCloud dir (replaceSeed optimized row) = lidarCloud dir row := by
  unfold lidarCloud
  rw [cloudPath_replaceSeed]
  unfold replaceSeed
  split <;> rfl

omit [LinearOrder K] in
theorem worldPose_replaceSeed (h : optimizedByIndex optimized row.index = some found) :
    (replaceSeed optimized row).worldPose = found.worldPose := by
  unfold replaceSeed
  rw [h]
  rfl

omit [Field K] [LinearOrder K] in
theorem replaceSeed_of_none (h : optimizedByIndex optimized row.index = none) : replaceSeed optimized row = row := by
  unfold replaceSeed
  rw [h]

/-! ## The arrays -/

theorem foldl_storeRow (rows : List (KeyframeRow K)) (db : Database K) :
    rows.foldl (storeRow a dir) db =
      let kept := rows.filter fun row => (lidarCloud dir row).isSome
      { db with
        ringKeys := db.ringKeys ++ kept.map fun row => ringKey db.params (descriptorOf a dir db.params row)
        descriptors := db.descriptors ++ kept.map (descriptorOf a dir db.params)
        poses := db.poses ++ kept.map KeyframeRow.worldPose
        keyframeIndices := db.keyframeIndices ++ kept.map KeyframeRow.index
        keyframeCloudPaths := db.keyframeCloudPaths ++ kept.map (cloudPath dir)
        rawLidarPoses := db.rawLidarPoses ++ kept.map KeyframeRow.rawLidarPose } := by
  induction rows generalizing db with
  | nil => simp
  | cons row rows ih =>
    rw [List.foldl_cons, ih]
    rcases hcloud : lidarCloud dir row with _ | cloud
    · simp [storeRow, hcloud]
    · simp [storeRow, descriptorOf, hcloud]

theorem load_stored (h : load a dir = .ok db) :
    db.keyframeIndices = (keptRows a dir).map KeyframeRow.index ∧
    db.keyframeCloudPaths = (keptRows a dir).map (cloudPath dir) ∧
    db.rawLidarPoses = (keptRows a dir).map KeyframeRow.rawLidarPose ∧
    db.descriptors = (keptRows a dir).map (descriptorOf a dir db.params) ∧
    db.ringKeys = ((keptRows a dir).map fun row => ringKey db.params (descriptorOf a dir db.params row)) ∧
    db.poses = (keptRows a dir).map (fun row => (seedOf a dir row).worldPose) ∧
    (db.seedPoseSource = "optimized" ∧ (∃ optimized, selectedTrajectory a dir = some optimized ∧
        ∀ row ∈ rawRows a dir, (optimizedByIndex optimized row.index).isSome = true) ∨
      db.seedPoseSource = "raw" ∧ ∀ optimized, selectedTrajectory a dir = some optimized →
        ¬ ∀ row ∈ rawRows a dir, (optimizedByIndex optimized row.index).isSome = true) := by
  unfold load at h
  dsimp only at h
  split at h
  · exact nomatch h
  split at h
  · exact nomatch h
  · exact nomatch h
  next rows hrows hread =>
  have hraw : rawRows a dir = rows := by rw [rawRows, hread]; rfl
  unfold keptRows seedOf
  rw [hraw]
  rcases hselected : selectedTrajectory a dir with _ | optimized
  · rw [hselected, foldl_storeRow] at h
    dsimp only at h
    split at h
    · exact nomatch h
    obtain rfl := Except.ok.inj h
    simp
  · rw [hselected, foldl_storeRow] at h
    dsimp only at h
    split at h
    · exact nomatch h
    obtain rfl := Except.ok.inj h
    have hcount : rows.countP (fun row => (optimizedByIndex optimized row.index).isSome) = rows.length ↔
        ∀ row ∈ rows, (optimizedByIndex optimized row.index).isSome = true := List.countP_eq_length
    simp only [List.filter_map, List.map_map, Function.comp_def, index_replaceSeed, cloudPath_replaceSeed,
      lidarCloud_replaceSeed, rawLidarPose_replaceSeed, descriptorOf, List.nil_append, true_and, Option.some.injEq,
      exists_eq_left', forall_eq', hcount]
    refine ⟨rfl, ?_⟩
    by_cases hall : ∀ row ∈ rows, (optimizedByIndex optimized row.index).isSome = true
    · exact Or.inl ⟨if_pos hall, hall⟩
    · exact Or.inr ⟨if_neg hall, hall⟩

/-- **The seed poses are of one trajectory** exactly where a selected optimized trajectory has all the rows or moves
none that is stored. -/
theorem oneTrajectory_iff (h : load a dir = .ok db) : OneTrajectory a dir db ↔ AllOrNone a dir := by
  obtain ⟨hindices, hpaths, hlidar, hdescriptors, hrings, hposes, hsource⟩ := load_stored h
  have haligned : (db.seedPoseSource = "raw" → db.poses = (keptRows a dir).map KeyframeRow.worldPose) →
      (db.seedPoseSource = "optimized" → List.Forall₂ (fun row pose =>
        ∃ found ∈ optimizedRows a dir, found.index = row.index ∧ pose = found.worldPose) (keptRows a dir) db.poses) →
      OneTrajectory a dir db := fun hraw hoptimized =>
    ⟨hindices, hpaths, hlidar, hdescriptors, hrings, by rw [hposes, List.length_map],
      hsource.symm.imp And.left And.left, hraw, hoptimized⟩
  rcases hsource with ⟨hsource, optimized, hselected, hall⟩ | ⟨hsource, hmissing⟩
  · refine iff_of_true (haligned (fun hraw => absurd (hsource.symm.trans hraw) (by decide)) fun _ => ?_) ?_
    · have hread : optimizedRows a dir = optimized := by
        unfold selectedTrajectory at hselected
        split at hselected
        · rw [optimizedRows, hselected]
          rfl
        · exact nomatch hselected
      rw [hposes, List.forall₂_map_right_iff, List.forall₂_same, hread]
      intro row hrow
      obtain ⟨found, hfound⟩ := Option.isSome_iff_exists.mp (hall row (List.mem_of_mem_filter hrow))
      obtain ⟨hmem, hindex⟩ := optimizedByIndex_some hfound
      refine ⟨found, hmem, hindex, ?_⟩
      unfold seedOf
      rw [hselected]
      exact worldPose_replaceSeed hfound
    · intro other hother
      obtain rfl := Option.some.inj (hselected.symm.trans hother)
      exact Or.inl hall
  · -- the name is raw, so that no kept row may be replaced by another pose
    have hsame : db.poses = (keptRows a dir).map KeyframeRow.worldPose ↔
        ∀ row ∈ keptRows a dir, (seedOf a dir row).worldPose = row.worldPose := by
      rw [hposes, List.map_inj_left]
    have hone : OneTrajectory a dir db ↔ ∀ row ∈ keptRows a dir, (seedOf a dir row).worldPose = row.worldPose :=
      ⟨fun hone => hsame.mp (hone.raw hsource), fun hkept => haligned (fun _ => hsame.mpr hkept)
        fun hoptimized => absurd (hsource.symm.trans hoptimized) (by decide)⟩
    rw [hone]
    constructor
    · intro hkept optimized hselected
      refine Or.inr fun row hrow found hfound => ?_
      have hpose := hkept row hrow
      unfold seedOf at hpose
      rw [hselected] at hpose
      exact (worldPose_replaceSeed hfound).symm.trans hpose
    · intro hnone row hrow
      unfold seedOf
      split
      · rfl
      next optimized hselected =>
      have hkept := (hnone optimized hselected).resolve_left (hmissing optimized hselected)
      rcases hfound : optimizedByIndex optimized row.index with _ | found
      · rw [replaceSeed_of_none hfound]
      · exact (worldPose_replaceSeed hfound).trans (hkept row hrow found hfound)

/-- Two keyframes, of which the optimized trajectory has those of the given lines. -/
def twoKeyframes (optimized : List String) : MapDirectory ℚ where
  path := "map"
  indexJson := none
  keyframesCsv := some ["index,x,y,z", "0,0,0,0", "1,5,0,0"]
  manifest := some "\x7b\"trajectory_source\": \"optimized\"\x7d"
  optimizedCsv := some ("index,x,y,z" :: optimized)
  cloud _ := some [⟨some 2, some 0, some 1⟩]

/-- The database that `load` makes of the two keyframes. -/
def twoKeyframesDatabase (optimized : List String) : Database ℚ :=
  match load alongAxes (twoKeyframes optimized) with
  | .ok db => db
  | .error _ => { params := ⟨20, 60, 80⟩ }

theorem load_twoKeyframes {optimized : List String}
    (h : (load alongAxes (twoKeyframes optimized)).toOption.isSome = true) :
    load alongAxes (twoKeyframes optimized) = .ok (twoKeyframesDatabase optimized) := by
  unfold twoKeyframesDatabase
  cases hload : load alongAxes (twoKeyframes optimized) with
  | error message =>
    rw [hload] at h
    exact Bool.noConfusion h
  | ok db => rfl

/-- The optimized trajectory has both keyframes. -/
theorem oneTrajectory_complete : OneTrajectory alongAxes (twoKeyframes ["0,1,0,0", "1,6,0,0"])
    (twoKeyframesDatabase ["0,1,0,0", "1,6,0,0"]) := by
  refine (oneTrajectory_iff (load_twoKeyframes (by decide +kernel))).mpr fun optimized hselected => Or.inl ?_
  have hall : (selectedTrajectory alongAxes (twoKeyframes ["0,1,0,0", "1,6,0,0"])).all (fun optimized =>
      (rawRows alongAxes (twoKeyframes ["0,1,0,0", "1,6,0,0"])).all fun row =>
        (optimizedByIndex optimized row.index).isSome) = true := by decide +kernel
  rw [hselected] at hall
  exact List.all_eq_true.mp hall

/-- The optimized trajectory has only the first, which is stored there, under the name of the raw trajectory. -/
theorem not_oneTrajectory_partial :
    load alongAxes (twoKeyframes ["0,1,0,0"]) = .ok (twoKeyframesDatabase ["0,1,0,0"]) ∧
      ¬ OneTrajectory alongAxes (twoKeyframes ["0,1,0,0"]) (twoKeyframesDatabase ["0,1,0,0"]) := by
  refine ⟨load_twoKeyframes (by decide +kernel), fun h => ?_⟩
  have hname : (twoKeyframesDatabase ["0,1,0,0"]).seedPoseSource = "raw" := by decide +kernel
  have hplace := congrArg (List.map fun pose => pose.translation.x) (h.raw hname)
  exact absurd hplace (by decide +kernel)

end NodeDatabase

end RoamerX
