import Mathlib
import RoamerX.Validation.Artifacts
import RoamerX.Validation.Leases

set_option autoImplicit false

/-! # A retry of a validation job

An attempt that holds the lease of its job sends its uploads and its completion, among any other calls. Its requests are
all accepted, and the job ends with its artifacts and its check results, exactly when the job has no artifact row as it
begins: a row that an earlier attempt has left stands in the way of the upload of the same name, and stays. -/

namespace RoamerX

open ValidationDb (validateLease DbInv)

section

variable (settings : ValidationSettings) (texts : ValidationTexts) (backend : StoreBackend) (worker : Worker)

/-- The worker holds the lease of its job, which is not to be cancelled. -/
def Holds (s : ArtifactDb) : Prop :=
  ∃ job, s.base.job? worker.job = some job ∧
    validateLease texts job worker.runner (.str worker.leaseToken) = none ∧ job.state ≠ .cancelling

/-- A request for the artifacts of the job under the lease of the worker. -/
def UnderLease (id : Uuid) (runner : ValidationRunner) (leaseToken : Json) : Prop :=
  id = worker.job ∧ runner.id = worker.runner.id ∧
    (if leaseToken.truthy then texts.str leaseToken else "") = worker.leaseToken

def Foreign : ArtifactCall → Prop
  | .upload id runner request | .presign id runner request _ => ¬ UnderLease texts worker id runner request.leaseToken
  | .finalize id runner _ request => ¬ UnderLease texts worker id runner request.leaseToken
  | .job _ | .put _ _ => True

/-- While the attempt has a request to send it holds the lease, and what else comes is somebody else's. -/
def Leased (a : AttemptRun) (label : AttemptLabel) : Prop :=
  (a.pending ≠ [] → Holds texts worker a.server) ∧
    match label with
    | .send _ => True
    | .other call => Foreign texts worker call

/-- How many requests are to be sent for one that is pending, at most. -/
def RunnerRequest.cost : RunnerRequest → ℕ
  | .upload _ => 4
  | .presign _ => 3
  | .put _ _ _ => 2
  | .finalize _ _ => 1
  | .complete => 1

/-- How many requests an attempt still has to send, at most. -/
def AttemptRun.weight (a : AttemptRun) : ℕ := (a.pending.map RunnerRequest.cost).sum

def AttemptLabel.isSend : AttemptLabel → Bool
  | .send _ => true
  | .other _ => false

/-- Every request so far was accepted, and after the last one the artifacts of the job are those the attempt has
uploaded and the check results those it has reported. -/
def Succeeds (a : AttemptRun) : Prop :=
  a.refused = false ∧
    (a.pending = [] →
      (a.server.artifactsOf worker.job).map ValidationArtifact.id = a.uploaded ∧
      ∃ rows, ValidationDb.normalizeChecks texts worker.job []
          (worker.inspection.checks.map fun check => .obj check.members) = .ok rows ∧
        a.server.base.checkResults.filter (·.job = worker.job) = rows)

/-- However an attempt goes on from here, its requests are accepted, and when it has sent as many as it has to it is
done. -/
def RetrySucceeds (server : ArtifactDb) (files : List RunnerFile) : Prop :=
  ∀ labels,
    Run.Always (AttemptRun.step settings texts backend worker) (Leased texts worker) (beginUploads server files)
        labels →
      Succeeds texts worker
          (Run.exec (AttemptRun.step settings texts backend worker) (beginUploads server files) labels) ∧
        ((beginUploads server files).weight ≤ labels.countP AttemptLabel.isSend →
          (Run.exec (AttemptRun.step settings texts backend worker) (beginUploads server files) labels).pending = [])

end

/-! ## What a request does to the artifacts -/

namespace ArtifactDb

variable {settings : ValidationSettings} {texts : ValidationTexts} {backend : StoreBackend} {s s' : ArtifactDb}
  {id : Uuid} {runner : ValidationRunner} {leaseToken : Json}

def identity (a : ValidationArtifact) : Uuid × Uuid × ArtifactRole × String × String :=
  (a.id, a.job, a.role, a.name, a.objectKey)

/-- The rows stay, and the objects are still there. -/
structure Kept (s s' : ArtifactDb) : Prop where
  base : s'.base = s.base
  rows : s'.artifacts.map identity = s.artifacts.map identity
  next : s.nextArtifact ≤ s'.nextArtifact
  objects : ∀ key, (s.head key).isSome → (s'.head key).isSome

structure Created (texts : ValidationTexts) (id : Uuid) (runner : ValidationRunner) (leaseToken : Json)
    (s s' : ArtifactDb) (row : ValidationArtifact) : Prop where
  base : s'.base = s.base
  lease : ∃ job, s.base.job? id = some job ∧ validateLease texts job runner leaseToken = none
  artifacts : s'.artifacts = s.artifacts ++ [row]
  fresh : row.id = s.nextArtifact
  job : row.job = id
  next : s'.nextArtifact = s.nextArtifact + 1
  objects : ∀ key, (s.head key).isSome → (s'.head key).isSome

/-- The identifiers of the rows are those handed out so far. -/
structure Ids (s : ArtifactDb) : Prop where
  nodup : (s.artifacts.map ValidationArtifact.id).Nodup
  lt : ∀ a ∈ s.artifacts, a.id < s.nextArtifact

theorem Kept.refl (s : ArtifactDb) : Kept s s := ⟨rfl, rfl, le_rfl, fun _ => id⟩

theorem ids_of_identity {l l' : List ValidationArtifact} (h : l'.map identity = l.map identity) :
    l'.map ValidationArtifact.id = l.map ValidationArtifact.id := by
  have hfst := congrArg (List.map Prod.fst) h
  rw [List.map_map, List.map_map] at hfst
  exact hfst

theorem Kept.ids (h : Kept s s') (hi : Ids s) : Ids s' where
  nodup := by
    rw [ids_of_identity h.rows]
    exact hi.nodup
  lt a ha := by
    have hmem : a.id ∈ s.artifacts.map ValidationArtifact.id := by
      rw [← ids_of_identity h.rows]
      exact List.mem_map_of_mem ha
    obtain ⟨b, hb, hid⟩ := List.mem_map.mp hmem
    rw [← hid]
    exact (hi.lt b hb).trans_le h.next

theorem Created.ids {row : ValidationArtifact} (h : Created texts id runner leaseToken s s' row) (hi : Ids s) :
    Ids s' where
  nodup := by
    rw [h.artifacts, List.map_append, List.map_singleton]
    refine List.nodup_append.mpr ⟨hi.nodup, List.nodup_singleton _, fun a ha b hb => ?_⟩
    obtain ⟨old, hold, rfl⟩ := List.mem_map.mp ha
    rw [List.mem_singleton.mp hb, h.fresh]
    exact (hi.lt old hold).ne
  lt a ha := by
    rw [h.artifacts] at ha
    rw [h.next]
    rcases List.mem_append.mp ha with hold | hnew
    · exact (hi.lt a hold).trans (Nat.lt_succ_self _)
    · rw [List.mem_singleton.mp hnew, h.fresh]
      exact Nat.lt_succ_self _

theorem head_cons_isSome {key url : String} {blob : Blob} {objects : List (String × Blob)}
    (h : (objects.lookup key).isSome) : (((url, blob) :: objects).lookup key).isSome := by
  rw [List.lookup_cons]
  split
  · rfl
  · exact h

theorem create_cases (s : ArtifactDb) (row : ValidationArtifact) :
    (s.create row = .error 500 ∧ ∃ old ∈ s.artifacts, old.key = row.key) ∨
      (s.create row = .ok { s with nextArtifact := s.nextArtifact + 1, artifacts := s.artifacts ++ [row] } ∧
        ∀ old ∈ s.artifacts, old.key ≠ row.key) := by
  unfold create
  split_ifs with hany
  · obtain ⟨old, hold, hkey⟩ := List.any_eq_true.mp hany
    exact Or.inl ⟨rfl, old, hold, of_decide_eq_true hkey⟩
  · refine Or.inr ⟨rfl, fun old hold hkey => hany ?_⟩
    exact List.any_eq_true.mpr ⟨old, hold, decide_eq_true hkey⟩

variable (texts backend) in
theorem upload_cases (s : ArtifactDb) (id : Uuid) (runner : ValidationRunner) (request : ArtifactRequest) :
    (∃ status, (s.uploadArtifact texts backend id runner request).2 = .refused status ∧
        Kept s (s.uploadArtifact texts backend id runner request).1) ∨
      ∃ row, (s.uploadArtifact texts backend id runner request).2 = .created row.id row.objectKey ∧
        Created texts id runner request.leaseToken s (s.uploadArtifact texts backend id runner request).1 row := by
  unfold uploadArtifact
  split
  · exact Or.inl ⟨404, rfl, .refl s⟩
  rename_i job hjob
  split
  · exact Or.inl ⟨409, rfl, .refl s⟩
  rename_i hlease
  split
  · exact Or.inl ⟨400, rfl, .refl s⟩
  rename_i file hfile
  split
  · exact Or.inl ⟨409, rfl, .refl s⟩
  split
  · exact Or.inl ⟨400, rfl, .refl s⟩
  rename_i role hrole
  dsimp only
  split
  · rename_i status hcreate
    exact Or.inl ⟨status, rfl, rfl, rfl, le_rfl, fun key hkey => head_cons_isSome hkey⟩
  · rename_i s' hcreate
    rcases create_cases _ _ with ⟨herror, -⟩ | ⟨hok, -⟩
    · rw [herror] at hcreate
      cases hcreate
    · rw [hok] at hcreate
      cases hcreate
      exact Or.inr ⟨_, rfl, rfl, ⟨job, hjob, Option.not_isSome_iff_eq_none.mp hlease⟩, rfl, rfl, rfl, rfl,
        fun key hkey => head_cons_isSome hkey⟩

variable (texts backend) in
theorem presign_cases (hi : Ids s) (id : Uuid) (runner : ValidationRunner) (request : ArtifactRequest) (signs : Bool) :
    (∃ status, (s.presignArtifact texts backend id runner request signs).2 = .refused status ∧
        Kept s (s.presignArtifact texts backend id runner request signs).1) ∨
      ∃ row, (s.presignArtifact texts backend id runner request signs).2 = .created row.id row.objectKey ∧
        Created texts id runner request.leaseToken s (s.presignArtifact texts backend id runner request signs).1 row := by
  unfold presignArtifact
  split
  · exact Or.inl ⟨404, rfl, .refl s⟩
  rename_i job hjob
  split
  · exact Or.inl ⟨409, rfl, .refl s⟩
  rename_i hlease
  split
  · exact Or.inl ⟨400, rfl, .refl s⟩
  rename_i role hrole
  dsimp only
  split
  · rename_i status hcreate
    exact Or.inl ⟨status, rfl, .refl s⟩
  · rename_i s' hcreate
    rcases create_cases s _ with ⟨herror, -⟩ | ⟨hok, -⟩
    · rw [herror] at hcreate
      cases hcreate
    · rw [hok] at hcreate
      cases hcreate
      split
      · exact Or.inr ⟨_, rfl, rfl, ⟨job, hjob, Option.not_isSome_iff_eq_none.mp hlease⟩, rfl, rfl, rfl, rfl,
          fun _ hkey => hkey⟩
      · -- the row is deleted again, and no other one has its identifier
        refine Or.inl ⟨503, rfl, rfl, ?_, Nat.le_succ _, fun _ hkey => hkey⟩
        rw [List.filter_append, List.filter_eq_self.mpr, List.filter_cons_of_neg (by simp), List.filter_nil,
          List.append_nil]
        intro a ha
        exact decide_eq_true (hi.lt a ha).ne

variable (texts) in
theorem finalize_kept (hi : Ids s) (id : Uuid) (runner : ValidationRunner) (artifact : Uuid)
    (request : FinalizeRequest) : Kept s (s.finalizeArtifact texts id runner artifact request).1 := by
  unfold finalizeArtifact
  split
  · exact .refl s
  split
  · exact .refl s
  rename_i row hrow
  split
  · exact .refl s
  split
  · exact .refl s
  · refine ⟨rfl, ?_, le_rfl, fun _ hkey => hkey⟩
    -- the row that is replaced is the one that was found
    show (Rows.put ValidationArtifact.id s.artifacts _).map identity = _
    unfold Rows.put
    rw [List.map_map]
    refine List.map_congr_left fun a ha => ?_
    rw [Function.comp_apply]
    by_cases hid : a.id = row.id
    · have hfound := (Option.filter_eq_some_iff.mp hrow).1
      obtain rfl : a = row := List.inj_on_of_nodup_map hi.nodup ha (Rows.get?_mem _ hfound) hid
      rw [if_pos rfl]
      rfl
    · rw [if_neg hid]

/-! ### The rows of one job -/

/-- The rows of a job, as far as they identify them. -/
def rowsOf (s : ArtifactDb) (job : Uuid) : List (Uuid × Uuid × ArtifactRole × String × String) :=
  (s.artifacts.map identity).filter (·.2.1 = job)

theorem rowsOf_eq (s : ArtifactDb) (job : Uuid) : s.rowsOf job = (s.artifactsOf job).map identity := by
  unfold rowsOf artifactsOf
  rw [List.filter_map]
  rfl

theorem map_id_artifactsOf (s : ArtifactDb) (job : Uuid) :
    (s.artifactsOf job).map ValidationArtifact.id = (s.rowsOf job).map Prod.fst := by
  rw [rowsOf_eq, List.map_map]
  rfl

theorem Kept.rowsOf (h : Kept s s') (job : Uuid) : s'.rowsOf job = s.rowsOf job := by
  unfold ArtifactDb.rowsOf
  rw [h.rows]

theorem Created.rowsOf {row : ValidationArtifact} (h : Created texts id runner leaseToken s s' row) (job : Uuid) :
    s'.rowsOf job = s.rowsOf job ++ if id = job then [identity row] else [] := by
  unfold ArtifactDb.rowsOf
  rw [h.artifacts, List.map_append, List.filter_append, List.map_singleton]
  by_cases hjob : id = job
  · rw [if_pos hjob, List.filter_cons_of_pos (by simp [identity, h.job, hjob]), List.filter_nil]
  · rw [if_neg hjob, List.filter_cons_of_neg (by simp [identity, h.job, hjob]), List.filter_nil]

end ArtifactDb

/-! ## What the requests of an attempt are answered -/

section Answers

variable {settings : ValidationSettings} {texts : ValidationTexts} {backend : StoreBackend} {worker : Worker}
  {s : ArtifactDb} {job : ValidationJob}

/-- The role and the name of the row of a file. -/
def fileKey (texts : ValidationTexts) (file : RunnerFile) : ArtifactRole × String :=
  (file.role, safeName texts (.str file.name) "artifact.bin")

theorem requestedRole_text {request : ArtifactRequest} {role : ArtifactRole}
    (h : request.role = .str role.text) : ArtifactDb.requestedRole texts request = some role := by
  have htruthy : (Json.str role.text).truthy = true := by cases role <;> decide
  rw [ArtifactDb.requestedRole, h, if_pos htruthy, texts.str_str, ArtifactRole.ofText?_text]

open ArtifactDb

def takenKeys (worker : Worker) (s : ArtifactDb) : List (ArtifactRole × String) :=
  (s.rowsOf worker.job).map fun row => (row.2.2.1, row.2.2.2.1)

theorem mem_takenKeys {file : RunnerFile} {old : ValidationArtifact} (hold : old ∈ s.artifacts)
    (hkey : old.key = (worker.job, fileKey texts file)) : fileKey texts file ∈ takenKeys worker s := by
  obtain ⟨howner, hname⟩ := Prod.mk.inj hkey
  refine List.mem_map.mpr ⟨identity old, ?_, hname⟩
  exact List.mem_filter.mpr ⟨List.mem_map_of_mem hold, decide_eq_true howner⟩

theorem upload_local (hjob : s.base.job? worker.job = some job)
    (hlease : validateLease texts job worker.runner (.str worker.leaseToken) = none) (file : RunnerFile) :
    ∃ server,
      (s.uploadArtifact texts .local worker.job worker.runner (worker.upload file) = (server, .refused 500) ∧
        fileKey texts file ∈ takenKeys worker s) ∨
      ∃ row,
        s.uploadArtifact texts .local worker.job worker.runner (worker.upload file) =
          (server, .created row.id row.objectKey) ∧
        Created texts worker.job worker.runner (.str worker.leaseToken) s server row ∧
        (row.role, row.name) = fileKey texts file := by
  have hlease' : validateLease texts job worker.runner (worker.upload file).leaseToken = none := hlease
  have hname : (if (worker.upload file).name.truthy then (worker.upload file).name else .str file.name) =
      .str file.name := ite_self _
  have hrole : requestedRole texts (worker.upload file) = some file.role := requestedRole_text rfl
  have hfile : (worker.upload file).file =
      some { name := file.name, contentType := file.contentType, blob := file.blob } := rfl
  unfold uploadArtifact
  simp only [hjob, hlease', hfile, hrole, hname, Option.isSome_none, Bool.false_eq_true, if_false]
  rw [if_neg (by decide)]
  -- the object is there in either case
  generalize hstored : ({ s with objects := _ :: s.objects } : ArtifactDb) = stored
  rcases create_cases stored (stored.uploadRow texts worker.job file.role (safeName texts (.str file.name)
    "artifact.bin") { name := file.name, contentType := file.contentType, blob := file.blob }) with
    ⟨herror, old, hold, hkey⟩ | ⟨hok, -⟩
  · rw [herror]
    subst hstored
    exact ⟨_, Or.inl ⟨rfl, mem_takenKeys hold hkey⟩⟩
  · rw [hok]
    subst hstored
    refine ⟨_, Or.inr ⟨s.uploadRow texts worker.job file.role (safeName texts (.str file.name) "artifact.bin")
      { name := file.name, contentType := file.contentType, blob := file.blob }, rfl, ?_, rfl⟩⟩
    exact ⟨rfl, ⟨job, hjob, hlease⟩, rfl, rfl, rfl, rfl, fun key hkey => head_cons_isSome hkey⟩

theorem upload_s3 (hjob : s.base.job? worker.job = some job)
    (hlease : validateLease texts job worker.runner (.str worker.leaseToken) = none) (file : RunnerFile) :
    s.uploadArtifact texts .s3 worker.job worker.runner (worker.upload file) = (s, .refused 409) := by
  have hlease' : validateLease texts job worker.runner (worker.upload file).leaseToken = none := hlease
  unfold uploadArtifact
  simp only [hjob, hlease', Option.isSome_none, Bool.false_eq_true, if_false]
  exact if_pos (by decide)

theorem presign_s3 (hjob : s.base.job? worker.job = some job)
    (hlease : validateLease texts job worker.runner (.str worker.leaseToken) = none) (file : RunnerFile) :
    ∃ server,
      (s.presignArtifact texts .s3 worker.job worker.runner (worker.presign file) true = (server, .refused 500) ∧
        fileKey texts file ∈ takenKeys worker s) ∨
      ∃ row,
        s.presignArtifact texts .s3 worker.job worker.runner (worker.presign file) true =
          (server, .created row.id row.objectKey) ∧
        Created texts worker.job worker.runner (.str worker.leaseToken) s server row ∧
        (row.role, row.name) = fileKey texts file := by
  have hlease' : validateLease texts job worker.runner (worker.presign file).leaseToken = none := hlease
  have hrole : requestedRole texts (worker.presign file) = some file.role := requestedRole_text rfl
  unfold presignArtifact
  simp only [hjob, hlease', hrole, Option.isSome_none, Bool.false_eq_true, if_false]
  rcases create_cases s (s.presignRow texts worker.job file.role (safeName texts (worker.presign file).name
    "artifact.bin") (worker.presign file).contentType) with ⟨herror, old, hold, hkey⟩ | ⟨hok, -⟩
  · rw [herror]
    exact ⟨_, Or.inl ⟨rfl, mem_takenKeys hold hkey⟩⟩
  · rw [hok]
    exact ⟨_, Or.inr ⟨_, rfl, ⟨rfl, ⟨job, hjob, hlease⟩, rfl, rfl, rfl, rfl, fun _ hkey => hkey⟩, rfl⟩⟩

theorem finalize_ok (hjob : s.base.job? worker.job = some job)
    (hlease : validateLease texts job worker.runner (.str worker.leaseToken) = none) (hids : Ids s)
    {row : ValidationArtifact} (hrow : row ∈ s.artifacts) (howner : row.job = worker.job)
    (hobject : (s.head row.objectKey).isSome) (sha256 : Json) :
    (s.finalizeArtifact texts worker.job worker.runner row.id
      { leaseToken := .str worker.leaseToken, sha256 := sha256 }).2 = .ok := by
  have hfound : (Rows.get? ValidationArtifact.id s.artifacts row.id).filter (·.job = worker.job) = some row := by
    rw [Rows.get?_of_mem ValidationArtifact.id hids.nodup hrow]
    exact Option.filter_eq_some_iff.mpr ⟨rfl, decide_eq_true howner⟩
  obtain ⟨blob, hblob⟩ := Option.isSome_iff_exists.mp hobject
  unfold finalizeArtifact
  simp only [hjob, hfound, hlease, hblob, Option.isSome_none, Bool.false_eq_true, if_false]

end Answers

/-! ### The completion -/

section Completion

variable {settings : ValidationSettings} {texts : ValidationTexts} {worker : Worker}

theorem truthy_verdict (verdict : ValidationVerdict) : (Json.str verdict.text).truthy = true := by
  cases verdict <;> decide

theorem ofText?_verdict (verdict : ValidationVerdict) : ValidationVerdict.ofText? verdict.text = some verdict := by
  cases verdict <;> decide

theorem normalizeChecks_owner {job : Uuid} {checks : List Json} {seen : List String}
    {rows : List ValidationCheckResult} (h : ValidationDb.normalizeChecks texts job seen checks = .ok rows) :
    ∀ row ∈ rows, row.job = job := by
  induction checks generalizing seen rows with
  | nil =>
    cases h
    exact fun _ hrow => nomatch hrow
  | cons check checks ih =>
    unfold ValidationDb.normalizeChecks at h
    split at h
    · rename_i hnil
      cases hnil
    · rename_i raw rest hcons
      obtain ⟨rfl, rfl⟩ := List.cons.inj hcons
      dsimp only at h
      split at h
      · cases h
      split_ifs at h
      split at h
      · cases h
      · rename_i others hothers
        cases h
        intro row hrow
        rcases List.mem_cons.mp hrow with rfl | hold
        · rfl
        · exact ih hothers row hold
    · cases h

theorem normalizeChecks_ok (hupper : ∀ verdict : ValidationVerdict, texts.upper verdict.text = verdict.text)
    (job : Uuid) (checks : List RunnerCheck) (seen : List String) (hnodup : (checks.map RunnerCheck.ruleId).Nodup)
    (hnew : ∀ check ∈ checks, check.ruleId ∉ seen)
    (hshort : ∀ check ∈ checks, truncated 128 check.ruleId = check.ruleId ∧ check.ruleId ≠ "") :
    ∃ rows, ValidationDb.normalizeChecks texts job seen (checks.map fun check => .obj check.members) = .ok rows := by
  induction checks generalizing seen with
  | nil => exact ⟨[], rfl⟩
  | cons check checks ih =>
    obtain ⟨hlength, hne⟩ := hshort check List.mem_cons_self
    rw [List.map_cons, List.nodup_cons] at hnodup
    obtain ⟨rows, hrows⟩ := ih (check.ruleId :: seen) hnodup.2
      (fun other hother hseen => by
        rcases List.mem_cons.mp hseen with heq | hold
        · exact hnodup.1 (heq ▸ List.mem_map_of_mem hother)
        · exact hnew other (List.mem_cons_of_mem _ hother) hold)
      (fun other hother => hshort other (List.mem_cons_of_mem _ hother))
    have hid : Json.getOr check.members "rule_id" (.str "unknown") = .str check.ruleId := by
      have htruthy : (Json.str check.ruleId).truthy = true := decide_eq_true hne
      simp [Json.getOr, RunnerCheck.members, htruthy]
    have hstatus : Json.getOr check.members "status" (.str "NOT_EVALUATED") = .str check.status.text := by
      simp [Json.getOr, RunnerCheck.members, truthy_verdict]
    refine ⟨ValidationDb.checkResult texts job check.members check.ruleId check.status :: rows, ?_⟩
    rw [List.map_cons]
    simp only [ValidationDb.normalizeChecks, hid, hstatus, texts.str_str, hupper, ofText?_verdict, hlength,
      hnew check List.mem_cons_self, hrows, if_false]

theorem ruleIds_nodup (baseline : Bool) : (ruleIds baseline).Nodup := by cases baseline <;> decide

theorem ruleIds_short (baseline : Bool) : ∀ ruleId ∈ ruleIds baseline, truncated 128 ruleId = ruleId ∧ ruleId ≠ "" := by
  cases baseline <;> decide

theorem ruleIds_length (baseline : Bool) : (ruleIds baseline).length ≤ 9 ∧ ruleIds baseline ≠ [] := by
  cases baseline <;> decide

/-- What the check results of the job are after the completion. -/
def Reported (texts : ValidationTexts) (worker : Worker) (db : ValidationDb) : Prop :=
  ∃ rows, ValidationDb.normalizeChecks texts worker.job []
      (worker.inspection.checks.map fun check => .obj check.members) = .ok rows ∧
    db.checkResults.filter (·.job = worker.job) = rows

theorem leaseOf_completion : ValidationDb.leaseOf worker.completion = .str worker.leaseToken := by
  simp [ValidationDb.leaseOf, Worker.completion]

theorem outcomeOf_completion : ValidationDb.outcomeOf texts worker.completion = "completed" := by
  have houtcome : Json.getOr worker.completion "outcome" (.str "completed") = .str "completed" := by
    simp [Json.getOr, Worker.completion]
  rw [ValidationDb.outcomeOf, houtcome, texts.str_str]

theorem reportedChecks_completion : ValidationDb.reportedChecks worker.completion =
    .ok (worker.inspection.checks.map fun check => .obj check.members) := by
  have hlength : worker.inspection.checks.length = (ruleIds worker.inspection.baseline).length := by
    rw [← worker.inspection.rules, List.length_map]
  obtain ⟨hfew, hnonempty⟩ := ruleIds_length worker.inspection.baseline
  have htruthy : (Json.arr (worker.inspection.checks.map fun check => .obj check.members)).truthy = true := by
    have hpos := List.length_pos_of_ne_nil hnonempty
    rw [← hlength] at hpos
    simp [Json.truthy, List.ne_nil_of_length_pos hpos]
  have hchecks : Json.getOr worker.completion "checks" (.arr []) =
      .arr (worker.inspection.checks.map fun check => .obj check.members) := by
    simp [Json.getOr, Worker.completion, htruthy]
  unfold ValidationDb.reportedChecks
  rw [hchecks]
  dsimp only
  rw [List.length_map, hlength, if_neg (by omega)]

theorem filter_replaced_ne {job id : Uuid} (hne : job ≠ id) {old rows : List ValidationCheckResult}
    (howner : ∀ row ∈ rows, row.job = id) :
    (old.filter (fun c => c.job ≠ id) ++ rows).filter (·.job = job) = old.filter (·.job = job) := by
  have hnone : rows.filter (·.job = job) = [] := by
    refine List.filter_eq_nil_iff.mpr fun row hrow => ?_
    rw [howner row hrow]
    simpa using fun h => hne h.symm
  rw [List.filter_append, List.filter_filter, hnone, List.append_nil]
  refine List.filter_congr fun c _ => ?_
  by_cases hjob : c.job = job
  · simp [hjob, hne]
  · simp [hjob]

theorem filter_replaced_eq {id : Uuid} {old rows : List ValidationCheckResult} (howner : ∀ row ∈ rows, row.job = id) :
    (old.filter (fun c => c.job ≠ id) ++ rows).filter (·.job = id) = rows := by
  have hnone : old.filter (fun c => decide (c.job = id) && decide (c.job ≠ id)) = [] :=
    List.filter_eq_nil_iff.mpr fun c _ => by simp
  rw [List.filter_append, List.filter_filter, hnone, List.nil_append]
  exact List.filter_eq_self.mpr fun row hrow => decide_eq_true (howner row hrow)

theorem complete_checkResults {db db' : ValidationDb} {now : ℕ} {id : Uuid} {runner : ValidationRunner}
    {payload : List (String × Json)} (h : db.complete settings texts now id runner payload = .ok db') {job : Uuid}
    (hne : job ≠ id) :
    db'.checkResults.filter (·.job = job) = db.checkResults.filter (·.job = job) := by
  obtain ⟨j, a, hj, -, -, hbranch⟩ := ValidationDb.complete_ok h
  obtain rfl : j.id = id := Rows.get?_key ValidationJob.id hj
  rcases hbranch with ⟨-, rfl⟩ | ⟨-, rfl⟩ | ⟨-, hchecked⟩
  · rfl
  · unfold ValidationDb.completeInfraError
    dsimp only
    split
    · rfl
    · rfl
  · unfold ValidationDb.completeChecked at hchecked
    split at hchecked
    · cases hchecked
    split at hchecked
    · cases hchecked
    rename_i rows hrows
    obtain rfl := Except.ok.inj hchecked
    show (db.checkResults.filter (fun c => c.job ≠ j.id) ++ rows).filter (·.job = job) = _
    rw [filter_replaced_ne hne (normalizeChecks_owner hrows)]

/-- The completion of a worker that holds the lease is accepted, and ends the job with the results it carries. -/
theorem complete_of_lease (hupper : ∀ verdict : ValidationVerdict, texts.upper verdict.text = verdict.text)
    {db : ValidationDb} (hi : DbInv settings db) {job : ValidationJob} (hjob : db.job? worker.job = some job)
    (hlease : validateLease texts job worker.runner (.str worker.leaseToken) = none) (hstate : job.state ≠ .cancelling)
    (now : ℕ) :
    ∃ db', db.complete settings texts now worker.job worker.runner worker.completion = .ok db' ∧
      (∃ job', db'.job? worker.job = some job' ∧ job'.state.isTerminal = true) ∧ Reported texts worker db' := by
  -- the attempt that holds the lease has its row
  have hwork := hi.jobs worker.job _ (ValidationDb.work?_of_job hjob)
  obtain ⟨a, ha, hnumber, -, -⟩ := hwork.leased (hwork.leased_of_lease hlease)
  obtain ⟨attempt, hattempt⟩ := ValidationDb.attempt?_isSome ha
  rw [hnumber] at hattempt
  have hid : job.id = worker.job := Rows.get?_key ValidationJob.id hjob
  obtain ⟨rows, hrows⟩ := normalizeChecks_ok hupper worker.job worker.inspection.checks []
    (by rw [worker.inspection.rules]; exact ruleIds_nodup _) (fun _ _ hseen => nomatch hseen)
    (fun check hcheck => ruleIds_short _ _ (worker.inspection.rules ▸ List.mem_map_of_mem hcheck))
  have hanswer : db.complete settings texts now worker.job worker.runner worker.completion =
      ValidationDb.completeChecked texts now db worker.runner job attempt worker.completion := by
    unfold ValidationDb.complete
    rw [hjob]
    dsimp only
    rw [leaseOf_completion, hlease]
    dsimp only
    rw [hattempt]
    dsimp only
    rw [if_neg, if_neg]
    · rw [outcomeOf_completion]
      decide
    · rw [outcomeOf_completion]
      exact not_or.mpr ⟨by decide, hstate⟩
  rw [hanswer]
  unfold ValidationDb.completeChecked
  rw [reportedChecks_completion, hid]
  dsimp only
  rw [hrows]
  refine ⟨_, rfl, ?_, rows, hrows, filter_replaced_eq (normalizeChecks_owner hrows)⟩
  rw [← hid] at hjob ⊢
  exact ⟨_, ValidationDb.job?_saveJob _ rfl hjob, rfl⟩

theorem reclaimExpired_checkResults (db : ValidationDb) (now : ℕ) :
    (db.reclaimExpired settings now).checkResults = db.checkResults := by
  unfold ValidationDb.reclaimExpired
  generalize db.jobs.filter (ValidationDb.isExpired now) = jobs
  induction jobs generalizing db with
  | nil => rfl
  | cons job jobs ih =>
    rw [List.foldl_cons, ih]
    unfold ValidationDb.reclaim
    dsimp only
    split
    · rfl
    · rfl

theorem step_checkResults {db : ValidationDb} {id : Uuid} {job : ValidationJob} (hjob : db.job? id = some job)
    (hterminal : job.state.isTerminal = true) (c : ValidationCall) :
    (db.step settings texts c).checkResults.filter (·.job = id) = db.checkResults.filter (·.job = id) := by
  unfold ValidationDb.step
  split
  case h_2 => rfl
  rename_i db' hcall
  cases c with
  | createJob now request =>
    change db.createJob texts now request = .ok db' at hcall
    unfold ValidationDb.createJob at hcall
    dsimp only at hcall
    -- a job that is there is returned, or a new one is added
    split_ifs at hcall
    all_goals
      cases hcall
      rfl
  | claim now r =>
    change db.claim settings texts now r = .ok db' at hcall
    unfold ValidationDb.claim at hcall
    dsimp only at hcall
    split at hcall
    · cases hcall
    split at hcall
    · cases hcall
      exact congrArg (List.filter _) (reclaimExpired_checkResults db now)
    · cases hcall
      exact congrArg (List.filter _) (reclaimExpired_checkResults db now)
  | heartbeat now id r payload =>
    obtain ⟨j, state, progress, a, -, -, -, -, -, -, -, rfl⟩ := ValidationDb.heartbeat_ok hcall
    rfl
  | complete now other r payload =>
    by_cases hother : id = other
    · subst hother
      obtain ⟨j, a, hj, hlease, -⟩ := ValidationDb.complete_ok hcall
      rw [hjob] at hj
      obtain rfl := Option.some.inj hj
      rw [(ValidationDb.validateLease_none hlease).2.2] at hterminal
      cases hterminal
    · exact complete_checkResults hcall hother
  | requestCancel now id =>
    change db.requestCancel now id = .ok db' at hcall
    unfold ValidationDb.requestCancel at hcall
    split at hcall
    · cases hcall
    · cases hcall
      rfl
  | reclaimExpired now =>
    cases hcall
    rw [reclaimExpired_checkResults]

end Completion

/-! ## Calls of somebody else -/

section Foreign

open ArtifactDb

variable {settings : ValidationSettings} {texts : ValidationTexts} {backend : StoreBackend} {worker : Worker}
  {s : ArtifactDb}

def Ended (worker : Worker) (s : ArtifactDb) : Prop :=
  ∃ job, s.base.job? worker.job = some job ∧ job.state.isTerminal = true

/-- Only the worker can get a request for the artifacts of its job accepted. -/
def Guarded (texts : ValidationTexts) (worker : Worker) (s : ArtifactDb) : Prop :=
  ∀ job runner leaseToken, s.base.job? worker.job = some job → validateLease texts job runner leaseToken = none →
    UnderLease texts worker worker.job runner leaseToken

theorem Holds.guarded (h : Holds texts worker s) : Guarded texts worker s := by
  obtain ⟨held, hheld, hlease, -⟩ := h
  intro job runner leaseToken hjob haccepted
  rw [hheld] at hjob
  obtain rfl := Option.some.inj hjob
  obtain ⟨hrunner, htoken, -⟩ := ValidationDb.validateLease_none hlease
  obtain ⟨hrunner', htoken', -⟩ := ValidationDb.validateLease_none haccepted
  refine ⟨rfl, Option.some.inj (hrunner'.symm.trans hrunner), ?_⟩
  rw [← htoken', htoken]
  by_cases hempty : worker.leaseToken = ""
  · rw [hempty]
    rfl
  · rw [if_pos (show (Json.str worker.leaseToken).truthy = true from decide_eq_true hempty), texts.str_str]

theorem Ended.guarded (h : Ended worker s) : Guarded texts worker s := by
  obtain ⟨ended, hended, hterminal⟩ := h
  intro job runner leaseToken hjob haccepted
  rw [hended] at hjob
  obtain rfl := Option.some.inj hjob
  rw [(ValidationDb.validateLease_none haccepted).2.2] at hterminal
  cases hterminal

/-- The rows of the job of the worker are the same, and no object has gone. -/
structure Untouched (worker : Worker) (s s' : ArtifactDb) : Prop where
  rows : s'.rowsOf worker.job = s.rowsOf worker.job
  objects : ∀ key, (s.head key).isSome → (s'.head key).isSome

theorem untouched_of_kept {s' : ArtifactDb} (h : Kept s s') : Untouched worker s s' :=
  ⟨h.rowsOf worker.job, h.objects⟩

theorem untouched_of_created {s' : ArtifactDb} {id : Uuid} {runner : ValidationRunner} {leaseToken : Json}
    {row : ValidationArtifact} (h : Created texts id runner leaseToken s s' row) (hguarded : Guarded texts worker s)
    (hforeign : ¬ UnderLease texts worker id runner leaseToken) : Untouched worker s s' := by
  refine ⟨?_, h.objects⟩
  rw [h.rowsOf, if_neg, List.append_nil]
  rintro rfl
  obtain ⟨job, hjob, hlease⟩ := h.lease
  exact hforeign (hguarded job runner leaseToken hjob hlease)

theorem step_ids (hids : Ids s) (call : ArtifactCall) : Ids (s.step settings texts backend call) := by
  cases call with
  | job call => exact ⟨hids.nodup, hids.lt⟩
  | upload id runner request =>
    rcases upload_cases texts backend s id runner request with ⟨_, -, hkept⟩ | ⟨row, -, hnew⟩
    · exact hkept.ids hids
    · exact hnew.ids hids
  | presign id runner request signs =>
    rcases presign_cases texts backend hids id runner request signs with
      ⟨_, -, hkept⟩ | ⟨row, -, hnew⟩
    · exact hkept.ids hids
    · exact hnew.ids hids
  | put url blob => exact ⟨hids.nodup, hids.lt⟩
  | finalize id runner artifact request => exact (finalize_kept _ hids id runner artifact request).ids hids

variable (settings texts backend) in
theorem step_base (hids : Ids s) (call : ArtifactCall) :
    (s.step settings texts backend call).base = s.base ∨
      ∃ c, call = .job c ∧ (s.step settings texts backend call).base = s.base.step settings texts c := by
  cases call with
  | job call => exact Or.inr ⟨call, rfl, rfl⟩
  | upload id runner request =>
    rcases upload_cases texts backend s id runner request with ⟨_, -, hkept⟩ | ⟨row, -, hnew⟩
    · exact Or.inl hkept.base
    · exact Or.inl hnew.base
  | presign id runner request signs =>
    rcases presign_cases texts backend hids id runner request signs with
      ⟨_, -, hkept⟩ | ⟨row, -, hnew⟩
    · exact Or.inl hkept.base
    · exact Or.inl hnew.base
  | put url blob => exact Or.inl rfl
  | finalize id runner artifact request => exact Or.inl (finalize_kept _ hids id runner artifact request).base

theorem step_dbInv (hmax : 1 ≤ settings.maxAttempts) (hids : Ids s) (hbase : DbInv settings s.base)
    (call : ArtifactCall) : DbInv settings (s.step settings texts backend call).base := by
  rcases step_base settings texts backend hids call with heq | ⟨c, -, heq⟩
  · rw [heq]
    exact hbase
  · rw [heq]
    exact ValidationDb.step_inv hmax hbase c

theorem step_untouched (hids : Ids s) (hguarded : Guarded texts worker s) {call : ArtifactCall}
    (hforeign : Foreign texts worker call) : Untouched worker s (s.step settings texts backend call) := by
  cases call with
  | job call => exact ⟨rfl, fun _ hkey => hkey⟩
  | upload id runner request =>
    rcases upload_cases texts backend s id runner request with ⟨_, -, hkept⟩ | ⟨row, -, hnew⟩
    · exact untouched_of_kept hkept
    · exact untouched_of_created hnew hguarded hforeign
  | presign id runner request signs =>
    rcases presign_cases texts backend hids id runner request signs with
      ⟨_, -, hkept⟩ | ⟨row, -, hnew⟩
    · exact untouched_of_kept hkept
    · exact untouched_of_created hnew hguarded hforeign
  | put url blob => exact ⟨rfl, fun _ hkey => head_cons_isSome hkey⟩
  | finalize id runner artifact request => exact untouched_of_kept (finalize_kept _ hids id runner artifact request)

variable (texts backend) in
theorem step_ended (hmax : 1 ≤ settings.maxAttempts) (hids : Ids s) (hbase : DbInv settings s.base)
    (hended : Ended worker s) (hreported : Reported texts worker s.base) (call : ArtifactCall) :
    Ended worker (s.step settings texts backend call) ∧
      Reported texts worker (s.step settings texts backend call).base := by
  rcases step_base settings texts backend hids call with heq | ⟨c, -, heq⟩
  · unfold Ended
    rw [heq]
    exact ⟨hended, hreported⟩
  · obtain ⟨job, hjob, hterminal⟩ := hended
    unfold Ended
    rw [heq]
    obtain ⟨w', hw', hkeeps⟩ : ∃ w', (s.base.step settings texts c).work? worker.job = some w' ∧ ValidationDb.Keeps _ w' :=
      ValidationDb.step_keeps hmax hbase c (ValidationDb.work?_of_job hjob)
    refine ⟨⟨w'.1, (ValidationDb.work?_some hw').1, ?_⟩, ?_⟩
    · rw [hkeeps.terminal hterminal]
      exact hterminal
    · obtain ⟨rows, hrows, hresults⟩ := hreported
      refine ⟨rows, hrows, ?_⟩
      rw [← hresults]
      exact step_checkResults hjob hterminal c

end Foreign

/-! ## The attempt -/

section Attempt

open ArtifactDb

variable {settings : ValidationSettings} {texts : ValidationTexts} {backend : StoreBackend} {worker : Worker}

/-- The requests of the files that are left, and the completion. -/
def waiting (todo : List RunnerFile) : List RunnerRequest := todo.map .upload ++ [.complete]

/-- Where an attempt stands: its requests, the artifact that has a row and is not uploaded, and the files that have no
row. -/
inductive Stage (backend : StoreBackend) (worker : Worker) (s : ArtifactDb) :
    List RunnerRequest → List Uuid → List RunnerFile → Prop
  | files (todo : List RunnerFile) : Stage backend worker s (waiting todo) [] todo
  | presign (file : RunnerFile) (todo : List RunnerFile) (hstore : backend = .s3) :
      Stage backend worker s (.presign file :: waiting todo) [] (file :: todo)
  | put (file : RunnerFile) (todo : List RunnerFile) (row : ValidationArtifact)
      (hrow : identity row ∈ s.rowsOf worker.job) :
      Stage backend worker s (.put row.objectKey row.id file :: waiting todo) [row.id] todo
  | finalize (file : RunnerFile) (todo : List RunnerFile) (row : ValidationArtifact)
      (hrow : identity row ∈ s.rowsOf worker.job) (hobject : (s.head row.objectKey).isSome) :
      Stage backend worker s (.finalize row.id file :: waiting todo) [row.id] todo

theorem Stage.untouched {s s' : ArtifactDb} {pending : List RunnerRequest} {awaited : List Uuid}
    {todo : List RunnerFile} (h : Stage backend worker s pending awaited todo) (hs : Untouched worker s s') :
    Stage backend worker s' pending awaited todo := by
  cases h with
  | files => exact .files todo
  | presign file todo hstore => exact .presign file todo hstore
  | put file _ row hrow => exact .put file todo row (hs.rows ▸ hrow)
  | finalize file _ row hrow hobject => exact .finalize file todo row (hs.rows ▸ hrow) (hs.objects _ hobject)

theorem Stage.ne_nil {s : ArtifactDb} {pending : List RunnerRequest} {awaited : List Uuid} {todo : List RunnerFile}
    (h : Stage backend worker s pending awaited todo) : pending ≠ [] := by
  cases h with
  | files => exact List.append_ne_nil_of_right_ne_nil _ (List.cons_ne_nil _ _)
  | presign | put | finalize => exact List.cons_ne_nil _ _

/-- The rows of the job are those of the attempt, as far as it has come, and the names that are left are free. -/
structure Underway (texts : ValidationTexts) (backend : StoreBackend) (worker : Worker) (a : AttemptRun)
    (awaited : List Uuid) (todo : List RunnerFile) : Prop where
  stage : Stage backend worker a.server a.pending awaited todo
  rows : (a.server.rowsOf worker.job).map Prod.fst = a.uploaded ++ awaited
  keys : (takenKeys worker a.server ++ todo.map (fileKey texts)).Nodup

/-- The attempt has sent all it has to send. -/
structure Done (texts : ValidationTexts) (worker : Worker) (a : AttemptRun) : Prop where
  pending : a.pending = []
  rows : (a.server.rowsOf worker.job).map Prod.fst = a.uploaded
  ended : Ended worker a.server
  reported : Reported texts worker a.server.base

/-- What holds of an attempt that found no artifact of its job. -/
structure Attempted (settings : ValidationSettings) (texts : ValidationTexts) (backend : StoreBackend)
    (worker : Worker) (a : AttemptRun) : Prop where
  base : DbInv settings a.server.base
  ids : Ids a.server
  accepted : a.refused = false
  progress : Done texts worker a ∨ ∃ awaited todo, Underway texts backend worker a awaited todo

theorem not_mem_takenKeys {s : ArtifactDb} {file : RunnerFile} {todo : List RunnerFile}
    (h : (takenKeys worker s ++ (file :: todo).map (fileKey texts)).Nodup) :
    fileKey texts file ∉ takenKeys worker s := by
  intro hmem
  exact (List.nodup_append.mp h).2.2 _ hmem _ (List.mem_map_of_mem List.mem_cons_self) rfl

theorem mem_rowsOf {s : ArtifactDb} {row : ValidationArtifact} (h : identity row ∈ s.rowsOf worker.job) :
    ∃ found ∈ s.artifacts, found.id = row.id ∧ found.job = worker.job ∧ found.objectKey = row.objectKey := by
  obtain ⟨hmem, howner⟩ := List.mem_filter.mp h
  obtain ⟨found, hfound, hidentity⟩ := List.mem_map.mp hmem
  simp only [identity, Prod.mk.injEq] at hidentity
  obtain ⟨hid, hjob, -, -, hkey⟩ := hidentity
  exact ⟨found, hfound, hid, hjob.trans (of_decide_eq_true howner), hkey⟩

theorem takenKeys_created {s s' : ArtifactDb} {runner : ValidationRunner} {leaseToken : Json}
    {row : ValidationArtifact} {file : RunnerFile} {todo : List RunnerFile}
    (h : Created texts worker.job runner leaseToken s s' row) (hkey : (row.role, row.name) = fileKey texts file)
    (hnodup : (takenKeys worker s ++ (file :: todo).map (fileKey texts)).Nodup) :
    (takenKeys worker s' ++ todo.map (fileKey texts)).Nodup := by
  have hkeys : takenKeys worker s' = takenKeys worker s ++ [fileKey texts file] := by
    rw [takenKeys, h.rowsOf, if_pos rfl, List.map_append, List.map_singleton, ← hkey]
    rfl
  rw [hkeys, List.append_assoc]
  exact hnodup

theorem rowsOf_created {s s' : ArtifactDb} {runner : ValidationRunner} {leaseToken : Json}
    {row : ValidationArtifact} (h : Created texts worker.job runner leaseToken s s' row) :
    (s'.rowsOf worker.job).map Prod.fst = (s.rowsOf worker.job).map Prod.fst ++ [row.id] ∧
      identity row ∈ s'.rowsOf worker.job := by
  rw [h.rowsOf, if_pos rfl, List.map_append]
  exact ⟨rfl, List.mem_append_right _ (List.mem_singleton_self _)⟩

/-! ### One request -/

section Send

variable {now : ℕ} {a : AttemptRun} {rest : List RunnerRequest} {file : RunnerFile} {server : ArtifactDb}
  {artifact : Uuid} {url : String}

theorem send_nil (hpending : a.pending = []) : a.send settings texts backend worker now = a := by
  unfold AttemptRun.send
  rw [hpending]
  exact ite_self a

theorem send_upload_created (haccepted : a.refused = false) (hpending : a.pending = .upload file :: rest)
    (h : a.server.uploadArtifact texts backend worker.job worker.runner (worker.upload file) =
      (server, .created artifact url)) :
    a.send settings texts backend worker now =
      { a with server := server, pending := rest, uploaded := a.uploaded ++ [artifact] } := by
  simp only [AttemptRun.send, haccepted, hpending, h, Bool.false_eq_true, if_false]

theorem send_upload_conflict (haccepted : a.refused = false) (hpending : a.pending = .upload file :: rest)
    (h : a.server.uploadArtifact texts backend worker.job worker.runner (worker.upload file) = (server, .refused 409)) :
    a.send settings texts backend worker now = { a with server := server, pending := .presign file :: rest } := by
  simp only [AttemptRun.send, haccepted, hpending, h, Bool.false_eq_true, if_false]

theorem send_presign (haccepted : a.refused = false) (hpending : a.pending = .presign file :: rest)
    (h : a.server.presignArtifact texts backend worker.job worker.runner (worker.presign file) true =
      (server, .created artifact url)) :
    a.send settings texts backend worker now =
      { a with server := server, pending := .put url artifact file :: rest } := by
  simp only [AttemptRun.send, haccepted, hpending, h, Bool.false_eq_true, if_false]

theorem send_put (haccepted : a.refused = false) (hpending : a.pending = .put url artifact file :: rest) :
    a.send settings texts backend worker now =
      { a with server := a.server.putObject url file.blob, pending := .finalize artifact file :: rest } := by
  simp only [AttemptRun.send, haccepted, hpending, Bool.false_eq_true, if_false]

theorem send_finalize (haccepted : a.refused = false) (hpending : a.pending = .finalize artifact file :: rest)
    (h : (a.server.finalizeArtifact texts worker.job worker.runner artifact
      { leaseToken := .str worker.leaseToken, sha256 := .str file.blob.sha256 }).2 = .ok) :
    a.send settings texts backend worker now =
      { a with
        server := (a.server.finalizeArtifact texts worker.job worker.runner artifact
          { leaseToken := .str worker.leaseToken, sha256 := .str file.blob.sha256 }).1
        pending := rest
        uploaded := a.uploaded ++ [artifact] } := by
  simp only [AttemptRun.send, haccepted, hpending, Bool.false_eq_true, if_false]
  split
  · rename_i server' hserver
    rw [hserver]
  · rename_i server' answer hne hserver
    rw [hserver] at h
    exact absurd h hne

theorem send_complete (haccepted : a.refused = false) (hpending : a.pending = .complete :: rest) {base : ValidationDb}
    (h : a.server.base.complete settings texts now worker.job worker.runner worker.completion = .ok base) :
    a.send settings texts backend worker now = { a with server := { a.server with base := base }, pending := rest } := by
  simp only [AttemptRun.send, haccepted, hpending, h, Bool.false_eq_true, if_false]

theorem send_attempted (hupper : ∀ verdict : ValidationVerdict, texts.upper verdict.text = verdict.text)
    (hmax : 1 ≤ settings.maxAttempts) (h : Attempted settings texts backend worker a)
    (hholds : a.pending ≠ [] → Holds texts worker a.server) (now : ℕ) :
    Attempted settings texts backend worker (a.send settings texts backend worker now) := by
  obtain ⟨hbase, hids, haccepted, hdone | ⟨awaited, todo, hway⟩⟩ := h
  · rw [send_nil hdone.pending]
    exact ⟨hbase, hids, haccepted, Or.inl hdone⟩
  obtain ⟨hstage, hrows, hkeys⟩ := hway
  obtain ⟨job, hjob, hlease, hstate⟩ := hholds hstage.ne_nil
  generalize hpending : a.pending = pending at hstage
  cases hstage with
  | files todo =>
    cases todo with
    | nil =>
      obtain ⟨base, hok, hended, hreported⟩ := complete_of_lease hupper hbase hjob hlease hstate now
      rw [send_complete haccepted hpending hok]
      have hbase' : DbInv settings (ValidationDb.step settings texts _ _) := ValidationDb.step_inv hmax hbase
        (.complete now worker.job worker.runner worker.completion)
      rw [ValidationDb.step, ValidationDb.call, hok] at hbase'
      rw [List.append_nil] at hrows
      exact ⟨hbase', ⟨hids.nodup, hids.lt⟩, haccepted, Or.inl ⟨rfl, hrows, hended, hreported⟩⟩
    | cons file todo =>
      cases backend with
      | «local» =>
        obtain ⟨server, ⟨-, htaken⟩ | ⟨row, hanswer, hcreated, hkey⟩⟩ := upload_local hjob hlease file
        · exact absurd htaken (not_mem_takenKeys hkeys)
        rw [send_upload_created haccepted hpending hanswer]
        refine ⟨hcreated.base ▸ hbase, hcreated.ids hids, haccepted, Or.inr ⟨[], todo, .files todo, ?_, ?_⟩⟩
        · rw [List.append_nil] at hrows ⊢
          show (server.rowsOf worker.job).map Prod.fst = _
          rw [(rowsOf_created hcreated).1, hrows]
        · exact takenKeys_created hcreated hkey hkeys
      | s3 =>
        rw [send_upload_conflict haccepted hpending (upload_s3 hjob hlease file)]
        exact ⟨hbase, hids, haccepted, Or.inr ⟨[], file :: todo, .presign file todo rfl, hrows, hkeys⟩⟩
  | presign file todo hstore =>
    subst hstore
    obtain ⟨server, ⟨-, htaken⟩ | ⟨row, hanswer, hcreated, hkey⟩⟩ := presign_s3 hjob hlease file
    · exact absurd htaken (not_mem_takenKeys hkeys)
    rw [send_presign haccepted hpending hanswer]
    obtain ⟨hids', hmem⟩ := rowsOf_created hcreated
    refine ⟨hcreated.base ▸ hbase, hcreated.ids hids, haccepted,
      Or.inr ⟨[row.id], todo, .put file todo row hmem, ?_, ?_⟩⟩
    · rw [List.append_nil] at hrows
      rw [hids', hrows]
    · exact takenKeys_created hcreated hkey hkeys
  | put file _ row hrow =>
    rw [send_put haccepted hpending]
    refine ⟨hbase, ⟨hids.nodup, hids.lt⟩, haccepted, Or.inr ⟨[row.id], todo, ?_, hrows, hkeys⟩⟩
    exact .finalize file todo row hrow (by simp [head, putObject])
  | finalize file _ row hrow hobject =>
    obtain ⟨found, hfound, hid, howner, hkey⟩ := mem_rowsOf hrow
    rw [← hkey] at hobject
    have hok := finalize_ok hjob hlease hids hfound howner hobject (.str file.blob.sha256)
    rw [hid] at hok
    rw [send_finalize haccepted hpending hok]
    have hkept := finalize_kept texts hids worker.job worker.runner row.id
      { leaseToken := .str worker.leaseToken, sha256 := .str file.blob.sha256 }
    refine ⟨hkept.base ▸ hbase, hkept.ids hids, haccepted, Or.inr ⟨[], todo, .files todo, ?_, ?_⟩⟩
    · rw [hkept.rowsOf, hrows, List.append_nil]
    · rw [takenKeys, hkept.rowsOf]
      exact hkeys

variable (settings texts backend worker) in
theorem send_weight (a : AttemptRun) (now : ℕ) :
    (a.send settings texts backend worker now).refused = true ∨ a.pending = [] ∨
      (a.send settings texts backend worker now).weight < a.weight := by
  by_cases haccepted : a.refused = true
  · left
    unfold AttemptRun.send
    rw [if_pos haccepted]
    exact haccepted
  cases hpending : a.pending with
  | nil => exact Or.inr (Or.inl rfl)
  | cons request rest =>
    have hweight : a.weight = request.cost + (rest.map RunnerRequest.cost).sum := by
      rw [AttemptRun.weight, hpending, List.map_cons, List.sum_cons]
    rw [hweight]
    unfold AttemptRun.send
    rw [if_neg haccepted, hpending]
    cases request with
    | upload file =>
      dsimp only
      split <;> simp [AttemptRun.weight, RunnerRequest.cost]
    | presign file =>
      dsimp only
      split <;> simp [AttemptRun.weight, RunnerRequest.cost]
    | put url artifact file => simp [AttemptRun.weight, RunnerRequest.cost]
    | finalize artifact file =>
      dsimp only
      split <;> simp [AttemptRun.weight, RunnerRequest.cost]
    | complete =>
      dsimp only
      split <;> simp [AttemptRun.weight, RunnerRequest.cost]

theorem pending_of_weight (h : a.weight = 0) : a.pending = [] := by
  cases hpending : a.pending with
  | nil => rfl
  | cons request rest =>
    have hcost : 0 < request.cost := by cases request <;> simp [RunnerRequest.cost]
    rw [AttemptRun.weight, hpending, List.map_cons, List.sum_cons] at h
    omega

end Send

theorem other_attempted (hmax : 1 ≤ settings.maxAttempts) {a : AttemptRun}
    (h : Attempted settings texts backend worker a) (hholds : a.pending ≠ [] → Holds texts worker a.server)
    {call : ArtifactCall} (hforeign : Foreign texts worker call) :
    Attempted settings texts backend worker { a with server := a.server.step settings texts backend call } := by
  obtain ⟨hbase, hids, haccepted, hprogress⟩ := h
  refine ⟨step_dbInv hmax hids hbase call, step_ids hids call, haccepted, ?_⟩
  rcases hprogress with ⟨hpending, hrows, hended, hreported⟩ | ⟨awaited, todo, hstage, hrows, hkeys⟩
  · have hsame : Untouched worker a.server (a.server.step settings texts backend call) :=
      step_untouched hids hended.guarded hforeign
    obtain ⟨hended', hreported'⟩ := step_ended texts backend hmax hids hbase hended hreported
      call
    refine Or.inl ⟨hpending, ?_, hended', hreported'⟩
    rw [hsame.rows]
    exact hrows
  · have hsame : Untouched worker a.server (a.server.step settings texts backend call) :=
      step_untouched hids (hholds hstage.ne_nil).guarded hforeign
    refine Or.inr ⟨awaited, todo, hstage.untouched hsame, ?_, ?_⟩
    · rw [hsame.rows]
      exact hrows
    · rw [takenKeys, hsame.rows]
      exact hkeys

theorem step_attempted (hupper : ∀ verdict : ValidationVerdict, texts.upper verdict.text = verdict.text)
    (hmax : 1 ≤ settings.maxAttempts) {a : AttemptRun} (h : Attempted settings texts backend worker a)
    {label : AttemptLabel} (hleased : Leased texts worker a label) :
    Attempted settings texts backend worker (a.step settings texts backend worker label) ∧
      ((a.step settings texts backend worker label).weight + [label].countP AttemptLabel.isSend ≤ a.weight ∨
        (a.step settings texts backend worker label).pending = []) := by
  cases label with
  | send now =>
    have hsent := send_attempted hupper hmax h hleased.1 now
    refine ⟨hsent, ?_⟩
    rcases send_weight settings texts backend worker a now with
      hrefused | hnil | hless
    · rw [hsent.accepted] at hrefused
      cases hrefused
    · right
      show (a.send settings texts backend worker now).pending = []
      rw [send_nil hnil]
      exact hnil
    · exact Or.inl hless
  | other call => exact ⟨other_attempted hmax h hleased.1 hleased.2, Or.inl le_rfl⟩

theorem exec_attempted (hupper : ∀ verdict : ValidationVerdict, texts.upper verdict.text = verdict.text)
    (hmax : 1 ≤ settings.maxAttempts) (labels : List AttemptLabel) {a : AttemptRun}
    (h : Attempted settings texts backend worker a)
    (hleased : Run.Always (AttemptRun.step settings texts backend worker) (Leased texts worker) a labels) :
    Attempted settings texts backend worker (Run.exec (AttemptRun.step settings texts backend worker) a labels) ∧
      (a.weight ≤ labels.countP AttemptLabel.isSend →
        (Run.exec (AttemptRun.step settings texts backend worker) a labels).pending = []) := by
  induction labels generalizing a with
  | nil =>
    exact ⟨h, fun hle => pending_of_weight (Nat.le_zero.mp hle)⟩
  | cons label labels ih =>
    obtain ⟨hstep, hweight⟩ := step_attempted hupper hmax h hleased.1
    obtain ⟨hexec, hdone⟩ := ih hstep hleased.2
    refine ⟨hexec, fun hle => hdone ?_⟩
    have hcount : (label :: labels).countP AttemptLabel.isSend =
        [label].countP AttemptLabel.isSend + labels.countP AttemptLabel.isSend := by
      rw [← List.countP_append, List.singleton_append]
    rcases hweight with hless | hnil
    · omega
    · rw [AttemptRun.weight, hnil]
      exact Nat.zero_le _

theorem Attempted.succeeds {a : AttemptRun} (h : Attempted settings texts backend worker a) :
    Succeeds texts worker a := by
  refine ⟨h.accepted, fun hpending => ?_⟩
  rcases h.progress with hdone | ⟨awaited, todo, hway⟩
  · rw [map_id_artifactsOf]
    exact ⟨hdone.rows, hdone.reported⟩
  · exact absurd hpending hway.stage.ne_nil

theorem fileKeys_nodup (texts : ValidationTexts) (report : Blob) (result : Option (String × Blob)) :
    ((runnerFiles report result).map (fileKey texts)).Nodup := by
  cases result with
  | none => exact List.nodup_singleton _
  | some recording => simp [runnerFiles, fileKey]

theorem beginUploads_attempted {s : ArtifactDb} (hbase : DbInv settings s.base) (hids : Ids s)
    (hnone : s.artifactsOf worker.job = []) (report : Blob) (result : Option (String × Blob)) :
    Attempted settings texts backend worker (beginUploads s (runnerFiles report result)) := by
  have hrows : s.rowsOf worker.job = [] := by rw [rowsOf_eq, hnone, List.map_nil]
  refine ⟨hbase, hids, rfl, Or.inr ⟨[], runnerFiles report result, .files _, ?_, ?_⟩⟩
  · show (s.rowsOf worker.job).map Prod.fst = []
    rw [hrows, List.map_nil]
  · show (takenKeys worker s ++ _).Nodup
    rw [takenKeys, hrows, List.map_nil, List.nil_append]
    exact fileKeys_nodup texts report result

/-! ## Rows of an earlier attempt -/

/-- An artifact of the job is not one of the attempt, however it goes on. -/
structure Blocked (texts : ValidationTexts) (backend : StoreBackend) (worker : Worker) (old : Uuid)
    (a : AttemptRun) : Prop where
  ids : Ids a.server
  row : old ∈ (a.server.rowsOf worker.job).map Prod.fst
  notUploaded : old ∉ a.uploaded
  stage : a.pending = [] ∨ Holds texts worker a.server ∧ ∃ awaited todo,
    Stage backend worker a.server a.pending awaited todo ∧ old ∉ awaited

theorem Blocked.lt {old : Uuid} {a : AttemptRun} (h : Blocked texts backend worker old a) :
    old < a.server.nextArtifact := by
  obtain ⟨row, hrow, rfl⟩ := List.mem_map.mp h.row
  obtain ⟨found, hfound, rfl⟩ := List.mem_map.mp (List.mem_filter.mp hrow).1
  exact h.ids.lt found hfound

theorem Holds.of_base {s s' : ArtifactDb} (h : Holds texts worker s) (hbase : s'.base = s.base) :
    Holds texts worker s' := by
  unfold Holds
  rw [hbase]
  exact h

variable (settings) in
theorem send_blocked {old : Uuid} {a : AttemptRun} (h : Blocked texts backend worker old a) (haccepted : a.refused = false)
    (now : ℕ) :
    (a.send settings texts backend worker now).refused = true ∨
      Blocked texts backend worker old (a.send settings texts backend worker now) := by
  have hlt := h.lt
  obtain ⟨hids, hrow, hnot, hnil | ⟨hholds, awaited, todo, hstage, hawaited⟩⟩ := h
  · right
    rw [send_nil hnil]
    exact ⟨hids, hrow, hnot, Or.inl hnil⟩
  obtain ⟨job, hjob, hlease, hstate⟩ := id hholds
  generalize hpending : a.pending = pending at hstage
  cases hstage with
  | files todo =>
    cases todo with
    | nil =>
      cases hok : a.server.base.complete settings texts now worker.job worker.runner worker.completion with
      | ok base =>
        right
        rw [send_complete haccepted hpending hok]
        exact ⟨⟨hids.nodup, hids.lt⟩, hrow, hnot, Or.inl rfl⟩
      | error raised =>
        left
        simp [AttemptRun.send, haccepted, hpending, waiting, hok]
    | cons file todo =>
      cases backend with
      | «local» =>
        obtain ⟨server, ⟨hanswer, -⟩ | ⟨row, hanswer, hcreated, -⟩⟩ := upload_local hjob hlease file
        · left
          simp [AttemptRun.send, haccepted, hpending, waiting, hanswer]
        · right
          rw [send_upload_created haccepted hpending hanswer]
          refine ⟨hcreated.ids hids, ?_, ?_,
            Or.inr ⟨hholds.of_base hcreated.base, [], todo, .files todo, List.not_mem_nil⟩⟩
          · show old ∈ (server.rowsOf worker.job).map Prod.fst
            rw [(rowsOf_created hcreated).1]
            exact List.mem_append_left _ hrow
          · rw [List.mem_append, List.mem_singleton, hcreated.fresh]
            exact not_or.mpr ⟨hnot, hlt.ne⟩
      | s3 =>
        right
        rw [send_upload_conflict haccepted hpending (upload_s3 hjob hlease file)]
        exact ⟨hids, hrow, hnot, Or.inr ⟨hholds, [], file :: todo, .presign file todo rfl, List.not_mem_nil⟩⟩
  | presign file todo hstore =>
    subst hstore
    obtain ⟨server, ⟨hanswer, -⟩ | ⟨row, hanswer, hcreated, -⟩⟩ := presign_s3 hjob hlease file
    · left
      simp [AttemptRun.send, haccepted, hpending, hanswer]
    · right
      rw [send_presign haccepted hpending hanswer]
      obtain ⟨hids', hmem⟩ := rowsOf_created hcreated
      refine ⟨hcreated.ids hids, ?_, hnot,
        Or.inr ⟨hholds.of_base hcreated.base, [row.id], todo, .put file todo row hmem, ?_⟩⟩
      · rw [hids']
        exact List.mem_append_left _ hrow
      · rw [List.mem_singleton, hcreated.fresh]
        exact hlt.ne
  | put file _ row hmem =>
    right
    rw [send_put haccepted hpending]
    refine ⟨⟨hids.nodup, hids.lt⟩, hrow, hnot, Or.inr ⟨hholds, [row.id], todo, ?_, hawaited⟩⟩
    exact .finalize file todo row hmem (by simp [head, putObject])
  | finalize file _ row hmem hobject =>
    right
    obtain ⟨found, hfound, hid, howner, hkey⟩ := mem_rowsOf hmem
    rw [← hkey] at hobject
    have hok := finalize_ok hjob hlease hids hfound howner hobject (.str file.blob.sha256)
    rw [hid] at hok
    rw [send_finalize haccepted hpending hok]
    have hkept := finalize_kept texts hids worker.job worker.runner row.id
      { leaseToken := .str worker.leaseToken, sha256 := .str file.blob.sha256 }
    refine ⟨hkept.ids hids, ?_, ?_, Or.inr ⟨hholds.of_base hkept.base, [], todo, .files todo, List.not_mem_nil⟩⟩
    · rw [hkept.rowsOf]
      exact hrow
    · rw [List.mem_append]
      exact not_or.mpr ⟨hnot, hawaited⟩

theorem not_succeeds_of_refused {a : AttemptRun} (h : a.refused = true) : ¬ Succeeds texts worker a := by
  intro hsucceeds
  rw [hsucceeds.1] at h
  cases h

variable (settings) in
theorem blocked_fails {old : Uuid} (n : ℕ) :
    ∀ {a : AttemptRun}, a.weight = n → Blocked texts backend worker old a →
      ∃ labels, Run.Always (AttemptRun.step settings texts backend worker) (Leased texts worker) a labels ∧
        ¬ Succeeds texts worker (Run.exec (AttemptRun.step settings texts backend worker) a labels) := by
  induction n using Nat.strong_induction_on with
  | _ n ih =>
    intro a hn h
    by_cases hrefused : a.refused = true
    · exact ⟨[], trivial, not_succeeds_of_refused hrefused⟩
    by_cases hnil : a.pending = []
    · refine ⟨[], trivial, fun hsucceeds => h.notUploaded ?_⟩
      have huploaded := (hsucceeds.2 hnil).1
      rw [map_id_artifactsOf] at huploaded
      exact huploaded ▸ h.row
    have hholds : Holds texts worker a.server := (h.stage.resolve_left hnil).1
    have hleased : Leased texts worker a (.send 0) := ⟨fun _ => hholds, trivial⟩
    rcases send_blocked settings h (Bool.eq_false_iff.mpr hrefused) 0 with hrefused' | hblocked
    · exact ⟨[.send 0], ⟨hleased, trivial⟩, not_succeeds_of_refused hrefused'⟩
    · rcases send_weight settings texts backend worker a 0 with
        hrefused' | hnil' | hless
      · exact ⟨[.send 0], ⟨hleased, trivial⟩, not_succeeds_of_refused hrefused'⟩
      · exact absurd hnil' hnil
      · obtain ⟨labels, halways, hfails⟩ := ih _ (hn ▸ hless) rfl hblocked
        exact ⟨.send 0 :: labels, ⟨hleased, halways⟩, hfails⟩

end Attempt

/-! ## After any history -/

section History

variable {settings : ValidationSettings} {texts : ValidationTexts} {backend : StoreBackend}

/-- The server after a sequence of calls, with these runners and no job at the start. -/
def ArtifactDb.run (settings : ValidationSettings) (texts : ValidationTexts) (backend : StoreBackend)
    (runners : List ValidationRunner) (calls : List ArtifactCall) : ArtifactDb :=
  Run.exec (ArtifactDb.step settings texts backend) { base := { runners := runners } } calls

theorem empty_ids (runners : List ValidationRunner) :
    ArtifactDb.Ids { base := { runners := runners } } where
  nodup := List.nodup_nil
  lt _ h := nomatch h

variable (settings texts backend) in
theorem run_ids (runners : List ValidationRunner) (calls : List ArtifactCall) :
    (ArtifactDb.run settings texts backend runners calls).Ids :=
  Run.exec_invariant ArtifactDb.Ids (fun _ call hids => step_ids hids call) (empty_ids runners) calls

variable (texts backend) in
theorem run_dbInv (hmax : 1 ≤ settings.maxAttempts) (runners : List ValidationRunner) (calls : List ArtifactCall) :
    DbInv settings (ArtifactDb.run settings texts backend runners calls).base := by
  have hboth : (ArtifactDb.run settings texts backend runners calls).Ids ∧
      DbInv settings (ArtifactDb.run settings texts backend runners calls).base :=
    Run.exec_invariant (fun s : ArtifactDb => s.Ids ∧ DbInv settings s.base)
      (fun _ call h => ⟨step_ids h.1 call, step_dbInv hmax h.1 h.2 call⟩)
      ⟨empty_ids runners, ValidationDb.empty_inv⟩ calls
  exact hboth.2

/-- After any history, an attempt that holds the lease gets all its requests accepted and leaves its own artifacts and
check results exactly when no attempt before it has left an artifact. -/
theorem retrySucceeds_iff_noArtifact (hmax : 1 ≤ settings.maxAttempts)
    (hupper : ∀ verdict : ValidationVerdict, texts.upper verdict.text = verdict.text)
    (runners : List ValidationRunner) (history : List ArtifactCall) (worker : Worker) (report : Blob)
    (result : Option (String × Blob))
    (hholds : Holds texts worker (ArtifactDb.run settings texts backend runners history)) :
    RetrySucceeds settings texts backend worker (ArtifactDb.run settings texts backend runners history)
        (runnerFiles report result) ↔
      (ArtifactDb.run settings texts backend runners history).artifactsOf worker.job = [] := by
  have hids := run_ids settings texts backend runners history
  have hbase := run_dbInv texts backend hmax runners history
  constructor
  · intro hretry
    by_contra hleft
    obtain ⟨old, hold⟩ := List.exists_mem_of_ne_nil _ hleft
    have hblocked : Blocked texts backend worker old.id
        (beginUploads (ArtifactDb.run settings texts backend runners history) (runnerFiles report result)) := by
      refine ⟨hids, ?_, List.not_mem_nil, Or.inr ⟨hholds, [], _, .files _, List.not_mem_nil⟩⟩
      show old.id ∈ (ArtifactDb.rowsOf _ worker.job).map Prod.fst
      rw [← ArtifactDb.map_id_artifactsOf]
      exact List.mem_map_of_mem hold
    obtain ⟨labels, halways, hfails⟩ := blocked_fails settings _ rfl hblocked
    exact hfails (hretry labels halways).1
  · intro hnone labels hleased
    obtain ⟨hattempted, hdone⟩ := exec_attempted hupper hmax labels
      (beginUploads_attempted hbase hids hnone report result) hleased
    exact ⟨hattempted.succeeds, hdone⟩

/-! ### Two histories -/

theorem holds_of_any {s : ArtifactDb} {worker : Worker}
    (h : (s.base.job? worker.job).any (fun job =>
      validateLease texts job worker.runner (.str worker.leaseToken) = none ∧ job.state ≠ .cancelling) = true) :
    Holds texts worker s := by
  obtain ⟨job, hjob, hholds⟩ := (Option.any_eq_true _ _).mp h
  obtain ⟨hlease, hstate⟩ := of_decide_eq_true hholds
  exact ⟨job, hjob, hlease, hstate⟩

/-- What a replay without a baseline finds where nothing is wrong. -/
def cleanInspection : Inspection where
  baseline := false
  checks := (ruleIds false).map fun ruleId =>
    { ruleId := ruleId, title := ruleId, category := "input", status := .pass }
  rules := rfl
  summary := .obj [("execution_mode", .str "algorithm_replay")]

/-- The attempt that claims job 0 after the lease of another has run out. -/
def secondAttempt : Worker where
  job := 0
  runner := { id := "cpu-1" }
  leaseToken := "iii"
  inspection := cleanInspection

/-- A first attempt that is lost after these calls, and the claim of the second one. -/
def lostAttempt (calls : List ArtifactCall) : List ArtifactCall :=
  [.job (.createJob 1 { recording := { id := 7 }, profile := { id := 8 } }), .job (.claim 2 { id := "cpu-1" })] ++
    calls ++ [.job (.claim 100000000 { id := "cpu-1" })]

/-- The upload of the report by the first attempt. -/
def firstReport : ArtifactCall :=
  .upload 0 { id := "cpu-1" }
    { leaseToken := .str "ii"
      role := .str "report"
      name := .str "validation-report.json"
      file := some { name := "validation-report.json", blob := { size := 10, sha256 := "aa" } } }

/-- Where the first attempt was lost before its first upload, the second one succeeds. -/
theorem retrySucceeds_lostEarly :
    RetrySucceeds {} default .local secondAttempt
      (ArtifactDb.run {} default .local [{ id := "cpu-1" }] (lostAttempt []))
      (runnerFiles { size := 12, sha256 := "bb" } none) :=
  (retrySucceeds_iff_noArtifact (by decide) (fun _ => rfl) [{ id := "cpu-1" }] (lostAttempt []) secondAttempt
    { size := 12, sha256 := "bb" } none (holds_of_any (by decide))).mpr
      (List.eq_nil_of_length_eq_zero (by decide))

/-- Where it was lost after the upload of its report, the report of the second one is answered 500. -/
theorem not_retrySucceeds_lostAfterUpload :
    Holds default secondAttempt (ArtifactDb.run {} default .local [{ id := "cpu-1" }] (lostAttempt [firstReport])) ∧
      ¬ RetrySucceeds {} default .local secondAttempt
        (ArtifactDb.run {} default .local [{ id := "cpu-1" }] (lostAttempt [firstReport]))
        (runnerFiles { size := 12, sha256 := "bb" } none) := by
  have hholds : Holds default secondAttempt
      (ArtifactDb.run {} default .local [{ id := "cpu-1" }] (lostAttempt [firstReport])) :=
    holds_of_any (by decide)
  have hrefused : (Run.exec (AttemptRun.step {} default .local secondAttempt)
      (beginUploads (ArtifactDb.run {} default .local [{ id := "cpu-1" }] (lostAttempt [firstReport]))
        (runnerFiles { size := 12, sha256 := "bb" } none)) [.send 0]).refused = true := by
    decide
  refine ⟨hholds, fun hretry => ?_⟩
  exact not_succeeds_of_refused hrefused (hretry [.send 0] ⟨⟨fun _ => hholds, trivial⟩, trivial⟩).1

end History

end RoamerX
