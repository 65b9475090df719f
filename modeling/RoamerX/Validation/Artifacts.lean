import RoamerX.Lib.Strip
import RoamerX.Validation.JobService

set_option autoImplicit false

/-! # The artifacts of validation jobs

What a runner uploads for a job: the artifact views of `monitoring/validation_views.py`, beside the calls of the job
service, and the object store behind them, which does what it is asked to; and the requests of `process_job` of
`validation-runner/runner.py`, each with what its answer leads to. -/

namespace RoamerX

/-! ## Rows and objects -/

/-- `ValidationArtifact.ROLE_CHOICES` -/
inductive ArtifactRole
  | source | resultMcap | report | log | metrics | evidence
  deriving DecidableEq

def ArtifactRole.text : ArtifactRole → String
  | .source => "source"
  | .resultMcap => "result_mcap"
  | .report => "report"
  | .log => "log"
  | .metrics => "metrics"
  | .evidence => "evidence"

def ArtifactRole.ofText? (word : String) : Option ArtifactRole :=
  [ArtifactRole.source, .resultMcap, .report, .log, .metrics, .evidence].find? (fun role => role.text = word)

@[simp] theorem ArtifactRole.ofText?_text (role : ArtifactRole) : ofText? role.text = some role := by
  cases role <;> decide

structure ValidationArtifact where
  id : Uuid
  job : Uuid
  role : ArtifactRole
  name : String
  objectKey : String
  sha256 : String := ""
  sizeBytes : ℕ := 0
  contentType : String := "application/octet-stream"
  metadata : Json := .obj []

/-- `uniq_validation_artifact` -/
def ValidationArtifact.key (a : ValidationArtifact) : Uuid × ArtifactRole × String := (a.job, a.role, a.name)

/-- The bytes of a file: how many, and `hexdigest()` of them. -/
structure Blob where
  size : ℕ
  sha256 : String
  deriving DecidableEq

/-- `VALIDATION_OBJECT_STORE_BACKEND` -/
inductive StoreBackend
  | local
  | s3
  deriving DecidableEq

/-- The tables of the job service, the artifacts and the object store. -/
structure ArtifactDb where
  base : ValidationDb := {}
  /-- A fresh identifier, for a row and for the key of its object. -/
  nextArtifact : Uuid := 0
  artifacts : List ValidationArtifact := []
  /-- Newest first. -/
  objects : List (String × Blob) := []

inductive ArtifactResponse
  | created (artifact : Uuid) (url : String)
  | ok
  /-- A status other than 2xx; 500 is an exception that no view catches. -/
  | refused (status : ℕ)
  deriving DecidableEq

structure UploadedFile where
  name : String
  contentType : String := ""
  blob : Blob

/-- `request.data` of an upload or of a presign, with the file of an upload. -/
structure ArtifactRequest where
  leaseToken : Json := .str ""
  role : Json := .null
  name : Json := .null
  contentType : Json := .null
  file : Option UploadedFile := none

/-- The request that fixes the size, which names its artifact in its path. -/
structure FinalizeRequest where
  leaseToken : Json := .str ""
  sha256 : Json := .null
  metadata : Json := .null

/-! ## Names -/

/-- `[A-Za-z0-9_.-]` -/
def isNameChar (c : Char) : Bool := c.isAlphanum || c = '_' || c = '.' || c = '-'

/-- `re.sub(r"[^A-Za-z0-9_.-]+", "_", text)` -/
def replaceRuns : List Char → List Char
  | [] => []
  | c :: text =>
    if isNameChar c then c :: replaceRuns text
    else
      match text with
      | [] => ['_']
      | d :: _ => if isNameChar d then '_' :: replaceRuns text else replaceRuns text

/-- `_safe_name`, of a value that is not empty or of nothing. -/
def safeName (texts : ValidationTexts) (value : Json) (fallback : String) : String :=
  let text := texts.strip (if value.truthy then texts.str value else "")
  let normalized := String.ofList ((replaceRuns text.toList).strip (fun c => c = '.' || c = '_'))
  truncated 180 (if normalized = "" then fallback else normalized)

namespace ArtifactDb

variable (texts : ValidationTexts) (backend : StoreBackend)

def artifactsOf (s : ArtifactDb) (job : Uuid) : List ValidationArtifact := s.artifacts.filter (·.job = job)

/-- `str(request.data.get("role") or "evidence")` -/
def requestedRole (request : ArtifactRequest) : Option ArtifactRole :=
  ArtifactRole.ofText? (texts.str (if request.role.truthy then request.role else .str "evidence"))

/-- `f"jobs/{job.id}/{role}/{uuid.uuid4()}-{name}"` -/
def objectKey (s : ArtifactDb) (job : Uuid) (role : ArtifactRole) (name : String) : String :=
  "jobs/" ++ texts.uuidText job ++ "/" ++ role.text ++ "/" ++ texts.uuidText s.nextArtifact ++ "-" ++ name

/-- `ValidationArtifact.objects.create(..)`; a second row under the key of a first is an `IntegrityError`. -/
def create (s : ArtifactDb) (row : ValidationArtifact) : Except ℕ ArtifactDb :=
  if s.artifacts.any (·.key = row.key) then .error 500
  else .ok { s with nextArtifact := s.nextArtifact + 1, artifacts := s.artifacts ++ [row] }

def uploadRow (s : ArtifactDb) (id : Uuid) (role : ArtifactRole) (name : String) (file : UploadedFile) :
    ValidationArtifact where
  id := s.nextArtifact
  job := id
  role := role
  name := name
  objectKey := s.objectKey texts id role name
  sha256 := file.blob.sha256
  sizeBytes := file.blob.size
  contentType := if file.contentType = "" then "application/octet-stream" else file.contentType

/-- The row of a presign, which is pending. -/
def presignRow (s : ArtifactDb) (id : Uuid) (role : ArtifactRole) (name : String) (contentType : Json) :
    ValidationArtifact where
  id := s.nextArtifact
  job := id
  role := role
  name := name
  objectKey := s.objectKey texts id role name
  contentType := truncated 128 (texts.str (if contentType.truthy then contentType
    else .str "application/octet-stream"))
  metadata := .obj [("pending", .bool true)]

/-- `ValidationRunnerArtifactUploadView` -/
def uploadArtifact (s : ArtifactDb) (id : Uuid) (runner : ValidationRunner) (request : ArtifactRequest) :
    ArtifactDb × ArtifactResponse :=
  match s.base.job? id with
  | none => (s, .refused 404)
  | some job =>
    if (ValidationDb.validateLease texts job runner request.leaseToken).isSome then (s, .refused 409)
    else
      match request.file with
      | none => (s, .refused 400)
      | some file =>
        if backend ≠ .local then (s, .refused 409)
        else
          match requestedRole texts request with
          | none => (s, .refused 400)
          | some role =>
            let name := safeName texts (if request.name.truthy then request.name else .str file.name) "artifact.bin"
            let key := s.objectKey texts id role name
            -- the object is there before the row is
            let s := { s with objects := (key, file.blob) :: s.objects }
            match s.create (s.uploadRow texts id role name file) with
            | .error status => (s, .refused status)
            | .ok s' => (s', .created s.nextArtifact key)

/-- `ValidationRunnerArtifactPresignView`, and whether the store signs; the local one does not. -/
def presignArtifact (s : ArtifactDb) (id : Uuid) (runner : ValidationRunner) (request : ArtifactRequest)
    (signs : Bool) : ArtifactDb × ArtifactResponse :=
  match s.base.job? id with
  | none => (s, .refused 404)
  | some job =>
    if (ValidationDb.validateLease texts job runner request.leaseToken).isSome then (s, .refused 409)
    else
      match requestedRole texts request with
      | none => (s, .refused 400)
      | some role =>
        let row := s.presignRow texts id role (safeName texts request.name "artifact.bin") request.contentType
        match s.create row with
        | .error status => (s, .refused status)
        | .ok s' =>
          if backend = .s3 ∧ signs then (s', .created row.id row.objectKey)
          -- `artifact.delete()`
          else ({ s' with artifacts := s'.artifacts.filter (·.id ≠ row.id) }, .refused 503)

/-- A `PUT` to a signed address. -/
def putObject (s : ArtifactDb) (url : String) (blob : Blob) : ArtifactDb :=
  { s with objects := (url, blob) :: s.objects }

def head (s : ArtifactDb) (key : String) : Option Blob := s.objects.lookup key

/-- `ValidationRunnerArtifactFinalizeView` -/
def finalizeArtifact (s : ArtifactDb) (id : Uuid) (runner : ValidationRunner) (artifact : Uuid)
    (request : FinalizeRequest) : ArtifactDb × ArtifactResponse :=
  match s.base.job? id with
  | none => (s, .refused 404)
  | some job =>
    match (Rows.get? ValidationArtifact.id s.artifacts artifact).filter (·.job = id) with
    | none => (s, .refused 404)
    | some row =>
      if (ValidationDb.validateLease texts job runner request.leaseToken).isSome then (s, .refused 409)
      else
        match s.head row.objectKey with
        | none => (s, .refused 409)
        | some blob =>
          let row := { row with
            sizeBytes := blob.size
            sha256 := truncated 64 (texts.lower (if request.sha256.truthy then texts.str request.sha256 else ""))
            metadata := if request.metadata.truthy then request.metadata else .obj [] }
          ({ s with artifacts := Rows.put ValidationArtifact.id s.artifacts row }, .ok)

end ArtifactDb

/-! ## The service as a system -/

inductive ArtifactCall
  | job (call : ValidationCall)
  | upload (id : Uuid) (runner : ValidationRunner) (request : ArtifactRequest)
  | presign (id : Uuid) (runner : ValidationRunner) (request : ArtifactRequest) (signs : Bool)
  | put (url : String) (blob : Blob)
  | finalize (id : Uuid) (runner : ValidationRunner) (artifact : Uuid) (request : FinalizeRequest)

namespace ArtifactDb

variable (settings : ValidationSettings) (texts : ValidationTexts) (backend : StoreBackend)

def step (s : ArtifactDb) : ArtifactCall → ArtifactDb
  | .job call => { s with base := s.base.step settings texts call }
  | .upload id runner request => (s.uploadArtifact texts backend id runner request).1
  | .presign id runner request signs => (s.presignArtifact texts backend id runner request signs).1
  | .put url blob => s.putObject url blob
  | .finalize id runner artifact request => (s.finalizeArtifact texts id runner artifact request).1

end ArtifactDb

/-! ## The runner -/

/-- A file to be uploaded, with the digest the runner takes of it. -/
structure RunnerFile where
  name : String
  role : ArtifactRole
  contentType : String
  blob : Blob

/-- `_check` -/
structure RunnerCheck where
  ruleId : String
  title : String
  category : String
  status : ValidationVerdict
  message : String := ""
  hardFailure : Bool := false
  metricName : String := ""
  actualValue : Json := .null
  expectedValue : Json := .null
  topics : List Json := []
  startTimeNs : Json := .null
  endTimeNs : Json := .null
  evidence : List (String × Json) := []

/-- What `_check` returns. -/
def RunnerCheck.members (check : RunnerCheck) : List (String × Json) :=
  [("rule_id", .str check.ruleId), ("title", .str check.title), ("category", .str check.category),
    ("status", .str check.status.text),
    ("severity", .str (if check.status = .fail then "error" else if check.status = .warn then "warning" else "info")),
    ("hard_failure", .bool check.hardFailure), ("metric_name", .str check.metricName),
    ("actual_value", check.actualValue), ("expected_value", check.expectedValue), ("topics", .arr check.topics),
    ("start_time_ns", check.startTimeNs), ("end_time_ns", check.endTimeNs), ("evidence", .obj check.evidence),
    ("message", .str check.message)]

/-- The rules of `inspect_mcap` in their order, without a baseline or with one. -/
def ruleIds (baseline : Bool) : List String :=
  ["input.required_topics", "input.timestamp_monotonic", "tf.single_parent",
    "localization.pose_jump.localization_odom", "localization.pose_jump.nav2", "control.angular_sign_flips"] ++
  if baseline then ["baseline.message_count", "baseline.topic_count", "baseline.duration_seconds"]
  else ["baseline.available"]

/-- What `inspect_mcap` returns: one check for each rule, and a summary. -/
structure Inspection where
  baseline : Bool
  checks : List RunnerCheck
  rules : checks.map RunnerCheck.ruleId = ruleIds baseline
  summary : Json

/-- The files of `process_job`: the report, and the recording of the replay where there is one. -/
def runnerFiles (report : Blob) (result : Option (String × Blob)) : List RunnerFile :=
  { name := "validation-report.json", role := .report, contentType := "application/json", blob := report } ::
    (result.map fun (name, blob) =>
      { name := name, role := .resultMcap, contentType := "application/octet-stream", blob := blob }).toList

/-- A request of the runner that is still to be sent. -/
inductive RunnerRequest
  | upload (file : RunnerFile)
  | presign (file : RunnerFile)
  | put (url : String) (artifact : Uuid) (file : RunnerFile)
  | finalize (artifact : Uuid) (file : RunnerFile)
  | complete

/-- Who holds the lease of which job, and what was found. -/
structure Worker where
  job : Uuid
  runner : ValidationRunner
  leaseToken : String
  inspection : Inspection
  stackGitSha : String := ""
  stackImageDigest : String := "unversioned"

/-- The payload of `complete`. -/
def Worker.completion (worker : Worker) : List (String × Json) :=
  [("lease_token", .str worker.leaseToken), ("outcome", .str "completed"),
    ("checks", .arr (worker.inspection.checks.map fun check => .obj check.members)),
    ("summary", worker.inspection.summary), ("stack_git_sha", .str worker.stackGitSha),
    ("stack_image_digest", .str worker.stackImageDigest)]

/-- An attempt as far as it has come: the requests still to be sent, the artifacts of its uploads, and whether a request
was refused, which `raise_for_status` turns into the end of the attempt. -/
structure AttemptRun where
  server : ArtifactDb
  pending : List RunnerRequest
  uploaded : List Uuid := []
  refused : Bool := false

/-- `process_job` before its first upload. -/
def beginUploads (server : ArtifactDb) (files : List RunnerFile) : AttemptRun where
  server := server
  pending := files.map .upload ++ [.complete]

section Runner

variable (settings : ValidationSettings) (texts : ValidationTexts) (backend : StoreBackend) (worker : Worker)

def Worker.upload (file : RunnerFile) : ArtifactRequest where
  leaseToken := .str worker.leaseToken
  role := .str file.role.text
  name := .str file.name
  file := some { name := file.name, contentType := file.contentType, blob := file.blob }

def Worker.presign (file : RunnerFile) : ArtifactRequest where
  leaseToken := .str worker.leaseToken
  role := .str file.role.text
  name := .str file.name
  contentType := .str file.contentType

/-- The next request of the attempt, and what its answer leads to: `upload_artifact`, with its way over a signed address
where the first request is answered 409. -/
def AttemptRun.send (now : ℕ) (a : AttemptRun) : AttemptRun :=
  if a.refused then a
  else
    match a.pending with
    | [] => a
    | .upload file :: rest =>
      match a.server.uploadArtifact texts backend worker.job worker.runner (worker.upload file) with
      | (server, .created artifact _) =>
        { a with server := server, pending := rest, uploaded := a.uploaded ++ [artifact] }
      | (server, .ok) => { a with server := server, pending := rest }
      | (server, .refused 409) => { a with server := server, pending := .presign file :: rest }
      | (server, .refused _) => { a with server := server, refused := true }
    | .presign file :: rest =>
      match a.server.presignArtifact texts backend worker.job worker.runner (worker.presign file) true with
      | (server, .created artifact url) => { a with server := server, pending := .put url artifact file :: rest }
      | (server, _) => { a with server := server, refused := true }
    | .put url artifact file :: rest =>
      { a with server := a.server.putObject url file.blob, pending := .finalize artifact file :: rest }
    | .finalize artifact file :: rest =>
      match a.server.finalizeArtifact texts worker.job worker.runner artifact
          { leaseToken := .str worker.leaseToken, sha256 := .str file.blob.sha256 } with
      | (server, .ok) => { a with server := server, pending := rest, uploaded := a.uploaded ++ [artifact] }
      | (server, _) => { a with server := server, refused := true }
    | .complete :: rest =>
      match a.server.base.complete settings texts now worker.job worker.runner worker.completion with
      | .ok base => { a with server := { a.server with base := base }, pending := rest }
      | .error _ => { a with refused := true }

/-- What happens while an attempt is under way: it sends its next request, or another call reaches the server. -/
inductive AttemptLabel
  | send (now : ℕ)
  | other (call : ArtifactCall)

def AttemptRun.step (a : AttemptRun) : AttemptLabel → AttemptRun
  | .send now => a.send settings texts backend worker now
  | .other call => { a with server := a.server.step settings texts backend call }

end Runner

end RoamerX
