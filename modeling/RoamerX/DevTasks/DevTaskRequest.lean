import RoamerX.DevTasks.Models

set_option autoImplicit false

/-! # The dev agent's end

`DevTaskRequest.parse` of `roamerx_dev_agent/protocol.py`, and the arguments with which
`CodexRunner.run` starts the Codex process for a request. -/

namespace RoamerX

def allowedExecutionModes : List String := ["plan", "execute"]

structure DevTaskRequest where
  taskId : String
  prompt : String
  workspace : String
  conversationId : String := "main"
  model : String := defaultCodexModel
  executionMode : String := "execute"
  deriving DecidableEq

/-- `conversation_id.replace("_", "").replace("-", "").isalnum() and len(conversation_id) <= 64`. -/
def isConversationId (texts : DevTexts) (s : String) : Bool :=
  let rest := s.toList.filter (fun c => decide (c ≠ '_') && decide (c ≠ '-'))
  !rest.isEmpty && rest.all texts.isAlnum && decide (s.length ≤ 64)

/-- `str(payload.get(key) or default).strip()`. -/
def strippedMember (texts : DevTexts) (payload : List (String × Json)) (key word : String) : String :=
  stripped (texts.str (Json.getOr payload key (.str word)))

/-- `DevTaskRequest.parse`; the error is the text of the `TaskMessageError`. -/
def DevTaskRequest.parse (texts : DevTexts) (payload : List (String × Json)) :
    Except String DevTaskRequest :=
  match (Json.get? payload "task_id").bind (fun value => texts.uuid? (texts.str value)) with
  | none => .error "task_id must be a UUID"
  | some id =>
    let prompt := strippedMember texts payload "prompt" ""
    let workspace := strippedMember texts payload "workspace" ""
    let conversationId := strippedMember texts payload "conversation_id" "main"
    let model := strippedMember texts payload "model" defaultCodexModel
    let executionMode := strippedMember texts payload "execution_mode" "execute"
    if prompt = "" then .error "prompt is required"
    else if 50000 < prompt.length then .error "prompt is too long"
    else if workspace = "" then .error "workspace is required"
    else if isConversationId texts conversationId = false then .error "conversation_id is invalid"
    else if model ∉ allowedCodexModels then .error "model is not allowed"
    else if executionMode ∉ allowedExecutionModes then .error "execution_mode is not allowed"
    else .ok
      { taskId := texts.uuidText id
        prompt := prompt
        workspace := workspace
        conversationId := conversationId
        model := model
        executionMode := executionMode }

/-! ## The process -/

/-- `CodexConfig`: what the arguments read of it. -/
structure CodexConfig where
  binary : String
  yolo : Bool := true

def buildArgv (config : CodexConfig) (workspace : String) (sessionId : Option String)
    (model executionMode : String) : List String :=
  [config.binary, "exec", "--model", model, "--json"] ++
    (if executionMode = "plan" then ["--sandbox", "read-only"]
     else if config.yolo then ["--dangerously-bypass-approvals-and-sandbox"]
     else ["--sandbox", "workspace-write"]) ++
    (match sessionId.filter (fun s => decide (s ≠ "")) with
     | some session => ["resume", session, "-"]
     | none => ["-C", workspace, "-"])

/-- The arguments of the processes `_handle_task` can start for a request, by the configured
    workspaces; the session is none where the conversation has none or is created anew. -/
def startedArgv? (config : CodexConfig) (workspaces : List (String × String))
    (sessionId : Option String) (request : DevTaskRequest) : Option (List String) :=
  (workspaces.lookup request.workspace).map (fun path =>
    buildArgv config path sessionId request.model request.executionMode)

def ReadOnlySandbox (argv : List String) : Prop := ["--sandbox", "read-only"] <:+: argv

end RoamerX
