import RoamerX.Lib.Strip
import RoamerX.Protocol.Texts

set_option autoImplicit false

/-! # Development tasks

`DevelopmentTask` of `monitoring/models.py`: an order for the Codex process on a robot, created from
the web (`dev_views.py`) or from a spoken command (`dev_message_handlers.py`), and the message the
center publishes for it (`mqtt_client.py`). -/

namespace RoamerX

/-! ## Texts -/

def isSpace (c : Char) : Bool :=
  (9 ≤ c.toNat && c.toNat ≤ 13) || (28 ≤ c.toNat && c.toNat ≤ 32) || c.toNat = 0x85 ||
    c.toNat = 0xA0 || c.toNat = 0x1680 || (0x2000 ≤ c.toNat && c.toNat ≤ 0x200A) ||
    c.toNat = 0x2028 || c.toNat = 0x2029 || c.toNat = 0x202F || c.toNat = 0x205F ||
    c.toNat = 0x3000

/-- `text.strip()`. -/
def stripped (s : String) : String := String.ofList (s.toList.strip isSpace)

@[simp] theorem stripped_stripped (s : String) : stripped (stripped s) = stripped s := by
  rw [stripped, stripped, String.toList_ofList, List.strip_strip]

@[simp] theorem stripped_empty : stripped "" = "" := rfl

/-- What the development messages need beside `Texts`. -/
structure DevTexts extends Texts where
  /-- `str(datetime)` of an instant in UTC, given in microseconds. -/
  dateText : ℕ → String
  /-- `c.isalnum()`. -/
  isAlnum : Char → Bool
  isAlnum_ascii : ∀ c : Char, c.isAlphanum = true → isAlnum c = true

instance : Inhabited DevTexts where
  default :=
    { (default : Texts) with
      dateText := strokes
      isAlnum := Char.isAlphanum
      isAlnum_ascii := fun _ h => h }

theorem Texts.str_or (texts : Texts) (s word : String) :
    texts.str (if (Json.str s).truthy then .str s else .str word) = if s = "" then word else s := by
  by_cases h : s = ""
  · simp [Json.truthy, h]
  · simp [Json.truthy, h]

/-! ## Rows -/

/-- `DevelopmentTask.STATUS_CHOICES`. -/
inductive DevTaskStatus
  | created | published | running | cancelling
  | succeeded | failed | cancelled | timedOut | rejected
  deriving DecidableEq

/-- `DevelopmentTask.TERMINAL_STATES`. -/
def DevTaskStatus.isTerminal : DevTaskStatus → Bool
  | .succeeded | .failed | .cancelled | .timedOut | .rejected => true
  | .created | .published | .running | .cancelling => false

/-- `DevelopmentTask.ACTIVE_STATES`. -/
def DevTaskStatus.isActive : DevTaskStatus → Bool
  | .created | .published | .running | .cancelling => true
  | .succeeded | .failed | .cancelled | .timedOut | .rejected => false

def allowedWorkspaces : List String := ["robot-main", "cloud-platform"]

def defaultCodexModel : String := "gpt-5.6-terra"

def allowedCodexModels : List String := ["gpt-5.6-sol", "gpt-5.6-terra", "gpt-5.6-luna"]

/-- `DevelopmentTask`; the robot is named by its code. -/
structure DevelopmentTask where
  id : Uuid
  robot : String
  workspace : String
  model : String := defaultCodexModel
  executionMode : String := "execute"
  prompt : String
  status : DevTaskStatus := .created
  operator : Option Uuid := none
  publishedAt : Option ℕ := none
  startedAt : Option ℕ := none
  finishedAt : Option ℕ := none
  cancelRequestedAt : Option ℕ := none
  cancelPublishedAt : Option ℕ := none
  exitCode : Option ℤ := none
  errorMessage : String := ""
  lastMessage : String := ""
  codexThreadId : String := ""
  createdAt : ℕ

/-- `DevelopmentConversationState` of a robot. -/
structure DevelopmentConversationState where
  mode : String := "execute"
  workspace : String := "robot-main"
  model : String := defaultCodexModel

/-- `DevelopmentTask.objects.filter(robot=robot, status__in=ACTIVE_STATES).first()`. -/
def activeTask? (tasks : List DevelopmentTask) (robot : String) : Option DevelopmentTask :=
  tasks.find? (fun t => decide (t.robot = robot) && t.status.isActive)

/-! ## Creation from the web -/

structure DevRefusal where
  httpStatus : ℕ
  detail : String
  activeTaskId : Option Uuid := none
  deriving DecidableEq

/-- `DevelopmentTaskListCreateView.post`, from the robot found on; `id` is the drawn one. -/
def createFromWeb (texts : DevTexts) (tasks : List DevelopmentTask) (robot : String)
    (data : List (String × Json)) (user : Option Uuid) (id : Uuid) (now : ℕ) :
    Except DevRefusal DevelopmentTask :=
  let workspace := stripped (texts.str (Json.getOr data "workspace" (.str "robot-main")))
  let prompt := stripped (texts.str (Json.getOr data "prompt" (.str "")))
  let model := stripped (texts.str (Json.getOr data "model" (.str defaultCodexModel)))
  if workspace ∉ allowedWorkspaces then .error ⟨400, "不允许的工作目录", none⟩
  else if prompt = "" then .error ⟨400, "请输入开发指令", none⟩
  else if 50000 < prompt.length then .error ⟨400, "指令长度不能超过 50000 字符", none⟩
  else if model ∉ allowedCodexModels then .error ⟨400, "不支持的 Codex 模型", none⟩
  else match activeTask? tasks robot with
    | some active => .error ⟨409, "该机器狗已有远程开发任务正在执行", some active.id⟩
    | none => .ok
        { id := id
          robot := robot
          workspace := workspace
          model := model
          prompt := prompt
          operator := user
          createdAt := now }

/-! ## Creation by voice -/

/-- `[\s，。,.!！?？]`. -/
def isPunctuation (c : Char) : Bool :=
  isSpace c || c ∈ ['，', '。', ',', '.', '!', '！', '?', '？']

inductive VoiceOutcome
  | ignored
  | busy
  | accepted (task : DevelopmentTask)

/-- `_handle_voice_audio`, from the command cut out of the transcript on. -/
def createFromVoice (tasks : List DevelopmentTask) (robot : String)
    (conversation : DevelopmentConversationState) (command : String) (id : Uuid) (now : ℕ) :
    VoiceOutcome :=
  if (command.toList.filter (fun c => !isPunctuation c)).length < 2 then .ignored
  else match activeTask? tasks robot with
    | some _ => .busy
    | none => .accepted
        { id := id
          robot := robot
          workspace := conversation.workspace
          model := conversation.model
          executionMode := conversation.mode
          prompt := command
          createdAt := now }

/-! ## The message -/

/-- The payload `publish_pending_development_tasks` publishes on the robot's `dev/tasks`. -/
def devTaskMessage (texts : DevTexts) (t : DevelopmentTask) : List (String × Json) :=
  [("task_id", .str (texts.uuidText t.id)),
    ("workspace", .str t.workspace),
    ("model", .str t.model),
    ("prompt", .str t.prompt),
    ("conversation_id", .str "main"),
    ("created_at", .str (texts.dateText t.createdAt))]

end RoamerX
