import RoamerX.DevTasks.DevTaskRequest

set_option autoImplicit false

/-! # What an order means at the robot

The message of a task names no execution mode, and the parser takes an absent one for `execute`. So a
task means what was ordered exactly where it was ordered to be executed; a task ordered as a plan is
executed, with the sandbox of an executed task. -/

namespace RoamerX

variable {texts : DevTexts} {t : DevelopmentTask} {r : DevTaskRequest}

/-- The request orders what the row does. -/
structure SameOrder (texts : DevTexts) (t : DevelopmentTask) (r : DevTaskRequest) : Prop where
  taskId : r.taskId = texts.uuidText t.id
  workspace : r.workspace = t.workspace
  model : r.model = t.model
  executionMode : r.executionMode = t.executionMode
  prompt : stripped r.prompt = stripped t.prompt

/-- Every process the request can start reads only where the row is a plan. -/
def PlansReadOnly (t : DevelopmentTask) (r : DevTaskRequest) : Prop :=
  t.executionMode = "plan" → ∀ config workspaces sessionId argv,
    startedArgv? config workspaces sessionId r = some argv → ReadOnlySandbox argv

/-- What the agent parses from the row's message is the row's order. -/
def MeansItsOrder (texts : DevTexts) (t : DevelopmentTask) : Prop :=
  ∀ r, DevTaskRequest.parse texts (devTaskMessage texts t) = .ok r →
    SameOrder texts t r ∧ PlansReadOnly t r

/-! ## What is parsed -/

/-- The model the parser finds: an empty one is its default. -/
def DevelopmentTask.modelOrDefault (t : DevelopmentTask) : String :=
  if t.model = "" then defaultCodexModel else t.model

/-- The rows whose message the parser refuses. -/
def DevelopmentTask.IsRefused (t : DevelopmentTask) : Prop :=
  stripped t.prompt = "" ∨ 50000 < (stripped t.prompt).length ∨ stripped t.workspace = "" ∨
    stripped t.modelOrDefault ∉ allowedCodexModels

def requestOf (texts : DevTexts) (t : DevelopmentTask) : DevTaskRequest where
  taskId := texts.uuidText t.id
  prompt := stripped t.prompt
  workspace := stripped t.workspace
  model := stripped t.modelOrDefault

theorem orEmpty (s : String) : (if s = "" then "" else s) = s := by
  split_ifs with h
  · exact h.symm
  · rfl

@[simp] theorem strippedMember_prompt :
    strippedMember texts (devTaskMessage texts t) "prompt" "" = stripped t.prompt := by
  rw [← orEmpty t.prompt, ← texts.str_or t.prompt ""]
  rfl

@[simp] theorem strippedMember_workspace :
    strippedMember texts (devTaskMessage texts t) "workspace" "" = stripped t.workspace := by
  rw [← orEmpty t.workspace, ← texts.str_or t.workspace ""]
  rfl

@[simp] theorem strippedMember_model :
    strippedMember texts (devTaskMessage texts t) "model" defaultCodexModel =
      stripped t.modelOrDefault := by
  rw [DevelopmentTask.modelOrDefault, ← texts.str_or t.model defaultCodexModel]
  rfl

@[simp] theorem strippedMember_conversationId :
    strippedMember texts (devTaskMessage texts t) "conversation_id" "main" = "main" := by
  rw [strippedMember, show Json.getOr (devTaskMessage texts t) "conversation_id" (.str "main")
    = .str "main" from rfl, texts.str_str]
  rfl

@[simp] theorem strippedMember_executionMode :
    strippedMember texts (devTaskMessage texts t) "execution_mode" "execute" = "execute" := by
  rw [strippedMember, show Json.getOr (devTaskMessage texts t) "execution_mode" (.str "execute")
    = .str "execute" from rfl, texts.str_str]
  rfl

@[simp] theorem taskId_devTaskMessage :
    (Json.get? (devTaskMessage texts t) "task_id").bind
      (fun value => texts.uuid? (texts.str value)) = some t.id := by
  rw [show Json.get? (devTaskMessage texts t) "task_id" = some (.str (texts.uuidText t.id)) from rfl]
  simp

theorem isConversationId_main : isConversationId texts "main" = true := by
  have halnum : ∀ c ∈ ['m', 'a', 'i', 'n'], texts.isAlnum c = true := by
    intro c hc
    have hascii : ['m', 'a', 'i', 'n'].all Char.isAlphanum = true := rfl
    exact texts.isAlnum_ascii c (List.all_eq_true.1 hascii c hc)
  simp only [isConversationId]
  rw [show "main".toList.filter (fun c => decide (c ≠ '_') && decide (c ≠ '-')) =
    ['m', 'a', 'i', 'n'] from rfl, List.all_eq_true.2 halnum]
  rfl

/-- **The parser on a row's message.** -/
theorem parse_devTaskMessage (h : ¬ t.IsRefused) :
    DevTaskRequest.parse texts (devTaskMessage texts t) = .ok (requestOf texts t) := by
  simp only [DevelopmentTask.IsRefused, not_or, not_not] at h
  obtain ⟨hprompt, hlength, hworkspace, hmodel⟩ := h
  simp only [DevTaskRequest.parse, taskId_devTaskMessage, strippedMember_prompt, strippedMember_workspace,
    strippedMember_model, strippedMember_conversationId, strippedMember_executionMode,
    isConversationId_main, if_neg hprompt, if_neg hlength, if_neg hworkspace]
  rw [if_neg (by simp), if_neg (not_not.2 hmodel), if_neg (by decide)]
  rfl

theorem not_isRefused_of_parse
    (h : DevTaskRequest.parse texts (devTaskMessage texts t) = .ok r) : ¬ t.IsRefused := by
  simp only [DevTaskRequest.parse, taskId_devTaskMessage, strippedMember_prompt, strippedMember_workspace,
    strippedMember_model] at h
  split_ifs at h with hprompt hlength hworkspace hconversation hmodel hmode
  rintro (h1 | h1 | h1 | h1)
  · exact hprompt h1
  · exact hlength h1
  · exact hworkspace h1
  · exact h1 hmodel

/-! ## The order -/

/-- The rows the message says all of: a row to be executed, whose workspace and model are not
    changed by the parser. -/
def DevelopmentTask.IsPlain (t : DevelopmentTask) : Prop :=
  t.executionMode = "execute" ∧ stripped t.workspace = t.workspace ∧ t.model ∈ allowedCodexModels

theorem stripped_of_mem_allowed {model : String} (h : model ∈ allowedCodexModels) :
    model ≠ "" ∧ stripped model = model := by
  simp only [allowedCodexModels, List.mem_cons, List.not_mem_nil, or_false] at h
  rcases h with rfl | rfl | rfl
  · decide
  · decide
  · decide

theorem sameOrder_requestOf (h : t.IsPlain) : SameOrder texts t (requestOf texts t) := by
  obtain ⟨hmode, hworkspace, hmodel⟩ := h
  obtain ⟨hne, hstrip⟩ := stripped_of_mem_allowed hmodel
  refine ⟨rfl, hworkspace, ?_, hmode.symm, stripped_stripped t.prompt⟩
  rw [requestOf, DevelopmentTask.modelOrDefault, if_neg hne, hstrip]

theorem isPlain_of_sameOrder (hnot : ¬ t.IsRefused) (h : SameOrder texts t (requestOf texts t)) :
    t.IsPlain := by
  refine ⟨h.executionMode.symm, h.workspace, ?_⟩
  have hmodel : stripped t.modelOrDefault = t.model := h.model
  simp only [DevelopmentTask.IsRefused, not_or, not_not] at hnot
  rw [← hmodel]
  exact hnot.2.2.2

/-- **What an order means.** The agent takes the message of a row for the row's order exactly where
    it refuses the message or the row is to be executed, as its stored workspace and model say. -/
theorem meansItsOrder_iff (texts : DevTexts) (t : DevelopmentTask) :
    MeansItsOrder texts t ↔ t.IsRefused ∨ t.IsPlain := by
  constructor
  · intro h
    by_cases hrefused : t.IsRefused
    · exact Or.inl hrefused
    · obtain ⟨hsame, -⟩ := h _ (parse_devTaskMessage hrefused)
      exact Or.inr (isPlain_of_sameOrder hrefused hsame)
  · intro h r hparse
    have hnot := not_isRefused_of_parse hparse
    have hplain := h.resolve_left hnot
    rw [parse_devTaskMessage hnot] at hparse
    obtain rfl : requestOf texts t = r := Except.ok.inj hparse
    refine ⟨sameOrder_requestOf hplain, ?_⟩
    intro hplan
    exact absurd (hplain.1.symm.trans hplan) (by decide)

/-! ## The rows the center creates -/

/-- A plan for the robot's main workspace, spoken as `检查导航`. -/
def spokenPlan : DevelopmentTask where
  id := 6
  robot := "R1"
  workspace := "robot-main"
  executionMode := "plan"
  prompt := "检查导航"
  createdAt := 0

/-- The plan spoken to a planning conversation starts a process without any sandbox. -/
theorem spokenPlan_executed :
    createFromVoice [] "R1" { mode := "plan" } "检查导航" 6 0 = .accepted spokenPlan ∧
      startedArgv? { binary := "codex" } [("robot-main", "/work")] none
          (requestOf default spokenPlan) =
        some ["codex", "exec", "--model", "gpt-5.6-terra", "--json",
          "--dangerously-bypass-approvals-and-sandbox", "-C", "/work", "-"] ∧
      ¬ MeansItsOrder default spokenPlan := by
  have hcreated : createFromVoice [] "R1" { mode := "plan" } "检查导航" 6 0 = .accepted spokenPlan := rfl
  have haccepted : ¬ spokenPlan.IsRefused := by
    simp only [DevelopmentTask.IsRefused, not_or, not_not]
    decide
  refine ⟨hcreated, by decide, ?_⟩
  intro h
  obtain ⟨hsame, -⟩ := h _ (parse_devTaskMessage haccepted)
  exact absurd hsame.executionMode (by decide)

end RoamerX
