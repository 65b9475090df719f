import RoamerX.DevTasks.Models
import RoamerX.Lib.Run
import RoamerX.Lib.Strip
import Mathlib.Data.Rat.Defs
import Mathlib.Logic.Function.Basic
import Mathlib.Tactic.NormNum

set_option autoImplicit false

/-! # Waking the robot by voice

`_handle_voice_audio` of `dev_message_handlers.py`: a transcript that starts with a wake phrase carries a command of its
own or opens a window for the next one. A phrase is matched by its characters or by the sound of its syllables; the
conversion to pinyin is not part of the repository. -/

namespace RoamerX

namespace VoiceWake

abbrev Text := List Char

/-! ## The sound of a wake phrase -/

def wakeShortAliases : List Text := ["太阳".toList, "太陽".toList]

def wakeAliases : List Text := ["小太阳".toList, "小太陽".toList, "有太阳".toList] ++ wakeShortAliases

def falsePositivePrefixes : List Text := ["太阳宫".toList]

def commandPrefixes : List Text :=
  ["请", "帮", "给", "把", "将",
    "查", "看", "检查", "查看", "确认", "分析", "定位",
    "修改", "修复", "解决", "调整", "优化", "更新", "实现",
    "新增", "增加", "删除", "移除", "创建", "生成", "保存",
    "提交", "推送", "部署", "执行", "运行", "测试", "验证",
    "启动", "停止", "重启", "打开", "关闭", "取消", "继续",
    "播放", "设置"].map String.toList

def wakePinyin : List Text := ["xiao".toList, "tai".toList, "yang".toList]

def wakeShortPinyin : List Text := ["tai".toList, "yang".toList]

def pinyinInitials : List Text :=
  ["zh", "ch", "sh",
    "b", "p", "m", "f", "d", "t", "n", "l", "g", "k", "h",
    "j", "q", "x", "r", "z", "c", "s", "y", "w"].map String.toList

def nearInitialGroups : List (List Text) :=
  [["b", "p"], ["d", "t"], ["g", "k"], ["n", "l"], ["f", "h"], ["j", "q", "x"], ["z", "zh"], ["c", "ch"],
    ["s", "sh"]].map (List.map String.toList)

/-- `VOICE_WAKE_WINDOW_SECONDS`, in microseconds. -/
def wakeWindow : ℕ := 8000000

def splitPinyinSyllable (syllable : Text) : Text × Text :=
  let normalized := (syllable.map fun c => if c = 'ü' then 'v' else c.toLower).filter fun c => decide ('a' ≤ c ∧ c ≤ 'z')
  match pinyinInitials.find? fun initial => initial.isPrefixOf normalized with
  | some initial => (initial, normalized.drop initial.length)
  | none => ([], normalized)

def initialSimilarity (expected actual : Text) : ℚ :=
  if expected = actual then 1
  else if nearInitialGroups.any fun group => group.contains expected && group.contains actual then 1 / 2
  else 0

def rimeSimilarity (expected actual : Text) : ℚ :=
  if expected = actual then 1
  else if 2 ≤ min expected.length actual.length ∧ (actual.isSuffixOf expected ∨ expected.isSuffixOf actual) then 3 / 4
  else 0

def syllableSimilarity (expected actual : Text) : ℚ :=
  if expected = actual then 1
  else
    let (expectedInitial, expectedRime) := splitPinyinSyllable expected
    let (actualInitial, actualRime) := splitPinyinSyllable actual
    let rimeScore := rimeSimilarity expectedRime actualRime
    if rimeScore = 0 then 0
    else 3 / 4 * rimeScore + 1 / 4 * initialSimilarity expectedInitial actualInitial

/-! ## Matching a wake phrase -/

/-- `[，。,.!！?？：:；;、]` -/
def isSeparator (c : Char) : Bool := c ∈ ['，', '。', ',', '.', '!', '！', '?', '？', '：', ':', '；', ';', '、']

/-- `[\u4e00-\u9fff]` -/
def isChinese (c : Char) : Bool := decide (0x4e00 ≤ c.toNat ∧ c.toNat ≤ 0x9fff)

def hasShortWakeBoundary (transcript : Text) (prefixEnd : ℕ) : Bool :=
  match transcript.drop prefixEnd with
  | [] => true
  | c :: rest => isSpace c || isSeparator c || commandPrefixes.any fun lead => lead.isPrefixOf (c :: rest)

variable (lazyPinyin : Text → List Text)

/-- The scores of the syllables that are expected. -/
def scores (expected : List Text) (syllables : List Text) : List ℚ :=
  (expected.zip syllables).map fun pair => syllableSimilarity pair.1 pair.2

def highScores (values : List ℚ) : ℕ := values.countP fun score => decide (95 / 100 ≤ score)

/-- The wake phrase that the first characters sound like, and where it ends. -/
def matchBySound (transcript : Text) : Option (ℕ × Text) :=
  let leading := (transcript.takeWhile isSpace).length
  let candidate := ((transcript.drop leading).takeWhile isChinese).take 3
  if candidate.length < 2 then none
  else
    let syllables := lazyPinyin candidate
    let whole := scores wakePinyin syllables
    if syllables.length = 3 ∧ 5 / 2 ≤ whole.sum ∧ 2 ≤ highScores whole then some (leading + candidate.length, candidate)
    else
      let cores := (if candidate.length = 3 then [((candidate.drop 1).take 2, candidate.length)] else []) ++
        [(candidate.take 2, 2)]
      cores.findSome? fun core =>
        let syllables := lazyPinyin core.1
        let values := scores wakeShortPinyin syllables
        let prefixEnd := leading + core.2
        if syllables.length = 2 ∧ 3 / 2 ≤ values.sum ∧ 1 ≤ highScores values ∧
            hasShortWakeBoundary transcript prefixEnd = true then
          some (prefixEnd, candidate.take core.2)
        else none

/-- `_fuzzy_wake_match`; there is no match where the phrase is empty. -/
def fuzzyWakeMatch (transcript : Text) : ℕ × Text :=
  let prefixStart := (transcript.takeWhile isSpace).length
  let exact := wakeAliases.find? fun phrase =>
    phrase.isPrefixOf (transcript.drop prefixStart) &&
      (!wakeShortAliases.contains phrase || hasShortWakeBoundary transcript (prefixStart + phrase.length))
  match exact with
  | some phrase => (prefixStart + phrase.length, phrase)
  | none => (matchBySound lazyPinyin transcript).getD (0, [])

def isDoubleWakePhrase (transcript : Text) : Bool :=
  let compact := transcript.filter fun c => !isPunctuation c
  wakeAliases.any fun phrase => (phrase ++ phrase).isPrefixOf compact

def isFalseWakePhrase (transcript : Text) : Bool :=
  let compact := transcript.filter fun c => !(isSpace c || isSeparator c)
  falsePositivePrefixes.any fun place => place.isPrefixOf compact

def looksLikeShortWakeAttempt (transcript : Text) : Bool :=
  let compact := transcript.filter fun c => !isPunctuation c
  if 4 < compact.length then false
  else
    let candidate := compact.take 3
    if candidate.length = 3 ∧ candidate.all isChinese = true then
      match lazyPinyin candidate with
      | [] => false
      | syllable :: _ => decide (95 / 100 ≤ syllableSimilarity "xiao".toList syllable)
    else false

/-! ## One transcript -/

structure Window where
  wakeUntil : Option ℕ := none
  wakeCount : Option (ℕ × ℕ) := none

inductive Status
  | noSpeech
  | ignored
  | armed
  | busy
  | accepted
  deriving DecidableEq

structure Reply where
  status : Status
  ack : Option String := none
  command : Text := []
  task : Option DevelopmentTask := none

/-- `strip(" ，。,.!！?？：:；;、")` -/
def cleaned (command : Text) : Text := command.strip fun c => decide (c = ' ') || isSeparator c

/-- What is around a transcript when it is handled. -/
structure Context where
  robot : String
  now : ℕ
  tasks : List DevelopmentTask
  conversation : DevelopmentConversationState
  id : Uuid

def conclude (context : Context) (window : Window) (wakeMatched : Bool) (command : Text) : Window × Reply :=
  match createFromVoice context.tasks context.robot context.conversation (String.ofList command) context.id context.now with
  | .ignored => (window, if wakeMatched then { status := .armed, ack := some "我在" } else { status := .ignored })
  | .busy => ({}, { status := .busy, ack := some "我正在处理上一条任务，请稍后再说", command })
  | .accepted task => ({}, { status := .accepted, ack := some "收到", command, task := some task })

def handleVoiceAudio (context : Context) (window : Window) (transcript : Text) : Window × Reply :=
  let now := context.now
  if transcript = [] then (window, { status := .noSpeech })
  else if isFalseWakePhrase transcript then ({}, { status := .ignored })
  else if isDoubleWakePhrase transcript then
    ({ wakeUntil := some (now + wakeWindow), wakeCount := some (now, 2) }, { status := .armed, ack := some "在呢" })
  else
    let (wakeEnd, wakePhrase) := fuzzyWakeMatch lazyPinyin transcript
    if wakePhrase ≠ [] then
      let command := cleaned (transcript.drop wakeEnd)
      if command = [] then
        let count := match window.wakeCount with
          | some (last, count) => if now - last ≤ wakeWindow then count + 1 else 1
          | none => 1
        ({ wakeUntil := some (now + wakeWindow), wakeCount := some (now, count) },
          { status := .armed, ack := some (if 2 ≤ count then "在呢" else "收到") })
      else conclude context { wakeUntil := some (now + wakeWindow) } true command
    else
      match window.wakeUntil with
      | some armedUntil =>
        if now ≤ armedUntil then
          if looksLikeShortWakeAttempt lazyPinyin transcript then
            ({ window with wakeUntil := some (now + wakeWindow) }, { status := .armed, ack := some "在呢" })
          else conclude context window false transcript
        else conclude context { window with wakeUntil := none } false []
      | none => conclude context window false []

/-! ## Transcripts of several robots -/

/-- A transcript that was handled, and the tasks before it. -/
structure Entry where
  robot : String
  now : ℕ
  transcript : Text
  tasks : List DevelopmentTask
  reply : Reply

/-- The log has the newest entry first. -/
structure State where
  windows : String → Window := fun _ => {}
  now : ℕ := 0
  tasks : List DevelopmentTask := []
  log : List Entry := []

inductive Event
  /-- A transcript arrives some time after the last event. -/
  | heard (robot : String) (delay : ℕ) (transcript : String) (conversation : DevelopmentConversationState) (id : Uuid)
  /-- The tasks are changed by others. -/
  | changed (tasks : List DevelopmentTask)

def step (s : State) : Event → State
  | .heard robot delay transcript conversation id =>
    let now := s.now + delay
    let (window, reply) := handleVoiceAudio lazyPinyin ⟨robot, now, s.tasks, conversation, id⟩ (s.windows robot)
      transcript.toList
    { windows := Function.update s.windows robot window
      now
      tasks := s.tasks ++ reply.task.toList
      log := ⟨robot, now, transcript.toList, s.tasks, reply⟩ :: s.log }
  | .changed tasks => { s with tasks }

/-! ## When a task may be created -/

/-- The transcript itself is a wake phrase with a command of at least two characters. -/
def Spoken (entry : Entry) : Prop :=
  (fuzzyWakeMatch lazyPinyin entry.transcript).2 ≠ [] ∧
    entry.reply.command = cleaned (entry.transcript.drop (fuzzyWakeMatch lazyPinyin entry.transcript).1) ∧
    2 ≤ (entry.reply.command.filter fun c => !isPunctuation c).length

/-- An earlier transcript of the robot has armed it, and nothing has closed its window since. -/
def ArmedBy (entry : Entry) (earlier : List Entry) : Prop :=
  ∃ later armed older, earlier = later ++ armed :: older ∧ armed.robot = entry.robot ∧
    armed.reply.status = .armed ∧ armed.now ≤ entry.now ∧ entry.now ≤ armed.now + wakeWindow ∧
    ∀ between ∈ later, between.robot = entry.robot → isFalseWakePhrase between.transcript = false ∧
      between.reply.status ≠ .accepted ∧ between.reply.status ≠ .busy ∧ between.now ≤ armed.now + wakeWindow

/-- A text is a wake phrase and nothing else. -/
def IsWakePhrase (text : Text) : Prop :=
  (fuzzyWakeMatch lazyPinyin text).2 ≠ [] ∧ (fuzzyWakeMatch lazyPinyin text).1 = text.length

instance (text : Text) : Decidable (IsWakePhrase lazyPinyin text) := inferInstanceAs (Decidable (_ ∧ _))

/-- What holds of an entry that created a task. -/
structure Justified (entry : Entry) (earlier : List Entry) : Prop where
  woken : Spoken lazyPinyin entry ∨ ArmedBy entry earlier
  prompt : ¬ IsWakePhrase lazyPinyin entry.reply.command
  idle : activeTask? entry.tasks entry.robot = none

def Sound (log : List Entry) : Prop :=
  ∀ later entry earlier, log = later ++ entry :: earlier → entry.reply.status = .accepted →
    Justified lazyPinyin entry earlier

/-- A wake phrase is followed by just another one, and this is not told from a command. -/
def RepeatsWake (transcript : Text) : Prop :=
  isDoubleWakePhrase transcript = false ∧ (fuzzyWakeMatch lazyPinyin transcript).2 ≠ [] ∧
    IsWakePhrase lazyPinyin (cleaned (transcript.drop (fuzzyWakeMatch lazyPinyin transcript).1))

instance (transcript : Text) : Decidable (RepeatsWake lazyPinyin transcript) :=
  inferInstanceAs (Decidable (_ ∧ _ ∧ _))

/-! ## What one transcript does -/

section Handled

variable {lazyPinyin} {context : Context} {window : Window} {transcript : Text}

theorem createFromVoice_accepted {tasks : List DevelopmentTask} {robot : String}
    {conversation : DevelopmentConversationState} {command : String} {id : Uuid} {now : ℕ} {task : DevelopmentTask}
    (h : createFromVoice tasks robot conversation command id now = .accepted task) :
    2 ≤ (command.toList.filter fun c => !isPunctuation c).length ∧ activeTask? tasks robot = none := by
  unfold createFromVoice at h
  split at h
  · cases h
  rename_i hlength
  split at h
  · cases h
  rename_i hidle
  exact ⟨not_lt.mp hlength, hidle⟩

/-- How a transcript ends that has a command. -/
inductive Concluded (context : Context) (window : Window) (wakeMatched : Bool) (command : Text) :
    Window × Reply → Prop
  | refused (reply : Reply) : reply.status = (if wakeMatched then .armed else .ignored) →
      Concluded context window wakeMatched command (window, reply)
  | busy (reply : Reply) : reply.status = .busy → Concluded context window wakeMatched command ({}, reply)
  | accepted (reply : Reply) : reply.status = .accepted → reply.command = command →
      2 ≤ (command.filter fun c => !isPunctuation c).length → activeTask? context.tasks context.robot = none →
      Concluded context window wakeMatched command ({}, reply)

theorem concluded_conclude (context : Context) (window : Window) (wakeMatched : Bool) (command : Text) :
    Concluded context window wakeMatched command (conclude context window wakeMatched command) := by
  unfold conclude
  split
  · refine .refused _ ?_
    cases wakeMatched <;> rfl
  · exact .busy _ rfl
  · rename_i task htask
    obtain ⟨hlength, hidle⟩ := createFromVoice_accepted htask
    rw [String.toList_ofList] at hlength
    exact .accepted _ rfl rfl hlength hidle

/-- What a transcript may do to the window of its robot, and when it creates a task. -/
structure Handles (lazyPinyin : Text → List Text) (context : Context) (window : Window) (transcript : Text)
    (result : Window × Reply) : Prop where
  kept : ∀ armedUntil, result.1.wakeUntil = some armedUntil →
    (result.2.status = .armed ∧ armedUntil = context.now + wakeWindow) ∨
    (window.wakeUntil = some armedUntil ∧ isFalseWakePhrase transcript = false ∧ result.2.status ≠ .accepted ∧
      result.2.status ≠ .busy)
  created : result.2.status = .accepted →
    isDoubleWakePhrase transcript = false ∧ activeTask? context.tasks context.robot = none ∧
    2 ≤ (result.2.command.filter fun c => !isPunctuation c).length ∧
    ((fuzzyWakeMatch lazyPinyin transcript).2 ≠ [] ∧
        result.2.command = cleaned (transcript.drop (fuzzyWakeMatch lazyPinyin transcript).1) ∨
      (fuzzyWakeMatch lazyPinyin transcript).2 = [] ∧ result.2.command = transcript ∧
        ∃ armedUntil, window.wakeUntil = some armedUntil ∧ context.now ≤ armedUntil)

theorem Handles.of_other {result : Window × Reply} (hstatus : result.2.status ≠ .accepted)
    (hkept : ∀ armedUntil, result.1.wakeUntil = some armedUntil →
      (result.2.status = .armed ∧ armedUntil = context.now + wakeWindow) ∨
      (window.wakeUntil = some armedUntil ∧ isFalseWakePhrase transcript = false ∧ result.2.status ≠ .busy)) :
    Handles lazyPinyin context window transcript result :=
  ⟨fun armedUntil h => (hkept armedUntil h).imp_right fun h => ⟨h.1, h.2.1, hstatus, h.2.2⟩,
    fun h => absurd h hstatus⟩

theorem not_falseWakePhrase_nil : isFalseWakePhrase [] = false := rfl

theorem handles_handleVoiceAudio (lazyPinyin : Text → List Text) (context : Context) (window : Window)
    (transcript : Text) :
    Handles lazyPinyin context window transcript (handleVoiceAudio lazyPinyin context window transcript) := by
  unfold handleVoiceAudio
  dsimp only
  split
  · rename_i hempty
    subst hempty
    exact .of_other (by simp) fun armedUntil h => Or.inr ⟨h, not_falseWakePhrase_nil, by simp⟩
  split
  · exact .of_other (by simp) fun armedUntil h => by cases h
  rename_i hplace
  have hplace' : isFalseWakePhrase transcript = false := Bool.eq_false_iff.mpr hplace
  split
  · exact .of_other (by simp) fun armedUntil h => Or.inl ⟨rfl, (Option.some.inj h).symm⟩
  rename_i hdouble
  have hdouble' : isDoubleWakePhrase transcript = false := Bool.eq_false_iff.mpr hdouble
  split
  · -- the transcript is a wake phrase, with or without a command
    rename_i hphrase
    split
    · exact .of_other (by simp) fun armedUntil h => Or.inl ⟨rfl, (Option.some.inj h).symm⟩
    · have hconcluded := concluded_conclude context { wakeUntil := some (context.now + wakeWindow) } true
        (cleaned (transcript.drop (fuzzyWakeMatch lazyPinyin transcript).1))
      generalize conclude context _ true _ = result at hconcluded
      cases hconcluded with
      | refused reply hstatus =>
        exact .of_other (by simp [hstatus]) fun armedUntil h => Or.inl ⟨hstatus, (Option.some.inj h).symm⟩
      | busy reply hstatus => exact .of_other (by simp [hstatus]) fun armedUntil h => by cases h
      | accepted reply hstatus hcommand hlength hidle =>
        refine ⟨fun armedUntil h => (by cases h), fun _ => ⟨hdouble', hidle, ?_, Or.inl ⟨hphrase, hcommand⟩⟩⟩
        rw [hcommand]
        exact hlength
  · rename_i hphrase
    have hphrase' := not_not.mp hphrase
    -- an empty command is refused
    have hnothing : ∀ closed : Window, (∀ armedUntil, closed.wakeUntil = some armedUntil →
        window.wakeUntil = some armedUntil) →
        Handles lazyPinyin context window transcript (conclude context closed false []) := by
      intro closed hclosed
      have hconcluded := concluded_conclude context closed false []
      generalize conclude context closed false [] = result at hconcluded
      cases hconcluded with
      | refused reply hstatus =>
        exact .of_other (by simp [hstatus]) fun armedUntil h => Or.inr ⟨hclosed armedUntil h, hplace', by simp [hstatus]⟩
      | busy reply hstatus => exact .of_other (by simp [hstatus]) fun armedUntil h => by cases h
      | accepted reply hstatus hcommand hlength => exact absurd hlength (by decide)
    split
    · rename_i armedUntil hwindow
      split
      · rename_i hopen
        split
        · exact .of_other (by simp) fun armedUntil h => Or.inl ⟨rfl, (Option.some.inj h).symm⟩
        · have hconcluded := concluded_conclude context window false transcript
          generalize conclude context window false transcript = result at hconcluded
          cases hconcluded with
          | refused reply hstatus =>
            exact .of_other (by simp [hstatus]) fun armedUntil h => Or.inr ⟨h, hplace', by simp [hstatus]⟩
          | busy reply hstatus => exact .of_other (by simp [hstatus]) fun armedUntil h => by cases h
          | accepted reply hstatus hcommand hlength hidle =>
            refine ⟨fun armedUntil h => (by cases h), fun _ => ⟨hdouble', hidle, ?_,
              Or.inr ⟨hphrase', hcommand, armedUntil, hwindow, hopen⟩⟩⟩
            rw [hcommand]
            exact hlength
      · exact hnothing _ fun armedUntil h => by cases h
    · exact hnothing _ fun armedUntil h => h

end Handled

/-! ## Runs -/

section Runs

variable {lazyPinyin} {s : State}

/-- The robot was armed until then, and nothing has closed its window. -/
def Armed (log : List Entry) (robot : String) (armedUntil : ℕ) : Prop :=
  ∃ later armed older, log = later ++ armed :: older ∧ armed.robot = robot ∧ armed.reply.status = .armed ∧
    armedUntil = armed.now + wakeWindow ∧
    ∀ between ∈ later, between.robot = robot → isFalseWakePhrase between.transcript = false ∧
      between.reply.status ≠ .accepted ∧ between.reply.status ≠ .busy

structure Inv (lazyPinyin : Text → List Text) (s : State) : Prop where
  sound : Sound lazyPinyin s.log
  past : ∀ entry ∈ s.log, entry.now ≤ s.now
  armed : ∀ robot armedUntil, (s.windows robot).wakeUntil = some armedUntil → Armed s.log robot armedUntil

theorem Armed.cons {log : List Entry} {robot : String} {armedUntil : ℕ} (h : Armed log robot armedUntil) {entry : Entry}
    (hentry : entry.robot = robot → isFalseWakePhrase entry.transcript = false ∧ entry.reply.status ≠ .accepted ∧
      entry.reply.status ≠ .busy) : Armed (entry :: log) robot armedUntil := by
  obtain ⟨later, armed, older, rfl, hrobot, hstatus, huntil, hlater⟩ := h
  refine ⟨entry :: later, armed, older, rfl, hrobot, hstatus, huntil, fun between hbetween => ?_⟩
  rcases List.mem_cons.mp hbetween with rfl | hbetween
  · exact hentry
  · exact hlater between hbetween

theorem Armed.armedBy {log : List Entry} {armedUntil : ℕ} {entry : Entry} (h : Armed log entry.robot armedUntil)
    (hopen : entry.now ≤ armedUntil) (hpast : ∀ other ∈ log, other.now ≤ entry.now) : ArmedBy entry log := by
  obtain ⟨later, armed, older, rfl, hrobot, hstatus, rfl, hlater⟩ := h
  refine ⟨later, armed, older, rfl, hrobot, hstatus, hpast armed (by simp), hopen, fun between hbetween hsame => ?_⟩
  obtain ⟨hplace, haccepted, hbusy⟩ := hlater between hbetween hsame
  exact ⟨hplace, haccepted, hbusy, (hpast between (List.mem_append_left _ hbetween)).trans hopen⟩

theorem Sound.cons {log : List Entry} (h : Sound lazyPinyin log) {entry : Entry}
    (hentry : entry.reply.status = .accepted → Justified lazyPinyin entry log) : Sound lazyPinyin (entry :: log) := by
  intro later other earlier heq haccepted
  cases later with
  | nil =>
    obtain ⟨rfl, rfl⟩ := List.cons.inj heq
    exact hentry haccepted
  | cons first later => exact h later other earlier (List.cons.inj heq).2 haccepted

/-- The transcripts of an event do not repeat the wake phrase. -/
def Plain (lazyPinyin : Text → List Text) : Event → Prop
  | .heard _ _ transcript _ _ => ¬ RepeatsWake lazyPinyin transcript.toList
  | .changed _ => True

instance (event : Event) : Decidable (Plain lazyPinyin event) :=
  match event with
  | .heard _ _ transcript _ _ => inferInstanceAs (Decidable (¬ RepeatsWake lazyPinyin transcript.toList))
  | .changed _ => .isTrue trivial

theorem inv_step (h : Inv lazyPinyin s) {event : Event} (hplain : Plain lazyPinyin event) :
    Inv lazyPinyin (step lazyPinyin s event) := by
  cases event with
  | changed tasks => exact ⟨h.sound, h.past, h.armed⟩
  | heard robot delay transcript conversation id =>
    have hhandles := handles_handleVoiceAudio lazyPinyin ⟨robot, s.now + delay, s.tasks, conversation, id⟩
      (s.windows robot) transcript.toList
    have hpast : ∀ entry ∈ s.log, entry.now ≤ s.now + delay := fun entry hentry =>
      (h.past entry hentry).trans (Nat.le_add_right _ _)
    refine ⟨h.sound.cons fun haccepted => ?_, fun entry hentry => ?_, fun other armedUntil huntil => ?_⟩
    · obtain ⟨hdouble, hidle, hlength, hwoken⟩ := hhandles.created haccepted
      refine ⟨?_, fun hwake => ?_, hidle⟩
      · rcases hwoken with ⟨hphrase, hcommand⟩ | ⟨-, -, armedUntil, hwindow, hopen⟩
        · exact Or.inl ⟨hphrase, hcommand, hlength⟩
        · exact Or.inr ((h.armed robot armedUntil hwindow).armedBy hopen hpast)
      · have hprompt : IsWakePhrase lazyPinyin (handleVoiceAudio lazyPinyin
            ⟨robot, s.now + delay, s.tasks, conversation, id⟩ (s.windows robot) transcript.toList).2.command := hwake
        rcases hwoken with ⟨hphrase, hcommand⟩ | ⟨hphrase, hcommand, -⟩
        · rw [hcommand] at hprompt
          exact hplain ⟨hdouble, hphrase, hprompt⟩
        · rw [hcommand] at hprompt
          exact hprompt.1 hphrase
    · rcases List.mem_cons.mp hentry with rfl | hentry
      · exact le_refl _
      · exact hpast entry hentry
    · change (Function.update s.windows robot _ other).wakeUntil = some armedUntil at huntil
      by_cases hother : other = robot
      · subst hother
        rw [Function.update_self] at huntil
        rcases hhandles.kept armedUntil huntil with ⟨hstatus, hnow⟩ | ⟨hwindow, hplace, haccepted, hbusy⟩
        · exact ⟨[], _, s.log, rfl, rfl, hstatus, hnow, fun _ hbetween => absurd hbetween List.not_mem_nil⟩
        · exact (h.armed other armedUntil hwindow).cons fun _ => ⟨hplace, haccepted, hbusy⟩
      · rw [Function.update_of_ne hother] at huntil
        exact (h.armed other armedUntil huntil).cons fun hsame => absurd hsame.symm hother

/-- Without a wake phrase that is repeated untold, every task that is created is justified. -/
theorem sound_of_plain (lazyPinyin : Text → List Text) (events : List Event)
    (hplain : ∀ event ∈ events, Plain lazyPinyin event) : Sound lazyPinyin (Run.exec (step lazyPinyin) {} events).log := by
  have hinv : Inv lazyPinyin (Run.exec (step lazyPinyin) {} events) := by
    induction events using List.reverseRecOn with
    | nil =>
      refine ⟨fun later entry earlier heq => ?_, fun _ hentry => absurd hentry List.not_mem_nil, fun _ _ h => by cases h⟩
      exact absurd heq.symm (by simp)
    | append_singleton events event ih =>
      rw [Run.exec_concat]
      exact inv_step (ih fun other hother => hplain other (List.mem_append_left _ hother))
        (hplain event (List.mem_append_right _ (List.mem_singleton_self _)))
  exact hinv.sound

end Runs

section Examples

def withoutPinyin : Text → List Text := fun _ => []

/-- A command in the window that a wake phrase has opened. -/
def wakeThenCommand : List Event :=
  [.heard "nx" 0 "小太阳" {} 0, .heard "nx" 3000000 "检查导航" {} 1]

theorem sound_wakeThenCommand : Sound withoutPinyin (Run.exec (step withoutPinyin) {} wakeThenCommand).log :=
  sound_of_plain withoutPinyin wakeThenCommand (by decide)

/-- The wake phrase twice, with a separator that the test for a double one does not leave out. -/
def repeatedWake : List Event := [.heard "nx" 0 "小太阳、小太阳" {} 0]

/-- The second wake phrase becomes the prompt of a task. -/
theorem not_sound_repeatedWake : ¬ Sound withoutPinyin (Run.exec (step withoutPinyin) {} repeatedWake).log := by
  intro h
  have hcreated : ∀ entry ∈ (Run.exec (step withoutPinyin) {} repeatedWake).log.head?,
      entry.reply.status = .accepted ∧ IsWakePhrase withoutPinyin entry.reply.command := by decide
  cases hlog : (Run.exec (step withoutPinyin) {} repeatedWake).log with
  | nil => cases hlog
  | cons entry earlier =>
    obtain ⟨haccepted, hwake⟩ := hcreated entry (by rw [hlog]; rfl)
    exact (h [] entry earlier hlog haccepted).prompt hwake

end Examples

end VoiceWake

end RoamerX
