import RoamerX.Center.ParsingForms

set_option autoImplicit false

/-! # The center's parser ends well

`parse_message` looks at one field after the other; what is asked of a later field is asked of messages
whose earlier fields are in form. -/

namespace RoamerX

namespace CenterProtocol

open Excepts

variable {texts : Texts} {upper : String → String}

/-- A sequence number that is not negative, or none. -/
def NaturalOrNone : Option Json → Prop
  | none | some .null => True
  | some (.num (.int n)) => 0 ≤ n
  | _ => False

/-- The fields of a message up to its identifier. -/
structure HeadForm (texts : Texts) (data : List (String × Json)) (messageType : String)
    (payload : List (String × Json)) : Prop where
  version : ∃ value, Filled data "protocol_version" value ∧ texts.str value = "1.0"
  type : ∃ value, Filled data "message_type" value ∧ texts.str value = messageType
  known : messageType ∈ uplinkTypes ++ commandTypes
  robot : ∃ value, Filled data "robot_id" value ∧ texts.strip (texts.str value) ≠ ""
  sequence : NaturalOrNone (Json.get? data "sequence")
  payload : Json.get? data "payload" = some (.obj payload)
  session : ∃ value, Filled data "session_id" value ∧
    (messageType ∈ uplinkTypes → ∃ id, texts.uuid? (texts.str value) = some id)
  messageId : IsUuid texts data "message_id"

/-- The members of a message that is either refused or parsed. -/
structure Parsable (texts : Texts) (data : List (String × Json)) : Prop where
  sentAt : ∀ messageType payload, HeadForm texts data messageType payload →
    TimeReads texts data "sent_at"
  payload : ∀ messageType payload, HeadForm texts data messageType payload →
    (∃ instant, IsInstant texts data "sent_at" instant) → IsUuid texts data "trace_id" →
    PayloadReads texts messageType payload

/-! ## The fields -/

theorem checkVersion_eq_ok_iff {data : List (String × Json)} :
    checkVersion texts data = .ok () ↔
      ∃ value, Filled data "protocol_version" value ∧ texts.str value = "1.0" := by
  simp only [checkVersion, bind_eq_ok_iff, required_eq_ok_iff]
  refine exists_congr fun value => and_congr_right fun _ => ?_
  split_ifs with hversion <;> simp [hversion]

@[simp] theorem raisesOnly_checkVersion (data : List (String × Json)) :
    RaisesOnly Raised.IsProtocolError (checkVersion texts data) := by
  unfold checkVersion
  rw [raisesOnly_bind_iff]
  refine ⟨raisesOnly_required _ _, fun value _ => ?_⟩
  split_ifs
  · exact raisesOnly_ok ()
  · rw [raisesOnly_error]
    trivial

theorem readType_eq_ok_iff {data : List (String × Json)} {messageType : String} :
    readType texts data = .ok messageType ↔
      (∃ value, Filled data "message_type" value ∧ texts.str value = messageType) ∧
        messageType ∈ uplinkTypes ++ commandTypes := by
  simp only [readType, bind_eq_ok_iff, required_eq_ok_iff]
  constructor
  · rintro ⟨value, hvalue, h⟩
    by_cases hknown : texts.str value ∈ uplinkTypes ++ commandTypes
    · rw [if_pos hknown] at h
      cases h
      exact ⟨⟨value, hvalue, rfl⟩, hknown⟩
    · rw [if_neg hknown] at h
      exact absurd h (by simp [invalidMessage])
  · rintro ⟨⟨value, hvalue, rfl⟩, hknown⟩
    exact ⟨value, hvalue, if_pos hknown⟩

@[simp] theorem raisesOnly_readType (data : List (String × Json)) :
    RaisesOnly Raised.IsProtocolError (readType texts data) := by
  unfold readType
  rw [raisesOnly_bind_iff]
  refine ⟨raisesOnly_required _ _, fun value _ => ?_⟩
  split_ifs
  · exact raisesOnly_ok _
  · exact raisesOnly_invalidMessage _

theorem readRobot_eq_ok_iff {data : List (String × Json)} {robotId : String} :
    readRobot texts data = .ok robotId ↔
      ∃ value, Filled data "robot_id" value ∧ texts.strip (texts.str value) = robotId ∧ robotId ≠ "" := by
  simp only [readRobot, bind_eq_ok_iff, required_eq_ok_iff]
  refine exists_congr fun value => and_congr_right fun _ => ?_
  by_cases hfilled : texts.strip (texts.str value) ≠ ""
  · rw [if_pos hfilled]
    constructor
    · rintro ⟨⟩
      exact ⟨rfl, hfilled⟩
    · rintro ⟨rfl, -⟩
      rfl
  · rw [if_neg hfilled]
    refine iff_of_false (by simp [invalidMessage]) ?_
    rintro ⟨rfl, h⟩
    exact hfilled h

@[simp] theorem raisesOnly_readRobot (data : List (String × Json)) :
    RaisesOnly Raised.IsProtocolError (readRobot texts data) := by
  unfold readRobot
  rw [raisesOnly_bind_iff]
  refine ⟨raisesOnly_required _ _, fun value _ => ?_⟩
  split_ifs
  · exact raisesOnly_ok _
  · exact raisesOnly_invalidMessage _

theorem readSequence_ok_iff {data : List (String × Json)} :
    (∃ sequence, readSequence data = .ok sequence) ↔ NaturalOrNone (Json.get? data "sequence") := by
  unfold readSequence
  cases Json.get? data "sequence" with
  | none => simp [NaturalOrNone]
  | some value =>
    cases value with
    | null => simp [NaturalOrNone]
    | num n =>
      cases n with
      | int n =>
        dsimp only
        split_ifs with hneg
        · simp [NaturalOrNone, invalidMessage, hneg]
        · simp [NaturalOrNone, not_lt.1 hneg]
      | _ => simp [NaturalOrNone, invalidMessage]
    | _ => simp [NaturalOrNone, invalidMessage]

@[simp] theorem raisesOnly_readSequence (data : List (String × Json)) :
    RaisesOnly Raised.IsProtocolError (readSequence data) := by
  unfold readSequence
  split
  · exact raisesOnly_ok _
  · exact raisesOnly_ok _
  · split_ifs
    · exact raisesOnly_invalidMessage _
    · exact raisesOnly_ok _
  · exact raisesOnly_invalidMessage _

theorem readPayload_eq_ok_iff {data payload : List (String × Json)} :
    readPayload data = .ok payload ↔ Json.get? data "payload" = some (.obj payload) := by
  simp only [readPayload, bind_eq_ok_iff, required_eq_ok_iff]
  constructor
  · rintro ⟨value, hvalue, h⟩
    cases value with
    | obj members =>
      cases h
      exact hvalue.1
    | _ => exact absurd h (by simp [invalidMessage])
  · intro h
    exact ⟨.obj payload, ⟨h, rfl⟩, rfl⟩

@[simp] theorem raisesOnly_readPayload (data : List (String × Json)) :
    RaisesOnly Raised.IsProtocolError (readPayload data) := by
  unfold readPayload
  rw [raisesOnly_bind_iff]
  refine ⟨raisesOnly_required _ _, fun value _ => ?_⟩
  split
  · exact raisesOnly_ok _
  · exact raisesOnly_invalidMessage _

theorem readSession_ok_iff {messageType : String} {data : List (String × Json)} :
    (∃ sessionId, readSession texts messageType data = .ok sessionId) ↔
      ∃ value, Filled data "session_id" value ∧
        (messageType ∈ uplinkTypes → ∃ id, texts.uuid? (texts.str value) = some id) := by
  simp only [readSession, bind_eq_ok_iff, required_eq_ok_iff]
  by_cases huplink : messageType ∈ uplinkTypes
  · simp only [if_pos huplink, bind_eq_ok_iff, parseUuid_eq_ok_iff]
    constructor
    · rintro ⟨sessionId, value, hvalue, id, hid, -⟩
      exact ⟨value, hvalue, fun _ => ⟨id, hid⟩⟩
    · rintro ⟨value, hvalue, h⟩
      obtain ⟨id, hid⟩ := h huplink
      exact ⟨texts.uuidText id, value, hvalue, id, hid, rfl⟩
  · simp only [if_neg huplink]
    constructor
    · rintro ⟨sessionId, value, hvalue, -⟩
      exact ⟨value, hvalue, fun h => absurd h huplink⟩
    · rintro ⟨value, hvalue, -⟩
      exact ⟨texts.str value, value, hvalue, rfl⟩

theorem of_readSession {messageType sessionId : String} {data : List (String × Json)}
    (h : readSession texts messageType data = .ok sessionId) (huplink : messageType ∈ uplinkTypes) :
    ∃ id, sessionId = texts.uuidText id := by
  unfold readSession at h
  obtain ⟨value, _, h⟩ := bind_eq_ok h
  rw [if_pos huplink] at h
  obtain ⟨id, _, h⟩ := bind_eq_ok h
  cases h
  exact ⟨id, rfl⟩

@[simp] theorem raisesOnly_readSession (messageType : String) (data : List (String × Json)) :
    RaisesOnly Raised.IsProtocolError (readSession texts messageType data) := by
  unfold readSession
  rw [raisesOnly_bind_iff]
  refine ⟨raisesOnly_required _ _, fun value _ => ?_⟩
  split_ifs
  · simp only [raisesOnly_bind_iff, raisesOnly_parseUuid, raisesOnly_pure, true_and, implies_true]
  · exact raisesOnly_pure _

/-! ## The whole parser -/

theorem envelopeForm_of_parseMembers {data : List (String × Json)} {e : MessageEnvelope}
    (h : parseMembers texts upper data = .ok e) : EnvelopeForm texts upper e := by
  simp only [parseMembers, bind_eq_ok_iff] at h
  obtain ⟨_, hversion, messageType, htype, robotId, hrobot, sequence, hsequence, payload, hpayload,
    sessionId, hsession, messageId, hmessageId, id, hid, sentAt, hsentAt, instant, hinstant, traceId,
    htraceId, trace, htrace, _, hvalid, ⟨⟩⟩ := h
  obtain ⟨-, -, -, hfilled⟩ := readRobot_eq_ok_iff.1 hrobot
  exact ⟨(readType_eq_ok_iff.1 htype).2, hfilled, of_readSession hsession, of_validatePayload hvalid⟩

theorem raisesOnly_parseMembers (data : List (String × Json)) :
    RaisesOnly Raised.IsProtocolError (parseMembers texts upper data) ↔ Parsable texts data := by
  simp only [parseMembers, raisesOnly_bind_iff, raisesOnly_checkVersion, raisesOnly_readType,
    raisesOnly_readRobot, raisesOnly_readSequence, raisesOnly_readPayload, raisesOnly_readSession,
    raisesOnly_required, raisesOnly_parseUuid, raisesOnly_normalizeTimestamp,
    raisesOnly_validatePayload, raisesOnly_pure, true_and, and_true, implies_true, required_eq_ok_iff,
    parseUuid_eq_ok_iff, normalizeTimestamp_eq_ok_iff]
  constructor
  · intro h
    have hhead : ∀ messageType payload, HeadForm texts data messageType payload →
        ∀ sentAt, Filled data "sent_at" sentAt → texts.datetime (texts.str sentAt) ≠ .impossible ∧
          ∀ instant, texts.datetime (texts.str sentAt) = .aware instant →
          ∀ traceId, Filled data "trace_id" traceId →
          ∀ trace, texts.uuid? (texts.str traceId) = some trace →
            PayloadReads texts messageType payload := by
      intro messageType payload hform
      obtain ⟨robotId, hrobotId, hfilled⟩ := hform.robot
      obtain ⟨sequence, hsequence⟩ := readSequence_ok_iff.2 hform.sequence
      obtain ⟨sessionId, hsession⟩ := readSession_ok_iff.2 hform.session
      obtain ⟨messageId, id, hmessageId, hid⟩ := hform.messageId
      exact h () (checkVersion_eq_ok_iff.2 hform.version) messageType
        (readType_eq_ok_iff.2 ⟨hform.type, hform.known⟩) (texts.strip (texts.str robotId))
        (readRobot_eq_ok_iff.2 ⟨robotId, hrobotId, rfl, hfilled⟩) sequence hsequence payload
        (readPayload_eq_ok_iff.2 hform.payload) sessionId hsession messageId hmessageId id hid
    constructor
    · intro messageType payload hform sentAt hsentAt
      exact (hhead messageType payload hform sentAt hsentAt).1
    · rintro messageType payload hform ⟨instant, sentAt, hsentAt, hinstant⟩ ⟨traceId, trace, htraceId,
        htrace⟩
      exact (hhead messageType payload hform sentAt hsentAt).2 instant hinstant traceId htraceId trace
        htrace
  · intro h _ hversion messageType htype robotId hrobot sequence hsequence payload hpayload sessionId
      hsession messageId hmessageId id hid sentAt hsentAt
    obtain ⟨robot, hfound, hstripped, hfilled⟩ := readRobot_eq_ok_iff.1 hrobot
    have hform : HeadForm texts data messageType payload :=
      ⟨checkVersion_eq_ok_iff.1 hversion, (readType_eq_ok_iff.1 htype).1, (readType_eq_ok_iff.1 htype).2,
        ⟨robot, hfound, hstripped ▸ hfilled⟩, readSequence_ok_iff.1 ⟨sequence, hsequence⟩,
        readPayload_eq_ok_iff.1 hpayload, readSession_ok_iff.1 ⟨sessionId, hsession⟩,
        messageId, id, hmessageId, hid⟩
    refine ⟨h.sentAt messageType payload hform sentAt hsentAt, ?_⟩
    intro instant hinstant traceId htraceId trace htrace
    exact h.payload messageType payload hform ⟨instant, sentAt, hsentAt, hinstant⟩
      ⟨traceId, trace, htraceId, htrace⟩

/-- `parse_message` ends in a `ProtocolError` or in an envelope in form, for a message as it arrives. -/
theorem endsIn_parseMessage (loads : String → LoadedText) (raw : RawMessage) :
    EndsIn Raised.IsProtocolError (EnvelopeForm texts upper) (parseMessage texts upper loads raw) ↔
      raw.Reads loads (Parsable texts) := by
  unfold parseMessage
  rw [RawMessage.endsIn_read_iff]
  have hmembers : ∀ data, EndsIn Raised.IsProtocolError (EnvelopeForm texts upper)
      (parseMembers texts upper data) ↔ Parsable texts data := by
    intro data
    rw [endsIn_iff, raisesOnly_parseMembers]
    constructor
    · intro h
      exact h.1
    · intro h
      exact ⟨h, fun e he => envelopeForm_of_parseMembers he⟩
  simp only [hmembers]

end CenterProtocol

end RoamerX
