import RoamerX.Protocol.TaskStart
import RoamerX.Lib.Excepts

set_option autoImplicit false

/-! # Messages as they arrive

A message comes as bytes, as a text or as a value that was read before. Both ends decode it to the
members of an object, the same way but for one text, and look up its first field. -/

namespace RoamerX

open Excepts

inductive RawMessage
  | bytes (raw : ByteArray)
  | value (raw : Json)

/-- What `json.loads` makes of a text. Its limits depend on the interpreter. -/
inductive LoadedText
  | value (value : Json)
  /-- `JSONDecodeError`. -/
  | invalid
  /-- An integer has more digits than `int` converts: `ValueError`. -/
  | integerTooLong
  /-- The text is nested deeper than the recursion limit: `RecursionError`. -/
  | nestedTooDeep

namespace RawMessage

variable (loads : String → LoadedText)

/-- `json.loads`, where only `JSONDecodeError` is caught. -/
def loadText (invalid : String) (text : String) : Except Raised Json :=
  match loads text with
  | .value data => .ok data
  | .invalid => invalidMessage invalid
  | .integerTooLong => .error (.other "ValueError")
  | .nestedTooDeep => .error (.other "RecursionError")

/-- What a message holds: its bytes are UTF-8, a text is loaded and an object taken as it is. -/
def load (invalid : String) : RawMessage → Except Raised Json
  | .bytes raw =>
    match String.fromUTF8? raw with
    | some text => loadText loads invalid text
    | none => .error (.other "UnicodeDecodeError")
  | .value (.str text) => loadText loads invalid text
  | .value (.obj members) => .ok (.obj members)
  | .value _ => invalidMessage "message must be JSON object"

/-- `"protocol_version" in data` for a text. -/
def namesVersion (text : String) : Bool := decide ("protocol_version".toList <:+: text.toList)

/-- `"protocol_version" in data` for a list. -/
def listsVersion (items : List Json) : Bool :=
  items.any fun item => match item with
    | .str text => decide (text = "protocol_version")
    | _ => false

/-- The members of an object; from anything else the first field is looked up in vain, or not at all. -/
def members : Json → Except Raised (List (String × Json))
  | .obj members => .ok members
  | .str text =>
    if namesVersion text then .error (.other "TypeError")
    else invalidMessage "missing required field: protocol_version"
  | .arr items =>
    if listsVersion items then .error (.other "TypeError")
    else invalidMessage "missing required field: protocol_version"
  | .null | .bool _ | .num _ => .error (.other "TypeError")

def read (invalid : String) (raw : RawMessage) : Except Raised (List (String × Json)) :=
  raw.load loads invalid >>= members

/-- A loaded value is an object that meets `P`, or a text or a list that does not name the version. -/
def ValueReads (P : List (String × Json) → Prop) : Json → Prop
  | .obj members => P members
  | .str text => namesVersion text = false
  | .arr items => listsVersion items = false
  | .null | .bool _ | .num _ => False

/-- A text is no JSON, or within the limits and read so. -/
def TextReads (P : List (String × Json) → Prop) (text : String) : Prop :=
  match loads text with
  | .value data => ValueReads P data
  | .invalid => True
  | .integerTooLong | .nestedTooDeep => False

/-- The message is UTF-8 and read so; `P` is asked of an object. -/
def Reads (P : List (String × Json) → Prop) : RawMessage → Prop
  | .bytes raw =>
    match String.fromUTF8? raw with
    | some text => TextReads loads P text
    | none => False
  | .value (.str text) => TextReads loads P text
  | .value (.obj members) => P members
  | .value _ => True

end RawMessage

/-- It is a `ProtocolError`. -/
def Raised.IsProtocolError : Raised → Prop
  | .protocol _ => True
  | .other _ => False

@[simp] theorem raisesOnly_invalidMessage {α : Type} (message : String) :
    RaisesOnly Raised.IsProtocolError (invalidMessage message : Except Raised α) := by
  rw [invalidMessage, raisesOnly_error]
  trivial

@[simp] theorem raisesOnly_checkAll (checks : List (Bool × String)) :
    RaisesOnly Raised.IsProtocolError (checkAll checks) := by
  induction checks with
  | nil => exact raisesOnly_ok ()
  | cons check checks ih =>
    rw [checkAll]
    split_ifs
    · exact ih
    · exact raisesOnly_invalidMessage _

theorem checkAll_eq_ok_iff {checks : List (Bool × String)} :
    checkAll checks = .ok () ↔ ∀ check ∈ checks, check.1 = true := by
  induction checks with
  | nil => simp [checkAll]
  | cons check checks ih =>
    rw [checkAll, List.forall_mem_cons]
    split_ifs with hholds
    · rw [ih]
      simp [hholds]
    · simp [hholds, invalidMessage]

/-- The loop over the waypoints raises only errors of a kind when the check of each waypoint does that
    it comes to. -/
theorem raisesOnly_checkEach_iff {P : Raised → Prop} {check : ℕ → Json → Except Raised Unit} {start : ℕ}
    {waypoints : List Json} :
    RaisesOnly P (checkEach check start waypoints) ↔
      ∀ n waypoint, waypoints[n]? = some waypoint →
        (∀ m < n, ∀ before, waypoints[m]? = some before → check (start + m) before = .ok ()) →
        RaisesOnly P (check (start + n) waypoint) := by
  induction waypoints generalizing start with
  | nil => simp [checkEach]
  | cons first rest ih =>
    rw [checkEach]
    cases hfirst : check start first with
    | error e =>
      constructor
      · intro h n waypoint hn hbefore
        rcases n with _ | n
        · obtain rfl := Option.some.inj hn
          rw [Nat.add_zero, hfirst]
          exact (raisesOnly_error e).2 ((raisesOnly_error e).1 h)
        · have hpassed := hbefore 0 (by omega) first rfl
          rw [Nat.add_zero, hfirst] at hpassed
          exact absurd hpassed (by simp)
      · intro h
        have hraised := h 0 first rfl (fun m hm => absurd hm (by omega))
        rwa [Nat.add_zero, hfirst] at hraised
    | ok _ =>
      dsimp only
      rw [ih]
      constructor
      · intro h n waypoint hn hbefore
        rcases n with _ | n
        · obtain rfl := Option.some.inj hn
          rw [Nat.add_zero, hfirst]
          exact raisesOnly_ok _
        · have hrest := h n waypoint hn
          rw [Nat.add_right_comm start 1 n] at hrest
          refine hrest ?_
          intro m hm before hat
          have hpassed := hbefore (m + 1) (by omega) before hat
          rwa [← Nat.add_assoc, Nat.add_right_comm] at hpassed
      · intro h n waypoint hn hbefore
        have hnext := h (n + 1) waypoint hn
        rw [← Nat.add_assoc, Nat.add_right_comm] at hnext
        refine hnext ?_
        intro m hm before hat
        rcases m with _ | m
        · obtain rfl := Option.some.inj hat
          exact hfirst
        · have hpassed := hbefore m (by omega) before hat
          rwa [← Nat.add_assoc, Nat.add_right_comm]

theorem checkEach_eq_ok_iff {check : ℕ → Json → Except Raised Unit} {start : ℕ} {waypoints : List Json} :
    checkEach check start waypoints = .ok () ↔
      ∀ n waypoint, waypoints[n]? = some waypoint → check (start + n) waypoint = .ok () := by
  induction waypoints generalizing start with
  | nil => simp [checkEach]
  | cons first rest ih =>
    rw [checkEach]
    cases hfirst : check start first with
    | error e =>
      constructor
      · intro h
        exact absurd h (by simp)
      · intro h
        have hpassed := h 0 first rfl
        rw [Nat.add_zero, hfirst] at hpassed
        exact absurd hpassed (by simp)
    | ok _ =>
      dsimp only
      rw [ih]
      constructor
      · intro h n waypoint hn
        rcases n with _ | n
        · obtain rfl := Option.some.inj hn
          exact hfirst
        · have hrest := h n waypoint hn
          rwa [Nat.add_right_comm] at hrest
      · intro h n waypoint hn
        have hnext := h (n + 1) waypoint hn
        rwa [← Nat.add_assoc, Nat.add_right_comm] at hnext

namespace RawMessage

variable {loads : String → LoadedText} {α : Type} {f : List (String × Json) → Except Raised α}
  {Q : α → Prop}

theorem endsIn_value (data : Json) :
    EndsIn Raised.IsProtocolError Q (members data >>= f) ↔
      ValueReads (fun members => EndsIn Raised.IsProtocolError Q (f members)) data := by
  rw [endsIn_bind_iff]
  cases data with
  | obj m => simp [members, ValueReads]
  | str text =>
    cases h : namesVersion text with
    | true => simp [members, ValueReads, h, Raised.IsProtocolError]
    | false => simp [members, ValueReads, h, Raised.IsProtocolError, invalidMessage]
  | arr items =>
    cases h : listsVersion items with
    | true => simp [members, ValueReads, h, Raised.IsProtocolError]
    | false => simp [members, ValueReads, h, Raised.IsProtocolError, invalidMessage]
  | null => simp [members, ValueReads, Raised.IsProtocolError]
  | bool b => simp [members, ValueReads, Raised.IsProtocolError]
  | num n => simp [members, ValueReads, Raised.IsProtocolError]

theorem endsIn_text (invalid text : String) :
    EndsIn Raised.IsProtocolError Q (loadText loads invalid text >>= fun data => members data >>= f) ↔
      TextReads loads (fun members => EndsIn Raised.IsProtocolError Q (f members)) text := by
  rw [endsIn_bind_iff]
  unfold loadText TextReads
  cases loads text with
  | value data => exact endsIn_value data
  | invalid => simp [invalidMessage, Raised.IsProtocolError]
  | integerTooLong => simp [Raised.IsProtocolError]
  | nestedTooDeep => simp [Raised.IsProtocolError]

/-- What follows the decoding of a message ends in a `ProtocolError` or as it should when it does so for
    the members of an object, and the decoding itself raises nothing else. -/
theorem endsIn_read_iff (invalid : String) (raw : RawMessage) :
    EndsIn Raised.IsProtocolError Q (raw.read loads invalid >>= f) ↔
      raw.Reads loads (fun members => EndsIn Raised.IsProtocolError Q (f members)) := by
  unfold read
  rw [bind_assoc]
  cases raw with
  | bytes raw =>
    cases hread : String.fromUTF8? raw with
    | none => simp [load, Reads, hread, endsIn_bind_iff, Raised.IsProtocolError]
    | some text =>
      simp only [load, Reads, hread]
      exact endsIn_text invalid text
  | value data =>
    cases data with
    | str text => exact endsIn_text invalid text
    | obj m => exact endsIn_value (.obj m)
    | null => simp [load, Reads, invalidMessage, endsIn_bind_iff, Raised.IsProtocolError]
    | bool b => simp [load, Reads, invalidMessage, endsIn_bind_iff, Raised.IsProtocolError]
    | num n => simp [load, Reads, invalidMessage, endsIn_bind_iff, Raised.IsProtocolError]
    | arr items => simp [load, Reads, invalidMessage, endsIn_bind_iff, Raised.IsProtocolError]

end RawMessage

end RoamerX
