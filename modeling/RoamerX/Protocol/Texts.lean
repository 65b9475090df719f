import RoamerX.Center.Models
import RoamerX.Protocol.Json

set_option autoImplicit false

/-! # Texts

What Python's standard library and Django make of texts: identifiers, timestamps, the text of a value
and the value of a text. The functions are parameters; the laws are what both ends rely on, mainly
that each end reads what the other writes. -/

namespace RoamerX

/-- What a parser of timestamps makes of a text. -/
inductive ParsedTime
  /-- Not a timestamp. -/
  | unreadable
  /-- Well formed, but no date: `parse_datetime` raises `ValueError`. -/
  | impossible
  /-- A timestamp without a timezone. -/
  | naive
  | aware (instant : ℕ)
  deriving DecidableEq

/-- A word of lower-case letters, digits and underscores. -/
def plainWord (s : String) : Bool :=
  s.toList.all (fun c => c.isLower || c.isDigit || decide (c = '_'))

structure Texts where
  /-- `str(value)`. -/
  str : Json → String
  /-- `text.lower()`. -/
  lower : String → String
  /-- `text.strip()`. -/
  strip : String → String
  /-- `uuid.UUID(text)`; `none` is `ValueError`. -/
  uuid? : String → Option Uuid
  /-- `str(id)`. -/
  uuidText : Uuid → String
  /-- `parse_datetime(text)`. -/
  datetime : String → ParsedTime
  /-- `datetime.fromisoformat(text.replace("Z", "+00:00"))`, for which no date is no text. -/
  fromIsoFormat : String → ParsedTime
  /-- `isoformat(timespec="milliseconds")` of an instant in UTC, given in milliseconds. -/
  isoText : ℕ → String
  /-- `float(value)`; `none` is an exception. -/
  float? : Json → Option JsonNumber
  /-- `int(value)`; `none` is an exception. -/
  int? : Json → Option ℤ
  /-- `list(value)`; `none` is an exception. -/
  list? : Json → Option (List Json)
  str_str : ∀ s, str (.str s) = s
  lower_plain : ∀ s, plainWord s = true → lower s = s
  uuid?_uuidText : ∀ id, uuid? (uuidText id) = some id
  uuid?_null : uuid? (str .null) = none
  uuid?_empty : uuid? "" = none
  datetime_isoText : ∀ ms, datetime (isoText ms) = .aware (1000 * ms)
  fromIsoFormat_isoText : ∀ ms, fromIsoFormat (isoText ms) = .aware (1000 * ms)

attribute [simp] Texts.str_str Texts.uuid?_uuidText Texts.uuid?_null Texts.datetime_isoText
  Texts.fromIsoFormat_isoText

theorem Texts.uuidText_ne_empty (texts : Texts) (id : Uuid) : texts.uuidText id ≠ "" := by
  intro h
  have hread := texts.uuid?_uuidText id
  rw [h, texts.uuid?_empty] at hread
  exact nomatch hread

/-! ## The laws can be met -/

def strokes (n : ℕ) : String := String.ofList (List.replicate n 'i')

def countStrokes (s : String) : Option ℕ :=
  if s.toList.all (fun c => decide (c = 'i')) then some s.toList.length else none

theorem countStrokes_strokes (n : ℕ) : countStrokes (strokes n) = some n := by
  simp [countStrokes, strokes]

/-- One stroke more than the identifier. -/
def strokeId (s : String) : Option Uuid := (countStrokes s).bind (fun n =>
  if n = 0 then none else some (n - 1))

theorem strokeId_strokes (id : Uuid) : strokeId (strokes (id + 1)) = some id := by
  simp [strokeId, countStrokes_strokes]

/-- As many milliseconds as there are strokes. -/
def strokeTime (s : String) : ParsedTime :=
  match countStrokes s with
  | some ms => .aware (1000 * ms)
  | none => .unreadable

theorem strokeTime_strokes (ms : ℕ) : strokeTime (strokes ms) = .aware (1000 * ms) := by
  rw [strokeTime, countStrokes_strokes]

/-- Identifiers and instants as rows of strokes. -/
instance : Inhabited Texts where
  default :=
    { str := fun value => match value with
        | .str s => s
        | _ => "None"
      lower := id
      strip := id
      uuid? := strokeId
      uuidText := fun id => strokes (id + 1)
      datetime := strokeTime
      fromIsoFormat := strokeTime
      isoText := strokes
      float? := fun value => match value with
        | .num (.int n) => some (.float n)
        | .num (.float q) => some (.float q)
        | _ => none
      int? := fun value => match value with
        | .num (.int n) => some n
        | _ => none
      list? := fun value => match value with
        | .arr items => some items
        | _ => none
      str_str := fun _ => rfl
      lower_plain := fun _ _ => rfl
      uuid?_uuidText := strokeId_strokes
      uuid?_null := by decide
      uuid?_empty := by decide
      datetime_isoText := strokeTime_strokes
      fromIsoFormat_isoText := strokeTime_strokes }

end RoamerX
