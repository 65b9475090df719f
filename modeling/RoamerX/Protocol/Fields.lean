import RoamerX.Protocol.TaskStart

set_option autoImplicit false

/-! # Fields in form

What the errors of both `protocol.py` modules ask of single members, in words that do not depend on the
order in which the members are looked at. -/

namespace RoamerX

/-- The member is there and not `None`. -/
def Filled (mapping : List (String × Json)) (key : String) (value : Json) : Prop :=
  Json.get? mapping key = some value ∧ value.isNull = false

def IsUuid (texts : Texts) (mapping : List (String × Json)) (key : String) : Prop :=
  ∃ value id, Filled mapping key value ∧ texts.uuid? (texts.str value) = some id

/-- The members of the pose are all numbers. -/
def PoseNumeric (command : List (String × Json)) : Prop :=
  ∀ field ∈ ["x", "y", "yaw"], isNumeric (Json.get? command field) = true

/-- The text of the member is one of the choices. -/
def OneOf (texts : Texts) (choices : List String) (value : Json) : Prop :=
  texts.lower (texts.str value) ∈ choices

def HasHash : Option Json → Prop
  | some (.arr _) | some (.obj _) => False
  | _ => True

theorem filled_of_isNumeric {command : List (String × Json)} {field : String}
    (h : isNumeric (Json.get? command field) = true) : ∃ value, Filled command field value := by
  cases hvalue : Json.get? command field with
  | none => rw [hvalue] at h; exact absurd h (by simp [isNumeric])
  | some value =>
    rw [hvalue] at h
    cases value with
    | num n => exact ⟨.num n, hvalue, rfl⟩
    | _ => exact absurd h (by simp [isNumeric])

end RoamerX
