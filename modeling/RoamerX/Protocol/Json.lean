import Mathlib.Data.Rat.Defs

set_option autoImplicit false

/-! # What the two ends exchange

JSON values as Python reads them, and the exception both `protocol.py` modules raise for a message
or a command they refuse. -/

namespace RoamerX

structure ProtocolError where
  code : String
  message : String
  deriving DecidableEq

/-- A number of a JSON text: an `int`, a finite `float`, or a NaN or infinity, which Python reads
    and writes as well. -/
inductive JsonNumber
  | int (n : ℤ)
  | float (q : ℚ)
  | nonfinite
  deriving DecidableEq

/-- A JSON value. An object is the list of its members, no two under one key. -/
inductive Json
  | null
  | bool (b : Bool)
  | num (n : JsonNumber)
  | str (s : String)
  | arr (items : List Json)
  | obj (members : List (String × Json))
  deriving Inhabited

namespace Json

/-- `mapping.get(key)`, where `none` is an absent key. -/
def get? (members : List (String × Json)) (key : String) : Option Json :=
  (members.find? (fun member => decide (member.1 = key))).map (·.2)

@[simp] theorem get?_nil (key : String) : get? [] key = none := rfl

@[simp] theorem get?_cons (member : String × Json) (members : List (String × Json)) (key : String) :
    get? (member :: members) key =
      if member.1 = key then some member.2 else get? members key := by
  by_cases h : member.1 = key
  · simp [get?, h]
  · simp [get?, h]

/-- `mapping[key] = value`. -/
def set : List (String × Json) → String → Json → List (String × Json)
  | [], key, value => [(key, value)]
  | member :: members, key, value =>
    if member.1 = key then (key, value) :: members else member :: set members key value

@[simp] theorem get?_set (members : List (String × Json)) (key : String) (value : Json)
    (other : String) :
    get? (set members key value) other =
      if key = other then some value else get? members other := by
  induction members with
  | nil => rw [set, get?_cons]
  | cons member members ih =>
    rw [set]
    by_cases hkey : member.1 = key
    · rw [if_pos hkey, get?_cons, get?_cons, hkey]
      by_cases hother : key = other
      · rw [if_pos hother, if_pos hother]
      · rw [if_neg hother, if_neg hother, if_neg hother]
    · rw [if_neg hkey, get?_cons, get?_cons, ih]
      by_cases hother : member.1 = other
      · have hne : key ≠ other := fun h => hkey (hother.trans h.symm)
        rw [if_pos hother, if_neg hne, if_pos hother]
      · rw [if_neg hother, if_neg hother]

/-- `value is None`. -/
def isNull : Json → Bool
  | .null => true
  | _ => false

/-- `bool(value)`. -/
def truthy : Json → Bool
  | .null => false
  | .bool b => b
  | .num (.int n) => decide (n ≠ 0)
  | .num (.float q) => decide (q ≠ 0)
  | .num .nonfinite => true
  | .str s => decide (s ≠ "")
  | .arr items => !items.isEmpty
  | .obj members => !members.isEmpty

/-- `payload.get(key) or default`. -/
def getOr (payload : List (String × Json)) (key : String) (default : Json) : Json :=
  match get? payload key with
  | some value => if value.truthy then value else default
  | none => default

/-- `value == n` for an integer `n`; `True` and `False` are the integers 1 and 0. -/
def equalsInt (n : ℤ) : Option Json → Bool
  | some (.num (.int m)) => decide (m = n)
  | some (.num (.float q)) => decide (q = n)
  | some (.bool b) => decide ((if b then 1 else 0) = n)
  | _ => false

end Json

/-- How a Python function ends that does not return. -/
inductive Raised
  | protocol (error : ProtocolError)
  /-- Any other exception, by its class. -/
  | other (exception : String)
  deriving DecidableEq

end RoamerX
