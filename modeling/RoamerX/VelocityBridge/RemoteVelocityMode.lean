import Mathlib.Data.Rat.Defs
import Mathlib.Algebra.Order.Ring.Rat
import Mathlib.Algebra.Order.Group.Abs
import Mathlib.Tactic.Linarith

set_option autoImplicit false

/-! # Velocities and the vendor controller's modes

`remote_velocity_mode.hpp`, and the arithmetic on `float` and `double` that the velocity bridge does.
A floating-point value is a rational, an infinity or NaN: arithmetic is exact, and comparisons with
NaN are false as in the source. -/

namespace RoamerX.VelocityBridge

/-- A `float` or `double`. -/
inductive Double where
  | finite (value : ℚ)
  | infinity (negative : Bool)
  | nan
  deriving DecidableEq

namespace Double

instance : Zero Double := ⟨finite 0⟩

/-- `a < b`. -/
def lt : Double → Double → Bool
  | finite a, finite b => a < b
  | finite _, infinity negative => !negative
  | infinity negative, finite _ => negative
  | infinity negative, infinity negative' => negative && !negative'
  | nan, _ => false
  | _, nan => false

/-- `a <= b`. -/
def le : Double → Double → Bool
  | finite a, finite b => a ≤ b
  | finite _, infinity negative => !negative
  | infinity negative, finite _ => negative
  | infinity negative, infinity negative' => negative || !negative'
  | nan, _ => false
  | _, nan => false

def fabs : Double → Double
  | finite a => finite |a|
  | infinity _ => infinity false
  | nan => nan

/-- `std::copysign` of a finite magnitude. -/
def copysign (magnitude : ℚ) : Double → Double
  | finite a => finite (if a < 0 then -|magnitude| else |magnitude|)
  | infinity negative => finite (if negative then -|magnitude| else |magnitude|)
  | nan => finite |magnitude|

def clamp (value lo hi : Double) : Double :=
  if value.lt lo then lo else if hi.lt value then hi else value

def div : Double → ℚ → Double
  | finite a, b =>
    if b = 0 then (if a = 0 then nan else infinity (a < 0)) else finite (a / b)
  | infinity negative, b => infinity (negative != decide (b < 0))
  | nan, _ => nan

def isFinite : Double → Bool
  | finite _ => true
  | _ => false

end Double

/-! ## `remote_velocity_mode.hpp` -/

def kNavStickVxFullScale : ℚ := (30 / 100) / (45 / 100)
def kNavStickVyFullScale : ℚ := (225 / 1000) / (45 / 100)
def kNavStickYawFullScale : ℚ := (525 / 1000) / (45 / 100)

def normalizeRemoteStick (value : Double) (maxValue minStick : ℚ) (liftToMin : Bool) : Double :=
  if ¬ 0 < maxValue ∨ ¬ value.isFinite then 0
  else
    let stick := (value.div maxValue).clamp (.finite (-1)) (.finite 1)
    if stick.fabs.le (.finite (1 / 10000)) then 0
    else if stick.fabs.lt (.finite minStick) then
      if liftToMin then .copysign minStick stick else stick
    else stick

inductive RequestedPosture where
  | none
  | standing
  | low
  deriving DecidableEq

inductive RemoteVelocityDisposition where
  | emergencyStop
  | waitForLowPosture
  | sendLowPostureVelocity
  | requestMoveMode
  | sendMoveVelocity
  deriving DecidableEq

/-- `zsibot::ControlMode`, with the modes the bridge compares with by name. -/
inductive ControlMode where
  | emergencyStop
  | standUp
  | moveMode
  | sitDown
  | other (value : ℕ)
  deriving DecidableEq

/-- `IsZeroPlanarVelocity` with its default epsilon. -/
def isZeroPlanarVelocity (vx vy yawRate : Double) : Bool :=
  Double.lt (.finite (-1 / 1000000)) vx && vx.lt (.finite (1 / 1000000)) &&
  Double.lt (.finite (-1 / 1000000)) vy && vy.lt (.finite (1 / 1000000)) &&
  Double.lt (.finite (-1 / 1000000)) yawRate && yawRate.lt (.finite (1 / 1000000))

def hasLiveMotionCommand (vx vy yawRate : Double) (ageMs timeoutMs : ℤ) : Bool :=
  ageMs ≤ timeoutMs && !isZeroPlanarVelocity vx vy yawRate

/-- `DecideRemoteVelocityDisposition`; `none` is the mode −1 of a bridge without an executor. -/
def decideRemoteVelocityDisposition (requestedPosture : RequestedPosture)
    (controlMode : Option ControlMode) : RemoteVelocityDisposition :=
  if controlMode = some .emergencyStop then .emergencyStop
  else if requestedPosture = .low then
    if controlMode = some .sitDown then .sendLowPostureVelocity else .waitForLowPosture
  else if controlMode = some .moveMode then .sendMoveVelocity
  else .requestMoveMode

@[simp] theorem decideRemoteVelocityDisposition_eq_emergencyStop (posture : RequestedPosture)
    (mode : Option ControlMode) :
    decideRemoteVelocityDisposition posture mode = .emergencyStop ↔ mode = some .emergencyStop := by
  unfold decideRemoteVelocityDisposition
  split_ifs <;> simp_all

end RoamerX.VelocityBridge
