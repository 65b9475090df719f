import Mathlib.Algebra.Order.Ring.Rat

set_option autoImplicit false

/-! # The anchor of FAST-LIO

What hangs on `lio_map_T_lio_`: whether it is valid, the correction under way, the cooldown, the two gates that
automatic corrections pass, and the filter. `resetLioAnchor` gives all of it up. -/

namespace RoamerX

namespace Localization

/-- `AuxiliaryDriftGate`. Of the previous position only `x` and `y` are read. -/
structure AuxiliaryDriftGate where
  consecutive : ℕ := 0
  hasPrevSource : Bool := false
  prevSourceXy : ℚ × ℚ := 0
  prevCorrectionXy : ℚ × ℚ := 0
  prevResidualXy : ℚ := 0
  prevResidualYaw : ℚ := 0
  lastStampNs : ℤ := 0
  correctionLatched : Bool := false
  lastDecision : String := "idle"
  deriving DecidableEq

namespace AuxiliaryDriftGate

/-- `reset`: the previous position stays in its field. -/
def reset (gate : AuxiliaryDriftGate) : AuxiliaryDriftGate := { prevSourceXy := gate.prevSourceXy }

def resetConsecutive (gate : AuxiliaryDriftGate) : AuxiliaryDriftGate :=
  { gate with
    consecutive := 0
    hasPrevSource := false
    prevCorrectionXy := 0
    prevResidualXy := 0
    prevResidualYaw := 0 }

def markCorrected (gate : AuxiliaryDriftGate) : AuxiliaryDriftGate :=
  { gate.resetConsecutive with
    correctionLatched := true
    lastDecision := "corrected_once" }

/-- `resetConsecutive`, and why. -/
def reject (gate : AuxiliaryDriftGate) (decision : String) : AuxiliaryDriftGate :=
  { gate.resetConsecutive with lastDecision := decision }

end AuxiliaryDriftGate

/-- `CorrectionCooldownGate`, without its configuration. -/
structure CorrectionCooldownGate where
  lastStartedNs : ℤ := 0
  suppressedUntilNs : ℤ := 0
  deriving DecidableEq

/-- `P` is a correction under way, and `F` the state of the filter; one that is cleared is `none`. -/
structure LioAnchor (P F : Type) where
  valid : Bool := false
  hasPreviousPose : Bool := false
  stableFrameCount : ℕ := 0
  correctedThisFrame : Bool := false
  pending : Option P := none
  cooldown : CorrectionCooldownGate := {}
  ndtDriftGate : AuxiliaryDriftGate := {}
  rtkDriftGate : AuxiliaryDriftGate := {}
  ukf : Option F := none
  deriving DecidableEq

/-- `resetLioAnchor`. -/
def LioAnchor.reset {P F : Type} (anchor : LioAnchor P F) : LioAnchor P F :=
  { ndtDriftGate := anchor.ndtDriftGate.reset
    rtkDriftGate := anchor.rtkDriftGate.reset }

end Localization

end RoamerX
