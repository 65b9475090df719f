import Mathlib.Data.List.Infix
import RoamerX.Localization.LioAnchor

set_option autoImplicit false

/-! # The correction policy

A message `phase:mode:anchor:primary:online` on the policy topic chooses the source of corrections for a leg, and says
what the leg permits. -/

namespace RoamerX

namespace Localization

inductive CorrectionPolicyMode
  | ndt
  | rtk
  | ukf
  deriving DecidableEq

def parseCorrectionPolicyMode (value : List Char) : CorrectionPolicyMode :=
  if value.map Char.toLower = "rtk".toList then .rtk
  else if value.map Char.toLower = "ukf".toList then .ukf
  else .ndt

structure PolicyRequest where
  mode : CorrectionPolicyMode
  moving : Bool
  anchorPreference : String
  rtkPrimaryAllowed : Bool
  onlineAnchorCorrectionAllowed : Bool
  deriving DecidableEq

def isAllowed (value : List Char) : Bool := decide (value = "1".toList ∨ value = "true".toList)

def anchorPreferenceOf (value : List Char) : String :=
  if value = "ndt".toList then "ndt" else if value = "rtk".toList then "rtk" else "balanced"

/-- The fields of a message. A message without a separator is a mode, and the last field holds what is left. -/
def readPolicy (command : String) : PolicyRequest :=
  let fields := command.toList.splitOn ':'
  { mode := parseCorrectionPolicyMode (if fields.length = 1 then command.toList else fields.getD 1 [])
    moving := decide ("moving".toList <:+: command.toList)
    anchorPreference := if fields.length ≤ 2 then "balanced" else anchorPreferenceOf (fields.getD 2 [])
    rtkPrimaryAllowed := decide (4 ≤ fields.length) && isAllowed (fields.getD 3 [])
    onlineAnchorCorrectionAllowed := decide (fields.length = 5) && isAllowed (fields.getD 4 []) }

/-- What the node keeps of the last message. -/
structure Policy where
  preferredCorrectionMode : CorrectionPolicyMode := .ndt
  moving : Bool := false
  rtkPrimaryAllowed : Bool := false
  onlineAnchorCorrectionAllowed : Bool := false
  ukfAnchorPreference : String := "balanced"
  deriving DecidableEq

/-- The permissions that `localization_policy_callback` stores. -/
def PolicyRequest.policy (request : PolicyRequest) : Policy where
  preferredCorrectionMode := request.mode
  moving := request.moving
  rtkPrimaryAllowed := request.rtkPrimaryAllowed && decide (request.mode = .rtk) && request.moving
  onlineAnchorCorrectionAllowed := request.onlineAnchorCorrectionAllowed && request.moving
  ukfAnchorPreference := if request.mode = .ukf then request.anchorPreference else "balanced"

end Localization

end RoamerX
