import Mathlib.Data.Rat.Defs

/-!
# The safety gate

Every guided procedure asks the gate for a report before it touches a unit and
refuses to go on while the report names reasons.
-/

namespace Mousstec

/-- `GearPosition`. -/
inductive GearPosition
  | p
  | r
  | n
  | d
  | unknown
  deriving DecidableEq, Repr

/-- `IgnitionState`. -/
inductive IgnitionState
  | off
  | koeo
  | koer
  deriving DecidableEq, Repr

/-- `SafetyRequirement`, with its defaults. -/
structure SafetyRequirement where
  voltageMinV : ℚ := 12
  voltageMaxV : ℚ := 148 / 10
  gearIn : List GearPosition := [.p]
  ignitionIn : List IgnitionState := [.koeo]
  forbiddenDtcs : List String := []
  deriving DecidableEq

/-- `SafetyReport`, what the procedures read of it. -/
structure SafetyReport where
  voltageV : ℚ
  refusalReasons : List String
  deriving DecidableEq

def SafetyReport.ok (report : SafetyReport) : Bool :=
  report.refusalReasons.isEmpty

/-- `vin or 'no-vin'`. -/
def orDefault (text fallback : String) : String :=
  if text = "" then fallback else text

end Mousstec
