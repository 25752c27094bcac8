import StepMeters.Decimal.Positional
import StepMeters.Text.Quoted

/-!
# What can be wrong with a configuration
-/

namespace StepMeters

/-- Why a configuration is refused. -/
inductive ConfigError where
  /-- A percentile outside of zero to one. -/
  | percentileOutOfRange (percentile : Float)
  /-- A least expected amount that is not above zero. -/
  | nonPositiveMinimum (minimum : Float)
  /-- A least expected amount above the greatest. -/
  | invertedBounds (minimum maximum : Float)
  /-- An objective that is not above zero. -/
  | nonPositiveObjective (objective : Float)
  /-- More significant digits than the estimator keeps. -/
  | precisionOutOfRange (precision : Nat)
  /-- A window without phases. -/
  | emptyBuffer
  /-- Phases shorter than a millisecond. -/
  | rotationTooFine (expiryMillis bufferLength : Nat)
  /-- A step of no whole millisecond. -/
  | zeroStep
  /-- A property whose value cannot be read. -/
  | invalidProperty (key value : String)

namespace ConfigError

/-- The text of an error. -/
def message : ConfigError → String
  | percentileOutOfRange percentile =>
    "percentile " ++ numeral percentile ++ " must be between 0.0 and 1.0"
  | nonPositiveMinimum minimum =>
    "minimum expected value " ++ numeral minimum ++ " must be greater than zero"
  | invertedBounds minimum maximum =>
    "minimum expected value " ++ numeral minimum ++ " must not exceed maximum expected value "
      ++ numeral maximum
  | nonPositiveObjective objective =>
    "service level objective " ++ numeral objective ++ " must be greater than zero"
  | precisionOutOfRange precision =>
    "percentile precision " ++ toString precision ++ " must be between 0 and 5"
  | emptyBuffer => "buffer length must be at least 1"
  | rotationTooFine expiryMillis bufferLength =>
    "expiry of " ++ toString expiryMillis ++ "ms split across " ++ toString bufferLength
      ++ " phases is below the 1ms rotation granularity"
  | zeroStep => "step must be greater than zero"
  | invalidProperty key value => "invalid value " ++ Text.quote value ++ " for property " ++ key

end ConfigError

end StepMeters
