import StepMeters.Configuration.Error
import StepMeters.Distribution.Options

/-!
# Which settings are accepted

Settings are refused for the first of a list of reasons that applies to them.
-/

namespace StepMeters.Distribution.Settings

/-- A percentile is a part of one. -/
def isPart (percentile : Float) : Bool := 0.0 ≤ percentile && percentile ≤ 1.0

/-- Bounds and objectives are defined and above zero. -/
def isAboveZero (amount : Float) : Bool := !(amount.isNaN || amount ≤ 0.0)

/-- The length of one phase if the expiry is split evenly, in whole nanoseconds. -/
def evenPhaseNanos (s : Settings) : Nat := s.expiry.nanos / s.bufferLength

/-- Whether the phases are shorter than a millisecond, or too many to be numbered by 32 bits. -/
def isTooFine (s : Settings) : Bool :=
  UInt32.size ≤ s.bufferLength || s.evenPhaseNanos < 1000000

/-- The reason to refuse settings, if there is one. -/
def fault? (s : Settings) : Option ConfigError :=
  (s.percentiles.find? (!isPart ·)).map .percentileOutOfRange
  <|> (if isAboveZero s.minimum then none else some (.nonPositiveMinimum s.minimum))
  <|> (if s.maximum.isNaN || s.maximum < s.minimum then some (.invertedBounds s.minimum s.maximum)
    else none)
  <|> (s.objectives.find? (!isAboveZero ·)).map .nonPositiveObjective
  <|> (if 5 < s.precision then some (.precisionOutOfRange s.precision) else none)
  <|> (if s.bufferLength = 0 then some .emptyBuffer else none)
  <|> (if s.isTooFine then some (.rotationTooFine s.expiry.millis s.bufferLength) else none)

end StepMeters.Distribution.Settings
