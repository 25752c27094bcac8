import StepMeters.Distribution.Validation
import StepMeters.Time.Unit

/-!
# Configuration of a registry
-/

namespace StepMeters

/-- How a registry works. -/
structure Configuration where
  /-- The length of a step: meters report the last complete one. -/
  step : Duration := Duration.ofSeconds 60
  /-- Whether the registry publishes on its own, by schedule and when it closes. -/
  enabled : Bool := true
  /-- The name of the thread that publishes by schedule. -/
  threadName : String := "stepmic-publisher"
  /-- The unit in which timers publish. -/
  baseUnit : TimeUnit := .milliseconds
  /-- What the options of a timer or summary are laid over. -/
  distribution : Distribution.Options := Distribution.Options.standard

namespace Configuration

/-- The reason to refuse a configuration, if there is one: a step without a whole millisecond, or default
options that no distribution can follow. -/
def fault? (c : Configuration) : Option ConfigError :=
  if c.step.millis = 0 then some .zeroStep else c.distribution.settings.fault?

end Configuration

/-- The milliseconds of a step as meters count them: a word of 64 bits, and at least one. -/
def Duration.stepMillis (step : Duration) : Nat := max (step.millis % UInt64.size) 1

/-- A step takes a millisecond at least. -/
theorem Duration.stepMillis_pos (step : Duration) : 0 < step.stepMillis := by
  simp only [stepMillis]
  omega

end StepMeters
