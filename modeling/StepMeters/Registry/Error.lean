import StepMeters.Configuration.Error
import StepMeters.Meter.Kind

/-!
# Why a registration or a start can fail
-/

namespace StepMeters

/-- Why a meter is not registered. -/
inductive RegistrationError where
  /-- The settings of a timer or summary are at fault. -/
  | invalidConfiguration (cause : ConfigError)
  /-- Another kind of meter has this identity. -/
  | kindConflict (name : String) (existing requested : Kind)

namespace RegistrationError

/-- The text of an error. -/
def message : RegistrationError → String
  | invalidConfiguration cause => "invalid configuration: " ++ cause.message
  | kindConflict name existing requested =>
    "meter " ++ name ++ " is already registered as a " ++ existing.text ++ ", not a " ++ requested.text

end RegistrationError

/-- Why publishing by schedule does not begin. -/
inductive StartError where
  /-- The machine gives no thread for it, for a cause of its own. -/
  | spawn (cause : String)
deriving DecidableEq, Repr

/-- The text of an error. -/
def StartError.message : StartError → String
  | spawn cause => "failed to spawn publisher thread: " ++ cause

end StepMeters
