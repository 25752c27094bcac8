import Std.Time.DateTime.Timestamp
import StepMeters.Time.Clock

/-!
# The outer layer

Here alone the library asks the machine for something, for programs that take the time from it. No other module
imports this one: all else takes clocks as they are given, and everything that is made of the readings is done by
`Clock.ofReadings`.
-/

namespace StepMeters.Clock

/-- What the clock of the machine shows now. -/
def system : IO Clock := do
  let wall ← Std.Time.Timestamp.now
  return .ofReadings wall.toMillisecondsSinceUnixEpoch.val (← IO.monoNanosNow)

end StepMeters.Clock
