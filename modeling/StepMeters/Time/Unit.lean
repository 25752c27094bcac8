import StepMeters.Text.Blank

/-!
# Units of time

Timers keep nanoseconds and are read in any of these units.
-/

namespace StepMeters

/-- A unit of time for reading timers. -/
inductive TimeUnit where
  | nanoseconds
  | microseconds
  | milliseconds
  | seconds
  | minutes
  | hours
  | days
deriving DecidableEq, Repr

namespace TimeUnit

/-- The nanoseconds in one unit. -/
def nanos : TimeUnit → Float
  | .nanoseconds => 1
  | .microseconds => 1000
  | .milliseconds => 1000000
  | .seconds => 1000000000
  | .minutes => 60000000000
  | .hours => 3600000000000
  | .days => 86400000000000

/-- A number of nanoseconds in this unit. -/
def ofNanos (unit : TimeUnit) (amount : Float) : Float := amount / unit.nanos

/-- A number of this unit in nanoseconds. -/
def toNanos (unit : TimeUnit) (amount : Float) : Float := amount * unit.nanos

/-- The full name of a unit. -/
def name : TimeUnit → String
  | .nanoseconds => "nanoseconds"
  | .microseconds => "microseconds"
  | .milliseconds => "milliseconds"
  | .seconds => "seconds"
  | .minutes => "minutes"
  | .hours => "hours"
  | .days => "days"

/-- The short name of a unit. -/
def abbreviation : TimeUnit → String
  | .nanoseconds => "ns"
  | .microseconds => "us"
  | .milliseconds => "ms"
  | .seconds => "s"
  | .minutes => "m"
  | .hours => "h"
  | .days => "d"

/-- Every unit, from the shortest. -/
def all : List TimeUnit :=
  [.nanoseconds, .microseconds, .milliseconds, .seconds, .minutes, .hours, .days]

/-- The unit with this name or abbreviation. Blanks around it and the case of the letters `A` to `Z` do
not matter. -/
def parse? (raw : String) : Option TimeUnit :=
  let word := String.ofList ((Text.trimmed raw.toList).map Char.toLower)
  all.find? fun unit => unit.name == word || unit.abbreviation == word

end TimeUnit

end StepMeters
