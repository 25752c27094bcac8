import StepMeters.Time.Clock

/-!
# Moments

An operation sees the world outside at one moment: the two times of the clock, and the objects that meters
observe. Objects are numbered; one that is gone shows nothing.
-/

namespace StepMeters

/-- The number of an observed object. -/
abbrev Source := Nat

/-- What an observed object shows: an amount, and a time that goes with it. -/
structure Sighting where
  amount : Float
  time : Float := 0

/-- The world outside during one operation. -/
structure Moment where
  /-- Milliseconds of wall time. -/
  wall : Nat
  /-- Nanoseconds of monotonic time. -/
  monotonic : Nat
  /-- The objects that are there. -/
  sighting? : Source → Option Sighting := fun _ => none

/-- The moment at which a clock and some objects are looked at. -/
def Clock.moment (clock : Clock) (sighting? : Source → Option Sighting) : Moment :=
  { wall := clock.wall.toNat, monotonic := clock.monotonic.toNat, sighting? }

end StepMeters
