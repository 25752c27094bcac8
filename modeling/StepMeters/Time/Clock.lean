import StepMeters.Time.Duration

/-!
# Clocks

A clock shows two times at once. Wall time counts milliseconds and decides which step a recording falls
into; monotonic time counts nanoseconds from some fixed origin and moves the sliding windows. Both are words
of 64 bits and start again at zero past their end.
-/

namespace StepMeters

/-- What a clock shows. A new clock shows one unit of each time. -/
structure Clock where
  /-- Milliseconds of wall time. -/
  wall : UInt64 := 1
  /-- Nanoseconds of monotonic time. -/
  monotonic : UInt64 := 1
deriving DecidableEq, Repr

namespace Clock

/-- The clock that shows two readings of a machine: the milliseconds since the epoch, where times before it show as
zero, and the nanoseconds from an origin of its own. -/
def ofReadings (sinceEpoch : Int) (nanos : Nat) : Clock :=
  { wall := UInt64.ofNat sinceEpoch.toNat, monotonic := UInt64.ofNat nanos }

/-- Moves both times forward together: wall time by the whole milliseconds of the length, monotonic time
by its nanoseconds, at most `2 ^ 64 - 1` of them. -/
def advance (clock : Clock) (d : Duration) : Clock :=
  { wall := clock.wall + UInt64.ofNat d.millis
    monotonic := clock.monotonic + UInt64.ofNat d.cappedNanos }

/-- Moves both times forward by whole seconds. -/
def advanceSeconds (clock : Clock) (seconds : Nat) : Clock :=
  clock.advance (Duration.ofSeconds seconds)

end Clock

end StepMeters
