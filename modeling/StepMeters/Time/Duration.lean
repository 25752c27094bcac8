/-!
# Durations

A length of time in whole nanoseconds, without an upper bound, and its parts in coarser units.
-/

namespace StepMeters

/-- A length of time. -/
structure Duration where
  nanos : Nat
deriving DecidableEq, Repr

namespace Duration

/-- A length of so many milliseconds. -/
def ofMillis (millis : Nat) : Duration := ⟨millis * 1000000⟩

/-- A length of so many seconds. -/
def ofSeconds (seconds : Nat) : Duration := ⟨seconds * 1000000000⟩

/-- A length of seconds and nanoseconds together. -/
def ofParts (seconds nanos : Nat) : Duration := ⟨seconds * 1000000000 + nanos⟩

/-- The whole seconds in a length. -/
def seconds (d : Duration) : Nat := d.nanos / 1000000000

/-- The nanoseconds of a length beyond its whole seconds. -/
def subsecondNanos (d : Duration) : Nat := d.nanos % 1000000000

/-- The whole milliseconds in a length. -/
def millis (d : Duration) : Nat := d.nanos / 1000000

/-- The nanoseconds of a length as a word of 64 bits; longer ones give the greatest word. -/
def cappedNanos (d : Duration) : Nat := min d.nanos (UInt64.size - 1)

end Duration

end StepMeters
