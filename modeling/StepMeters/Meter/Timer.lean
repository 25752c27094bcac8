import StepMeters.Distribution.Basic
import StepMeters.Time.Unit

/-!
# Timers

A timer keeps durations in nanoseconds and is read in any unit; it publishes in its base unit.
-/

namespace StepMeters

/-- A distribution of durations. -/
structure Timer where
  unit : TimeUnit
  nanos : Distribution

namespace Timer

/-- Records a number of nanoseconds. -/
def recordNanos (t : Timer) (m : Moment) (amount : Float) : Outcome Timer Unit :=
  (t.nanos.record m amount).within fun nanos => { t with nanos }

/-- Records a duration; one beyond 64 bits of nanoseconds counts as the longest within. -/
def recordDuration (t : Timer) (m : Moment) (d : Duration) : Outcome Timer Unit :=
  t.recordNanos m (Float.ofNat d.cappedNanos)

/-- Records a number of some unit. -/
def recordIn (t : Timer) (m : Moment) (unit : TimeUnit) (amount : Float) : Outcome Timer Unit :=
  t.recordNanos m (unit.toNanos amount)

/-- Records the time since a reading of the monotonic clock; a clock that went back gives zero. -/
def recordSince (t : Timer) (m : Moment) (start : Nat) : Outcome Timer Unit :=
  t.recordNanos m (Float.ofNat (m.monotonic - start))

/-- The duration that a part of the windowed recordings does not exceed. -/
def percentile (t : Timer) (m : Moment) (unit : TimeUnit) (part : Float) : Outcome Timer Float :=
  ((t.nanos.percentile m part).within fun nanos => { t with nanos }).map unit.ofNanos

/-- The number of windowed recordings that do not exceed a number of some unit. -/
def countAtMost (t : Timer) (m : Moment) (unit : TimeUnit) (amount : Float) : Outcome Timer Float :=
  (t.nanos.countAtMost m (unit.toNanos amount)).within fun nanos => { t with nanos }

/-- The timer as a whole, in its base unit. -/
def snapshot (t : Timer) (m : Moment) : Outcome Timer Snapshot :=
  ((t.nanos.snapshot m).within fun nanos => { t with nanos }).map fun s =>
    { s with
      total := t.unit.ofNanos s.total
      max := t.unit.ofNanos s.max
      percentiles := s.percentiles.map fun p => { p with amount := t.unit.ofNanos p.amount }
      boundaries := s.boundaries.map fun b => { b with boundary := t.unit.ofNanos b.boundary } }

end Timer

end StepMeters
