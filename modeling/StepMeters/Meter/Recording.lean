import StepMeters.Meter.Basic

/-!
# Recordings

What a program reports to a meter. Counters and summaries take amounts; timers take lengths of time.
-/

namespace StepMeters

/-- What is reported to a meter. -/
inductive Recording where
  /-- An amount, for a counter or a summary. -/
  | amount (amount : Float)
  /-- A duration, for a timer. -/
  | duration (d : Duration)
  /-- A number of some unit of time, for a timer. -/
  | time (unit : TimeUnit) (amount : Float)
  /-- The time since a reading of the monotonic clock, for a timer. -/
  | since (start : Nat)

namespace Instrument

/-- Takes a recording, if it suits the instrument. -/
def record? (i : Instrument) (m : Moment) (recording : Recording) : Option (Outcome Instrument Unit) :=
  match i, recording with
  | counter value, .amount x =>
    some ⟨(), counter (if Amount.isAccepted x then value.record m.wall x else value), []⟩
  | summary d, .amount x => some ((d.record m x).within summary)
  | timer t, .duration d => some ((t.recordDuration m d).within timer)
  | timer t, .time unit x => some ((t.recordIn m unit x).within timer)
  | timer t, .since start => some ((t.recordSince m start).within timer)
  | _, _ => none

end Instrument

end StepMeters
