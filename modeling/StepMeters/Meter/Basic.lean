import StepMeters.Meter.Observed
import StepMeters.Meter.Timer

/-!
# Meters

A meter is an instrument under an identity. Instruments of all kinds share a life: they move on with the
steps of the clock, and are made final when the registry closes.
-/

namespace StepMeters

/-- The place of a meter in the order of registration. A meter keeps its place for ever. -/
abbrev MeterRef := Nat

/-- Where a gauge takes its value from. -/
inductive Gauge where
  /-- The amount of an object outside. -/
  | observed (source : Source)
  /-- A percentile of a timer, in its base unit, or of a summary. -/
  | percentile (owner : MeterRef) (part : Float)
  /-- The recordings of a timer or summary that do not exceed a boundary. -/
  | countAtMost (owner : MeterRef) (boundary : Float)

/-- What a meter measures with. -/
inductive Instrument where
  | counter (value : Accumulator)
  | gauge (gauge : Gauge)
  | timer (timer : Timer)
  | summary (amounts : Distribution)
  | functionCounter (counter : FunctionCounter)
  | functionTimer (timer : FunctionTimer)

namespace Instrument

/-- The kind of an instrument. -/
def kind : Instrument → Kind
  | counter _ => .counter
  | gauge _ => .gauge
  | timer _ => .timer
  | summary _ => .summary
  | functionCounter _ => .functionCounter
  | functionTimer _ => .functionTimer

/-- Moves an instrument to the step of a moment. A gauge has no steps. -/
def roll (i : Instrument) (m : Moment) : Instrument :=
  match i with
  | counter value => counter (value.roll m.wall)
  | gauge g => gauge g
  | timer t => timer { t with nanos := t.nanos.roll m }
  | summary d => summary (d.roll m)
  | functionCounter c => functionCounter (c.roll m)
  | functionTimer t => functionTimer (t.roll m)

/-- Makes the values of an instrument final. -/
def close (i : Instrument) (m : Moment) : Instrument :=
  match i with
  | counter value => counter (value.close m.wall)
  | gauge g => gauge g
  | timer t => timer { t with nanos := t.nanos.close m }
  | summary d => summary (d.close m)
  | functionCounter c => functionCounter (c.close m)
  | functionTimer t => functionTimer (t.close m)

/-- The instrument with other statistics of the step; timers and summaries alone have them. -/
def withSteps (i : Instrument) (steps : StepStatistics) : Instrument :=
  match i with
  | timer t => timer { t with nanos := { t.nanos with steps } }
  | summary d => summary { d with steps }
  | other => other

/-- The unit in which an instrument publishes times. -/
def unit? : Instrument → Option TimeUnit
  | timer t => some t.unit
  | functionTimer t => some t.unit
  | _ => none

/-- What an instrument publishes, in this order. -/
def statistics : Instrument → List Statistic
  | counter _ => [.count]
  | gauge _ => [.value]
  | timer _ => [.count, .totalTime, .max]
  | summary _ => [.count, .total, .max]
  | functionCounter _ => [.count]
  | functionTimer _ => [.count, .totalTime]

/-- Reads a statistic of the last complete step, times in the given unit or else in the one the instrument
publishes in. The answer is `none` for a gauge, and for a statistic that the instrument does not have. -/
def read? (i : Instrument) (m : Moment) (s : Statistic) (unit : Option TimeUnit) :
    Option (Outcome Instrument Float) :=
  match i, s with
  | counter value, .count => some ⟨value.poll m.wall, counter (value.roll m.wall), []⟩
  | timer t, .count =>
    some ⟨Float.ofNat (t.nanos.steps.count m.wall), i.withSteps (t.nanos.steps.afterCount m.wall), []⟩
  | timer t, .totalTime =>
    some ⟨(unit.getD t.unit).ofNanos (t.nanos.steps.total m.wall),
      i.withSteps (t.nanos.steps.afterTotal m.wall), []⟩
  | timer t, .max =>
    some ⟨(unit.getD t.unit).ofNanos (t.nanos.steps.max m.wall),
      i.withSteps (t.nanos.steps.afterMax m.wall), []⟩
  | timer t, .mean =>
    some ⟨meanOf (t.nanos.steps.count m.wall) ((unit.getD t.unit).ofNanos (t.nanos.steps.total m.wall)),
      i.withSteps (t.nanos.steps.afterMean m.wall), []⟩
  | summary d, .count =>
    some ⟨Float.ofNat (d.steps.count m.wall), i.withSteps (d.steps.afterCount m.wall), []⟩
  | summary d, .total => some ⟨d.steps.total m.wall, i.withSteps (d.steps.afterTotal m.wall), []⟩
  | summary d, .max => some ⟨d.steps.max m.wall, i.withSteps (d.steps.afterMax m.wall), []⟩
  | summary d, .mean =>
    some ⟨meanOf (d.steps.count m.wall) (d.steps.total m.wall),
      i.withSteps (d.steps.afterMean m.wall), []⟩
  | functionCounter c, .count => some ⟨c.count m, functionCounter (c.roll m), []⟩
  | functionTimer t, .count => some ⟨t.count m, functionTimer (t.afterCount m), []⟩
  | functionTimer t, .totalTime =>
    some ⟨t.totalTime m (unit.getD t.unit), functionTimer (t.afterTotalTime m), []⟩
  | functionTimer t, .mean => some ⟨t.mean m (unit.getD t.unit), functionTimer (t.afterMean m), []⟩
  | _, _ => none

/-- The amount that a part of the windowed recordings does not exceed, for a timer in the given unit or
else in its base unit. -/
def percentile? (i : Instrument) (m : Moment) (unit : Option TimeUnit) (part : Float) :
    Option (Outcome Instrument Float) :=
  match i with
  | timer t => some ((t.percentile m (unit.getD t.unit) part).within timer)
  | summary d => some ((d.percentile m part).within summary)
  | _ => none

/-- The number of windowed recordings that do not exceed an amount, for a timer in the given unit or else
in its base unit. -/
def countAtMost? (i : Instrument) (m : Moment) (unit : Option TimeUnit) (amount : Float) :
    Option (Outcome Instrument Float) :=
  match i with
  | timer t => some ((t.countAtMost m (unit.getD t.unit) amount).within timer)
  | summary d => some ((d.countAtMost m amount).within summary)
  | _ => none

/-- A timer or summary as a whole. -/
def snapshot? (i : Instrument) (m : Moment) : Option (Outcome Instrument Snapshot) :=
  match i with
  | timer t => some ((t.snapshot m).within timer)
  | summary d => some ((d.snapshot m).within summary)
  | _ => none

end Instrument

/-- An instrument and what it is known by. -/
structure Meter where
  id : Identity
  instrument : Instrument

namespace Meter

/-- The kind of a meter. -/
def kind (meter : Meter) : Kind := meter.instrument.kind

/-- Moves a meter to the step of a moment. -/
def roll (meter : Meter) (m : Moment) : Meter :=
  { meter with instrument := meter.instrument.roll m }

/-- Makes the values of a meter final. -/
def close (meter : Meter) (m : Moment) : Meter :=
  { meter with instrument := meter.instrument.close m }

end Meter

end StepMeters
