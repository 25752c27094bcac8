import StepMeters.Moment
import StepMeters.Step.Accumulator
import StepMeters.Time.Unit

/-!
# Meters that observe

A function counter and a function timer follow totals that an object outside keeps. Every operation first
pulls: it looks at the object and adds how far its totals have risen since the last look. An object that is
gone, or shows an undefined number, changes nothing.
-/

namespace StepMeters

/-- Adds a rise to an accumulator. A fall is not added. -/
def Accumulator.addRise (a : Accumulator) (rise : Float) (convert : Float → Float) : Accumulator :=
  if 0.0 < rise then a.add (convert rise) else a

/-- A counter that follows the amount of an object. -/
structure FunctionCounter where
  source : Source
  /-- The amount at the last look. -/
  last : Float := 0
  value : Accumulator

namespace FunctionCounter

/-- Looks at the object. -/
def pull (c : FunctionCounter) (m : Moment) : FunctionCounter :=
  match m.sighting? c.source with
  | none => c
  | some seen =>
    if seen.amount.isNaN then c
    else { c with last := seen.amount, value := c.value.addRise (seen.amount - c.last) id }

/-- Pulls, and moves to the step of the moment. -/
def roll (c : FunctionCounter) (m : Moment) : FunctionCounter :=
  let pulled := c.pull m
  { pulled with value := pulled.value.roll m.wall }

/-- Pulls, and makes the count final. -/
def close (c : FunctionCounter) (m : Moment) : FunctionCounter :=
  let pulled := c.pull m
  { pulled with value := pulled.value.close m.wall }

/-- How far the amount rose during the last complete step. -/
def count (c : FunctionCounter) (m : Moment) : Float := (c.pull m).value.poll m.wall

end FunctionCounter

/-- A timer that follows the amount of an object as its count, and the time of the object as its total. -/
structure FunctionTimer where
  source : Source
  /-- The unit of the object's time. -/
  sourceUnit : TimeUnit
  /-- The unit in which the timer publishes. -/
  unit : TimeUnit
  /-- The amount at the last look. -/
  lastCount : Float := 0
  /-- The time at the last look. -/
  lastTotal : Float := 0
  counts : Accumulator
  totals : Accumulator

namespace FunctionTimer

/-- Looks at the object. Amount and time count only together. -/
def pull (t : FunctionTimer) (m : Moment) : FunctionTimer :=
  match m.sighting? t.source with
  | none => t
  | some seen =>
    if seen.amount.isNaN || seen.time.isNaN then t
    else
      { t with
        lastCount := seen.amount
        lastTotal := seen.time
        counts := t.counts.addRise (seen.amount - t.lastCount) id
        totals := t.totals.addRise (seen.time - t.lastTotal) t.sourceUnit.toNanos }

/-- Pulls, and moves both totals to the step of the moment. -/
def roll (t : FunctionTimer) (m : Moment) : FunctionTimer :=
  let pulled := t.pull m
  { pulled with counts := pulled.counts.roll m.wall, totals := pulled.totals.roll m.wall }

/-- Pulls, and makes both totals final. -/
def close (t : FunctionTimer) (m : Moment) : FunctionTimer :=
  let pulled := t.pull m
  { pulled with counts := pulled.counts.close m.wall, totals := pulled.totals.close m.wall }

/-- How far the amount rose during the last complete step. -/
def count (t : FunctionTimer) (m : Moment) : Float := (t.pull m).counts.poll m.wall

/-- The timer after the count was read: the total has been pulled, but not moved to a later step. -/
def afterCount (t : FunctionTimer) (m : Moment) : FunctionTimer :=
  let pulled := t.pull m
  { pulled with counts := pulled.counts.roll m.wall }

/-- How far the time rose during the last complete step, in some unit. -/
def totalTime (t : FunctionTimer) (m : Moment) (unit : TimeUnit) : Float :=
  unit.ofNanos ((t.pull m).totals.poll m.wall)

/-- The timer after the total was read: the count has been pulled, but not moved to a later step. -/
def afterTotalTime (t : FunctionTimer) (m : Moment) : FunctionTimer :=
  let pulled := t.pull m
  { pulled with totals := pulled.totals.roll m.wall }

/-- The time for one of the amount during the last complete step, or zero for none. -/
def mean (t : FunctionTimer) (m : Moment) (unit : TimeUnit) : Float :=
  if t.count m == 0.0 then 0.0 else (t.afterCount m).totalTime m unit / t.count m

/-- The timer after the mean was read: the total is not looked at if nothing was counted. -/
def afterMean (t : FunctionTimer) (m : Moment) : FunctionTimer :=
  if t.count m == 0.0 then t.afterCount m else (t.afterCount m).afterTotalTime m

end FunctionTimer

end StepMeters
