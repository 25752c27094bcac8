import StepMeters.Proofs.Meter.Closing
import StepMeters.Proofs.Meter.Keeping
import StepMeters.Proofs.Meter.Parts

/-!
# Frozen meters

When a meter closes, each of its parts first moves on to the step of the clock, as far as it is not there yet, and
then shows what was added to it in that step (`Instrument.frozen_close`). From then on it shows nothing else:
recordings and rises still reach the live value of a part, but no action brings it to the shown one
(`Accumulator.Final.apply`). So whatever is done with a closed meter, its readings stay what they are
(`Instrument.Frozen.run`, `Instrument.Frozen.read`).
-/

namespace StepMeters

namespace Accumulator
variable {a : Accumulator} {g : Aggregation} {stepMillis : Nat} {l : Ledger} {value : Float}

/-- All amounts added in a run, each entered for the step that the accumulator was in when it was added. -/
def marked (a : Accumulator) : List Action → Ledger
  | [] => []
  | action :: rest =>
    (action.amount?.map (Entry.mk (a.apply action).step)).toList ++ (a.apply action).marked rest

/-- An accumulator is in the step that the clock calls for. -/
lemma Keeps.marked (k : a.Keeps g stepMillis l) (actions : List Action) :
    a.marked actions = entries stepMillis a.step actions := by
  induction actions generalizing a l with
  | nil => rfl
  | cons action rest ih =>
    rw [Accumulator.marked, entries, ih (k.apply action), k.step_apply]

/-- No action moves a closed accumulator; what is added stays out of sight. -/
lemma Final.apply (h : a.Final value) (action : Action) : (a.apply action).Final value := by
  cases action with
  | record wall amount =>
    show ((a.roll wall).add amount).Final value
    rw [roll_of_closed h.closed]
    exact ⟨h.closed, h.shown⟩
  | add amount => exact ⟨h.closed, h.shown⟩
  | roll wall => exact h.looked (.inr rfl)
  | poll wall => exact h.looked (.inr rfl)

/-- A closed accumulator keeps its final value in any run. -/
lemma Final.run (h : a.Final value) (actions : List Action) : (a.run actions).Final value := by
  induction actions generalizing a with
  | nil => exact h
  | cons action rest ih => exact ih (h.apply action)

end Accumulator

/-- What a statistic of a kind of meter reads if the parts of the meter show certain values. Timers and summaries
count in whole numbers. -/
def Kind.reading? (k : Kind) (shown : Part → Float) (scale : Float → Float) (s : Statistic) : Option Float :=
  match k, s with
  | counter, .count => some (shown .count)
  | timer, .count => some (Float.ofNat (shown .count).toUInt64.toNat)
  | timer, .totalTime => some (scale (shown .total))
  | timer, .max => some (scale (shown .max))
  | timer, .mean => some (meanOf (shown .count).toUInt64.toNat (scale (shown .total)))
  | summary, .count => some (Float.ofNat (shown .count).toUInt64.toNat)
  | summary, .total => some (scale (shown .total))
  | summary, .max => some (scale (shown .max))
  | summary, .mean => some (meanOf (shown .count).toUInt64.toNat (scale (shown .total)))
  | functionCounter, .count => some (shown .count)
  | functionTimer, .count => some (shown .count)
  | functionTimer, .totalTime => some (scale (shown .total))
  | functionTimer, .mean => some (if shown .count == 0.0 then 0.0 else scale (shown .total) / shown .count)
  | _, _ => none

namespace Instrument

/-- All parts of a meter are closed, and show certain values. -/
def Frozen (i : Instrument) (shown : Part → Float) : Prop :=
  ∀ part a, i.part? part = some a → a.Final (shown part)

/-- A time in nanoseconds as a meter reads it: in the given unit, or else in the one the meter publishes in. Other
amounts are as they are. -/
def scale (i : Instrument) (unit : Option TimeUnit) (amount : Float) : Float :=
  i.unit?.elim amount fun base => (unit.getD base).ofNanos amount

/-- What a statistic of a meter reads if its parts show certain values. -/
def reading? (i : Instrument) (shown : Part → Float) (s : Statistic) (unit : Option TimeUnit) :
    Option Float :=
  i.kind.reading? shown (i.scale unit) s

/-- All that a meter publishes if its parts show certain values. -/
def measurements (i : Instrument) (shown : Part → Float) : List Measurement :=
  i.statistics.filterMap fun s => (i.reading? shown s none).map (Measurement.mk s)

/-- The amounts that were added to a part of a meter while it was in the step in which it closes: in a run of
visits after it was new, and when it looks at its object once more. -/
def lastAmounts (new : Instrument) (visits : List Visit) (m : Moment) (part : Part) : List Float :=
  let actions := new.works part visits ++ (new.run visits).pulled m part
  (new.part? part).elim [] fun a => (a.marked actions).amountsIn ((a.run actions).roll m.wall).step

section Frozen
variable {i : Instrument} {shown : Part → Float} {m : Moment}

/-- Parts that went through some actions show what they did. -/
lemma Frozen.of_parts {i' : Instrument} {actions : Part → List Accumulator.Action} (h : i.Frozen shown)
    (parts : ∀ part, i'.part? part = (i.part? part).map (·.run (actions part))) : i'.Frozen shown := by
  intro part a has
  rw [parts, Option.map_eq_some_iff] at has
  obtain ⟨before, has, rfl⟩ := has
  exact (h part before has).run _

/-- No visit changes what a closed meter shows. -/
lemma Frozen.apply (h : i.Frozen shown) (visit : Visit) : (i.apply visit).Frozen shown :=
  h.of_parts (i.part?_apply visit)

/-- Whatever is done with a closed meter, its parts show what they did. -/
lemma Frozen.run (h : i.Frozen shown) (visits : List Visit) : (i.run visits).Frozen shown := by
  induction visits generalizing i with
  | nil => exact h
  | cons visit rest ih => exact ih (h.apply visit)

/-- What a meter shows in the end is, for each part, the aggregate of the amounts that were added to it in the
step in which it closes. -/
lemma frozen_close {b : Blueprint} {c : Configuration} {new : Instrument} {birth : Moment}
    (built : b.build c birth = .ok new) (visits : List Visit) (m : Moment) :
    ((new.run visits).close m).Frozen fun part =>
      part.aggregation.aggregate (new.lastAmounts visits m part) := by
  intro part a has
  rw [part?_close, Option.map_eq_some_iff] at has
  obtain ⟨before, has, rfl⟩ := has
  rw [part?_run, Option.map_eq_some_iff] at has
  obtain ⟨first, has, rfl⟩ := has
  -- the part keeps its books from the beginning to its last look at the object
  have fresh := Accumulator.keeps_new part.aggregation c.step.stepMillis birth.wall
  rw [← part?_build built has] at fresh
  obtain ⟨keeps, -⟩ := fresh.run (new.works part visits ++ (new.run visits).pulled m part)
  rw [List.nil_append, ← fresh.marked] at keeps
  dsimp only [lastAmounts]
  rw [has, Option.elim_some, ← Accumulator.run_append]
  exact keeps.close m.wall

/-- How a meter shows its parts never changes. -/
lemma reading?_run (i : Instrument) (visits : List Visit) : (i.run visits).reading? = i.reading? := by
  funext shown s base
  rw [reading?, reading?, (kept_run i visits).kind]
  congr 1
  funext amount
  rw [scale, scale, unit?_run]

/-- Closing does not change how a meter reads its parts. -/
lemma reading?_close (i : Instrument) (m : Moment) : (i.close m).reading? = i.reading? := by
  cases i with
  | functionTimer t =>
    funext shown s unit
    rw [reading?, reading?]
    congr 1
    funext amount
    exact congrArg (fun base => (unit.getD base).ofNanos amount) (t.unit_pull m)
  | _ => rfl

/-- A closed function timer shows its final count. -/
lemma Frozen.count_functionTimer {t : FunctionTimer} (h : (functionTimer t).Frozen shown) (m : Moment) :
    t.count m = shown .count := by
  rw [FunctionTimer.count, t.counts_pull]
  exact ((h .count _ rfl).run _).poll m.wall

/-- A closed function timer shows its final total. -/
lemma Frozen.totalTime_functionTimer {t : FunctionTimer} (h : (functionTimer t).Frozen shown) (m : Moment)
    (unit : TimeUnit) : t.totalTime m unit = unit.ofNanos (shown .total) := by
  rw [FunctionTimer.totalTime, t.totals_pull]
  exact congrArg unit.ofNanos (((h .total _ rfl).run _).poll m.wall)

/-- The readings of a closed meter depend on what its parts show only. -/
lemma Frozen.read (h : i.Frozen shown) (m : Moment) (s : Statistic) (unit : Option TimeUnit) :
    (i.read? m s unit).map Outcome.value = i.reading? shown s unit := by
  cases i with
  | counter value =>
    have count := (h .count _ rfl).poll m.wall
    cases s <;> simp [read?, reading?, Instrument.kind, Kind.reading?, count]
  | gauge g => cases s <;> rfl
  | timer t =>
    have count : t.nanos.steps.counts.poll m.wall = _ := (h .count _ rfl).poll m.wall
    have total : t.nanos.steps.totals.poll m.wall = _ := (h .total _ rfl).poll m.wall
    have max : t.nanos.steps.maxima.poll m.wall = _ := (h .max _ rfl).poll m.wall
    cases s <;> simp [read?, reading?, Instrument.kind, Kind.reading?, scale, unit?, StepStatistics.count,
      StepStatistics.total, StepStatistics.max, count, total, max]
  | summary d =>
    have count : d.steps.counts.poll m.wall = _ := (h .count _ rfl).poll m.wall
    have total : d.steps.totals.poll m.wall = _ := (h .total _ rfl).poll m.wall
    have max : d.steps.maxima.poll m.wall = _ := (h .max _ rfl).poll m.wall
    cases s <;> simp [read?, reading?, Instrument.kind, Kind.reading?, scale, unit?, StepStatistics.count,
      StepStatistics.total, StepStatistics.max, count, total, max]
  | functionCounter c =>
    have count : c.count m = shown .count := by
      rw [FunctionCounter.count, c.value_pull]
      exact ((h .count _ rfl).run _).poll m.wall
    cases s <;> simp [read?, reading?, Instrument.kind, Kind.reading?, count]
  | functionTimer t =>
    have count := h.count_functionTimer m
    have total := h.totalTime_functionTimer m
    -- a mean looks at the count before it looks at the total
    have after := (h.of_parts (part?_afterCount t m)).totalTime_functionTimer m
    cases s <;> simp [read?, reading?, Instrument.kind, Kind.reading?, scale, unit?, FunctionTimer.mean,
      count, total, after]

end Frozen

end Instrument

/-- What the parts of a meter show of some amounts that were recorded in a step. -/
def Recorder.shown (k : Recorder) (amounts : List Float) : Part → Float
  | .count =>
    match k with
    | counter => Aggregation.sum.aggregate amounts
    | _ => Aggregation.sum.aggregate (amounts.map fun _ => 1.0)
  | .total => Aggregation.sum.aggregate amounts
  | .max => Aggregation.max.aggregate amounts

namespace Instrument

section Final
variable {i : Instrument} {k : Recorder} {amounts : List Float}

/-- A meter that shows some amounts in the end is frozen. -/
lemma Final.frozen (h : Final amounts k i) : i.Frozen (k.shown amounts) := by
  intro part a has
  cases h with
  | counter h =>
    cases part with
    | count =>
      cases has
      exact h
    | _ => cases has
  | timer unit window h =>
    cases has
    cases part with
    | count => exact h.counts
    | total => exact h.totals
    | max => exact h.maxima
  | summary window h =>
    cases has
    cases part with
    | count => exact h.counts
    | total => exact h.totals
    | max => exact h.maxima

/-- A meter that shows what was recorded publishes what its recorder says of the amounts. -/
lemma measurements_shown (takes : i.recorder? = some k) (amounts : List Float) :
    i.measurements (k.shown amounts) = k.measurements amounts := by
  cases i <;> cases takes <;> rfl

/-- The kind of a meter that takes recordings is that of its recorder. -/
lemma kind_of_recorder? (takes : i.recorder? = some k) : i.kind = k.kind := by
  cases i <;> cases takes <;> rfl

end Final

end Instrument

end StepMeters
