import StepMeters.Proofs.Meter.History

/-!
# Closed meters

When a meter closes it moves on to the step of the clock and then shows what this step has brought so far
(`Follows.close`). What the step before has brought is given up then, whether it was read or not.
`Instrument.Final` says that a meter is closed and shows the given amounts.
-/

namespace StepMeters

namespace Accumulator

/-- An accumulator is closed, and shows a final value. -/
structure Final (a : Accumulator) (value : Float) : Prop where
  closed : a.closed = true
  shown : a.shown = value

section Final
variable {a a' : Accumulator} {g : Aggregation} {stepMillis wall wall' : Nat} {l : Ledger} {value : Float}

/-- What is shown in the end is the aggregate of the step in force, once the clock was looked at. -/
lemma Keeps.close (k : a.Keeps g stepMillis l) (wall : Nat) :
    (a.close wall).Final (g.aggregate (l.amountsIn (a.roll wall).step)) := by
  have rolled := k.roll wall
  simp only [Accumulator.close, rolled.isOpen, Bool.false_eq_true, if_false]
  exact ⟨rfl, rolled.live⟩

/-- If the clock does not go back, this is the step of the clock. -/
lemma Follows.close (h : a.Follows g stepMillis wall l) (le : wall ≤ wall') :
    (a.close wall').Final (g.aggregate (l.amountsIn (wall' / stepMillis))) := by
  have step : (a.roll wall').step = wall' / stepMillis := (h.keeps.step_roll wall').trans (h.max_step le)
  have final := h.keeps.close wall'
  rw [step] at final
  exact final

/-- A closed accumulator does not move. -/
lemma Final.looked (h : a.Final value) (look : a.Looked wall a') : a'.Final value := by
  rcases look with rfl | rfl
  · exact h
  · rw [roll_of_closed h.closed]
    exact h

/-- A closed accumulator is read as its final value at any time. -/
lemma Final.poll (h : a.Final value) (wall : Nat) : a.poll wall = value :=
  (h.looked (.inr rfl)).shown

end Final

end Accumulator

namespace StepStatistics

/-- All three accumulators are closed, and show the same amounts. -/
structure Final (s : StepStatistics) (amounts : List Float) : Prop where
  counts : s.counts.Final (Aggregation.sum.aggregate (amounts.map fun _ => 1.0))
  totals : s.totals.Final (Aggregation.sum.aggregate amounts)
  maxima : s.maxima.Final (Aggregation.max.aggregate amounts)

section Final
variable {s : StepStatistics} {stepMillis wall wall' : Nat} {l : Ledger}

/-- Statistics close with the amounts of the step of the clock. -/
lemma Follows.close (h : s.Follows stepMillis wall l) (le : wall ≤ wall') :
    (s.close wall').Final (l.amountsIn (wall' / stepMillis)) := by
  refine ⟨?_, h.totals.close le, h.maxima.close le⟩
  rw [← Ledger.amountsIn_ones]
  exact h.counts.close le

end Final

end StepStatistics

namespace Recorder

/-- The kind of a meter that takes recordings. -/
def kind : Recorder → Kind
  | counter => .counter
  | timer _ => .timer
  | summary => .summary

/-- What a meter publishes about some amounts. -/
def measurements (k : Recorder) (amounts : List Float) : List Measurement :=
  match k with
  | counter => [⟨.count, Aggregation.sum.aggregate amounts⟩]
  | _ =>
    [⟨.count, Float.ofNat (countOf amounts)⟩,
      ⟨k.totalStatistic, k.scale none (Aggregation.sum.aggregate amounts)⟩,
      ⟨.max, k.scale none (Aggregation.max.aggregate amounts)⟩]

end Recorder

namespace Instrument

/-- A meter is closed, and shows these amounts. -/
inductive Final (amounts : List Float) : Recorder → Instrument → Prop where
  | counter {value : Accumulator} (h : value.Final (Aggregation.sum.aggregate amounts)) :
    Final amounts .counter (.counter value)
  | timer (unit : TimeUnit) {steps : StepStatistics} (window : Window) (h : steps.Final amounts) :
    Final amounts (.timer unit) (.timer ⟨unit, ⟨steps, window⟩⟩)
  | summary {steps : StepStatistics} (window : Window) (h : steps.Final amounts) :
    Final amounts .summary (.summary ⟨steps, window⟩)

section Final
variable {i : Instrument} {k : Recorder} {stepMillis wall : Nat} {l : Ledger} {m : Moment}

/-- What a meter shows in the end are the amounts of the step of the clock. -/
lemma Follows.close (h : Follows stepMillis wall l k i) (le : wall ≤ m.wall) :
    Final (l.amountsIn (m.wall / stepMillis)) k (i.close m) := by
  cases h with
  | counter h => exact .counter (h.close le)
  | timer unit window h => exact .timer unit window (h.close le)
  | summary window h => exact .summary window (h.close le)

end Final

end Instrument

end StepMeters
