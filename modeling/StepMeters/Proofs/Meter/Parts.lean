import StepMeters.Proofs.Meter.History

/-!
# Accumulators of a meter

A meter counts, totals and takes the greatest with accumulators of their own, its parts. Whatever is done with a
meter comes down to a few actions on each part (`Instrument.work`): a recording is filed with every part, a
reading looks at some parts, and a meter that observes an object first adds what the object has risen by. So a
run of a meter is a run of each of its parts (`Instrument.part?_run`), which begin in the step of the clock
(`Instrument.part?_build`).
-/

namespace StepMeters

/-- The accumulators that a meter can have. -/
inductive Part where
  | count
  | total
  | max
deriving DecidableEq, Repr

/-- How a part aggregates. -/
def Part.aggregation : Part → Aggregation
  | max => .max
  | _ => .sum

/-- A look at a part is a poll of this part only. -/
def Part.polled (part : Part) (wall : Nat) (at' : Part) : List Accumulator.Action :=
  if part = at' then [.poll wall] else []

namespace Accumulator

/-- Adds a rise. A fall is not added. -/
def riseBy (rise : Float) (convert : Float → Float) : List Action :=
  if 0.0 < rise then [.add (convert rise)] else []

/-- Adding a rise is one action or none. -/
lemma run_riseBy (a : Accumulator) (rise : Float) (convert : Float → Float) :
    a.run (riseBy rise convert) = a.addRise rise convert := by
  rw [riseBy, addRise]
  split <;> rfl

/-- A run goes through its actions one after the other. -/
lemma run_append (a : Accumulator) (actions actions' : List Action) :
    a.run (actions ++ actions') = (a.run actions).run actions' :=
  List.foldl_append

end Accumulator

/-- The accumulator of a part. -/
def StepStatistics.part (s : StepStatistics) : Part → Accumulator
  | .count => s.counts
  | .total => s.totals
  | .max => s.maxima

/-- What a look at the object adds to the count. -/
def FunctionCounter.pulled (c : FunctionCounter) (m : Moment) : List Accumulator.Action :=
  match m.sighting? c.source with
  | none => []
  | some seen => if seen.amount.isNaN then [] else Accumulator.riseBy (seen.amount - c.last) id

/-- A function counter adds what a look at its object shows. -/
lemma FunctionCounter.value_pull (c : FunctionCounter) (m : Moment) :
    (c.pull m).value = c.value.run (c.pulled m) := by
  rw [pull, pulled]
  cases m.sighting? c.source with
  | none => rfl
  | some seen =>
    dsimp only
    split
    · rfl
    · exact (c.value.run_riseBy _ _).symm

namespace FunctionTimer

/-- What a look at the object adds to a part. -/
def pulled (t : FunctionTimer) (m : Moment) (part : Part) : List Accumulator.Action :=
  match m.sighting? t.source with
  | none => []
  | some seen =>
    if seen.amount.isNaN || seen.time.isNaN then []
    else
      match part with
      | .count => Accumulator.riseBy (seen.amount - t.lastCount) id
      | .total => Accumulator.riseBy (seen.time - t.lastTotal) t.sourceUnit.toNanos
      | .max => []

/-- The count of a function timer goes up by what a look at the object shows. -/
lemma counts_pull (t : FunctionTimer) (m : Moment) :
    (t.pull m).counts = t.counts.run (t.pulled m .count) := by
  rw [pull, pulled]
  cases m.sighting? t.source with
  | none => rfl
  | some seen =>
    dsimp only
    split
    · rfl
    · exact (t.counts.run_riseBy _ _).symm

/-- The total of a function timer goes up by what a look at the object shows. -/
lemma totals_pull (t : FunctionTimer) (m : Moment) :
    (t.pull m).totals = t.totals.run (t.pulled m .total) := by
  rw [pull, pulled]
  cases m.sighting? t.source with
  | none => rfl
  | some seen =>
    dsimp only
    split
    · rfl
    · exact (t.totals.run_riseBy _ _).symm

/-- What a look at one part does with each of them. -/
def looked (t : FunctionTimer) (m : Moment) (at' part : Part) : List Accumulator.Action :=
  t.pulled m part ++ part.polled m.wall at'

end FunctionTimer

/-- A mean looks at the count, and at the total only if there is a count. -/
lemma StepStatistics.part_afterMean (s : StepStatistics) (wall : Nat) (part : Part) :
    (s.afterMean wall).part part = (s.part part).run
      (part.polled wall .count ++ if s.count wall = 0 then [] else part.polled wall .total) := by
  rw [afterMean]
  split <;> cases part <;> rfl

/-- What a recorded amount is filed as with a part: each recording of a timer or summary counts one. -/
def Recorder.share (k : Recorder) (part : Part) (amount : Float) : Float :=
  match k, part with
  | counter, _ => amount
  | _, .count => 1.0
  | _, _ => amount

namespace Instrument

/-- A part of a meter, if it has it. -/
def part? : Instrument → Part → Option Accumulator
  | counter value, .count => some value
  | timer t, part => some (t.nanos.steps.part part)
  | summary d, part => some (d.steps.part part)
  | functionCounter c, .count => some c.value
  | functionTimer t, .count => some t.counts
  | functionTimer t, .total => some t.totals
  | _, _ => none

/-- What a look at the object adds to a part of a meter that observes. -/
def pulled (i : Instrument) (m : Moment) (part : Part) : List Accumulator.Action :=
  match i with
  | functionCounter c => c.pulled m
  | functionTimer t => t.pulled m part
  | _ => []

/-- What a recording files with a part, if it suits the meter and is accepted. -/
def filed (i : Instrument) (m : Moment) (recording : Recording) (part : Part) : List Accumulator.Action :=
  match i.recorder? with
  | none => []
  | some k =>
    (((k.amountOf? m recording).filter Amount.isAccepted).map fun amount =>
      .record m.wall (k.share part amount)).toList

/-- What a reading does with a part. A mean looks at the total only if there is a count. -/
def looked (i : Instrument) (m : Moment) (s : Statistic) (part : Part) : List Accumulator.Action :=
  match i, s with
  | counter _, .count => part.polled m.wall .count
  | timer _, .count => part.polled m.wall .count
  | timer _, .totalTime => part.polled m.wall .total
  | timer _, .max => part.polled m.wall .max
  | timer t, .mean =>
    part.polled m.wall .count
      ++ if t.nanos.steps.count m.wall = 0 then [] else part.polled m.wall .total
  | summary _, .count => part.polled m.wall .count
  | summary _, .total => part.polled m.wall .total
  | summary _, .max => part.polled m.wall .max
  | summary d, .mean =>
    part.polled m.wall .count ++ if d.steps.count m.wall = 0 then [] else part.polled m.wall .total
  | functionCounter c, .count => c.pulled m ++ part.polled m.wall .count
  | functionTimer t, .count => t.looked m .count part
  | functionTimer t, .totalTime => t.looked m .total part
  | functionTimer t, .mean =>
    t.looked m .count part ++ if t.count m == 0.0 then [] else (t.afterCount m).looked m .total part
  | _, _ => []

/-- What a snapshot does with each part. -/
def viewed (i : Instrument) (m : Moment) : List Accumulator.Action :=
  match i with
  | timer _ => [.poll m.wall]
  | summary _ => [.poll m.wall]
  | _ => []

/-- What a visit does with a part. -/
def work (i : Instrument) (visit : Visit) (part : Part) : List Accumulator.Action :=
  match visit.action with
  | .record recording => i.filed visit.moment recording part
  | .read s _ => i.looked visit.moment s part
  | .percentile _ _ => []
  | .countAtMost _ _ => []
  | .snapshot => i.viewed visit.moment
  | .roll => i.pulled visit.moment part ++ [.roll visit.moment.wall]

/-- What a run of visits does with a part. -/
def works (i : Instrument) (part : Part) : List Visit → List Accumulator.Action
  | [] => []
  | visit :: rest => i.work visit part ++ works (i.apply visit) part rest

section Parts
variable {i : Instrument} {m : Moment} {part : Part}

/-- An accepted amount is filed with each part of a timer or summary. -/
lemma part_record (d : Distribution) (m : Moment) (k : Recorder) (kept : k ≠ .counter) (x : Float)
    (part : Part) : (d.record m x).state.steps.part part = (d.steps.part part).run
      (((some x).filter Amount.isAccepted).map fun amount =>
        .record m.wall (k.share part amount)).toList := by
  rw [Distribution.record, Option.filter_some]
  split
  · cases k with
    | counter => exact absurd rfl kept
    | _ => cases part <;> rfl
  · rfl

/-- A recording files its share with each part. -/
lemma part?_record (i : Instrument) (m : Moment) (recording : Recording) (part : Part) :
    (i.after (i.record? m recording)).part? part
      = (i.part? part).map (·.run (i.filed m recording part)) := by
  cases i with
  | counter value =>
    cases recording with
    | amount x =>
      cases part with
      | count =>
        show some (if Amount.isAccepted x then value.record m.wall x else value) = some (value.run _)
        rw [filed, recorder?]
        dsimp only
        rw [Recorder.amountOf?, Option.filter_some]
        split <;> rfl
      | _ => rfl
    | _ => cases part <;> rfl
  | timer t =>
    have kept : Recorder.timer t.unit ≠ .counter := by simp
    cases recording with
    | amount x => rfl
    | duration d => exact congrArg some (part_record t.nanos m _ kept _ part)
    | time unit x => exact congrArg some (part_record t.nanos m _ kept _ part)
    | since start => exact congrArg some (part_record t.nanos m _ kept _ part)
  | summary d =>
    cases recording with
    | amount x => exact congrArg some (part_record d m .summary (by simp) x part)
    | _ => rfl
  | _ => cases part <;> cases recording <;> rfl

/-- Reading the count of a function timer looks at the object, and then at the count. -/
lemma part?_afterCount (t : FunctionTimer) (m : Moment) (part : Part) :
    (functionTimer (t.afterCount m)).part? part
      = ((functionTimer t).part? part).map (·.run (t.looked m .count part)) := by
  cases part with
  | count =>
    show some ((t.pull m).counts.roll m.wall) = some (t.counts.run _)
    rw [t.counts_pull, FunctionTimer.looked, Accumulator.run_append]
    rfl
  | total =>
    show some (t.pull m).totals = some (t.totals.run _)
    rw [t.totals_pull, FunctionTimer.looked, Accumulator.run_append]
    rfl
  | max => rfl

/-- Reading the total of a function timer looks at the object, and then at the total. -/
lemma part?_afterTotalTime (t : FunctionTimer) (m : Moment) (part : Part) :
    (functionTimer (t.afterTotalTime m)).part? part
      = ((functionTimer t).part? part).map (·.run (t.looked m .total part)) := by
  cases part with
  | count =>
    show some (t.pull m).counts = some (t.counts.run _)
    rw [t.counts_pull, FunctionTimer.looked, Accumulator.run_append]
    rfl
  | total =>
    show some ((t.pull m).totals.roll m.wall) = some (t.totals.run _)
    rw [t.totals_pull, FunctionTimer.looked, Accumulator.run_append]
    rfl
  | max => rfl

/-- A mean looks at the count, and then perhaps at the total, each time after a look at the object. -/
lemma part?_afterMean (t : FunctionTimer) (m : Moment) (part : Part) :
    (functionTimer (t.afterMean m)).part? part
      = ((functionTimer t).part? part).map (·.run ((functionTimer t).looked m .mean part)) := by
  rw [FunctionTimer.afterMean, looked]
  split
  · rw [List.append_nil]
    exact part?_afterCount t m part
  · rw [part?_afterTotalTime, part?_afterCount, Option.map_map]
    congr 1
    funext a
    exact (a.run_append _ _).symm

/-- A reading does with each part what `looked` says. -/
lemma part?_read (i : Instrument) (m : Moment) (s : Statistic) (unit : Option TimeUnit) (part : Part) :
    (i.after (i.read? m s unit)).part? part = (i.part? part).map (·.run (i.looked m s part)) := by
  cases i with
  | counter value => cases s <;> cases part <;> rfl
  | gauge g => cases s <;> rfl
  | timer t =>
    cases s with
    | mean => exact congrArg some (t.nanos.steps.part_afterMean m.wall part)
    | _ => cases part <;> rfl
  | summary d =>
    cases s with
    | mean => exact congrArg some (d.steps.part_afterMean m.wall part)
    | _ => cases part <;> rfl
  | functionCounter c =>
    cases s with
    | count =>
      cases part with
      | count =>
        show some ((c.pull m).value.roll m.wall) = some (c.value.run _)
        rw [c.value_pull, looked, Accumulator.run_append]
        rfl
      | _ => rfl
    | _ => cases part <;> rfl
  | functionTimer t =>
    cases s with
    | count => exact part?_afterCount t m part
    | totalTime => exact part?_afterTotalTime t m part
    | mean => exact part?_afterMean t m part
    | _ => cases part <;> rfl

/-- A roll looks at the object, and then moves each part on. -/
lemma part?_roll (i : Instrument) (m : Moment) (part : Part) :
    (i.roll m).part? part = (i.part? part).map (·.run (i.pulled m part ++ [.roll m.wall])) := by
  cases i with
  | functionCounter c =>
    cases part with
    | count =>
      show some ((c.pull m).value.roll m.wall) = some (c.value.run _)
      rw [c.value_pull, Accumulator.run_append]
      rfl
    | _ => rfl
  | functionTimer t =>
    cases part with
    | count =>
      show some ((t.pull m).counts.roll m.wall) = some (t.counts.run _)
      rw [t.counts_pull, Accumulator.run_append]
      rfl
    | total =>
      show some ((t.pull m).totals.roll m.wall) = some (t.totals.run _)
      rw [t.totals_pull, Accumulator.run_append]
      rfl
    | max => rfl
  | _ => cases part <;> rfl

/-- A visit does with each part what `work` says. -/
lemma part?_apply (i : Instrument) (visit : Visit) (part : Part) :
    (i.apply visit).part? part = (i.part? part).map (·.run (i.work visit part)) := by
  obtain ⟨m, action⟩ := visit
  cases action with
  | record recording => exact part?_record i m recording part
  | read s unit => exact part?_read i m s unit part
  | roll => exact part?_roll i m part
  | percentile unit x => cases i <;> cases part <;> rfl
  | countAtMost unit x => cases i <;> cases part <;> rfl
  | snapshot => cases i <;> cases part <;> rfl

/-- A run of a meter is a run of each of its parts. -/
lemma part?_run (i : Instrument) (visits : List Visit) (part : Part) :
    (i.run visits).part? part = (i.part? part).map (·.run (i.works part visits)) := by
  induction visits generalizing i with
  | nil => exact Option.map_id'.symm
  | cons visit rest ih =>
    show ((i.apply visit).run rest).part? part = _
    rw [ih, part?_apply, Option.map_map]
    congr 1
    funext a
    exact (a.run_append _ _).symm

/-- A meter that closes looks at its object once more before its parts close. -/
lemma part?_close (i : Instrument) (m : Moment) (part : Part) :
    (i.close m).part? part = (i.part? part).map fun a => (a.run (i.pulled m part)).close m.wall := by
  cases i with
  | functionCounter c =>
    cases part with
    | count => exact congrArg (fun a : Accumulator => some (a.close m.wall)) (c.value_pull m)
    | _ => rfl
  | functionTimer t =>
    cases part with
    | count => exact congrArg (fun a : Accumulator => some (a.close m.wall)) (t.counts_pull m)
    | total => exact congrArg (fun a : Accumulator => some (a.close m.wall)) (t.totals_pull m)
    | max => rfl
  | _ => cases part <;> rfl

/-- The parts of a new meter begin in the step of the clock. -/
lemma part?_build {b : Blueprint} {c : Configuration} {a : Accumulator} (built : b.build c m = .ok i)
    (has : i.part? part = some a) : a = .new part.aggregation c.step.stepMillis m.wall := by
  cases b with
  | timer options =>
    obtain ⟨d, accepted, rfl⟩ := exists_of_map_eq_ok built
    obtain ⟨window, -, rfl⟩ := exists_of_map_eq_ok accepted
    cases part <;> exact (Option.some.inj has).symm
  | summary options =>
    obtain ⟨d, accepted, rfl⟩ := exists_of_map_eq_ok built
    obtain ⟨window, -, rfl⟩ := exists_of_map_eq_ok accepted
    cases part <;> exact (Option.some.inj has).symm
  | _ =>
    cases built
    cases part <;> cases has <;> rfl

end Parts

end Instrument

end StepMeters
