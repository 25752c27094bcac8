import StepMeters.Meter.Blueprint
import StepMeters.Meter.Recording
import StepMeters.Proofs.Step.Statistics

/-!
# Histories of meters

Counters, timers and summaries take recordings. `Instrument.Follows` says that such a meter follows the clock
and keeps a ledger of its accepted recordings, each in the step of the clock at the time. A recording extends
the ledger (`Follows.record`); whatever else can be done with an open meter is a look at it
(`looked_apply`), and looks keep the ledger (`Follows.looked`). So the statistics of a timer or summary describe
one and the same recordings, whichever of them were read before (`describes_run`).
-/

namespace StepMeters

/-- A meter that takes recordings; a timer has a base unit. -/
inductive Recorder where
  | counter
  | timer (base : TimeUnit)
  | summary

namespace Recorder

/-- The amount that a recording reports to a meter, if it suits the meter. Timers count in nanoseconds. -/
def amountOf? (k : Recorder) (m : Moment) (recording : Recording) : Option Float :=
  match k, recording with
  | counter, .amount x => some x
  | summary, .amount x => some x
  | timer _, .duration d => some (Float.ofNat d.cappedNanos)
  | timer _, .time unit x => some (unit.toNanos x)
  | timer _, .since start => some (Float.ofNat (m.monotonic - start))
  | _, _ => none

/-- The entry of a recording, if it is accepted: its amount in the step of the clock. -/
def entered? (k : Recorder) (stepMillis : Nat) (m : Moment) (recording : Recording) : Option Entry :=
  ((k.amountOf? m recording).filter Amount.isAccepted).map (Entry.mk (m.wall / stepMillis))

/-- How a meter shows an amount: timers in the given unit or else in their base unit. -/
def scale (k : Recorder) (unit : Option TimeUnit) (amount : Float) : Float :=
  match k with
  | timer base => (unit.getD base).ofNanos amount
  | _ => amount

/-- The statistic in which a meter shows what its recordings add up to. -/
def totalStatistic : Recorder → Statistic
  | counter => .count
  | timer _ => .totalTime
  | summary => .total

end Recorder

/-- The meter that takes recordings and is built after a blueprint. -/
def Blueprint.recorder? (b : Blueprint) (c : Configuration) : Option Recorder :=
  match b with
  | counter => some .counter
  | timer _ => some (.timer c.baseUnit)
  | summary _ => some .summary
  | _ => none

namespace Instrument

/-- The meter that takes recordings and that an instrument is, if it is one. -/
def recorder? : Instrument → Option Recorder
  | counter _ => some .counter
  | timer t => some (.timer t.unit)
  | summary _ => some .summary
  | _ => none

/-- What can be done with a meter while it is open. -/
inductive Action where
  | record (recording : Recording)
  | read (statistic : Statistic) (unit : Option TimeUnit)
  | percentile (unit : Option TimeUnit) (part : Float)
  | countAtMost (unit : Option TimeUnit) (amount : Float)
  | snapshot
  | roll

/-- An action that records nothing. -/
def Action.IsLook (action : Action) : Prop := ∀ recording, action ≠ .record recording

/-- An action, and the moment of it. -/
structure Visit where
  moment : Moment
  action : Action

/-- The entry of what a visit records, if it is accepted. -/
def Visit.entered? (k : Recorder) (stepMillis : Nat) (visit : Visit) : Option Entry :=
  match visit.action with
  | .record recording => k.entered? stepMillis visit.moment recording
  | _ => none

/-- The instrument that work leaves; work that does not suit leaves it as it is. -/
def after {α : Type} (i : Instrument) (work : Option (Outcome Instrument α)) : Instrument :=
  work.elim i Outcome.state

/-- The instrument after a visit. -/
def apply (i : Instrument) (visit : Visit) : Instrument :=
  match visit.action with
  | .record recording => i.after (i.record? visit.moment recording)
  | .read s unit => i.after (i.read? visit.moment s unit)
  | .percentile unit part => i.after (i.percentile? visit.moment unit part)
  | .countAtMost unit amount => i.after (i.countAtMost? visit.moment unit amount)
  | .snapshot => i.after (i.snapshot? visit.moment)
  | .roll => i.roll visit.moment

/-- The instrument after a run of visits. -/
def run (i : Instrument) (visits : List Visit) : Instrument := visits.foldl apply i

/-- All accepted recordings of a run, each in the step of the clock at the time. -/
def entries (k : Recorder) (stepMillis : Nat) (visits : List Visit) : Ledger :=
  visits.filterMap (Visit.entered? k stepMillis)

/-- What looks at an instrument leave. Nothing is said of instruments that take no recordings, but that they
stay such. -/
inductive Looked (m : Moment) : Instrument → Instrument → Prop where
  | counter {value value' : Accumulator} (h : value.Looked m.wall value') :
    Looked m (.counter value) (.counter value')
  | timer (unit : TimeUnit) {steps steps' : StepStatistics} (window window' : Window)
      (h : steps.Looked m.wall steps') :
    Looked m (.timer ⟨unit, ⟨steps, window⟩⟩) (.timer ⟨unit, ⟨steps', window'⟩⟩)
  | summary {steps steps' : StepStatistics} (window window' : Window) (h : steps.Looked m.wall steps') :
    Looked m (.summary ⟨steps, window⟩) (.summary ⟨steps', window'⟩)
  | other {i i' : Instrument} (h : i.recorder? = none) (h' : i'.recorder? = none) : Looked m i i'

section Looked
variable {m : Moment} {i i' i'' : Instrument}

/-- A meter that nobody read is as it was. -/
lemma looked_refl (m : Moment) (i : Instrument) : Looked m i i := by
  cases i with
  | counter value => exact .counter (.inl rfl)
  | timer t => exact .timer t.unit _ _ (t.nanos.steps.looked_refl m.wall)
  | summary d => exact .summary _ _ (d.steps.looked_refl m.wall)
  | _ => exact .other rfl rfl

/-- Looks do not make another meter of a meter. -/
lemma Looked.recorder?_eq (h : Looked m i i') : i'.recorder? = i.recorder? := by
  cases h with
  | other h h' => rw [h, h']
  | _ => rfl

/-- Looks of one moment add up. -/
lemma Looked.trans (h : Looked m i i') (h' : Looked m i' i'') : Looked m i i'' := by
  cases h with
  | counter h =>
    cases h' with
    | counter h' => exact .counter (h.trans h')
    | other h' _ => cases h'
  | timer unit window _ h =>
    cases h' with
    | timer _ _ window' h' => exact .timer unit window window' (h.trans h')
    | other h' _ => cases h'
  | summary window _ h =>
    cases h' with
    | summary _ window' h' => exact .summary window window' (h.trans h')
    | other h' _ => cases h'
  | other h mid =>
    exact .other h (h'.recorder?_eq.trans mid)

/-- An action that records nothing is a look. -/
lemma looked_apply (m : Moment) (i : Instrument) (action : Action) (look : action.IsLook) :
    Looked m i (i.apply ⟨m, action⟩) := by
  cases i with
  | counter value =>
    cases action with
    | record recording => exact absurd rfl (look recording)
    | read s unit =>
      cases s with
      | count => exact .counter (.inr rfl)
      | _ => exact .counter (.inl rfl)
    | roll => exact .counter (.inr rfl)
    | _ => exact .counter (.inl rfl)
  | timer t =>
    cases action with
    | record recording => exact absurd rfl (look recording)
    | read s unit =>
      cases s with
      | count => exact .timer t.unit _ _ (t.nanos.steps.looked_afterCount m.wall)
      | totalTime => exact .timer t.unit _ _ (t.nanos.steps.looked_afterTotal m.wall)
      | max => exact .timer t.unit _ _ (t.nanos.steps.looked_afterMax m.wall)
      | mean => exact .timer t.unit _ _ (t.nanos.steps.looked_afterMean m.wall)
      | _ => exact .timer t.unit _ _ (t.nanos.steps.looked_refl m.wall)
    | percentile unit part => exact .timer t.unit _ _ (t.nanos.steps.looked_refl m.wall)
    | countAtMost unit amount => exact .timer t.unit _ _ (t.nanos.steps.looked_refl m.wall)
    | snapshot => exact .timer t.unit _ _ (t.nanos.steps.looked_roll m.wall)
    | roll => exact .timer t.unit _ _ (t.nanos.steps.looked_roll m.wall)
  | summary d =>
    cases action with
    | record recording => exact absurd rfl (look recording)
    | read s unit =>
      cases s with
      | count => exact .summary _ _ (d.steps.looked_afterCount m.wall)
      | total => exact .summary _ _ (d.steps.looked_afterTotal m.wall)
      | max => exact .summary _ _ (d.steps.looked_afterMax m.wall)
      | mean => exact .summary _ _ (d.steps.looked_afterMean m.wall)
      | _ => exact .summary _ _ (d.steps.looked_refl m.wall)
    | percentile unit part => exact .summary _ _ (d.steps.looked_refl m.wall)
    | countAtMost unit amount => exact .summary _ _ (d.steps.looked_refl m.wall)
    | snapshot => exact .summary _ _ (d.steps.looked_roll m.wall)
    | roll => exact .summary _ _ (d.steps.looked_roll m.wall)
  -- the others take no recordings, before and after
  | gauge g => cases action <;> exact .other rfl rfl
  | functionCounter c =>
    cases action with
    | read s unit => cases s <;> exact .other rfl rfl
    | _ => exact .other rfl rfl
  | functionTimer t =>
    cases action with
    | read s unit => cases s <;> exact .other rfl rfl
    | _ => exact .other rfl rfl

end Looked

/-- A meter follows the clock, and keeps a ledger of its accepted recordings. -/
inductive Follows (stepMillis wall : Nat) (l : Ledger) : Recorder → Instrument → Prop where
  | counter {value : Accumulator} (h : value.Follows .sum stepMillis wall l) :
    Follows stepMillis wall l .counter (.counter value)
  | timer (unit : TimeUnit) {steps : StepStatistics} (window : Window) (h : steps.Follows stepMillis wall l) :
    Follows stepMillis wall l (.timer unit) (.timer ⟨unit, ⟨steps, window⟩⟩)
  | summary {steps : StepStatistics} (window : Window) (h : steps.Follows stepMillis wall l) :
    Follows stepMillis wall l .summary (.summary ⟨steps, window⟩)

section Follows
variable {i i' : Instrument} {k : Recorder} {stepMillis wall : Nat} {l : Ledger} {m : Moment}

/-- A mapped result that is there comes from one that was there. -/
lemma exists_of_map_eq_ok {ε α β : Type} {f : α → β} {x : Except ε α} {y : β} (h : x.map f = .ok y) :
    ∃ a, x = .ok a ∧ f a = y := by
  cases x with
  | error e => cases h
  | ok a => exact ⟨a, rfl, Except.ok.inj h⟩

/-- The statistics of a new distribution follow the empty ledger. -/
lemma follows_ofOptions {o : Distribution.Options} {stepMillis : Nat} {d : Distribution}
    (h : Distribution.ofOptions o stepMillis m = .ok d) : d.steps.Follows stepMillis m.wall [] := by
  obtain ⟨window, _, rfl⟩ := exists_of_map_eq_ok h
  exact StepStatistics.follows_new stepMillis m.wall

/-- A new meter that takes recordings follows the empty ledger. -/
lemma follows_build {b : Blueprint} {c : Configuration} (built : b.build c m = .ok i)
    (takes : b.recorder? c = some k) : Follows c.step.stepMillis m.wall [] k i := by
  cases b with
  | counter =>
    cases built
    cases takes
    exact .counter (Accumulator.follows_new .sum _ m.wall)
  | timer options =>
    obtain ⟨nanos, accepted, rfl⟩ := exists_of_map_eq_ok built
    cases takes
    exact .timer c.baseUnit nanos.window (follows_ofOptions accepted)
  | summary options =>
    obtain ⟨d, accepted, rfl⟩ := exists_of_map_eq_ok built
    cases takes
    exact .summary d.window (follows_ofOptions accepted)
  | _ => cases takes

/-- A meter takes the recordings that its blueprint says. -/
lemma recorder?_build {b : Blueprint} {c : Configuration} (built : b.build c m = .ok i) :
    i.recorder? = b.recorder? c := by
  cases b with
  | timer options =>
    obtain ⟨nanos, _, rfl⟩ := exists_of_map_eq_ok built
    rfl
  | summary options =>
    obtain ⟨d, _, rfl⟩ := exists_of_map_eq_ok built
    rfl
  | _ =>
    cases built
    rfl

/-- A recording does not change which recordings a meter takes. -/
lemma recorder?_record (i : Instrument) (m : Moment) (recording : Recording) :
    (i.after (i.record? m recording)).recorder? = i.recorder? := by
  cases i <;> cases recording <;> rfl

/-- Looks keep the ledger. -/
lemma Follows.looked (h : Follows stepMillis wall l k i) (le : wall ≤ m.wall) (look : Looked m i i') :
    Follows stepMillis m.wall l k i' := by
  cases h with
  | counter h =>
    cases look with
    | counter look => exact .counter (h.looked le look)
    | other none _ => cases none
  | timer unit window h =>
    cases look with
    | timer _ _ window' look => exact .timer unit window' (h.looked le look)
    | other none _ => cases none
  | summary window h =>
    cases look with
    | summary _ window' look => exact .summary window' (h.looked le look)
    | other none _ => cases none

/-- A meter that is left alone keeps its ledger. -/
lemma Follows.later {now : Nat} (h : Follows stepMillis wall l k i) (le : wall ≤ now) :
    Follows stepMillis now l k i :=
  h.looked (m := { wall := now, monotonic := 0 }) le (looked_refl _ i)

/-- An accepted amount is entered for the step of the clock. -/
lemma follows_record {d : Distribution} (h : d.steps.Follows stepMillis wall l) (le : wall ≤ m.wall)
    (x : Float) : (d.record m x).state.steps.Follows stepMillis m.wall
      (l ++ (((some x).filter Amount.isAccepted).map (Entry.mk (m.wall / stepMillis))).toList) := by
  rw [Option.filter_some, Distribution.record]
  split
  · exact h.record le x
  · rw [Option.map_none, Option.toList_none, List.append_nil]
    exact h.looked le (d.steps.looked_refl m.wall)

/-- A recording that does not suit a meter leaves no entry. -/
lemma Follows.record_none (h : Follows stepMillis wall l k i) (le : wall ≤ m.wall) (recording : Recording)
    (unsuited : i.record? m recording = none) (amount : k.amountOf? m recording = none) :
    Follows stepMillis m.wall (l ++ (k.entered? stepMillis m recording).toList) k
      (i.after (i.record? m recording)) := by
  rw [unsuited, Recorder.entered?, amount, Option.filter_none, Option.map_none, Option.toList_none,
    List.append_nil]
  exact h.later le

/-- An accepted recording is entered for the step of the clock. -/
lemma Follows.record (h : Follows stepMillis wall l k i) (le : wall ≤ m.wall) (recording : Recording) :
    Follows stepMillis m.wall (l ++ (k.entered? stepMillis m recording).toList) k
      (i.after (i.record? m recording)) := by
  have unsuited := h.record_none le recording
  cases h with
  | @counter value h =>
    cases recording with
    | amount x =>
      refine .counter ?_
      rw [Recorder.entered?, Recorder.amountOf?, Option.filter_some]
      split
      · exact h.record le x
      · rw [Option.map_none, Option.toList_none, List.append_nil]
        exact h.looked le (.inl rfl)
    | _ => exact unsuited rfl rfl
  | timer unit window h =>
    cases recording with
    | amount x => exact unsuited rfl rfl
    | duration d => exact .timer unit _ (follows_record (d := ⟨_, window⟩) h le _)
    | time u x => exact .timer unit _ (follows_record (d := ⟨_, window⟩) h le _)
    | since start => exact .timer unit _ (follows_record (d := ⟨_, window⟩) h le _)
  | summary window h =>
    cases recording with
    | amount x => exact .summary _ (follows_record (d := ⟨_, window⟩) h le x)
    | _ => exact unsuited rfl rfl

/-- A visit enters what it records, for the step of its moment, and nothing else. -/
lemma Follows.apply (h : Follows stepMillis wall l k i) (visit : Visit) (le : wall ≤ visit.moment.wall) :
    Follows stepMillis visit.moment.wall (l ++ (visit.entered? k stepMillis).toList) k (i.apply visit) := by
  obtain ⟨m, action⟩ := visit
  cases action with
  | record recording => exact h.record le recording
  | _ =>
    -- everything else is a look, and enters nothing
    rw [Visit.entered?, Option.toList_none, List.append_nil]
    exact h.looked le (looked_apply m i _ nofun)

/-- The entries of a run are those of the first visit and those of the rest. -/
lemma entries_cons (k : Recorder) (stepMillis : Nat) (visit : Visit) (rest : List Visit) :
    entries k stepMillis (visit :: rest)
      = (visit.entered? k stepMillis).toList ++ entries k stepMillis rest := by
  cases e : visit.entered? k stepMillis <;> simp [entries, e]

/-- A run under a clock that does not go back keeps the ledger. -/
lemma Follows.run {now : Nat} (h : Follows stepMillis wall l k i) (visits : List Visit)
    (order : (wall :: visits.map (·.moment.wall) ++ [now]).Pairwise (· ≤ ·)) :
    Follows stepMillis now (l ++ entries k stepMillis visits) k (i.run visits) := by
  induction visits generalizing i wall l with
  | nil =>
    rw [entries, List.filterMap_nil, List.append_nil]
    exact h.later (by simpa using order)
  | cons visit rest ih =>
    rw [List.map_cons, List.cons_append, List.pairwise_cons] at order
    have kept := ih (h.apply visit (order.1 _ (by simp))) order.2
    rw [List.append_assoc, ← entries_cons] at kept
    exact kept

/-- What a timer or summary shows if these amounts were recorded in the last complete step. -/
structure Describes (i : Instrument) (k : Recorder) (m : Moment) (amounts : List Float) : Prop where
  count : ∀ unit, (i.read? m .count unit).map Outcome.value = some (Float.ofNat (countOf amounts))
  total : ∀ unit, (i.read? m k.totalStatistic unit).map Outcome.value
    = some (k.scale unit (Aggregation.sum.aggregate amounts))
  max : ∀ unit, (i.read? m .max unit).map Outcome.value
    = some (k.scale unit (Aggregation.max.aggregate amounts))
  mean : ∀ unit, (i.read? m .mean unit).map Outcome.value
    = some (if countOf amounts = 0 then 0.0
      else k.scale unit (Aggregation.sum.aggregate amounts) / Float.ofNat (countOf amounts))
  snapshot : ∃ o, i.snapshot? m = some o ∧ o.value.count = countOf amounts ∧
    o.value.total = k.scale none (Aggregation.sum.aggregate amounts) ∧
    o.value.max = k.scale none (Aggregation.max.aggregate amounts)

/-- Statistics that follow the clock describe the step before that of the clock. -/
lemma Follows.describes (h : Follows stepMillis wall l k i) (le : wall ≤ m.wall) (kept : k ≠ .counter) :
    i.Describes k m (l.amountsBefore (m.wall / stepMillis)) := by
  cases h with
  | counter h => exact absurd rfl kept
  | timer base window h =>
    refine ⟨fun unit => ?_, fun unit => ?_, fun unit => ?_, fun unit => ?_, ?_⟩
    · rw [← h.count le]
      rfl
    · rw [← h.total le]
      rfl
    · rw [← h.max le]
      rfl
    · rw [← h.count le, ← h.total le]
      rfl
    · exact ⟨_, rfl, h.count le, congrArg base.ofNanos (h.total le), congrArg base.ofNanos (h.max le)⟩
  | summary window h =>
    refine ⟨fun unit => ?_, fun unit => ?_, fun unit => ?_, fun unit => ?_, ?_⟩
    · rw [← h.count le]
      rfl
    · rw [← h.total le]
      rfl
    · rw [← h.max le]
      rfl
    · rw [← h.count le, ← h.total le]
      rfl
    · exact ⟨_, rfl, h.count le, h.total le, h.max le⟩

/-- Whatever is done with a timer or summary under a clock that does not go back, and in whichever order, each
of its statistics and each snapshot describes exactly the accepted recordings of the step before that of the
clock. -/
theorem describes_run {b : Blueprint} {c : Configuration} {birth : Moment} (built : b.build c birth = .ok i)
    (takes : b.recorder? c = some k) (kept : k ≠ .counter) (past : List Visit)
    (order : (birth.wall :: past.map (·.moment.wall) ++ [m.wall]).Pairwise (· ≤ ·)) :
    (i.run past).Describes k m
      ((entries k c.step.stepMillis past).amountsBefore (m.wall / c.step.stepMillis)) :=
  ((follows_build built takes).run past order).describes (Nat.le_refl _) kept

/-- A timer whose count alone was read at the turn of a step: total and count still describe the same. -/
theorem describes_run_timer :
    let at' (wall : Nat) : Moment := { wall, monotonic := 0 }
    let past : List Visit := [⟨at' 5, .record (.time .seconds 7.0)⟩, ⟨at' 60000, .read .count none⟩,
      ⟨at' 60001, .record (.time .seconds (-1.0))⟩, ⟨at' 60002, .record (.time .seconds 2.0)⟩]
    ∃ i, (Blueprint.timer {}).build {} (at' 0) = .ok i ∧
      ((i.run past).read? (at' 120000) .count none).map Outcome.value = some (Float.ofNat 1) ∧
      ((i.run past).read? (at' 120000) .totalTime none).map Outcome.value
        = some (TimeUnit.milliseconds.ofNanos 2000000000.0) := by
  intro at' past
  have built : (Blueprint.timer {}).build {} (at' 0) = .ok _ := rfl
  have shown := describes_run (m := at' 120000) built rfl nofun past (by decide)
  refine ⟨_, built, (shown.count none).trans ?_, (shown.total none).trans ?_⟩
  · decide +kernel
  · decide +kernel

end Follows

end Instrument

end StepMeters
