import StepMeters.Proofs.Meter.Gauges
import StepMeters.Proofs.Meter.Parts
import StepMeters.Proofs.Registry.Touches
import StepMeters.Proofs.Window.Accepting

/-!
# Accepted readings of meters

Amounts that are not accepted are kept from meters at several places: before or after they are converted, and for
meters that observe as differences of what was seen, which may be undefined. All of it comes down to what is added to
the parts of a meter. Whatever is done, only accepted amounts are added to a part (`areAccepted_work`), and sums and
greatest amounts of these are accepted again (`Accumulator.IsAccepted.run`). So what a meter keeps is accepted at any
time (`Instrument.IsAccepted.apply`), and what it answers is made of this (`Instrument.IsAccepted.read`).
-/

namespace StepMeters

namespace TimeUnit

/-- The nanoseconds of a unit are a positive number. -/
lemma isNumber_nanos (unit : TimeUnit) : Amount.IsNumber unit.nanos := by
  have pos : 0.0 < unit.nanos := by cases unit <;> decide
  have lt : unit.nanos < 1e15 := by cases unit <;> decide
  exact Amount.exists_finite_of_lt pos lt

/-- No accepted amount of nanoseconds is negative or undefined in another unit. -/
lemma zero_le_ofNanos (unit : TimeUnit) {amount : Float} (accepted : 0.0 ≤ amount) : 0.0 ≤ unit.ofNanos amount :=
  Amount.zero_le_div accepted unit.isNumber_nanos

/-- No accepted amount of a unit is negative or undefined in nanoseconds. -/
lemma zero_le_toNanos (unit : TimeUnit) {amount : Float} (accepted : 0.0 ≤ amount) : 0.0 ≤ unit.toNanos amount :=
  Amount.zero_le_mul accepted unit.isNumber_nanos

end TimeUnit

/-- The mean of an accepted total is accepted, nothing recorded included. -/
lemma zero_le_meanOf {count : Nat} {total : Float} (small : count < UInt64.size) (accepted : 0.0 ≤ total) :
    0.0 ≤ meanOf count total := by
  rw [meanOf]
  split
  · exact Amount.le_refl Amount.isNaN_zero
  · rename_i some
    exact Amount.zero_le_div accepted (Amount.isNumber_ofNat (Nat.pos_of_ne_zero some) small)

namespace Accumulator

/-- Both values of an accumulator are accepted. -/
structure IsAccepted (a : Accumulator) : Prop where
  live : 0.0 ≤ a.live
  shown : 0.0 ≤ a.shown

/-- All amounts that some actions add are accepted. -/
def AreAccepted (actions : List Action) : Prop := ∀ action ∈ actions, ∀ amount ∈ action.amount?, 0.0 ≤ amount

section IsAccepted
variable {a : Accumulator} {actions actions' : List Action}

/-- Accepted amounts aggregate to accepted ones. -/
lemma zero_le_combine (g : Aggregation) {soFar amount : Float} (h : 0.0 ≤ soFar) (h' : 0.0 ≤ amount) :
    0.0 ≤ g.combine soFar amount := by
  cases g with
  | sum => exact Amount.zero_le_add h h'
  | max =>
    show 0.0 ≤ if soFar < amount then amount else soFar
    split
    · exact h'
    · exact h

/-- A new accumulator shows and keeps zero. -/
lemma isAccepted_new (g : Aggregation) (stepMillis wall : Nat) : (new g stepMillis wall).IsAccepted :=
  ⟨Amount.le_refl Amount.isNaN_zero, Amount.le_refl Amount.isNaN_zero⟩

/-- Moving on keeps accepted values accepted. -/
lemma IsAccepted.roll (h : a.IsAccepted) (wall : Nat) : (a.roll wall).IsAccepted := by
  have zero := Amount.le_refl Amount.isNaN_zero
  rw [Accumulator.roll]
  split
  · exact h
  · refine ⟨zero, ?_⟩
    dsimp only
    split
    · exact zero
    · exact h.live

/-- Adding an accepted amount keeps the values accepted. -/
lemma IsAccepted.add (h : a.IsAccepted) {amount : Float} (accepted : 0.0 ≤ amount) : (a.add amount).IsAccepted :=
  ⟨zero_le_combine a.aggregation h.live accepted, h.shown⟩

/-- Closing keeps the values accepted. -/
lemma IsAccepted.close (h : a.IsAccepted) (wall : Nat) : (a.close wall).IsAccepted := by
  have rolled := h.roll wall
  rw [Accumulator.close]
  split
  · exact rolled
  · exact ⟨Amount.le_refl Amount.isNaN_zero, rolled.live⟩

/-- The value read is accepted. -/
lemma IsAccepted.poll (h : a.IsAccepted) (wall : Nat) : 0.0 ≤ a.poll wall := (h.roll wall).shown

/-- An action that adds only what is accepted keeps the values accepted. -/
lemma IsAccepted.apply (h : a.IsAccepted) {action : Action} (accepted : ∀ amount ∈ action.amount?, 0.0 ≤ amount) :
    (a.apply action).IsAccepted := by
  cases action with
  | record wall amount => exact (h.roll wall).add (accepted amount rfl)
  | add amount => exact h.add (accepted amount rfl)
  | roll wall => exact h.roll wall
  | poll wall => exact h.roll wall

/-- Actions that add only what is accepted keep the values accepted. -/
lemma IsAccepted.run (h : a.IsAccepted) (accepted : AreAccepted actions) : (a.run actions).IsAccepted := by
  induction actions generalizing a with
  | nil => exact h
  | cons action rest ih =>
    obtain ⟨here, later⟩ := List.forall_mem_cons.1 accepted
    exact ih (h.apply here) later

/-- No action adds nothing that is not accepted. -/
lemma areAccepted_nil : AreAccepted [] := fun _ none => absurd none List.not_mem_nil

/-- Two runs that add only what is accepted do so one after the other. -/
lemma AreAccepted.append (h : AreAccepted actions) (h' : AreAccepted actions') : AreAccepted (actions ++ actions') :=
  List.forall_mem_append.2 ⟨h, h'⟩

/-- A look adds nothing. -/
lemma areAccepted_singleton {action : Action} (look : action.amount? = none) : AreAccepted [action] := by
  intro action' mem amount brings
  rw [List.mem_singleton.1 mem, look] at brings
  cases brings

/-- A rise is above zero, which no undefined difference is. -/
lemma areAccepted_riseBy (rise : Float) {convert : Float → Float} (keeps : ∀ x, 0.0 ≤ x → 0.0 ≤ convert x) :
    AreAccepted (riseBy rise convert) := by
  rw [riseBy]
  split
  · rename_i above
    intro action mem amount brings
    rw [List.mem_singleton.1 mem] at brings
    cases brings
    exact keeps rise (Amount.le_of_lt above)
  · exact areAccepted_nil

end IsAccepted

end Accumulator

open Accumulator (AreAccepted areAccepted_nil areAccepted_singleton areAccepted_riseBy)

/-- A look at a part adds nothing. -/
lemma Part.areAccepted_polled (part : Part) (wall : Nat) (at' : Part) : AreAccepted (part.polled wall at') := by
  rw [polled]
  split
  · exact areAccepted_singleton rfl
  · exact areAccepted_nil

/-- What a function counter adds after a look at its object is a rise, and so accepted. -/
lemma FunctionCounter.areAccepted_pulled (c : FunctionCounter) (m : Moment) : AreAccepted (c.pulled m) := by
  rw [pulled]
  split
  · exact areAccepted_nil
  · split
    · exact areAccepted_nil
    · exact areAccepted_riseBy _ fun _ accepted => accepted

namespace FunctionTimer
variable (t : FunctionTimer) (m : Moment)

/-- What a function timer adds after a look at its object are rises, and so accepted. -/
lemma areAccepted_pulled (part : Part) : AreAccepted (t.pulled m part) := by
  rw [pulled]
  split
  · exact areAccepted_nil
  · split
    · exact areAccepted_nil
    · cases part with
      | count => exact areAccepted_riseBy _ fun _ accepted => accepted
      | total => exact areAccepted_riseBy _ fun _ accepted => t.sourceUnit.zero_le_toNanos accepted
      | max => exact areAccepted_nil

/-- A function timer that is read adds rises only. -/
lemma areAccepted_looked (at' part : Part) : AreAccepted (t.looked m at' part) :=
  (t.areAccepted_pulled m part).append (part.areAccepted_polled m.wall at')

end FunctionTimer

/-- What a recording counts as is accepted with it. -/
lemma Recorder.zero_le_share (k : Recorder) (part : Part) {amount : Float} (accepted : 0.0 ≤ amount) :
    0.0 ≤ k.share part amount := by
  have one : (0.0 : Float) ≤ 1.0 := by decide
  cases k with
  | counter => exact accepted
  | _ =>
    cases part with
    | count => exact one
    | _ => exact accepted

/-- An accepted amount is accepted in the unit in which a meter shows it. -/
lemma Recorder.zero_le_scale (k : Recorder) (unit : Option TimeUnit) {amount : Float} (accepted : 0.0 ≤ amount) :
    0.0 ≤ k.scale unit amount := by
  cases k with
  | timer base => exact (unit.getD base).zero_le_ofNanos accepted
  | _ => exact accepted

namespace Instrument

section Work
variable (i : Instrument) (m : Moment)

/-- What a meter adds after a look at its object is accepted. -/
lemma areAccepted_pulled (part : Part) : AreAccepted (i.pulled m part) := by
  cases i with
  | functionCounter c => exact c.areAccepted_pulled m
  | functionTimer t => exact t.areAccepted_pulled m part
  | _ => exact areAccepted_nil

/-- What a meter files of a recording is accepted. -/
lemma areAccepted_filed (recording : Recording) (part : Part) : AreAccepted (i.filed m recording part) := by
  rw [filed]
  split
  · exact areAccepted_nil
  · rename_i k _
    intro action mem amount brings
    rw [Option.mem_toList, Option.map_eq_some_iff] at mem
    obtain ⟨x, recorded, rfl⟩ := mem
    cases brings
    exact k.zero_le_share part (Amount.isAccepted_iff.1 (Option.filter_eq_some_iff.1 recorded).2)

/-- A meter that is read adds only what is accepted. -/
lemma areAccepted_looked (s : Statistic) (part : Part) : AreAccepted (i.looked m s part) := by
  have mean (polled : Prop) [Decidable polled] {count total : List Accumulator.Action} (h : AreAccepted count)
      (h' : AreAccepted total) : AreAccepted (count ++ if polled then [] else total) := by
    refine h.append ?_
    split
    · exact areAccepted_nil
    · exact h'
  have poll := part.areAccepted_polled m.wall
  cases i with
  | counter value =>
    cases s with
    | count => exact poll .count
    | _ => exact areAccepted_nil
  | gauge g => cases s <;> exact areAccepted_nil
  | timer t =>
    cases s with
    | count => exact poll .count
    | totalTime => exact poll .total
    | max => exact poll .max
    | mean => exact mean _ (poll .count) (poll .total)
    | _ => exact areAccepted_nil
  | summary d =>
    cases s with
    | count => exact poll .count
    | total => exact poll .total
    | max => exact poll .max
    | mean => exact mean _ (poll .count) (poll .total)
    | _ => exact areAccepted_nil
  | functionCounter c =>
    cases s with
    | count => exact (c.areAccepted_pulled m).append (poll .count)
    | _ => exact areAccepted_nil
  | functionTimer t =>
    cases s with
    | count => exact t.areAccepted_looked m .count part
    | totalTime => exact t.areAccepted_looked m .total part
    | mean =>
      exact mean _ (t.areAccepted_looked m .count part) ((t.afterCount m).areAccepted_looked m .total part)
    | _ => exact areAccepted_nil

/-- Whatever is done with a meter, what it adds to its parts is accepted. -/
lemma areAccepted_work (visit : Visit) (part : Part) : AreAccepted (i.work visit part) := by
  obtain ⟨m, action⟩ := visit
  cases action with
  | record recording => exact i.areAccepted_filed m recording part
  | read s unit => exact i.areAccepted_looked m s part
  | percentile unit x => exact areAccepted_nil
  | countAtMost unit amount => exact areAccepted_nil
  | snapshot =>
    cases i with
    | timer t => exact areAccepted_singleton rfl
    | summary d => exact areAccepted_singleton rfl
    | _ => exact areAccepted_nil
  | roll => exact (i.areAccepted_pulled m part).append (areAccepted_singleton rfl)

end Work

/-- All that a meter keeps is accepted. -/
structure IsAccepted (i : Instrument) : Prop where
  part : ∀ part a, i.part? part = some a → a.IsAccepted
  window : ∀ w, i.window? = some w → w.IsAccepted

/-- All that a new meter keeps is accepted. -/
lemma isAccepted_build {b : Blueprint} {c : Configuration} {m : Moment} {i : Instrument} (built : b.build c m = .ok i) :
    i.IsAccepted := by
  constructor
  · intro part a has
    rw [part?_build built has]
    exact Accumulator.isAccepted_new _ _ _
  · intro w has
    cases asks : b.settings? c with
    | some s =>
      obtain ⟨w', has', created⟩ := window?_build built asks
      cases has.symm.trans has'
      exact Window.isAccepted_new created
    | none =>
      cases b with
      | timer options => cases asks
      | summary options => cases asks
      | _ =>
        cases built
        cases has

/-- A gauge keeps nothing. -/
lemma isAccepted_gauge (g : Gauge) : (gauge g).IsAccepted := by
  constructor
  · intro part a has
    cases part <;> cases has
  · nofun

/-- No visit leaves a meter with something that is not accepted. -/
lemma IsAccepted.apply {i : Instrument} (h : i.IsAccepted) (visit : Visit) : (i.apply visit).IsAccepted := by
  constructor
  · intro part a has
    rw [part?_apply, Option.map_eq_some_iff] at has
    obtain ⟨before, has, rfl⟩ := has
    exact (h.part part before has).run (i.areAccepted_work visit part)
  · intro w has
    rw [window?_apply, Option.map_eq_some_iff] at has
    obtain ⟨before, has, rfl⟩ := has
    exact (h.window before has).run _

/-- Closing a meter leaves nothing that is not accepted. -/
lemma IsAccepted.close {i : Instrument} (h : i.IsAccepted) (m : Moment) : (i.close m).IsAccepted := by
  constructor
  · intro part a has
    rw [part?_close, Option.map_eq_some_iff] at has
    obtain ⟨before, has, rfl⟩ := has
    exact ((h.part part before has).run (i.areAccepted_pulled m part)).close m.wall
  · intro w has
    rw [window?_close] at has
    exact h.window w has

end Instrument

/-- Whether a statistic of a kind of meter is read as an amount that is accepted, gauges aside. The mean of a function
timer is undefined if count and total are both infinite. -/
def Kind.guards : Kind → Statistic → Bool
  | counter, .count => true
  | timer, .count => true
  | timer, .totalTime => true
  | timer, .max => true
  | timer, .mean => true
  | summary, .count => true
  | summary, .total => true
  | summary, .max => true
  | summary, .mean => true
  | functionCounter, .count => true
  | functionTimer, .count => true
  | functionTimer, .totalTime => true
  | _, _ => false

/-- The timer or summary that a gauge came with. -/
def Gauge.owner? : Gauge → Option MeterRef
  | observed _ => none
  | percentile owner _ => some owner
  | countAtMost owner _ => some owner

namespace Instrument

/-- The timer or summary that an instrument came with, if it is such a gauge. -/
def owner? (i : Instrument) : Option MeterRef := i.gauge?.bind Gauge.owner?

/-- Whether a statistic of a meter is read as an amount that is accepted. Gauges of objects show whatever the objects
show. -/
def guards (i : Instrument) (s : Statistic) : Bool :=
  match i.kind with
  | .gauge => i.owner?.isSome && s = .value
  | kind => kind.guards s

/-- Whether an instrument is a timer or a summary. -/
def IsDistribution (i : Instrument) : Prop := i.kind = .timer ∨ i.kind = .summary

end Instrument

/-- All amounts that a snapshot shows are accepted, and so are the counts of the boundaries. -/
structure Snapshot.IsAccepted (s : Snapshot) : Prop where
  total : Amount.isAccepted s.total
  max : Amount.isAccepted s.max
  mean : Amount.isAccepted s.mean
  percentiles : ∀ p ∈ s.percentiles, Amount.isAccepted p.amount
  boundaries : ∀ b ∈ s.boundaries, Amount.isAccepted b.count

/-- The mean of a snapshot need not be checked: it follows from total and count. -/
lemma Snapshot.isAccepted_of_zero_le {s : Snapshot} (small : s.count < UInt64.size) (total : 0.0 ≤ s.total)
    (max : 0.0 ≤ s.max) (percentiles : ∀ p ∈ s.percentiles, 0.0 ≤ p.amount)
    (boundaries : ∀ b ∈ s.boundaries, 0.0 ≤ b.count) : s.IsAccepted where
  total := Amount.isAccepted_iff.2 total
  max := Amount.isAccepted_iff.2 max
  mean := Amount.isAccepted_iff.2 (zero_le_meanOf small total)
  percentiles p mem := Amount.isAccepted_iff.2 (percentiles p mem)
  boundaries b mem := Amount.isAccepted_iff.2 (boundaries b mem)

/-- A count is read as a machine word. -/
lemma StepStatistics.count_lt (s : StepStatistics) (wall : Nat) : s.count wall < UInt64.size :=
  UInt64.toNat_lt_size _

namespace FunctionTimer
variable {t : FunctionTimer} (m : Moment)

/-- The count of a function timer is accepted if its accumulator is. -/
lemma zero_le_count (h : t.counts.IsAccepted) : 0.0 ≤ t.count m := by
  rw [count, counts_pull]
  exact (h.run (t.areAccepted_pulled m .count)).poll m.wall

/-- The total time of a function timer is accepted in any unit if its accumulator is. -/
lemma zero_le_totalTime (h : t.totals.IsAccepted) (unit : TimeUnit) : 0.0 ≤ t.totalTime m unit := by
  rw [totalTime, totals_pull]
  exact unit.zero_le_ofNanos ((h.run (t.areAccepted_pulled m .total)).poll m.wall)

end FunctionTimer

namespace Instrument

/-- Timers and summaries have a window. -/
lemma exists_window {i : Instrument} (keeps : i.IsDistribution) :
    ∃ k w, i.recorder? = some k ∧ i.window? = some w := by
  cases i with
  | timer t => exact ⟨_, _, rfl, rfl⟩
  | summary d => exact ⟨_, _, rfl, rfl⟩
  | _ => rcases keeps with keeps | keeps <;> cases keeps

section Answers
variable {i : Instrument} (h : i.IsAccepted) (m : Moment)
include h

/-- A meter that is no gauge reads accepted amounts. -/
lemma IsAccepted.read (unit : Option TimeUnit) {s : Statistic} (guarded : i.kind.guards s = true) :
    ∃ value, (i.read? m s unit).map Outcome.value = some value ∧ 0.0 ≤ value := by
  cases i with
  | counter value =>
    have count := (h.part .count _ rfl).poll m.wall
    cases s with
    | count => exact ⟨_, rfl, count⟩
    | _ => cases guarded
  | gauge g => cases guarded
  | timer t =>
    have total : 0.0 ≤ (unit.getD t.unit).ofNanos (t.nanos.steps.total m.wall) :=
      (unit.getD t.unit).zero_le_ofNanos ((h.part .total _ rfl).poll m.wall)
    have max : 0.0 ≤ (unit.getD t.unit).ofNanos (t.nanos.steps.max m.wall) :=
      (unit.getD t.unit).zero_le_ofNanos ((h.part .max _ rfl).poll m.wall)
    cases s with
    | count => exact ⟨_, rfl, Amount.zero_le_ofNat _⟩
    | totalTime => exact ⟨_, rfl, total⟩
    | max => exact ⟨_, rfl, max⟩
    | mean => exact ⟨_, rfl, zero_le_meanOf (t.nanos.steps.count_lt m.wall) total⟩
    | _ => cases guarded
  | summary d =>
    have total : 0.0 ≤ d.steps.total m.wall := (h.part .total _ rfl).poll m.wall
    have max : 0.0 ≤ d.steps.max m.wall := (h.part .max _ rfl).poll m.wall
    cases s with
    | count => exact ⟨_, rfl, Amount.zero_le_ofNat _⟩
    | total => exact ⟨_, rfl, total⟩
    | max => exact ⟨_, rfl, max⟩
    | mean => exact ⟨_, rfl, zero_le_meanOf (d.steps.count_lt m.wall) total⟩
    | _ => cases guarded
  | functionCounter c =>
    have count : 0.0 ≤ c.count m := by
      rw [FunctionCounter.count, c.value_pull]
      exact ((h.part .count _ rfl).run (c.areAccepted_pulled m)).poll m.wall
    cases s with
    | count => exact ⟨_, rfl, count⟩
    | _ => cases guarded
  -- the mean is not guarded: it may be infinity over infinity
  | functionTimer t =>
    cases s with
    | count => exact ⟨_, rfl, t.zero_le_count m (h.part .count _ rfl)⟩
    | totalTime => exact ⟨_, rfl, t.zero_le_totalTime m (h.part .total _ rfl) _⟩
    | _ => cases guarded

/-- Each percentile of a timer or summary has a value, and it is accepted. -/
lemma IsAccepted.percentile (keeps : i.IsDistribution) (unit : Option TimeUnit) (part : Float) :
    ∃ value, (i.percentile? m unit part).map Outcome.value = some value ∧ 0.0 ≤ value := by
  obtain ⟨k, w, takes, has⟩ := exists_window keeps
  have accepted := (h.window w has).zero_le_percentile m.monotonic part
  exact ⟨_, value_percentile_window takes has m unit part, k.zero_le_scale unit accepted⟩

omit h in
/-- Each count up to a boundary of a timer or summary has a value, and it is accepted. -/
lemma exists_countAtMost (keeps : i.IsDistribution) (unit : Option TimeUnit) (amount : Float) :
    ∃ value, (i.countAtMost? m unit amount).map Outcome.value = some value ∧ 0.0 ≤ value := by
  obtain ⟨k, w, takes, has⟩ := exists_window keeps
  exact ⟨_, value_countAtMost_window takes has m unit amount, w.zero_le_countAtMost _ _⟩

/-- A timer or summary has a snapshot, and all amounts of it are accepted. -/
lemma IsAccepted.snapshot (keeps : i.IsDistribution) :
    ∃ snapshot, (i.snapshot? m).map Outcome.value = some snapshot ∧ snapshot.IsAccepted := by
  cases i with
  | timer t =>
    have window := h.window _ rfl
    have total : 0.0 ≤ t.nanos.steps.total m.wall := (h.part .total _ rfl).poll m.wall
    have max : 0.0 ≤ t.nanos.steps.max m.wall := (h.part .max _ rfl).poll m.wall
    refine ⟨(t.snapshot m).value, rfl, ?_⟩
    rw [Timer.snapshot, Outcome.map, Outcome.within, t.nanos.value_snapshot]
    refine Snapshot.isAccepted_of_zero_le (t.nanos.steps.count_lt m.wall) (t.unit.zero_le_ofNanos total)
      (t.unit.zero_le_ofNanos max) (fun p mem => ?_) fun b mem => ?_
    · obtain ⟨kept, listed, rfl⟩ := List.mem_map.1 mem
      exact t.unit.zero_le_ofNanos (window.zero_le_percentileValues _ kept listed)
    · obtain ⟨kept, listed, rfl⟩ := List.mem_map.1 mem
      exact Window.zero_le_boundaryCounts _ _ kept listed
  | summary d =>
    have window := h.window _ rfl
    have total : 0.0 ≤ d.steps.total m.wall := (h.part .total _ rfl).poll m.wall
    have max : 0.0 ≤ d.steps.max m.wall := (h.part .max _ rfl).poll m.wall
    refine ⟨(d.snapshot m).value, rfl, ?_⟩
    rw [d.value_snapshot]
    exact Snapshot.isAccepted_of_zero_le (d.steps.count_lt m.wall) total max
      (window.zero_le_percentileValues _) (Window.zero_le_boundaryCounts _ _)
  | _ => rcases keeps with keeps | keeps <;> cases keeps

end Answers

end Instrument

end StepMeters
