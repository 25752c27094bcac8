import StepMeters.Proofs.Meter.Watching
import StepMeters.Proofs.Registry.Places
import StepMeters.Proofs.Window.CatchUp

/-!
# Meters that catch up

A meter that has not been looked at for a while is behind the clock, and each of its accumulators and its window may
be behind by a different time. What it is once all of them have moved on to a moment (`Instrument.caughtUp`) is all
that matters to what is read of it at that moment (`value_read_caughtUp` and its like) or later
(`caughtUp_later`), and looks do not change it (`caughtUp_look`).
-/

namespace StepMeters

namespace Accumulator
variable {a a' : Accumulator} {wall wall' : Nat}

/-- Moving to one time and then to a later one is moving to the later one. -/
lemma roll_roll_of_le (a : Accumulator) (le : wall ≤ wall') : (a.roll wall).roll wall' = a.roll wall' := by
  cases shut : a.closed with
  | true => rw [roll_of_closed shut]
  | false =>
    have mono : wall / a.stepMillis ≤ wall' / a.stepMillis := Nat.div_le_div_right le
    by_cases here : wall / a.stepMillis ≤ a.step
    · rw [roll_of_le here]
    · have first : a.roll wall = { a with
          step := wall / a.stepMillis
          live := 0.0
          shown := if a.step + 1 < wall / a.stepMillis then 0.0 else a.live } := by
        simp [roll, shut, here]
      by_cases still : wall' / a.stepMillis ≤ wall / a.stepMillis
      · -- both times are in one step
        have same : wall' / a.stepMillis = wall / a.stepMillis := by omega
        rw [roll_of_le (by rw [first]; exact still)]
        simp only [roll, same]
      · -- nothing was added between the two, so the second move shows zero
        have gap : a.step + 1 < wall' / a.stepMillis := by omega
        have later : ¬wall' / a.stepMillis ≤ a.step := by omega
        rw [first]
        simp [roll, shut, still, later, gap]

/-- A look at an accumulator does only what moving on does again. -/
lemma Looked.roll_eq (look : a.Looked wall a') : a'.roll wall = a.roll wall := by
  rcases look with rfl | rfl
  · rfl
  · exact roll_roll a wall

/-- A recording moves on by itself. -/
lemma record_roll (a : Accumulator) (wall : Nat) (amount : Float) :
    (a.roll wall).record wall amount = a.record wall amount := by
  rw [record, roll_roll, record]

/-- Closing moves on by itself. -/
lemma close_roll (a : Accumulator) (wall : Nat) : (a.roll wall).close wall = a.close wall := by
  rw [close, roll_roll, close]

/-- A look moves on by itself. -/
lemma poll_roll (a : Accumulator) (wall : Nat) : (a.roll wall).poll wall = a.poll wall := by
  rw [poll, roll_roll, poll]

end Accumulator

namespace StepStatistics
variable {s s' : StepStatistics} {wall wall' : Nat}

/-- Moving on twice is moving on to the later moment. -/
lemma roll_roll_of_le (s : StepStatistics) (le : wall ≤ wall') : (s.roll wall).roll wall' = s.roll wall' := by
  simp only [roll, Accumulator.roll_roll_of_le _ le]

/-- A look at the statistics does only what moving on does again. -/
lemma Looked.roll_eq (look : s.Looked wall s') : s'.roll wall = s.roll wall := by
  simp only [roll, look.counts.roll_eq, look.totals.roll_eq, look.maxima.roll_eq]

/-- A recording moves the statistics on by itself. -/
lemma record_roll (s : StepStatistics) (wall : Nat) (amount : Float) :
    (s.roll wall).record wall amount = s.record wall amount := by
  simp only [record, roll, Accumulator.record_roll]

/-- Closing moves the statistics on by itself. -/
lemma close_roll (s : StepStatistics) (wall : Nat) : (s.roll wall).close wall = s.close wall := by
  simp only [close, roll, Accumulator.close_roll]

/-- Reading the count moves on by itself. -/
lemma count_roll (s : StepStatistics) (wall : Nat) : (s.roll wall).count wall = s.count wall := by
  simp only [count, roll, Accumulator.poll_roll]

/-- Reading the total moves on by itself. -/
lemma total_roll (s : StepStatistics) (wall : Nat) : (s.roll wall).total wall = s.total wall :=
  s.totals.poll_roll wall

/-- Reading the maximum moves on by itself. -/
lemma max_roll (s : StepStatistics) (wall : Nat) : (s.roll wall).max wall = s.max wall :=
  s.maxima.poll_roll wall

end StepStatistics

/-- A distribution whose statistics and window have moved on to a moment. -/
def Distribution.caughtUp (d : Distribution) (m : Moment) : Distribution :=
  { steps := d.steps.roll m.wall, window := d.window.rotate m.monotonic }

namespace Distribution
variable {m m' : Moment}

/-- Moving a distribution on twice is moving it on once. -/
lemma caughtUp_caughtUp (d : Distribution) (m : Moment) : (d.caughtUp m).caughtUp m = d.caughtUp m := by
  simp only [caughtUp, StepStatistics.roll_roll_of_le _ (Nat.le_refl m.wall), Window.rotate_rotate_self]

/-- A recording comes to the same whether or not the distribution had moved on before. -/
lemma caughtUp_record (d : Distribution) (m : Moment) (amount : Float) :
    ((d.caughtUp m).record m amount).state.caughtUp m = (d.record m amount).state.caughtUp m := by
  have window := d.window.rotate_apply_rotate ⟨m.monotonic, .record amount⟩
  rw [record, record]
  -- an amount that is not accepted leaves the distribution as it is
  split
  · show Distribution.mk (((d.steps.roll m.wall).record m.wall amount).roll m.wall) _ = _
    rw [StepStatistics.record_roll]
    exact congrArg (Distribution.mk _) window
  · exact d.caughtUp_caughtUp m

/-- Closing comes to the same whether or not the distribution had moved on before. -/
lemma caughtUp_close (d : Distribution) (m : Moment) :
    ((d.caughtUp m).close m).caughtUp m = (d.close m).caughtUp m := by
  simp only [caughtUp, close, StepStatistics.close_roll, Window.rotate_rotate_self]

/-- A snapshot is what its parts are if each of them is asked for by itself. -/
lemma value_snapshot (d : Distribution) (m : Moment) : (d.snapshot m).value =
    { count := d.steps.count m.wall
      total := d.steps.total m.wall
      max := d.steps.max m.wall
      percentiles := (d.window.percentileValues m.monotonic).value
      boundaries := (d.window.boundaryCounts m.monotonic).value } := by
  rw [← d.window.value_boundaryCounts_percentileValues]
  rfl

/-- A snapshot does not depend on whether the distribution had moved on before. -/
lemma value_snapshot_caughtUp (d : Distribution) (m : Moment) :
    ((d.caughtUp m).snapshot m).value = (d.snapshot m).value := by
  simp only [value_snapshot, caughtUp, StepStatistics.count_roll, StepStatistics.total_roll,
    StepStatistics.max_roll, Window.value_percentileValues_rotate, Window.value_boundaryCounts_rotate]

/-- A percentile does not depend on whether the distribution had moved on before. -/
lemma value_percentile_caughtUp (d : Distribution) (m : Moment) (part : Float) :
    ((d.caughtUp m).percentile m part).value = (d.percentile m part).value :=
  d.window.value_percentile_rotate m.monotonic part

/-- A count up to a boundary does not depend on whether the distribution had moved on before. -/
lemma value_countAtMost_caughtUp (d : Distribution) (m : Moment) (amount : Float) :
    ((d.caughtUp m).countAtMost m amount).value = (d.countAtMost m amount).value :=
  d.window.value_countAtMost_rotate m.monotonic amount

end Distribution

/-- The ring of a window has a current phase. -/
def Window.IsRing (w : Window) : Prop := w.current < w.phases.length

/-- A visit keeps the current phase one of the ring. -/
lemma Window.IsRing.apply {w : Window} (h : w.IsRing) (visit : Visit) : (w.apply visit).IsRing := by
  rw [apply_eq]
  split
  · rename_i amount _
    have filed : ((w.rotate visit.reading).file amount).phases.length = (w.rotate visit.reading).phases.length :=
      List.length_modify ..
    show (w.rotate visit.reading).current < _
    rw [filed]
    exact current_rotate_lt h visit.reading
  · split
    · exact current_rotate_lt h visit.reading
    · exact h

/-- A run of visits keeps the current phase one of the ring. -/
lemma Window.IsRing.run {w : Window} (h : w.IsRing) (visits : List Visit) : (w.run visits).IsRing := by
  induction visits generalizing w with
  | nil => exact h
  | cons visit rest ih => exact ih (h.apply visit)

/-- A new window has a current phase. -/
lemma Window.isRing_of_ofSettings {s : Distribution.Settings} {start : Nat} {w : Window}
    (created : ofSettings s start = .ok w) : w.IsRing := by
  obtain ⟨accepted, rfl⟩ := new_of_ofSettings created
  show 0 < (List.replicate s.bufferLength _).length
  rw [List.length_replicate]
  exact (Distribution.Settings.fault?_eq_none_iff.1 accepted).bufferLength_pos

namespace Instrument

/-- A meter that takes recordings, once all of it has moved on to a moment. -/
def caughtUp (m : Moment) : Instrument → Option Instrument
  | counter value => some (counter (value.roll m.wall))
  | timer t => some (timer { t with nanos := t.nanos.caughtUp m })
  | summary d => some (summary (d.caughtUp m))
  | _ => none

/-- The window of a meter is a ring. -/
def IsRing (i : Instrument) : Prop := ∀ w, i.window? = some w → w.IsRing

/-- The windows of all meters stay rings, whatever is done with the meters. -/
lemma isInvariant_isRing (c : Configuration) : IsInvariant c IsRing where
  build := by
    intro b m i built w has
    cases b with
    | timer options =>
      obtain ⟨d, accepted, rfl⟩ := exists_of_map_eq_ok built
      obtain ⟨window, created, rfl⟩ := exists_of_map_eq_ok accepted
      cases has
      exact Window.isRing_of_ofSettings created
    | summary options =>
      obtain ⟨d, accepted, rfl⟩ := exists_of_map_eq_ok built
      obtain ⟨window, created, rfl⟩ := exists_of_map_eq_ok accepted
      cases has
      exact Window.isRing_of_ofSettings created
    | _ =>
      cases built
      cases has
  gauge g w has := by cases has
  apply visit i ring w has := by
    rw [window?_apply, Option.map_eq_some_iff] at has
    obtain ⟨before, has, rfl⟩ := has
    exact (ring before has).run _
  close m i ring w has := by
    rw [window?_close] at has
    exact ring w has

section CaughtUp
variable {i i' j : Instrument} {m m' : Moment}

/-- Meters that take no recordings do not catch up. -/
lemma caughtUp_of_recorder? (plain : i.recorder? = none) (m : Moment) : i.caughtUp m = none := by
  cases i <;> first | rfl | cases plain

/-- Catching up twice is catching up once. -/
lemma caughtUp_caughtUp (i : Instrument) (m : Moment) : (i.caughtUp m).bind (caughtUp m) = i.caughtUp m := by
  cases i with
  | counter value => exact congrArg (fun a => some (counter a)) (value.roll_roll m.wall)
  | timer t => exact congrArg (fun d => some (timer { t with nanos := d })) (t.nanos.caughtUp_caughtUp m)
  | summary d => exact congrArg (fun d => some (summary d)) (d.caughtUp_caughtUp m)
  | _ => rfl

/-- What a look at a meter does with its window is to look at it, too. -/
lemma looks_watched (i : Instrument) (m : Moment) {action : Action} (look : action.IsLook) :
    ∀ visit ∈ i.watched [⟨m, action⟩], visit.reading = m.monotonic ∧ visit.action.amount? = none := by
  intro visit mem
  rw [watched] at mem
  cases takes : i.recorder? with
  | none =>
    rw [takes] at mem
    cases mem
  | some k =>
    rw [takes, Option.elim_some, List.flatMap_singleton] at mem
    cases action with
    | record recording => exact absurd rfl (look recording)
    | snapshot =>
      rcases List.mem_cons.1 mem with rfl | mem
      · exact ⟨rfl, rfl⟩
      · cases List.mem_singleton.1 mem
        exact ⟨rfl, rfl⟩
    | percentile unit part =>
      cases List.mem_singleton.1 mem
      exact ⟨rfl, rfl⟩
    | countAtMost unit amount =>
      cases List.mem_singleton.1 mem
      exact ⟨rfl, rfl⟩
    | _ => cases mem

/-- A look at a meter does not change what it is once it has caught up. -/
lemma caughtUp_look (i : Instrument) (m : Moment) {action : Action} (look : action.IsLook) :
    (i.apply ⟨m, action⟩).caughtUp m = i.caughtUp m := by
  have window := i.window?_apply ⟨m, action⟩
  have looks := i.looks_watched m look
  have looked := looked_apply m i action look
  generalize i.apply ⟨m, action⟩ = i' at window looked
  cases looked with
  | counter steps => exact congrArg (fun a => some (counter a)) steps.roll_eq
  | timer unit w w' steps =>
    have run : w' = w.run _ := Option.some.inj window
    have same : w'.rotate m.monotonic = w.rotate m.monotonic := run ▸ w.rotate_run_of_looks looks
    show some (timer ⟨unit, ⟨_, _⟩⟩) = some (timer ⟨unit, ⟨_, _⟩⟩)
    rw [steps.roll_eq, same]
  | summary w w' steps =>
    have run : w' = w.run _ := Option.some.inj window
    have same : w'.rotate m.monotonic = w.rotate m.monotonic := run ▸ w.rotate_run_of_looks looks
    show some (summary ⟨_, _⟩) = some (summary ⟨_, _⟩)
    rw [steps.roll_eq, same]
  | other plain plain' => rw [caughtUp_of_recorder? plain, caughtUp_of_recorder? plain']

/-- Whether a meter has caught up before a recording makes no difference after it. -/
lemma caughtUp_record (i : Instrument) (m : Moment) (recording : Recording) :
    (i.apply ⟨m, .record recording⟩).caughtUp m
      = (i.caughtUp m).bind fun j => (j.apply ⟨m, .record recording⟩).caughtUp m := by
  have again := i.caughtUp_caughtUp m
  cases i with
  | counter value =>
    cases recording with
    | amount x =>
      show some (counter ((if Amount.isAccepted x then value.record m.wall x else value).roll m.wall))
        = some (counter ((if Amount.isAccepted x then (value.roll m.wall).record m.wall x
          else value.roll m.wall).roll m.wall))
      rw [Accumulator.record_roll]
      split
      · rfl
      · rw [Accumulator.roll_roll]
    | _ => exact again.symm
  | timer t =>
    have record (x : Float) := t.nanos.caughtUp_record m x
    cases recording with
    | amount x => exact again.symm
    | duration d => exact congrArg (fun d => some (timer { t with nanos := d })) (record _).symm
    | time unit x => exact congrArg (fun d => some (timer { t with nanos := d })) (record _).symm
    | since start => exact congrArg (fun d => some (timer { t with nanos := d })) (record _).symm
  | summary d =>
    cases recording with
    | amount x => exact congrArg (fun d => some (summary d)) (d.caughtUp_record m x).symm
    | _ => exact again.symm
  | _ => cases recording <;> rfl

/-- Closing a meter comes to the same whether or not it had moved on before. -/
lemma caughtUp_close (i : Instrument) (m : Moment) :
    (i.close m).caughtUp m = (i.caughtUp m).bind fun j => (j.close m).caughtUp m := by
  cases i with
  | counter value => exact congrArg (fun a => some (counter (a.roll m.wall))) (value.close_roll m.wall).symm
  | timer t => exact congrArg (fun d => some (timer { t with nanos := d })) (t.nanos.caughtUp_close m).symm
  | summary d => exact congrArg (fun d => some (summary d)) (d.caughtUp_close m).symm
  | _ => rfl

/-- A meter that has caught up with one moment still has to catch up with a later one, and with nothing else. -/
lemma caughtUp_later (ring : i.IsRing) (wall : m.wall ≤ m'.wall) (monotonic : m.monotonic ≤ m'.monotonic) :
    i.caughtUp m' = (i.caughtUp m).bind (caughtUp m') := by
  cases i with
  | counter value => exact congrArg (fun a => some (counter a)) (value.roll_roll_of_le wall).symm
  | timer t =>
    have window := t.nanos.window.rotate_rotate (ring _ rfl) monotonic
    show some (timer ⟨_, ⟨_, _⟩⟩) = some (timer ⟨_, ⟨(t.nanos.steps.roll m.wall).roll m'.wall, _⟩⟩)
    rw [StepStatistics.roll_roll_of_le _ wall]
    exact congrArg (fun w => some (timer ⟨t.unit, ⟨t.nanos.steps.roll m'.wall, w⟩⟩)) window.symm
  | summary d =>
    have window := d.window.rotate_rotate (ring _ rfl) monotonic
    show some (summary ⟨_, _⟩) = some (summary ⟨(d.steps.roll m.wall).roll m'.wall, _⟩)
    rw [StepStatistics.roll_roll_of_le _ wall]
    exact congrArg (fun w => some (summary ⟨d.steps.roll m'.wall, w⟩)) window.symm
  | _ => rfl

/-- Each meter that takes recordings catches up. -/
lemma exists_caughtUp {k : Recorder} (takes : i.recorder? = some k) (m : Moment) :
    ∃ j, i.caughtUp m = some j := by
  cases i <;> first | exact ⟨_, rfl⟩ | cases takes

/-- A meter that has caught up is still of its kind. -/
lemma kind_caughtUp (caught : i.caughtUp m = some j) : j.kind = i.kind ∧ i.kind ≠ .gauge := by
  cases i <;> cases caught <;> exact ⟨rfl, nofun⟩

/-- A meter that has moved on publishes the same statistics. -/
lemma statistics_caughtUp (caught : i.caughtUp m = some j) : j.statistics = i.statistics := by
  cases i <;> cases caught <;> rfl

section Values
variable (caught : i.caughtUp m = some j)
include caught

/-- All that is read of a meter at a moment is read of what it is once it has caught up. -/
lemma value_read_caughtUp (s : Statistic) (unit : Option TimeUnit) :
    (j.read? m s unit).map Outcome.value = (i.read? m s unit).map Outcome.value := by
  cases i with
  | counter value =>
    cases caught
    cases s with
    | count => exact congrArg some (value.poll_roll m.wall)
    | _ => rfl
  | timer t =>
    cases caught
    have count := t.nanos.steps.count_roll m.wall
    have total := t.nanos.steps.total_roll m.wall
    have max := t.nanos.steps.max_roll m.wall
    cases s <;> simp only [read?, Distribution.caughtUp, count, total, max, Option.map_some, Option.map_none]
  | summary d =>
    cases caught
    have count := d.steps.count_roll m.wall
    have total := d.steps.total_roll m.wall
    have max := d.steps.max_roll m.wall
    cases s <;> simp only [read?, Distribution.caughtUp, count, total, max, Option.map_some, Option.map_none]
  | _ => cases caught

/-- A percentile does not depend on whether the meter had moved on before. -/
lemma value_percentile_caughtUp (unit : Option TimeUnit) (part : Float) :
    (j.percentile? m unit part).map Outcome.value = (i.percentile? m unit part).map Outcome.value := by
  cases i with
  | counter value =>
    cases caught
    rfl
  | timer t =>
    cases caught
    exact congrArg (fun x => some ((unit.getD t.unit).ofNanos x)) (t.nanos.value_percentile_caughtUp m part)
  | summary d =>
    cases caught
    exact congrArg some (d.value_percentile_caughtUp m part)
  | _ => cases caught

/-- A count up to a boundary does not depend on whether the meter had moved on before. -/
lemma value_countAtMost_caughtUp (unit : Option TimeUnit) (amount : Float) :
    (j.countAtMost? m unit amount).map Outcome.value = (i.countAtMost? m unit amount).map Outcome.value := by
  cases i with
  | counter value =>
    cases caught
    rfl
  | timer t =>
    cases caught
    exact congrArg some (t.nanos.value_countAtMost_caughtUp m _)
  | summary d =>
    cases caught
    exact congrArg some (d.value_countAtMost_caughtUp m amount)
  | _ => cases caught

/-- A snapshot does not depend on whether the meter had moved on before. -/
lemma value_snapshot_caughtUp :
    (j.snapshot? m).map Outcome.value = (i.snapshot? m).map Outcome.value := by
  cases i with
  | counter value =>
    cases caught
    rfl
  | timer t =>
    cases caught
    have value := t.nanos.value_snapshot_caughtUp m
    simp only [snapshot?, Timer.snapshot, Outcome.map, Outcome.within, Option.map_some, value]
  | summary d =>
    cases caught
    exact congrArg some (d.value_snapshot_caughtUp m)
  | _ => cases caught

end Values

end CaughtUp

end Instrument

end StepMeters
