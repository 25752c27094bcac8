import StepMeters.Proofs.Meter.Freezing
import StepMeters.Proofs.Registry.Identities
import StepMeters.Proofs.Registry.Lives

/-!
# Frozen registries

When a registry closes, all its meters close before the first of them is read, so the last publication reports
what their parts show from then on (`reports_close`). Whatever is asked of a closed registry visits its meters at
most (`getElem?_serve`), and a closed meter shows the same after any visit. So all that is read of it later agrees
with the last publication (`close_freezes`).
-/

namespace StepMeters.Registry

section Frozen
variable {r : Registry} {ref : MeterRef} {meter : Meter} {shown : Part → Float} {m : Moment}

/-- What a visit answers is what the meter at its place does. -/
lemma value_visit {α : Type} (r : Registry) (ref : MeterRef)
    (work? : Instrument → Option (Outcome Instrument α)) :
    (r.visit ref work?).value
      = (r.meters[ref]?.bind fun meter => work? meter.instrument).map Outcome.value := by
  rw [visit]
  cases r.meters[ref]?.bind fun meter => work? meter.instrument <;> rfl

/-- A meter that is no gauge is read by itself. -/
lemma read_eq_visit (there : r.meters[ref]? = some meter) (stepped : meter.kind ≠ .gauge) (m : Moment)
    (unit : Option TimeUnit) (s : Statistic) : r.read m ref unit s = r.visit ref (·.read? m s unit) := by
  unfold read
  rw [there]
  obtain ⟨id, i⟩ := meter
  cases i with
  | gauge g => exact absurd rfl stepped
  | _ => rfl

/-- Nothing makes a gauge of a meter. -/
lemma stepped_of_kept (stepped : meter.kind ≠ .gauge) {i : Instrument} (kept : meter.instrument.Kept i) :
    ({ meter with instrument := i } : Meter).kind ≠ .gauge :=
  fun gauge => stepped (kept.kind.symm.trans gauge)

/-- A closed meter is read as what its parts show in the end. -/
lemma value_read (there : r.meters[ref]? = some meter) (stepped : meter.kind ≠ .gauge)
    (h : meter.instrument.Frozen shown) (m : Moment) (unit : Option TimeUnit) (s : Statistic) :
    (r.read m ref unit s).value = meter.instrument.reading? shown s unit := by
  rw [read_eq_visit there stepped, value_visit, there, Option.bind_some, h.read]

/-- All readings of a closed meter agree, in whichever order. -/
lemma value_readAll (there : r.meters[ref]? = some meter) (stepped : meter.kind ≠ .gauge)
    (h : meter.instrument.Frozen shown) (m : Moment) (statistics : List Statistic) :
    (r.readAll m ref none statistics).value = statistics.filterMap fun s =>
      (meter.instrument.reading? shown s none).map (Measurement.mk s) := by
  induction statistics generalizing r meter with
  | nil => rfl
  | cons s rest ih =>
    -- reading one statistic may touch the meter, but it stays as it shows itself
    let visits := visitsAt ref m (readTouches r.meters ref none s)
    have there' : (r.read m ref none s).state.meters[ref]?
        = some { meter with instrument := meter.instrument.run visits } := by
      rw [state_read]
      exact getElem?_touched there m _
    have rest' := ih there' (stepped_of_kept stepped (Instrument.kept_run _ visits)) (h.run visits)
    rw [Instrument.reading?_run] at rest'
    show ((r.read m ref none s).value.map fun value => ⟨s, value⟩).toList
      ++ ((r.read m ref none s).state.readAll m ref none rest).value = _
    rw [value_read there stepped h, rest', List.filterMap_cons]
    cases meter.instrument.reading? shown s none <;> rfl

/-- A closed meter reports what its parts show. -/
lemma value_report (there : r.meters[ref]? = some meter) (stepped : meter.kind ≠ .gauge)
    (h : meter.instrument.Frozen shown) (m : Moment) : (r.report m ref).value
      = some { kind := meter.kind, id := meter.id, measurements := meter.instrument.measurements shown } := by
  rw [report]
  split
  · rename_i none
    rw [there] at none
    cases none
  · rename_i found
    rw [there, Option.some_inj] at found
    subst found
    show some (Report.mk _ _ _) = _
    rw [value_readAll there stepped h]
    rfl

/-- Each meter has its report at its place, given after some touches. -/
lemma reports_getElem? {refs : List MeterRef} (exist : ∀ ref ∈ refs, ref < r.meters.length)
    (remarks : Report → List Event) {n : Nat} (there : refs[n]? = some ref) :
    ∃ touches, (r.reports m refs remarks).value[n]? = ((r.touched m touches).report m ref).value := by
  induction refs generalizing r n with
  | nil => cases there
  | cons head rest ih =>
    obtain ⟨first, e⟩ : ∃ report, (r.report m head).value = some report := by
      rw [report, List.getElem?_eq_getElem (exist head List.mem_cons_self)]
      exact ⟨_, rfl⟩
    have split : (r.reports m (head :: rest) remarks).value
        = first :: ((r.report m head).state.reports m rest remarks).value := by
      show (r.report m head).value.toList ++ _ = _
      rw [e]
      rfl
    rw [split, state_report]
    cases n with
    | zero =>
      cases there
      exact ⟨[], e.symm⟩
    | succ n =>
      -- the report of the head has touched some meters before
      obtain ⟨touches, value⟩ := ih (r := r.touched m (reportTouches r.meters head)) (fun ref' mem => by
        show ref' < (touchAll m r.meters _).length
        rw [length_touchAll]
        exact exist ref' (List.mem_cons_of_mem _ mem)) there
      rw [touched_touched] at value
      exact ⟨_, value⟩

/-- A closed meter shows its parts as it did before. -/
lemma measurements_close_run (i : Instrument) (m : Moment) (visits : List Instrument.Visit) :
    ((i.close m).run visits).measurements shown = i.measurements shown := by
  have statistics : (i.close m).statistics = i.statistics := by
    cases i <;> rfl
  rw [Instrument.measurements, Instrument.measurements, Instrument.statistics_run,
    Instrument.reading?_run, Instrument.reading?_close, statistics]

section Closed
variable {visits : List Instrument.Visit}
  (there : r.meters[ref]? = some { meter with instrument := (meter.instrument.close m).run visits })
  (stepped : meter.kind ≠ .gauge) (h : (meter.instrument.close m).Frozen shown)
include there stepped h

/-- What is read of a closed meter, whatever has been done with it since. -/
lemma value_read_close (now : Moment) (unit : Option TimeUnit) (s : Statistic) :
    (r.read now ref unit s).value = meter.instrument.reading? shown s unit := by
  have kept := (Instrument.kept_close m meter.instrument).trans (Instrument.kept_run _ visits)
  rw [value_read there (stepped_of_kept stepped kept) (h.run visits), Instrument.reading?_run,
    Instrument.reading?_close]

/-- What a closed meter reports, whatever has been done with it since. -/
lemma value_report_close (now : Moment) : (r.report now ref).value = some
    { kind := meter.kind, id := meter.id, measurements := meter.instrument.measurements shown } := by
  have kept := (Instrument.kept_close m meter.instrument).trans (Instrument.kept_run _ visits)
  rw [value_report there (stepped_of_kept stepped kept) (h.run visits), Meter.kind, kept.kind,
    measurements_close_run]
  rfl

end Closed

/-- Each meter is closed in its place. -/
lemma getElem?_closeAll (there : r.meters[ref]? = some meter) (m : Moment) :
    (r.closeAll m).meters[ref]? = some (meter.close m) := by
  rw [closeAll, List.getElem?_map, there]
  rfl

/-- The last publication reports what the parts of each meter show once it is closed. -/
lemma reports_close (isOpen : r.closed = false) (enabled : r.config.enabled = true)
    (there : r.meters[ref]? = some meter) (stepped : meter.kind ≠ .gauge)
    (h : (meter.instrument.close m).Frozen shown) :
    ∃ publication, (r.close m).value = some publication ∧ publication.reports[ref]?
      = some { kind := meter.kind, id := meter.id, measurements := meter.instrument.measurements shown } := by
  -- all meters are closed before the first of them is read
  let closing := ({ r with closed := true } : Registry).closeAll m
  have closed : closing.meters[ref]? = some (meter.close m) := getElem?_closeAll there m
  have place : closing.places[ref]? = some ref := by
    rw [places, List.getElem?_range (List.getElem?_eq_some_iff.1 closed).1]
  obtain ⟨touches, value⟩ := reports_getElem? (m := m) (fun _ => List.mem_range.1) closing.publisher.remarks place
  refine ⟨(closing.deliver m).value, (close_of_enabled isOpen enabled m).1, value.trans ?_⟩
  exact value_report_close (getElem?_touched closed m touches) stepped h m

/-- The meters that a registry leaves when it closes are closed. -/
lemma getElem?_close (isOpen : r.closed = false) (enabled : r.config.enabled = true)
    (there : r.meters[ref]? = some meter) (m : Moment) : (r.close m).state.closed = true ∧
      ∃ visits, (r.close m).state.meters[ref]?
        = some { meter with instrument := (meter.instrument.close m).run visits } := by
  obtain ⟨-, state⟩ := close_of_enabled isOpen enabled m
  rw [state_deliver] at state
  rw [state]
  let closing := ({ r with closed := true } : Registry).closeAll m
  have closed : closing.meters[ref]? = some (meter.close m) := getElem?_closeAll there m
  exact ⟨rfl, _, getElem?_touched closed m _⟩

/-- Whatever is asked of a closed registry, its meters are visited at most. -/
lemma getElem?_serve (closed : r.closed = true) (there : r.meters[ref]? = some meter)
    (requests : List Request) :
    ∃ visits, (r.serve requests).meters[ref]?
      = some { meter with instrument := meter.instrument.run visits } := by
  induction requests generalizing r meter with
  | nil => exact ⟨[], there⟩
  | cons request rest ih =>
    have handled : (r.handle request).closed = true ∧ ∃ visits, (r.handle request).meters[ref]?
        = some { meter with instrument := meter.instrument.run visits } := by
      cases request with
      | visit visit =>
        have grows := r.grows_apply visit
        exact ⟨grows.closed.trans closed, _, grows.getElem? there⟩
      | close m =>
        -- a closed registry does not close again
        have same : r.handle (.close m) = r := congrArg Outcome.state (close_of_closed closed m)
        rw [same]
        exact ⟨closed, [], there⟩
    obtain ⟨closed', visits, there'⟩ := handled
    obtain ⟨later, found⟩ := ih closed' there'
    refine ⟨visits ++ later, found.trans ?_⟩
    rw [Instrument.run_append]

end Frozen

section Freezes
variable {r : Registry} {c : Configuration} {p : Publisher} {ref : MeterRef} {meter : Meter}

/-- Every counter, timer and summary of an enabled registry, those that observe included, is frozen by its close:
each of its parts shows the aggregate of the amounts that were added to it while it was in the step in which it
closed, the last publication reports this, and so do all reports and readings ever after. -/
theorem close_freezes (created : ofConfiguration c p = .ok r) (enabled : c.enabled = true) (past : List Visit)
    (there : (r.run past).meters[ref]? = some meter) (stepped : meter.kind ≠ .gauge) (m : Moment) :
    ∃ (life : Life) (b : Blueprint), life? ref r none past = some life ∧
      b.build c life.birth = .ok life.new ∧ meter.instrument = life.new.run life.visits ∧
      let shown (part : Part) := part.aggregation.aggregate (life.new.lastAmounts life.visits m part)
      let report : Report :=
        { kind := meter.kind, id := meter.id, measurements := meter.instrument.measurements shown }
      let closed := (r.run past).close m
      (∃ publication, closed.value = some publication ∧ publication.reports[ref]? = some report) ∧
      ∀ later : List Request,
        (∃ i, (closed.state.serve later).meters[ref]? = some { meter with instrument := i } ∧ i.Frozen shown) ∧
        ∀ now, ((closed.state.serve later).report now ref).value = some report ∧
          ∀ s unit, ((closed.state.serve later).read now ref unit s).value
            = meter.instrument.reading? shown s unit := by
  have lives := (lives_of_ofConfiguration created ref).run past
  obtain ⟨life, lived, isNew, grown⟩ := lives.exists_life there
  obtain ⟨b, built⟩ : ∃ b : Blueprint, b.build c life.birth = .ok life.new := by
    rcases isNew with built | gauge
    · exact built
    · refine absurd ?_ stepped
      rw [Meter.kind, grown, (life.new.kept_run life.visits).kind, gauge]
  refine ⟨life, b, lived, built, grown, ?_⟩
  intro shown report closed
  have frozen : (meter.instrument.close m).Frozen shown := by
    rw [grown]
    exact Instrument.frozen_close built life.visits m
  have publishes : (r.run past).config.enabled = true := lives.config.symm ▸ enabled
  refine ⟨reports_close lives.isOpen publishes there stepped frozen, fun later => ?_⟩
  obtain ⟨shut, visits, closing⟩ := getElem?_close lives.isOpen publishes there m
  obtain ⟨visits', after⟩ := getElem?_serve shut closing later
  -- all that has been done with the meter since it closed
  let since := visits ++ visits'
  have after : (closed.state.serve later).meters[ref]?
      = some { meter with instrument := (meter.instrument.close m).run since } := by
    rw [after, Instrument.run_append]
  refine ⟨⟨_, after, frozen.run since⟩, fun now => ⟨value_report_close after stepped frozen now, ?_⟩⟩
  exact fun s unit => value_read_close after stepped frozen now unit s

/-- A function timer whose count alone was read at the turn of a step. Its count closes with what came after, its
total with nothing, for the total was still in the step before. -/
theorem close_freezes_functionTimer :
    let at' (wall : Nat) (amount time : Float) : Moment :=
      { wall, monotonic := 0, sighting? := fun _ => some { amount, time } }
    let r : Registry := { config := {}, publisher := .hook [] }
    let past : List Visit := [⟨at' 0 0.0 0.0, .register { name := "t" } (.functionTimer 0 .nanoseconds)⟩,
      ⟨at' 5 1.0 10.0, .read 0 none .count⟩, ⟨at' 60000 3.0 30.0, .read 0 none .count⟩]
    let closed := (r.run past).close (at' 60005 4.0 60.0)
    let later : List Request := [.visit ⟨at' 120000 9.0 90.0, .publish⟩, .close (at' 180000 9.0 90.0)]
    ∀ now, ((closed.state.serve later).read now 0 none .count).value = some 1.0 ∧
      ((closed.state.serve later).read now 0 (some .nanoseconds) .totalTime).value
        = some (TimeUnit.nanoseconds.ofNanos 0.0) := by
  intro at' r past closed later now
  have created : ofConfiguration {} (.hook []) = .ok r := by rfl
  obtain ⟨meter, there, kind, unit⟩ : ∃ meter, (r.run past).meters[0]? = some meter ∧
      meter.instrument.kind = .functionTimer ∧ meter.instrument.unit? = some .milliseconds :=
    ⟨_, rfl, rfl, rfl⟩
  have stepped : meter.kind ≠ .gauge := by
    rw [Meter.kind, kind]
    decide
  obtain ⟨life, b, lived, -, -, -, frozen⟩ :=
    close_freezes created rfl past there stepped (at' 60005 4.0 60.0)
  have same : _ = life := Option.some.inj lived
  -- the count was read in the last step and the total was not, so they close in different steps
  have counts : life.new.lastAmounts life.visits (at' 60005 4.0 60.0) .count = [1.0] := by
    rw [← same]
    decide +kernel
  have totals : life.new.lastAmounts life.visits (at' 60005 4.0 60.0) .total = [] := by
    rw [← same]
    decide +kernel
  have readings := ((frozen later).2 now).2
  refine ⟨(readings .count none).trans ?_, (readings .totalTime (some .nanoseconds)).trans ?_⟩
  · rw [Instrument.reading?, kind, Kind.reading?, counts]
    rfl
  · rw [Instrument.reading?, kind, Kind.reading?, totals, Instrument.scale, unit]
    rfl

end Freezes

end StepMeters.Registry
