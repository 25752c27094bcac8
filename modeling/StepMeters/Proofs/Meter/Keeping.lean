import StepMeters.Meter.Derived
import StepMeters.Proofs.Meter.History
import StepMeters.Proofs.Window.History

/-!
# What meters keep

Whatever is done with a meter, from its creation to its closing and after, it stays of its kind and the gauges
that come with it stay the same: recordings and readings change the ring of a window, but neither its
percentiles nor its boundaries (`Instrument.kept_apply`, `Instrument.kept_close`). Nor does the unit change in which
it publishes (`Instrument.unit?_run`).
-/

namespace StepMeters

namespace Distribution
variable (d : Distribution) (m : Moment)

/-- A recording leaves the set-up of the window alone. -/
lemma isLike_record (amount : Float) : (d.record m amount).state.window.IsLike d.window := by
  rw [record]
  split
  · exact d.window.isLike_apply ⟨m.monotonic, .record amount⟩
  · rfl

/-- A percentile leaves the set-up of the window alone. -/
lemma isLike_percentile (part : Float) : (d.percentile m part).state.window.IsLike d.window :=
  d.window.isLike_apply ⟨m.monotonic, .percentile part⟩

/-- A count up to a boundary leaves the set-up of the window alone. -/
lemma isLike_countAtMost (amount : Float) : (d.countAtMost m amount).state.window.IsLike d.window :=
  d.window.isLike_apply ⟨m.monotonic, .countAtMost amount⟩

/-- A snapshot leaves the set-up of the window alone. -/
lemma isLike_snapshot : (d.snapshot m).state.window.IsLike d.window :=
  ((d.window.percentileValues m.monotonic).state.isLike_apply ⟨m.monotonic, .boundaryCounts⟩).trans
    (d.window.isLike_apply ⟨m.monotonic, .percentileValues⟩)

end Distribution

/-- A look at the object does not change the unit of a function timer. -/
lemma FunctionTimer.unit_pull (t : FunctionTimer) (m : Moment) : (t.pull m).unit = t.unit := by
  rw [pull]
  split
  · rfl
  · split <;> rfl

namespace Instrument

/-- An instrument stays of its kind and brings the same gauges with it. -/
structure Kept (i i' : Instrument) : Prop where
  kind : i'.kind = i.kind
  derived : ∀ id owner, Meter.derived ⟨id, i'⟩ owner = Meter.derived ⟨id, i⟩ owner

section Kept
variable {i i' i'' : Instrument}

/-- A meter that is left alone is kept. -/
lemma kept_refl (i : Instrument) : Kept i i := ⟨rfl, fun _ _ => rfl⟩

/-- What is kept twice is kept. -/
lemma Kept.trans (h : Kept i i') (h' : Kept i' i'') : Kept i i'' :=
  ⟨h'.kind.trans h.kind, fun id owner => (h'.derived id owner).trans (h.derived id owner)⟩

/-- A meter is of the kind of its blueprint. -/
lemma kind_build {b : Blueprint} {c : Configuration} {m : Moment} (built : b.build c m = .ok i) :
    i.kind = b.kind := by
  cases b with
  | timer options =>
    obtain ⟨nanos, _, rfl⟩ := exists_of_map_eq_ok built
    rfl
  | summary options =>
    obtain ⟨d, _, rfl⟩ := exists_of_map_eq_ok built
    rfl
  | _ =>
    cases built
    rfl

/-- Timers that differ in their statistics and rings only bring the same gauges with them. -/
lemma kept_timer {t t' : Timer} (unit : t'.unit = t.unit) (like : t'.nanos.window.IsLike t.nanos.window) :
    Kept (.timer t) (.timer t') where
  kind := rfl
  derived id owner := by
    simp only [Meter.derived, distribution?, like.percentiles, like.boundaries, unit]

/-- A summary is kept if the set-up of its window is. -/
lemma kept_summary {d d' : Distribution} (like : d'.window.IsLike d.window) :
    Kept (.summary d) (.summary d') where
  kind := rfl
  derived id owner := by
    simp only [Meter.derived, distribution?, like.percentiles, like.boundaries]

/-- Nothing that is done with an open meter changes its kind or its gauges. -/
lemma kept_apply (m : Moment) (i : Instrument) (action : Action) : Kept i (i.apply ⟨m, action⟩) := by
  cases i with
  | timer t =>
    cases action with
    | record recording =>
      cases recording with
      | amount x => exact kept_refl _
      | duration d => exact kept_timer rfl (t.nanos.isLike_record m _)
      | time unit x => exact kept_timer rfl (t.nanos.isLike_record m _)
      | since start => exact kept_timer rfl (t.nanos.isLike_record m _)
    | read s unit => cases s <;> exact kept_timer rfl rfl
    | percentile unit part => exact kept_timer rfl (t.nanos.isLike_percentile m part)
    | countAtMost unit amount => exact kept_timer rfl (t.nanos.isLike_countAtMost m _)
    | snapshot => exact kept_timer rfl (t.nanos.isLike_snapshot m)
    | roll => exact kept_timer rfl rfl
  | summary d =>
    cases action with
    | record recording =>
      cases recording with
      | amount x => exact kept_summary (d.isLike_record m x)
      | _ => exact kept_refl _
    | read s unit => cases s <;> exact kept_summary rfl
    | percentile unit part => exact kept_summary (d.isLike_percentile m part)
    | countAtMost unit amount => exact kept_summary (d.isLike_countAtMost m amount)
    | snapshot => exact kept_summary (d.isLike_snapshot m)
    | roll => exact kept_summary rfl
  -- the others bring no gauges with them, before and after
  | counter value =>
    cases action with
    | record recording => cases recording <;> exact ⟨rfl, fun _ _ => rfl⟩
    | read s unit => cases s <;> exact ⟨rfl, fun _ _ => rfl⟩
    | _ => exact ⟨rfl, fun _ _ => rfl⟩
  | gauge g => cases action <;> exact ⟨rfl, fun _ _ => rfl⟩
  | functionCounter c =>
    cases action with
    | read s unit => cases s <;> exact ⟨rfl, fun _ _ => rfl⟩
    | _ => exact ⟨rfl, fun _ _ => rfl⟩
  | functionTimer t =>
    cases action with
    | read s unit => cases s <;> exact ⟨rfl, fun _ _ => rfl⟩
    | _ => exact ⟨rfl, fun _ _ => rfl⟩

/-- No run of visits changes the kind of a meter or the gauges it brings. -/
lemma kept_run (i : Instrument) (visits : List Visit) : Kept i (i.run visits) := by
  induction visits generalizing i with
  | nil => exact kept_refl i
  | cons visit rest ih => exact (kept_apply visit.moment i visit.action).trans (ih _)

/-- Closing changes neither the kind of a meter nor the gauges it brings. -/
lemma kept_close (m : Moment) (i : Instrument) : Kept i (i.close m) := by
  cases i with
  | timer t => exact kept_timer rfl rfl
  | summary d => exact kept_summary rfl
  | _ => exact ⟨rfl, fun _ _ => rfl⟩

end Kept

/-- A meter publishes in one unit for ever. -/
lemma unit?_apply (i : Instrument) (visit : Visit) : (i.apply visit).unit? = i.unit? := by
  obtain ⟨m, action⟩ := visit
  cases i with
  | functionTimer t =>
    have pulled := congrArg some (t.unit_pull m)
    cases action with
    | read s unit =>
      cases s with
      | count => exact pulled
      | totalTime => exact pulled
      | mean =>
        show some (t.afterMean m).unit = some t.unit
        rw [FunctionTimer.afterMean]
        split
        · exact pulled
        · exact (congrArg some ((t.afterCount m).unit_pull m)).trans pulled
      | _ => rfl
    | roll => exact pulled
    | _ => rfl
  | _ =>
    cases action with
    | record recording => cases recording <;> rfl
    | read s unit => cases s <;> rfl
    | _ => rfl

/-- No run of visits changes the unit of a meter. -/
lemma unit?_run (i : Instrument) (visits : List Visit) : (i.run visits).unit? = i.unit? := by
  induction visits generalizing i with
  | nil => rfl
  | cons visit rest ih => exact (ih _).trans (i.unit?_apply visit)

end Instrument

end StepMeters
