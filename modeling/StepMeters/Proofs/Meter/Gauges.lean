import StepMeters.Proofs.Decimal.Numerals
import StepMeters.Proofs.Meter.CatchUp
import StepMeters.Proofs.Window.Listing

/-!
# The gauges of a distribution

A timer or summary answers questions about its window, one by one or all at once in a snapshot, and the gauges that
come with it ask such questions. Since the texts of different percentiles are different, each percentile has an
identity of its own among these gauges (`find?_derived_percentile`). Boundaries of a timer are divided by its unit
before they are written out, so two of them may share an identity, and the least of them has the gauge
(`find?_derived_boundary`).
-/

namespace StepMeters

/-- The settings of the distribution that a blueprint asks for, if it asks for one. -/
def Blueprint.settings? (b : Blueprint) (c : Configuration) : Option Distribution.Settings :=
  match b with
  | timer options => some (options.layeredOver c.distribution).settings
  | summary options => some (options.layeredOver c.distribution).settings
  | _ => none

/-- What the gauge for a boundary of a timer or summary is known by. -/
def Recorder.boundaryId (k : Recorder) (id : Identity) (boundary : Float) : Identity :=
  id.ofBoundary (boundaryText (fun b => numeral (k.scale none b)) boundary)

/-- Boundaries are kept as they are, so one who asks in nanoseconds asks for the boundary itself. -/
lemma Recorder.kept_nanoseconds_beq (k : Recorder) {b : Float} (nonneg : 0.0 ≤ b) :
    (k.kept (some .nanoseconds) b == b) = true := by
  have self : (b == b) = true := Amount.beq_of_le (Amount.le_refl (Amount.isNaN_of_le nonneg).2)
    (Amount.le_refl (Amount.isNaN_of_le nonneg).2)
  cases k with
  | timer base => exact Amount.mul_one_beq nonneg
  | counter => exact self
  | summary => exact self

namespace Identity
variable {id : Identity} {part part' : Float} {text : String}

/-- The identities of different percentiles are different. -/
lemma eq_of_same_ofPercentile (same : (id.ofPercentile part').same (id.ofPercentile part)) : part' = part := by
  have tags := congrArg (fun tags : List Tag => (tags.find? fun tag => tag.key == "phi").map Tag.value)
    (same_iff.1 same).2
  have texts : some (numeral part') = some (numeral part) :=
    (tag?_withTag_self _ ⟨"phi", numeral part'⟩).symm.trans (tags.trans (tag?_withTag_self _ ⟨"phi", numeral part⟩))
  exact Numeral.injective (Option.some.inj texts)

/-- Names with different suffixes differ. -/
lemma ne_of_name_append {suffix suffix' : String} (ne : suffix ≠ suffix') : id.name ++ suffix ≠ id.name ++ suffix' :=
  fun same => ne ((String.append_right_inj id.name).1 same)

/-- No percentile gauge has the identity of its owner. -/
lemma not_same_ofPercentile : ¬id.same (id.ofPercentile part) := by
  intro same
  exact ne_of_name_append (by decide) ((String.append_empty).trans (same_iff.1 same).1)

/-- No boundary gauge has the identity of its owner. -/
lemma not_same_ofBoundary : ¬id.same (id.ofBoundary text) := by
  intro same
  exact ne_of_name_append (by decide) ((String.append_empty).trans (same_iff.1 same).1)

/-- No percentile gauge has the identity of a boundary gauge of the same owner. -/
lemma not_same_ofPercentile_ofBoundary : ¬(id.ofPercentile part).same (id.ofBoundary text) := by
  intro same
  exact ne_of_name_append (by decide) (same_iff.1 same).1

end Identity

namespace Instrument

section Window
variable {b : Blueprint} {c : Configuration} {i : Instrument} {k : Recorder} {s : Distribution.Settings} {w : Window}
  {id : Identity} {owner : MeterRef} {m : Moment} {part boundary : Float}

/-- A new timer or summary has a window that was made of its settings. -/
lemma window?_build (built : b.build c m = .ok i) (asks : b.settings? c = some s) :
    ∃ w, i.window? = some w ∧ Window.ofSettings s m.monotonic = .ok w := by
  cases b with
  | timer options =>
    obtain ⟨nanos, accepted, rfl⟩ := exists_of_map_eq_ok built
    obtain ⟨window, created, rfl⟩ := exists_of_map_eq_ok accepted
    cases asks
    exact ⟨window, rfl, created⟩
  | summary options =>
    obtain ⟨d, accepted, rfl⟩ := exists_of_map_eq_ok built
    obtain ⟨window, created, rfl⟩ := exists_of_map_eq_ok accepted
    cases asks
    exact ⟨window, rfl, created⟩
  | _ => cases asks

section Has
variable (takes : i.recorder? = some k) (has : i.window? = some w)
include takes has

/-- What takes recordings and has a window is a timer or a summary. -/
lemma window_inv : (∃ t : Timer, i = timer t ∧ k = .timer t.unit ∧ w = t.nanos.window) ∨
    ∃ d : Distribution, i = summary d ∧ k = .summary ∧ w = d.window := by
  cases i with
  | timer t => exact .inl ⟨t, rfl, (Option.some.inj takes).symm, (Option.some.inj has).symm⟩
  | summary d => exact .inr ⟨d, rfl, (Option.some.inj takes).symm, (Option.some.inj has).symm⟩
  | _ => cases has

/-- A percentile of a meter is one of its window, scaled. -/
lemma value_percentile_window (m : Moment) (unit : Option TimeUnit) (part : Float) :
    (i.percentile? m unit part).map Outcome.value = some (k.scale unit (w.percentile m.monotonic part).value) := by
  obtain ⟨t, rfl, rfl, rfl⟩ | ⟨d, rfl, rfl, rfl⟩ := window_inv takes has <;> rfl

/-- A count up to a boundary is what the window counts up to the boundary as kept. -/
lemma value_countAtMost_window (m : Moment) (unit : Option TimeUnit) (amount : Float) :
    (i.countAtMost? m unit amount).map Outcome.value
      = some (w.countAtMost m.monotonic (k.kept unit amount)).value := by
  obtain ⟨t, rfl, rfl, rfl⟩ | ⟨d, rfl, rfl, rfl⟩ := window_inv takes has <;> rfl

/-- A snapshot of a meter lists what its window lists, scaled. -/
lemma exists_snapshot_window (m : Moment) : ∃ snapshot, (i.snapshot? m).map Outcome.value = some snapshot ∧
    snapshot.percentiles = (w.percentileValues m.monotonic).value.map
      (fun p => { p with amount := k.scale none p.amount }) ∧
    snapshot.boundaries = (w.boundaryCounts m.monotonic).value.map
      fun b => { b with boundary := k.scale none b.boundary } := by
  obtain ⟨t, rfl, rfl, rfl⟩ | ⟨d, rfl, rfl, rfl⟩ := window_inv takes has
  · refine ⟨(t.snapshot m).value, rfl, rfl, ?_⟩
    rw [← t.nanos.window.value_boundaryCounts_percentileValues]
    rfl
  · refine ⟨(d.snapshot m).value, rfl, ?_, ?_⟩
    · rw [d.value_snapshot]
      exact (List.map_id _).symm
    · rw [d.value_snapshot]
      exact (List.map_id _).symm

/-- The gauges of a timer or summary are one for each percentile and one for each boundary of its window. -/
lemma derived_window (id : Identity) (owner : MeterRef) : Meter.derived ⟨id, i⟩ owner
    = (w.percentiles.map fun part => ⟨id.ofPercentile part, .gauge (.percentile owner part)⟩)
      ++ w.boundaries.map fun boundary => ⟨k.boundaryId id boundary, .gauge (.countAtMost owner boundary)⟩ := by
  obtain ⟨t, rfl, rfl, rfl⟩ | ⟨d, rfl, rfl, rfl⟩ := window_inv takes has <;> rfl

/-- The first gauge with the identity of a percentile is the gauge of that percentile. -/
lemma find?_derived_percentile (mem : part ∈ w.percentiles) :
    (Meter.derived ⟨id, i⟩ owner).find? (fun gauge => gauge.id.same (id.ofPercentile part))
      = some ⟨id.ofPercentile part, .gauge (.percentile owner part)⟩ := by
  have found : w.percentiles.find? (fun other => (id.ofPercentile other).same (id.ofPercentile part)) = some part := by
    cases e : w.percentiles.find? fun other => (id.ofPercentile other).same (id.ofPercentile part) with
    | none => exact absurd (Identity.same_iff.2 ⟨rfl, rfl⟩) (List.find?_eq_none.1 e part mem)
    | some other =>
      have same := List.find?_some e
      exact congrArg some (Identity.eq_of_same_ofPercentile same)
  rw [derived_window takes has, List.find?_append, List.find?_map]
  show ((w.percentiles.find? fun other => (id.ofPercentile other).same (id.ofPercentile part)).map _).or _ = _
  rw [found]
  rfl

/-- A boundary has a gauge unless a smaller one has the same identity. -/
lemma find?_derived_boundary {n : Nat} (there : w.boundaries[n]? = some boundary)
    (first : ∀ n' smaller, n' < n → w.boundaries[n']? = some smaller →
      ¬(k.boundaryId id smaller).same (k.boundaryId id boundary)) :
    (Meter.derived ⟨id, i⟩ owner).find? (fun gauge => gauge.id.same (k.boundaryId id boundary))
      = some ⟨k.boundaryId id boundary, .gauge (.countAtMost owner boundary)⟩ := by
  have none : w.percentiles.find? (fun part => (id.ofPercentile part).same (k.boundaryId id boundary)) = none :=
    List.find?_eq_none.2 fun part _ => Identity.not_same_ofPercentile_ofBoundary
  have found : w.boundaries.find? (fun other => (k.boundaryId id other).same (k.boundaryId id boundary))
      = some boundary := by
    obtain ⟨inside, here⟩ := List.getElem?_eq_some_iff.1 there
    refine List.find?_eq_some_iff_getElem.2 ⟨Identity.same_iff.2 ⟨rfl, rfl⟩, n, inside, here, fun n' before => ?_⟩
    have other := first n' _ before (List.getElem?_eq_getElem (before.trans inside))
    simpa using other
  rw [derived_window takes has, List.find?_append, List.find?_map, List.find?_map]
  show ((w.percentiles.find? fun part => (id.ofPercentile part).same (k.boundaryId id boundary)).map _).or
    ((w.boundaries.find? fun other => (k.boundaryId id other).same (k.boundaryId id boundary)).map _) = _
  rw [none, found]
  rfl

end Has

end Window

end Instrument

end StepMeters
