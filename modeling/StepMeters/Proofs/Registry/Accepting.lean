import StepMeters.Proofs.Meter.Accepting
import StepMeters.Proofs.Registry.Freezing
import StepMeters.Proofs.Registry.Isolation
import StepMeters.Proofs.Registry.Watching

/-!
# Accepted readings of registered meters

In any state that a registry can come to, all that its meters keep is accepted, and the gauges that came with a timer
or summary still find it at its place (`Registry.IsAccepted`). Whatever is asked leaves such a state
(`IsAccepted.serve`), and so do the looks that come in between while a publication is put together. So whatever was
reported or observed before, all that is published and all that is read are accepted amounts (`accepted_run`).
-/

namespace StepMeters

namespace Instrument

/-- What is done with an instrument leaves it accepted, and what it is. -/
structure KeepsAccepted (i i' : Instrument) : Prop where
  accepted : i.IsAccepted → i'.IsAccepted
  kind : i'.kind = i.kind
  gauge : i'.gauge? = i.gauge?

/-- A visit leaves a meter accepted, and what it is. -/
lemma keepsAccepted_apply (i : Instrument) (visit : Visit) : KeepsAccepted i (i.apply visit) :=
  ⟨(·.apply visit), (kept_apply visit.moment i visit.action).kind, i.gauge?_apply visit⟩

/-- Closing leaves a meter accepted, and what it is. -/
lemma keepsAccepted_close (i : Instrument) (m : Moment) : KeepsAccepted i (i.close m) :=
  ⟨(·.close m), (kept_close m i).kind, i.gauge?_close m⟩

/-- A meter that is left alone stays accepted. -/
lemma keepsAccepted_refl (i : Instrument) : KeepsAccepted i i := ⟨id, rfl, rfl⟩

/-- What leaves a meter accepted twice leaves it accepted. -/
lemma KeepsAccepted.trans {i i' i'' : Instrument} (h : KeepsAccepted i i') (h' : KeepsAccepted i' i'') :
    KeepsAccepted i i'' :=
  ⟨h'.accepted ∘ h.accepted, h'.kind.trans h.kind, h'.gauge.trans h.gauge⟩

/-- A run of visits leaves a meter accepted, and what it is. -/
lemma keepsAccepted_run (i : Instrument) (visits : List Visit) : KeepsAccepted i (i.run visits) := by
  induction visits generalizing i with
  | nil => exact keepsAccepted_refl i
  | cons visit rest ih => exact (i.keepsAccepted_apply visit).trans (ih _)

/-- Looks leave a meter accepted. -/
lemma allowsLooks_keepsAccepted (m : Moment) : AllowsLooks m KeepsAccepted :=
  ⟨keepsAccepted_refl, KeepsAccepted.trans, fun i action _ => i.keepsAccepted_apply ⟨m, action⟩⟩

/-- A meter that is what it was guards the same statistics. -/
lemma KeepsAccepted.guards {i i' : Instrument} (h : KeepsAccepted i i') : i'.guards = i.guards := by
  funext s
  rw [Instrument.guards, Instrument.guards, owner?, owner?, h.gauge, h.kind]

/-- Gauges that come with a meter are made for it, and not by a blueprint. -/
lemma owner?_build {b : Blueprint} {c : Configuration} {m : Moment} {i : Instrument} (built : b.build c m = .ok i) :
    i.owner? = none := by
  cases b with
  | timer options =>
    obtain ⟨nanos, -, rfl⟩ := exists_of_map_eq_ok built
    rfl
  | summary options =>
    obtain ⟨d, -, rfl⟩ := exists_of_map_eq_ok built
    rfl
  | _ =>
    cases built
    rfl

end Instrument

/-- The gauges that come with a meter ask it, and only timers and summaries have any. -/
lemma Meter.of_mem_derived {meter derived : Meter} {owner : MeterRef} (mem : derived ∈ meter.derived owner) :
    derived.instrument.owner? = some owner ∧ meter.instrument.IsDistribution := by
  obtain ⟨id, i⟩ := meter
  constructor
  · rw [Meter.derived] at mem
    split at mem
    · cases mem
    · rcases List.mem_append.1 mem with mem | mem
      · obtain ⟨part, -, rfl⟩ := List.mem_map.1 mem
        rfl
      · obtain ⟨boundary, -, rfl⟩ := List.mem_map.1 mem
        rfl
  · cases i with
    | timer t => exact .inl rfl
    | summary d => exact .inr rfl
    | _ => cases mem

namespace Registry

/-- All that the meters of a registry keep is accepted, and every gauge that came with a timer or summary finds it. -/
structure IsAccepted (r : Registry) : Prop where
  meters : ∀ meter ∈ r.meters, meter.instrument.IsAccepted
  owners : ∀ meter ∈ r.meters, ∀ owner, meter.instrument.owner? = some owner →
    ∃ other, r.meters[owner]? = some other ∧ other.instrument.IsDistribution

section Run
variable {r r' : Registry} {m : Moment}

/-- A registry stays accepted if each of its meters does. -/
lemma IsAccepted.alters (h : r.IsAccepted) (alters : Alters Instrument.KeepsAccepted r r') : r'.IsAccepted := by
  constructor
  · intro meter' mem'
    obtain ⟨ref, there'⟩ := List.mem_iff_getElem?.1 mem'
    obtain ⟨meter, there, keeps, -⟩ := alters.before there'
    exact keeps.accepted (h.meters meter (List.mem_of_getElem? there))
  · intro meter' mem' owner asks
    obtain ⟨ref, there'⟩ := List.mem_iff_getElem?.1 mem'
    obtain ⟨meter, there, keeps, -⟩ := alters.before there'
    rw [Instrument.owner?, keeps.gauge] at asks
    obtain ⟨other, found, distribution⟩ := h.owners meter (List.mem_of_getElem? there) owner asks
    obtain ⟨i, keeps', found'⟩ := alters.meters owner other found
    refine ⟨_, found', ?_⟩
    rw [Instrument.IsDistribution, keeps'.kind]
    exact distribution

/-- Touches leave all meters accepted. -/
lemma alters_touched_keepsAccepted (r : Registry) (m : Moment) (touches : List Touch) :
    Alters Instrument.KeepsAccepted r (r.touched m touches) :=
  alters_touched (Instrument.allowsLooks_keepsAccepted m) (fun t _ i => i.keepsAccepted_apply ⟨m, t.action⟩) r

/-- A new meter is accepted, and at the place where its gauges look for it. -/
lemma IsAccepted.register (h : r.IsAccepted) {id : Identity} {b : Blueprint} {outcome : Outcome Registry MeterRef}
    (registered : r.register m id b = .ok outcome) : outcome.state.IsAccepted := by
  obtain ⟨_, _, _, _, _, _, same⟩ | ⟨new, added, -, -, built, -, e, -, gauges⟩ := register_inv registered
  · rw [same]
    exact h
  · have kept (owner : MeterRef) (other : Meter) (found : r.meters[owner]? = some other) :
        (r.meters ++ new :: added)[owner]? = some other :=
      (List.getElem?_append_left (List.getElem?_eq_some_iff.1 found).1).trans found
    rw [e]
    constructor
    · intro meter mem
      rcases List.mem_append.1 mem with old | mem
      · exact h.meters meter old
      · rcases List.mem_cons.1 mem with rfl | gauge
        · exact Instrument.isAccepted_build built
        · obtain ⟨g, isGauge⟩ := gauge_of_mem_derived (gauges meter gauge)
          rw [isGauge]
          exact Instrument.isAccepted_gauge g
    · intro meter mem owner asks
      rcases List.mem_append.1 mem with old | mem
      · obtain ⟨other, found, distribution⟩ := h.owners meter old owner asks
        exact ⟨other, kept owner other found, distribution⟩
      · rcases List.mem_cons.1 mem with rfl | gauge
        · -- the new meter itself is no gauge that has an owner
          rw [Instrument.owner?_build built] at asks
          cases asks
        · obtain ⟨asks', distribution⟩ := Meter.of_mem_derived (gauges meter gauge)
          cases asks.symm.trans asks'
          refine ⟨new, ?_, distribution⟩
          rw [List.getElem?_append_right (Nat.le_refl _), Nat.sub_self, List.getElem?_cons_zero]

/-- A visit leaves a registry accepted, the meters included that it brings. -/
lemma IsAccepted.apply (h : r.IsAccepted) (visit : Visit) : (r.apply visit).IsAccepted := by
  obtain ⟨id, b, e⟩ | ⟨publisher, running, e⟩ := r.apply_inv visit
  · obtain ⟨m, action⟩ := visit
    cases e
    rw [Registry.apply]
    dsimp only
    split
    · rename_i registered
      exact h.register registered
    · exact h
  · rw [e]
    exact h.alters ((r.alters_touched_keepsAccepted visit.moment (visit.touches r)).congr rfl rfl rfl)

/-- A request leaves a registry accepted, closing included. -/
lemma IsAccepted.handle (h : r.IsAccepted) (request : Request) : (r.handle request).IsAccepted := by
  cases request with
  | visit visit => exact h.apply visit
  | close m =>
    have closing : ({ r with closed := true } : Registry).IsAccepted := ⟨h.meters, h.owners⟩
    exact closing.alters (alters_close (Instrument.allowsLooks_keepsAccepted m) (·.keepsAccepted_close m) r)

/-- Any requests leave a registry accepted. -/
lemma IsAccepted.serve (h : r.IsAccepted) (requests : List Request) : (r.serve requests).IsAccepted := by
  induction requests generalizing r with
  | nil => exact h
  | cons request rest ih => exact ih (h.handle request)

/-- A meter stays at its place, and what it is. -/
lemma keepsAccepted_serve {ref : MeterRef} {meter : Meter} (there : r.meters[ref]? = some meter)
    (requests : List Request) : ∃ i, Instrument.KeepsAccepted meter.instrument i ∧
      (r.serve requests).meters[ref]? = some { meter with instrument := i } := by
  induction requests generalizing r meter with
  | nil => exact ⟨_, Instrument.keepsAccepted_refl _, there⟩
  | cons request rest ih =>
    have handled : ∃ i, Instrument.KeepsAccepted meter.instrument i ∧
        (r.handle request).meters[ref]? = some { meter with instrument := i } := by
      cases request with
      | visit visit => exact ⟨_, Instrument.keepsAccepted_run _ _, (r.grows_apply visit).getElem? there⟩
      | close m =>
        have alters := alters_close (Instrument.allowsLooks_keepsAccepted m) (·.keepsAccepted_close m) r
        exact alters.meters ref meter there
    obtain ⟨i, keeps, there'⟩ := handled
    obtain ⟨i', keeps', there''⟩ := ih there'
    exact ⟨i', keeps.trans keeps', there''⟩

/-- A new registry has no meters, and so none that is not accepted. -/
lemma isAccepted_of_ofConfiguration {c : Configuration} {p : Publisher} (created : ofConfiguration c p = .ok r) :
    r.IsAccepted := by
  obtain ⟨-, rfl⟩ := eq_of_ofConfiguration created
  exact ⟨fun _ none => absurd none List.not_mem_nil, fun _ none => absurd none List.not_mem_nil⟩

end Run

section Answers
variable {r : Registry} {ref : MeterRef} {meter : Meter} (there : r.meters[ref]? = some meter) (m : Moment)
include there

/-- What an instrument answers is what its meter answers. -/
lemma exists_visit {α : Type} {work? : Instrument → Option (Outcome Instrument α)} {P : α → Prop}
    (answers : ∃ value, (work? meter.instrument).map Outcome.value = some value ∧ P value) :
    ∃ value, (r.visit ref work?).value = some value ∧ P value := by
  obtain ⟨value, answered, holds⟩ := answers
  refine ⟨value, ?_, holds⟩
  rw [value_visit, there]
  exact answered

/-- Each count up to a boundary of a timer or summary is answered, and accepted. -/
lemma exists_countAtMost (keeps : meter.instrument.IsDistribution) (unit : Option TimeUnit) (amount : Float) :
    ∃ value, (r.countAtMost m ref unit amount).value = some value ∧ 0.0 ≤ value :=
  exists_visit there (Instrument.exists_countAtMost m keeps unit amount)

variable (h : r.IsAccepted)
include h

/-- Each percentile of a timer or summary is answered, and accepted. -/
lemma IsAccepted.percentile (keeps : meter.instrument.IsDistribution) (unit : Option TimeUnit) (part : Float) :
    ∃ value, (r.percentile m ref unit part).value = some value ∧ 0.0 ≤ value :=
  exists_visit there ((h.meters meter (List.mem_of_getElem? there)).percentile m keeps unit part)

/-- The snapshot of a timer or summary is answered, and all amounts of it are accepted. -/
lemma IsAccepted.snapshot (keeps : meter.instrument.IsDistribution) :
    ∃ snapshot, (r.snapshot m ref).value = some snapshot ∧ snapshot.IsAccepted :=
  exists_visit there ((h.meters meter (List.mem_of_getElem? there)).snapshot m keeps)

/-- A gauge that came with a timer or summary asks it; all other meters but the gauges of objects answer themselves. -/
lemma IsAccepted.read (unit : Option TimeUnit) {s : Statistic} (guarded : meter.instrument.guards s = true) :
    ∃ value, (r.read m ref unit s).value = some value ∧ 0.0 ≤ value := by
  have mem := List.mem_of_getElem? there
  obtain ⟨id, i⟩ := meter
  cases i with
  | gauge g =>
    obtain ⟨asks, value⟩ := (Bool.and_eq_true _ _).mp guarded
    cases of_decide_eq_true value
    obtain ⟨owner, asks⟩ := Option.isSome_iff_exists.1 asks
    -- a gauge that came with a timer or summary reads what its owner answers
    obtain ⟨other, found, keeps⟩ := h.owners _ mem owner asks
    unfold Registry.read
    rw [there]
    cases g with
    | observed source => cases asks
    | percentile owner part =>
      cases asks
      obtain ⟨value, answered, accepted⟩ := IsAccepted.percentile found m h keeps none part
      refine ⟨value, ?_, accepted⟩
      show some ((r.percentile m owner none part).value.getD undefined) = some value
      rw [answered]
      rfl
    | countAtMost owner boundary =>
      cases asks
      obtain ⟨value, answered, accepted⟩ := exists_countAtMost found m keeps (some .nanoseconds) boundary
      refine ⟨value, ?_, accepted⟩
      show some ((r.countAtMost m owner (some .nanoseconds) boundary).value.getD undefined) = some value
      rw [answered]
      rfl
  | _ =>
    rw [read_eq_visit there (by rintro ⟨⟩)]
    exact exists_visit there ((h.meters _ mem).read m unit guarded)

/-- Each look of a series may touch the meter, but leaves it accepted and what it is. -/
lemma IsAccepted.readAll (statistics : List Statistic) : ∀ x ∈ (r.readAll m ref none statistics).value,
    meter.instrument.guards x.statistic = true → 0.0 ≤ x.value := by
  induction statistics generalizing r meter with
  | nil => exact fun _ none => absurd none List.not_mem_nil
  | cons s rest ih =>
    intro x mem guarded
    rcases List.mem_append.1 (show x ∈ ((r.read m ref none s).value.map fun value => ⟨s, value⟩).toList
      ++ ((r.read m ref none s).state.readAll m ref none rest).value from mem) with mem | mem
    · rw [Option.mem_toList, Option.map_eq_some_iff] at mem
      obtain ⟨value, read, rfl⟩ := mem
      obtain ⟨value', read', accepted⟩ := IsAccepted.read there m h none guarded
      cases read.symm.trans read'
      exact accepted
    · have alters := r.alters_touched_keepsAccepted m (readTouches r.meters ref none s)
      obtain ⟨i, keeps, there'⟩ := alters.meters ref meter there
      rw [state_read] at mem
      exact ih there' (h.alters alters) x mem (keeps.guards ▸ guarded)

/-- All that a meter reports of the statistics it guards is accepted. -/
lemma IsAccepted.report {report : Report} (reported : (r.report m ref).value = some report) :
    ∀ x ∈ report.measurements, meter.instrument.guards x.statistic = true → 0.0 ≤ x.value := by
  rw [Registry.report, there] at reported
  cases reported
  exact IsAccepted.readAll there m h _

end Answers

/-- A report shows the meter at a place, and accepted amounts where the meter reads such. -/
def ShowsAccepted (r : Registry) (ref : MeterRef) (report : Report) : Prop :=
  ∃ meter, r.meters[ref]? = some meter ∧
    ∀ x ∈ report.measurements, meter.instrument.guards x.statistic = true → 0.0 ≤ x.value

section Publications
variable {r r' : Registry}

/-- The reports of a publication stand at the places of their meters. -/
lemma IsAccepted.deliver (h : r.IsAccepted) (alters : Alters Instrument.KeepsAccepted r r') (m : Moment)
    {ref : MeterRef} {report : Report} (listed : (r'.deliver m).value.reports[ref]? = some report) :
    r.ShowsAccepted ref report := by
  have exist : ∀ place ∈ r'.places, place < r'.meters.length := fun _ => List.mem_range.1
  have inside : ref < r'.meters.length := by
    have bound : ref < (r'.reports m r'.places r'.publisher.remarks).value.length :=
      (List.getElem?_eq_some_iff.1 listed).1
    rwa [length_reports r' m exist, places, List.length_range] at bound
  have place : r'.places[ref]? = some ref := by rw [places, List.getElem?_range inside]
  obtain ⟨touches, value⟩ := reports_getElem? (m := m) exist r'.publisher.remarks place
  obtain ⟨meter, there, keeps, -⟩ := alters.before (List.getElem?_eq_getElem inside)
  refine ⟨meter, there, ?_⟩
  -- the reports before this one have touched some meters
  have touched := r'.alters_touched_keepsAccepted m touches
  obtain ⟨i, keeps', there'⟩ := touched.meters ref _ (List.getElem?_eq_getElem inside)
  have guards : i.guards = meter.instrument.guards := keeps'.guards.trans keeps.guards
  rw [← guards]
  exact IsAccepted.report there' m ((h.alters alters).alters touched) (value.symm.trans listed)

/-- A publication shows accepted amounts only. -/
lemma IsAccepted.publication (h : r.IsAccepted) {request : Request} {publication : Publication}
    (published : request.publication? r = some publication) {ref : MeterRef} {report : Report}
    (listed : publication.reports[ref]? = some report) : r.ShowsAccepted ref report := by
  have cycle {m : Moment} (published : (r.publish m).value = some publication) : r.ShowsAccepted ref report := by
    cases isOpen : r.closed with
    | true =>
      rw [publish_of_closed isOpen] at published
      cases published
    | false =>
      rw [publish_of_open isOpen] at published
      cases published
      refine h.deliver ?_ m listed
      rw [rollAll_eq]
      exact r.alters_touched_keepsAccepted m _
  cases request with
  | visit visit =>
    obtain ⟨m, action⟩ := visit
    cases action with
    | publish => exact cycle published
    | tick =>
      have published : (r.tick m).value = some publication := published
      rw [tick] at published
      split at published
      · exact cycle published
      · cases published
    | _ => cases published
  | close m =>
    have published : (r.close m).value = some publication := published
    cases isOpen : r.closed with
    | true =>
      rw [close_of_closed isOpen] at published
      cases published
    | false =>
      cases enabled : r.config.enabled with
      | true =>
        rw [(close_of_enabled isOpen enabled m).1] at published
        cases published
        -- the last cycle reads the meters of a registry that is marked as closed
        have closing : ({ r with closed := true } : Registry).IsAccepted := ⟨h.meters, h.owners⟩
        exact closing.deliver (alters_closeAll (·.keepsAccepted_close m) _) m listed
      | false =>
        rw [(close_of_disabled isOpen enabled m).1] at published
        cases published

/-- All publications of a run show accepted amounts only. -/
lemma IsAccepted.publications (h : r.IsAccepted) (requests : List Request) :
    ∀ publication ∈ publications r requests, ∀ (ref : MeterRef) (report : Report),
      publication.reports[ref]? = some report → (r.serve requests).ShowsAccepted ref report := by
  induction requests generalizing r with
  | nil => exact fun _ none => absurd none List.not_mem_nil
  | cons request rest ih =>
    intro publication mem ref report listed
    rcases List.mem_append.1 mem with now | later
    · obtain ⟨meter, there, accepted⟩ := h.publication (Option.mem_toList.1 now) listed
      obtain ⟨i, keeps, there'⟩ := keepsAccepted_serve there (request :: rest)
      exact ⟨_, there', keeps.guards ▸ accepted⟩
    · exact ih (h.handle request) publication later ref report listed

end Publications

section Run
variable {r₀ : Registry} {c : Configuration} {p : Publisher}

/-- Amounts that are undefined or below zero never leak into what is reported. Whatever has been asked of a registry,
with any amounts recorded and observed, in any units and under any clock, every publication so far shows accepted
amounts, gauges of objects apart, and so does whatever can be read now: all statistics but the mean of a function
timer, and of timers and summaries every percentile, every count, and the snapshot. -/
theorem accepted_run (created : ofConfiguration c p = .ok r₀) (past : List Request) :
    let r := r₀.serve past
    (∀ publication ∈ publications r₀ past, ∀ (ref : MeterRef) (report : Report),
      publication.reports[ref]? = some report → ∃ meter, r.meters[ref]? = some meter ∧
        ∀ x ∈ report.measurements, meter.instrument.guards x.statistic → Amount.isAccepted x.value) ∧
    ∀ (ref : MeterRef) (meter : Meter), r.meters[ref]? = some meter → ∀ (m : Moment) (unit : Option TimeUnit),
      (∀ s, meter.instrument.guards s →
        ∃ value, (r.read m ref unit s).value = some value ∧ Amount.isAccepted value) ∧
      (meter.instrument.IsDistribution →
        (∀ part, ∃ value, (r.percentile m ref unit part).value = some value ∧ Amount.isAccepted value) ∧
        (∀ amount, ∃ value, (r.countAtMost m ref unit amount).value = some value ∧ Amount.isAccepted value) ∧
        ∃ snapshot, (r.snapshot m ref).value = some snapshot ∧ snapshot.IsAccepted) := by
  intro r
  have fresh := isAccepted_of_ofConfiguration created
  have h : r.IsAccepted := fresh.serve past
  constructor
  · intro publication mem ref report listed
    obtain ⟨meter, there, accepted⟩ := fresh.publications past publication mem ref report listed
    exact ⟨meter, there, fun x mem guarded => Amount.isAccepted_iff.2 (accepted x mem guarded)⟩
  · intro ref meter there m unit
    have answered {o : Option Float} (h : ∃ value, o = some value ∧ 0.0 ≤ value) :
        ∃ value, o = some value ∧ Amount.isAccepted value := by
      obtain ⟨value, e, accepted⟩ := h
      exact ⟨value, e, Amount.isAccepted_iff.2 accepted⟩
    refine ⟨fun s guarded => answered (IsAccepted.read there m h unit guarded), fun keeps => ⟨?_, ?_, ?_⟩⟩
    · exact fun part => answered (IsAccepted.percentile there m h keeps unit part)
    · exact fun amount => answered (exists_countAtMost there m keeps unit amount)
    · exact IsAccepted.snapshot there m h keeps

/-- A summary whose scale is infinite, with recordings that are undefined, below zero, the negative zero and infinite,
and a function timer of an object whose amount and time are undefined at first and then stay infinite. -/
theorem accepted_run_hostile :
    let undefined : Float := 0.0 / 0.0
    let infinity : Float := 1.0 / 0.0
    let at' (seconds : Nat) (seen : Float) : Moment :=
      { wall := seconds * 1000, monotonic := seconds, sighting? := fun _ => some { amount := seen, time := seen } }
    let r₀ : Registry := { config := {}, publisher := .hook [] }
    let past : List Request := [
      .visit ⟨at' 0 undefined, .register { name := "s" } (.summary { minimum := some 5e-324 })⟩,
      .visit ⟨at' 0 undefined, .register { name := "f" } (.functionTimer 0 .days)⟩,
      .visit ⟨at' 1 undefined, .record 0 (.amount undefined)⟩,
      .visit ⟨at' 2 undefined, .record 0 (.amount (-1.0))⟩,
      .visit ⟨at' 3 undefined, .record 0 (.amount (-0.0))⟩,
      .visit ⟨at' 4 infinity, .record 0 (.amount infinity)⟩,
      .visit ⟨at' 5 infinity, .publish⟩, .visit ⟨at' 60 infinity, .publish⟩]
    let r := r₀.serve past
    (∀ publication ∈ publications r₀ past, ∀ report, publication.reports[1]? = some report →
      ∀ x ∈ report.measurements, x.statistic = .totalTime → Amount.isAccepted x.value) ∧
    ∀ m part, (∃ value, (r.read m 0 none .mean).value = some value ∧ Amount.isAccepted value) ∧
      (∃ value, (r.percentile m 0 none part).value = some value ∧ Amount.isAccepted value) ∧
      ∃ snapshot, (r.snapshot m 0).value = some snapshot ∧ snapshot.IsAccepted := by
  intro undefined infinity at' r₀ past r
  have created : ofConfiguration {} (.hook []) = .ok r₀ := by rfl
  obtain ⟨published, read⟩ := accepted_run created past
  have kinds : r.meters.map Meter.kind = [.summary, .functionTimer] := by decide +kernel
  have kind (ref : MeterRef) : r.meters[ref]?.map Meter.kind = [Kind.summary, .functionTimer][ref]? := by
    rw [← kinds, List.getElem?_map]
  constructor
  · intro publication mem report listed x mem' isTotal
    obtain ⟨meter, there, accepted⟩ := published publication mem 1 report listed
    have timer : meter.instrument.kind = .functionTimer := by
      have kind := kind 1
      rw [there] at kind
      exact Option.some.inj kind
    apply accepted x mem'
    rw [Instrument.guards, timer, isTotal]
    rfl
  · intro m part
    obtain ⟨meter, there, kind⟩ := Option.map_eq_some_iff.1 (kind 0)
    have summary : meter.instrument.kind = .summary := kind
    obtain ⟨statistics, queries⟩ := read 0 meter there m none
    obtain ⟨percentile, -, snapshot⟩ := queries (.inr summary)
    refine ⟨statistics .mean ?_, percentile part, snapshot⟩
    rw [Instrument.guards, summary]
    rfl

end Run

end Registry

end StepMeters
