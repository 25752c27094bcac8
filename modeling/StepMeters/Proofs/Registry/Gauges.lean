import StepMeters.Proofs.Meter.Gauges
import StepMeters.Proofs.Registry.Transparency
import StepMeters.Proofs.Registry.Watching

/-!
# Gauges, queries and snapshots agree

A percentile or boundary of a timer or summary can be read in three ways: from the gauge that came with the meter, by
a query, and in a snapshot. All three move the window of the meter on to the clock and ask it the same question
there (`gauges_run`). A meter brings a gauge with it where the identity is free; there it stays
(`gauge_serve`), and it keeps asking its owner.
-/

namespace StepMeters.Registry

section Register
variable {r : Registry} {m : Moment} {id : Identity} {b : Blueprint} {outcome : Outcome Registry MeterRef}
  {meters more : List Meter} {meter : Meter} {g : Gauge} {place : MeterRef}

/-- An identity is free if no meter has it. -/
lemma holder?_eq_none_iff : r.holder? id = none ↔ ∀ meter ∈ r.meters, ¬meter.id.same id := by
  rw [holder?, Option.map_eq_none_iff, find?, List.findFinIdx?_eq_none_iff]

/-- Of several further meters with one identity the first is added, if the identity is free. -/
lemma mem_foldl_addFree (free : ∀ old ∈ meters, ¬old.id.same meter.id)
    (first : more.find? (fun other => other.id.same meter.id) = some meter) : meter ∈ more.foldl addFree meters := by
  induction more generalizing meters with
  | nil => cases first
  | cons head rest ih =>
    rw [List.foldl_cons, addFree]
    rw [List.find?_cons] at first
    split at first
    · cases first
      have absent : ¬(meters.any fun old => old.id.same meter.id) = true := by
        rw [List.any_eq_true]
        rintro ⟨old, mem, same⟩
        exact free old mem same
      obtain ⟨added, e, -⟩ := foldl_addFree (meters ++ [meter]) rest
      rw [if_neg absent, e]
      exact List.mem_append_left _ (List.mem_append_right _ (List.mem_singleton_self meter))
    · rename_i other
      split
      · exact ih free first
      · refine ih (fun old mem => ?_) first
        rcases List.mem_append.1 mem with mem | mem
        · exact free old mem
        · rw [List.mem_singleton.1 mem, other]
          exact Bool.false_ne_true

/-- A new meter comes with the first of its gauges for each identity that is free. -/
lemma register_new (new : r.holder? id = none) (registered : r.register m id b = .ok outcome) :
    ∃ i, b.build r.config m = .ok i ∧ outcome.value = r.meters.length ∧
      outcome.state.meters[outcome.value]? = some ⟨b.identify r.config id, i⟩ ∧
      ∀ gauge : Meter, r.holder? gauge.id = none → ¬(b.identify r.config id).same gauge.id →
        (Meter.derived ⟨b.identify r.config id, i⟩ outcome.value).find? (fun other => other.id.same gauge.id)
          = some gauge →
        ∃ place : MeterRef, outcome.state.meters[place]? = some gauge := by
  obtain ⟨ref, meter, found, there, -, -, -⟩ | ⟨⟨_, i⟩, added, -, rfl, built, value, e, split, -⟩ :=
    register_inv registered
  · -- a meter that was found would hold the identity
    obtain ⟨_, rfl⟩ := List.getElem?_eq_some_iff.1 there
    have same := Identity.same_trans (List.findFinIdx?_eq_some_iff.1 found).1 (b.same_identify r.config id)
    exact absurd same (holder?_eq_none_iff.1 new _ (List.mem_of_getElem? there))
  · refine ⟨i, built, value, ?_, fun gauge free own first => ?_⟩
    · rw [value, e, List.getElem?_append_right (Nat.le_refl _), Nat.sub_self, List.getElem?_cons_zero]
    · rw [value] at first
      rw [e]
      dsimp only
      rw [← split]
      refine List.mem_iff_getElem?.1 (mem_foldl_addFree (fun old mem => ?_) first)
      rcases List.mem_append.1 mem with mem | mem
      · exact holder?_eq_none_iff.1 free old mem
      · rw [List.mem_singleton.1 mem]
        exact own

/-- A gauge keeps its identity and asks the same for ever. -/
lemma gauge_serve (sound : r.Sound) (there : r.meters[place]? = some ⟨id, .gauge g⟩) (requests : List Request) :
    (r.serve requests).holder? id = some place ∧ (r.serve requests).meters[place]? = some ⟨id, .gauge g⟩ := by
  obtain ⟨i, there', watches⟩ := watches_serve there requests
  have same : i = .gauge g := by
    have kept := watches.gauge
    cases i with
    | gauge g' =>
      cases kept
      rfl
    | _ => cases kept
  subst same
  exact ⟨(sound.serve requests).1.holder?_eq_some_iff.2 ⟨_, there', id.same_refl⟩, there'⟩

end Register

section Looks
variable {r : Registry} {m : Moment} {id : Identity} {ref place : MeterRef} {meter : Meter} {k : Recorder}
  {w : Window} {looks : List Visit}

/-- Some visits are looks, all of them at one moment. -/
def LooksAt (m : Moment) (looks : List Visit) : Prop := ∀ look ∈ looks, look.IsLook ∧ look.moment = m

/-- A run of visits is a run of requests without a close. -/
lemma run_eq_serve (r : Registry) (visits : List Visit) : r.run visits = r.serve (visits.map .visit) := by
  rw [serve, List.foldl_map]
  rfl

/-- Looks at one moment leave nothing behind that shows at this moment. -/
lemma alike_run (r : Registry) (at' : LooksAt m looks) : Alike m r (r.run looks) := by
  induction looks generalizing r with
  | nil => exact alike_refl m r
  | cons look rest ih =>
    obtain ⟨⟨isLook, rfl⟩, later⟩ := List.forall_mem_cons.1 at'
    exact (alike_look r look isLook).trans (ih _ later)

/-- The gauge of a percentile reads the percentile of its owner. -/
lemma value_read_percentile {part : Float} (there : r.meters[place]? = some ⟨id, .gauge (.percentile ref part)⟩) :
    (r.read m place none .value).value = some ((r.percentile m ref none part).value.getD undefined) := by
  unfold Registry.read
  rw [there]
  rfl

/-- The gauge of a boundary reads the count of its owner up to the boundary in nanoseconds. -/
lemma value_read_countAtMost {boundary : Float}
    (there : r.meters[place]? = some ⟨id, .gauge (.countAtMost ref boundary)⟩) :
    (r.read m place none .value).value
      = some ((r.countAtMost m ref (some .nanoseconds) boundary).value.getD undefined) := by
  unfold Registry.read
  rw [there]
  rfl

section Owner
variable (there : r.meters[ref]? = some meter) (takes : meter.instrument.recorder? = some k)
  (has : meter.instrument.window? = some w) (at' : LooksAt m looks)
include there takes at'

/-- After some looks at a moment, a meter answers at this moment as if there had been none, if the answer depends only
on what the meter is once it has caught up. -/
lemma value_visit_looks {α : Type} {work? : Instrument → Option (Outcome Instrument α)}
    (depends : ∀ i j : Instrument, i.caughtUp m = some j → (work? j).map Outcome.value = (work? i).map Outcome.value) :
    ((r.run looks).visit ref work?).value = (work? meter.instrument).map Outcome.value := by
  obtain ⟨j, caught⟩ := Instrument.exists_caughtUp takes m
  rw [(alike_run r at').value_visit there caught depends, value_visit, there]
  rfl

include has

/-- After some looks a percentile is still the one of the window before. -/
lemma value_percentile_looks (unit : Option TimeUnit) (part : Float) :
    ((r.run looks).percentile m ref unit part).value = some (k.scale unit (w.percentile m.monotonic part).value) :=
  (value_visit_looks there takes at' fun _ _ caught => Instrument.value_percentile_caughtUp caught unit part).trans
    (Instrument.value_percentile_window takes has m unit part)

/-- After some looks a count up to a boundary is still the one of the window before. -/
lemma value_countAtMost_looks (unit : Option TimeUnit) (amount : Float) :
    ((r.run looks).countAtMost m ref unit amount).value
      = some (w.countAtMost m.monotonic (k.kept unit amount)).value :=
  (value_visit_looks there takes at' fun _ _ caught => Instrument.value_countAtMost_caughtUp caught unit amount).trans
    (Instrument.value_countAtMost_window takes has m unit amount)

/-- After some looks a snapshot still shows the window before. -/
lemma exists_snapshot_looks : ∃ snapshot, ((r.run looks).snapshot m ref).value = some snapshot ∧
    snapshot.percentiles = (w.percentileValues m.monotonic).value.map
      (fun p => { p with amount := k.scale none p.amount }) ∧
    snapshot.boundaries = (w.boundaryCounts m.monotonic).value.map
      fun b => { b with boundary := k.scale none b.boundary } := by
  obtain ⟨snapshot, taken, lists⟩ := Instrument.exists_snapshot_window takes has m
  have looked := value_visit_looks there takes at' fun _ _ caught => Instrument.value_snapshot_caughtUp caught
  exact ⟨snapshot, looked.trans taken, lists⟩

end Owner

end Looks

section Gauges
variable {r₀ : Registry} {c : Configuration} {p : Publisher} {id : Identity} {b : Blueprint} {k : Recorder}
  {s : Distribution.Settings} {start : Moment} {outcome : Outcome Registry MeterRef}

section Owner
variable (created : ofConfiguration c p = .ok r₀) (past : List Request) (takes : b.recorder? c = some k)
  (asks : b.settings? c = some s) (new : (r₀.serve past).holder? id = none)
  (registered : (r₀.serve past).register start id b = .ok outcome) (later : List Request)
include created takes asks new registered

/-- A timer or summary that was registered has, after any requests, its window with all that they did with it. A gauge
that it brought for a free identity has its place for ever. -/
lemma owner_inv : ∃ (i : Instrument) (w : Window) (meter : Meter),
    i.recorder? = some k ∧ i.window? = some w ∧ Window.ofSettings s start.monotonic = .ok w ∧
      (outcome.state.serve later).meters[outcome.value]? = some meter ∧ meter.instrument.recorder? = some k ∧
      meter.instrument.window? = some (w.run (watched outcome.value outcome.state later)) ∧
      ∀ (gid : Identity) (g : Gauge), (r₀.serve past).holder? gid = none → ¬(b.identify c id).same gid →
        (Meter.derived ⟨b.identify c id, i⟩ outcome.value).find? (fun other => other.id.same gid)
          = some ⟨gid, .gauge g⟩ →
        ∃ place, (outcome.state.serve later).holder? gid = some place ∧
          ∀ looks, ((outcome.state.serve later).run looks).meters[place]? = some ⟨gid, .gauge g⟩ := by
  have sound := ((sound_of_ofConfiguration created).serve past).1.register registered
  obtain ⟨i, built, -, there, gauges⟩ := register_new new registered
  rw [config_serve_of_ofConfiguration created past] at built there gauges
  obtain ⟨w, has, window⟩ := Instrument.window?_build built asks
  have takes' : i.recorder? = some k := (Instrument.recorder?_build built).trans takes
  -- the owner after the run, and its window
  obtain ⟨j, there', watches⟩ := watches_serve there later
  have has' : j.window? = some (w.run (watched outcome.value outcome.state later)) := by
    rw [watches.window, has, watched, there]
    rfl
  refine ⟨i, w, _, takes', has, window, there', watches.recorder.trans takes', has', fun gid g free own first => ?_⟩
  obtain ⟨place, held⟩ := gauges ⟨gid, .gauge g⟩ free own first
  obtain ⟨known, held'⟩ := gauge_serve sound held later
  refine ⟨place, known, fun looks => ?_⟩
  rw [run_eq_serve]
  exact (gauge_serve (sound.serve later).1 held' _).2

/-- The gauge of a boundary, the query and the snapshot all count the recordings inside the window that do not exceed
the boundary. -/
lemma exists_boundary_gauge {n : Nat} {boundary : Float} (listed : s.boundaries[n]? = some boundary)
    (free : (r₀.serve past).holder? (k.boundaryId (b.identify c id) boundary) = none)
    (first : ∀ (n' : Nat) (smaller : Float), n' < n → s.boundaries[n']? = some smaller →
      ¬(k.boundaryId (b.identify c id) smaller).same (k.boundaryId (b.identify c id) boundary)) (m : Moment) :
    ∃ place, (outcome.state.serve later).holder? (k.boundaryId (b.identify c id) boundary) = some place ∧
      ∀ looks, LooksAt m looks →
        let r := (outcome.state.serve later).run looks
        let count := Float.ofNat (Window.atMost (Window.windowed s start.monotonic
          (watched outcome.value outcome.state later) m.monotonic) boundary)
        (r.read m place none .value).value = some count ∧
          (r.countAtMost m outcome.value (some .nanoseconds) boundary).value = some count ∧
          ∃ snapshot, (r.snapshot m outcome.value).value = some snapshot ∧
            snapshot.boundaries[n]? = some ⟨k.scale none boundary, count⟩ := by
  obtain ⟨i, w, meter, takes', has, window, there, recorder, has', gauges⟩ :=
    owner_inv created past takes asks new registered later
  obtain ⟨faultless, fresh⟩ := Window.new_of_ofSettings window
  have boundaries : w.boundaries = s.boundaries := by
    rw [← fresh]
    rfl
  rw [← boundaries] at first
  obtain ⟨place, held, stays⟩ := gauges _ (.countAtMost outcome.value boundary) free Identity.not_same_ofBoundary
    (Instrument.find?_derived_boundary takes' has (boundaries ▸ listed) first)
  have pos : 0.0 < boundary :=
    ((Distribution.Settings.collects_boundaries faultless).2.1 _ (List.mem_of_getElem? listed)).pos faultless
  refine ⟨place, held, fun looks at' => ?_⟩
  have query := value_countAtMost_looks there recorder has' at' (some .nanoseconds) boundary
  rw [Window.value_countAtMost_run window _ _ (List.mem_of_getElem? listed)
    (k.kept_nanoseconds_beq (Amount.le_of_lt pos))] at query
  obtain ⟨snapshot, taken, -, counts⟩ := exists_snapshot_looks there recorder has' at'
  refine ⟨?_, query, snapshot, taken, ?_⟩
  · rw [value_read_countAtMost (stays looks), query]
    rfl
  · rw [counts, Window.value_boundaryCounts_run window, List.getElem?_map, List.getElem?_map, listed]
    rfl

end Owner

/-- Derived gauges, queries and snapshots agree. When a timer or summary has been registered, whatever happens after
and whatever is looked at first in one moment, each percentile reads the same in this moment from the gauge that
holds the identity derived for it, by a query and in a snapshot, if the identity was free. And each boundary reads
the number of recordings inside the window that do not exceed it, if the identity derived for it was free and no
smaller boundary of the meter shares it. -/
theorem gauges_run (created : ofConfiguration c p = .ok r₀) (past : List Request) (takes : b.recorder? c = some k)
    (asks : b.settings? c = some s) (new : (r₀.serve past).holder? id = none)
    (registered : (r₀.serve past).register start id b = .ok outcome) (later : List Request) (m : Moment) :
    let before := r₀.serve past
    let known := b.identify c id
    let ref := outcome.value
    let now := outcome.state.serve later
    let recordings := Window.windowed s start.monotonic (watched ref outcome.state later) m.monotonic
    (∀ (n : Nat) (part : Float), s.percentiles[n]? = some part → before.holder? (known.ofPercentile part) = none →
      ∃ place value, now.holder? (known.ofPercentile part) = some place ∧ ∀ looks, LooksAt m looks →
        let r := now.run looks
        (r.read m place none .value).value = some value ∧ (r.percentile m ref none part).value = some value ∧
          ∃ snapshot, (r.snapshot m ref).value = some snapshot ∧ snapshot.percentiles[n]? = some ⟨part, value⟩) ∧
    ∀ (n : Nat) (boundary : Float), s.boundaries[n]? = some boundary →
      before.holder? (k.boundaryId known boundary) = none →
      (∀ n' smaller, n' < n → s.boundaries[n']? = some smaller →
        ¬(k.boundaryId known smaller).same (k.boundaryId known boundary)) →
      ∃ place, now.holder? (k.boundaryId known boundary) = some place ∧ ∀ looks, LooksAt m looks →
        let r := now.run looks
        let count := Float.ofNat (Window.atMost recordings boundary)
        (r.read m place none .value).value = some count ∧
          (r.countAtMost m ref (some .nanoseconds) boundary).value = some count ∧
          ∃ snapshot, (r.snapshot m ref).value = some snapshot ∧
            snapshot.boundaries[n]? = some ⟨k.scale none boundary, count⟩ := by
  intro before known ref now recordings
  refine ⟨fun n part listed free => ?_, fun n boundary listed free first =>
    exists_boundary_gauge created past takes asks new registered later listed free first m⟩
  obtain ⟨i, w, meter, takes', has, window, there, recorder, has', gauges⟩ :=
    owner_inv created past takes asks new registered later
  have listed' : part ∈ w.percentiles := by
    rw [← (Window.new_of_ofSettings window).2]
    exact List.mem_of_getElem? listed
  obtain ⟨place, held, stays⟩ := gauges _ (.percentile ref part) free Identity.not_same_ofPercentile
    (Instrument.find?_derived_percentile takes' has listed')
  let value := k.scale none ((w.run (watched ref outcome.state later)).percentile m.monotonic part).value
  refine ⟨place, value, held, fun looks at' => ?_⟩
  have query := value_percentile_looks there recorder has' at' none part
  obtain ⟨snapshot, taken, percentiles, -⟩ := exists_snapshot_looks there recorder has' at'
  refine ⟨?_, query, snapshot, taken, ?_⟩
  · rw [value_read_percentile (stays looks), query]
    rfl
  · rw [percentiles, Window.value_percentileValues_run window, List.getElem?_map, List.getElem?_map, listed]
    rfl

/-- A timer whose gauge for one of two percentiles finds its identity taken. The other gauge agrees with the query
after a publish cycle and the closing of the registry, and so does the gauge of the objective, which one of two
recordings does not exceed. -/
theorem gauges_run_timer :
    let at' (seconds : Nat) : Moment := { wall := seconds * 1000, monotonic := seconds * 1000000000 }
    let r₀ : Registry := { config := {}, publisher := .hook [] }
    let id : Identity := { name := "t" }
    let b : Blueprint := .timer { percentiles := some [0.99, 0.5], objectives := some [1000000000.0] }
    let past : List Request := [.visit ⟨at' 0, .register (id.ofPercentile 0.99) .counter⟩]
    let later : List Request := [.visit ⟨at' 2, .record 1 (.duration (Duration.ofMillis 400))⟩,
      .visit ⟨at' 5, .publish⟩, .visit ⟨at' 61, .record 1 (.duration (Duration.ofSeconds 3))⟩, .close (at' 62)]
    let now := ((r₀.serve past).apply ⟨at' 1, .register id b⟩).serve later
    let known := b.identify {} id
    let second := (Recorder.timer .milliseconds).boundaryId known 1000000000.0
    let looks : List Visit := [⟨at' 63, .snapshot 1⟩, ⟨at' 63, .percentile 1 none 0.5⟩]
    (r₀.serve past).holder? (known.ofPercentile 0.99) = some 0 ∧
    (∃ place value, now.holder? (known.ofPercentile 0.5) = some place ∧
      ((now.run looks).read (at' 63) place none .value).value = some value ∧
      ((now.run looks).percentile (at' 63) 1 none 0.5).value = some value) ∧
    ∃ place, now.holder? second = some place ∧
      ((now.run looks).read (at' 63) place none .value).value = some 1.0 := by
  intro at' r₀ id b past later now known second looks
  have created : ofConfiguration {} (.hook []) = .ok r₀ := by rfl
  let s : Distribution.Settings := { percentiles := [0.99, 0.5], objectives := [1000000000.0] }
  have takes : b.recorder? {} = some (.timer .milliseconds) := by rfl
  have asks : b.settings? {} = some s := by rfl
  have new : (r₀.serve past).holder? id = none := by decide +kernel
  have place : ((r₀.serve past).register (at' 1) id b).toOption.map Outcome.value = some 1 := by decide +kernel
  cases registered : (r₀.serve past).register (at' 1) id b with
  | error fault =>
    rw [registered] at place
    cases place
  | ok outcome =>
    rw [registered] at place
    have ref : outcome.value = 1 := Option.some.inj place
    have state : (r₀.serve past).apply ⟨at' 1, .register id b⟩ = outcome.state := by
      rw [Registry.apply]
      dsimp only
      rw [registered]
    obtain ⟨parts, counts⟩ := gauges_run created past takes asks new registered later (at' 63)
    rw [← state, ref] at parts counts
    have free : (r₀.serve past).holder? (known.ofPercentile 0.5) = none := by decide +kernel
    have free' : (r₀.serve past).holder? second = none := by decide +kernel
    have listed : s.boundaries[0]? = some 1000000000.0 := by decide +kernel
    have together : LooksAt (at' 63) looks := by simp [LooksAt, looks, Visit.IsLook]
    obtain ⟨half, value, held, reads⟩ := parts 1 0.5 rfl free
    obtain ⟨second, held', reads'⟩ := counts 0 1000000000.0 listed free' fun _ _ less => absurd less (Nat.not_lt_zero _)
    obtain ⟨gauge, query, -⟩ := reads looks together
    obtain ⟨count, -⟩ := reads' looks together
    refine ⟨by decide +kernel, ⟨half, value, held, gauge, query⟩, second, held', count.trans ?_⟩
    decide +kernel

end Gauges

end StepMeters.Registry
