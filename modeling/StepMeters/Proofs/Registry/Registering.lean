import StepMeters.Proofs.Meter.Gauges
import StepMeters.Proofs.Registry.Places

/-!
# Registration

A registration has one of four ends. An identity that is held gives its meter, or a conflict if that is of another
kind, and the options are not even looked at; a free one is refused for the fault of its settings, or the new meter
comes in with its gauges. The registry after it is described as a map from identities to meters
(`Registry.known?`): whatever the identities of the gauges are, every identity keeps its entry, and a free one gets
the first of the newcomers that is known by it (`find?_foldl_addFree`).
-/

namespace StepMeters

namespace Blueprint
variable {b : Blueprint} {c : Configuration} {s : Distribution.Settings} {fault : ConfigError} {m : Moment}

/-- A timer or summary whose settings are at fault is refused for this fault. -/
lemma build_of_fault (asks : b.settings? c = some s) (refused : s.fault? = some fault) :
    b.build c m = .error fault := by
  have window : Window.ofSettings s m.monotonic = .error fault := by
    rw [Window.ofSettings, refused]
  cases b with
  | timer options =>
    cases asks
    rw [build, Distribution.ofOptions, window]
    rfl
  | summary options =>
    cases asks
    rw [build, Distribution.ofOptions, window]
    rfl
  | _ => cases asks

/-- A meter is built if its settings have no fault. -/
lemma exists_build (faultless : ∀ s, b.settings? c = some s → s.fault? = none) :
    ∃ i, b.build c m = .ok i := by
  have window {s : Distribution.Settings} (faultless : s.fault? = none) :
      Window.ofSettings s m.monotonic = .ok (Window.new s m.monotonic) := by
    rw [Window.ofSettings, faultless]
  cases b with
  | timer options =>
    rw [build, Distribution.ofOptions, window (faultless _ rfl)]
    exact ⟨_, rfl⟩
  | summary options =>
    rw [build, Distribution.ofOptions, window (faultless _ rfl)]
    exact ⟨_, rfl⟩
  | _ => exact ⟨_, rfl⟩

end Blueprint

namespace Registry

/-- The meter that a look-up of an identity gives. -/
def known? (r : Registry) (id : Identity) : Option Meter := (r.holder? id).bind fun ref => r.meters[ref]?

section Known
variable {meters more : List Meter} {id other : Identity}

/-- The look-up gives the first meter that has the identity. -/
lemma known?_eq (r : Registry) (id : Identity) :
    r.known? id = r.meters.find? fun meter => meter.id.same id := by
  rw [known?, holder?, find?, List.find?_eq_bind_findIdx?_getElem?, List.findIdx?_eq_map_findFinIdx?_val]

/-- Identities that are the same are held by the same meter. -/
lemma holder?_congr (r : Registry) (same : id.same other) : r.holder? id = r.holder? other := by
  have agree : (fun meter : Meter => meter.id.same id) = fun meter => meter.id.same other := by
    funext meter
    rw [Bool.eq_iff_iff]
    exact ⟨fun h => Identity.same_trans h same, fun h => Identity.same_trans h (Identity.same_symm same)⟩
  rw [holder?, holder?, find?, find?, agree]

/-- A further meter is found where none was before. -/
lemma find?_addFree (meters : List Meter) (meter : Meter) (id : Identity) :
    (addFree meters meter).find? (fun meter => meter.id.same id)
      = (meters.find? fun meter => meter.id.same id).or ([meter].find? fun meter => meter.id.same id) := by
  rw [addFree]
  split
  · rename_i taken
    obtain ⟨holder, mem, same⟩ := List.any_eq_true.1 taken
    cases asked : meter.id.same id with
    | false =>
      rw [List.find?_singleton, asked]
      exact Option.or_none.symm
    | true =>
      -- the meter that has the identity is found, whatever comes after it
      have found : (meters.find? fun meter => meter.id.same id).isSome :=
        List.find?_isSome.2 ⟨holder, mem, Identity.same_trans same asked⟩
      rw [Option.or_of_isSome found]
  · exact List.find?_append

/-- Adding meters where they are free adds the first holder of each identity that was free. -/
lemma find?_foldl_addFree (meters more : List Meter) (id : Identity) :
    (more.foldl addFree meters).find? (fun meter => meter.id.same id)
      = (meters.find? fun meter => meter.id.same id).or (more.find? fun meter => meter.id.same id) := by
  induction more generalizing meters with
  | nil => exact Option.or_none.symm
  | cons meter rest ih =>
    rw [List.foldl_cons, ih, find?_addFree, Option.or_assoc, ← List.find?_append]
    rfl

end Known

section Register
variable {r r₀ : Registry} {c : Configuration} {p : Publisher} {m : Moment} {id : Identity} {b : Blueprint}
  {ref : MeterRef} {i : Instrument} {cause : ConfigError}

/-- An identity that is held gives its meter, or a conflict. -/
lemma register_of_holder? (held : r.holder? id = some ref) :
    ∃ meter, r.meters[ref]? = some meter ∧ meter.id.same id ∧ r.register m id b =
      if meter.kind = b.kind then .ok ⟨ref, r, []⟩
      else .error (.kindConflict meter.id.text meter.kind b.kind) := by
  rw [← holder?_congr r (b.same_identify r.config id), holder?, Option.map_eq_some_iff] at held
  obtain ⟨place, found, rfl⟩ := held
  have same := (List.findFinIdx?_eq_some_iff.1 found).1
  refine ⟨r.meters[place], List.getElem?_eq_getElem place.isLt,
    Identity.same_trans same (b.same_identify r.config id), ?_⟩
  rw [register, found]

/-- The identity of the new meter is free if the one asked for is. -/
lemma find?_of_holder?_eq_none (free : r.holder? id = none) (b : Blueprint) :
    r.find? (b.identify r.config id) = none := by
  rw [← holder?_congr r (b.same_identify r.config id), holder?, Option.map_eq_none_iff] at free
  exact free

/-- Settings with a fault are refused with the fault as the cause. -/
lemma register_of_error (free : r.holder? id = none) (refused : b.build r.config m = .error cause) :
    r.register m id b = .error (.invalidConfiguration cause) := by
  rw [register]
  dsimp only
  rw [find?_of_holder?_eq_none free b, refused]

/-- A free identity gets a new meter, and after it its gauges that are free. -/
lemma register_of_ok (free : r.holder? id = none) (built : b.build r.config m = .ok i) :
    let meter : Meter := ⟨b.identify r.config id, i⟩
    r.register m id b = .ok
      ⟨r.meters.length, { r with meters := (meter.derived r.meters.length).foldl addFree (r.meters ++ [meter]) },
        [.registered b.kind meter.id]⟩ := by
  rw [register]
  dsimp only
  rw [find?_of_holder?_eq_none free b, built]

/-- A registration that succeeds leaves what it answers. -/
lemma apply_of_ok {outcome : Outcome Registry MeterRef} (registered : r.register m id b = .ok outcome) :
    r.apply ⟨m, .register id b⟩ = outcome.state := by
  rw [apply]
  dsimp only
  rw [registered]

/-- A registration that fails leaves the registry as it was. -/
lemma apply_of_error {fault : RegistrationError} (registered : r.register m id b = .error fault) :
    r.apply ⟨m, .register id b⟩ = r := by
  rw [apply]
  dsimp only
  rw [registered]

/-- A registration does exactly its job or nothing, whatever was done with the registry before. An identity that is
held gives the meter that holds it, if this is of the kind that is asked for, and otherwise a conflict that names its
text and both kinds; the options play no part. A free identity is refused if the settings of a timer or summary are
at fault, for just this fault. In all these cases the registry stays as it was. Otherwise the meter comes in after
all others: every identity that had an entry keeps it, and of the others those of the meter and of its gauges get
one, the first of the gauges where several share an identity; none has two. -/
theorem register_run (created : ofConfiguration c p = .ok r₀) (past : List Request) (m : Moment) (id : Identity)
    (b : Blueprint) :
    let r := r₀.serve past
    let after := r.apply ⟨m, .register id b⟩
    (∀ ref, r.holder? id = some ref → ∃ meter, r.meters[ref]? = some meter ∧ meter.id.same id ∧ after = r ∧
      r.register m id b =
        if meter.kind = b.kind then .ok ⟨ref, r, []⟩
        else .error (.kindConflict meter.id.text meter.kind b.kind)) ∧
    (r.holder? id = none → ∀ s fault, b.settings? c = some s → s.fault? = some fault →
      after = r ∧ r.register m id b = .error (.invalidConfiguration fault)) ∧
    (r.holder? id = none → (∀ s, b.settings? c = some s → s.fault? = none) →
      ∃ meter added, meter.id = b.identify c id ∧ meter.kind = b.kind ∧ b.build c m = .ok meter.instrument ∧
        after = { r with meters := r.meters ++ meter :: added } ∧
        (after.meters.Pairwise fun a b => ¬a.id.same b.id) ∧
        r.register m id b = .ok ⟨r.meters.length, after, [.registered b.kind meter.id]⟩ ∧
        ∀ other, after.known? other =
          (r.known? other).or ((meter :: meter.derived r.meters.length).find? fun new => new.id.same other)) := by
  intro r after
  obtain rfl : r.config = c := config_serve_of_ofConfiguration created past
  refine ⟨fun ref held => ?_, fun free s fault asks refused => ?_, fun free faultless => ?_⟩
  · obtain ⟨meter, there, same, registered⟩ := register_of_holder? (m := m) (b := b) held
    refine ⟨meter, there, same, ?_, registered⟩
    by_cases kind : meter.kind = b.kind
    · exact apply_of_ok (registered.trans (if_pos kind))
    · exact apply_of_error (registered.trans (if_neg kind))
  · have registered := register_of_error (m := m) free (Blueprint.build_of_fault asks refused)
    exact ⟨apply_of_error registered, registered⟩
  · obtain ⟨i, built⟩ := Blueprint.exists_build (m := m) faultless
    have registered := register_of_ok free built
    have state : after = _ := apply_of_ok registered
    let meter : Meter := ⟨b.identify r.config id, i⟩
    obtain ⟨added, split, -⟩ := foldl_addFree (r.meters ++ [meter]) (meter.derived r.meters.length)
    have sound : after.Sound := (((sound_of_ofConfiguration created).serve past).1.apply _).1
    refine ⟨meter, added, rfl, Instrument.kind_build built, built, ?_, sound.distinct, ?_, fun other => ?_⟩
    · rw [List.append_assoc] at split
      exact state.trans (congrArg (Registry.mk _ _ · _ _) split)
    · rw [registered, state]
    · -- of several new meters with one identity only the first comes in, and a look-up gives the first as well
      rw [state, known?_eq, known?_eq]
      dsimp only
      rw [find?_foldl_addFree, List.find?_append, Option.or_assoc, ← List.find?_append]
      rfl

/-- A counter that is asked for as a timer, a summary that is asked for again with options at fault, a new summary
with the same options, and a timer with three percentiles: the gauge of the first finds its identity taken by a counter,
and the last is the second once more. -/
theorem register_run_taken :
    let at' (wall : Nat) : Moment := { wall, monotonic := 0 }
    let r₀ : Registry := { config := {}, publisher := .hook [] }
    let jobs : Identity := { name := "jobs" }
    let known : Identity := { name := "t", baseUnit := some "milliseconds" }
    let faulty : Blueprint := .summary { minimum := some 0.0 }
    let timer : Blueprint := .timer { percentiles := some [0.9, 0.5, 0.5] }
    let past : List Request := [.visit ⟨at' 0, .register jobs .counter⟩,
      .visit ⟨at' 1, .register { name := "s" } (.summary {})⟩,
      .visit ⟨at' 2, .register (known.ofPercentile 0.9) .counter⟩]
    let r := r₀.serve past
    let after := r.apply ⟨at' 3, .register { name := "t" } timer⟩
    ofConfiguration {} (.hook []) = .ok r₀ ∧
      r.register (at' 3) jobs (.timer {}) = .error (.kindConflict "jobs" .counter .timer) ∧
      r.register (at' 3) { name := "s" } faulty = .ok ⟨1, r, []⟩ ∧
      r.register (at' 3) { name := "new" } faulty = .error (.invalidConfiguration (.nonPositiveMinimum 0.0)) ∧
      (after.known? (known.ofPercentile 0.9)).map Meter.kind = some .counter ∧
      (after.known? (known.ofPercentile 0.5)).map Meter.kind = some .gauge ∧
      (after.known? known).map Meter.kind = some .timer := by
  intro at' r₀ jobs known faulty timer past r after
  have created : ofConfiguration {} (.hook []) = .ok r₀ := by rfl
  have asks : faulty.settings? {} = some { minimum := 0.0 } := by rfl
  have refused : ({ minimum := 0.0 } : Distribution.Settings).fault? = some (.nonPositiveMinimum 0.0) := by rfl
  obtain ⟨conflict, -⟩ := register_run created past (at' 3) jobs (.timer {})
  obtain ⟨again, -⟩ := register_run created past (at' 3) { name := "s" } faulty
  obtain ⟨-, fault, -⟩ := register_run created past (at' 3) { name := "new" } faulty
  obtain ⟨-, -, new⟩ := register_run created past (at' 3) { name := "t" } timer
  obtain ⟨counter, there, -, -, conflict⟩ := conflict 0 (by decide +kernel)
  obtain ⟨summary, there', -, -, again⟩ := again 1 (by decide +kernel)
  have held : r.meters[0]?.map (fun meter => (meter.kind, meter.id.text)) = some (.counter, "jobs") := by
    decide +kernel
  have held' : r.meters[1]?.map Meter.kind = some .summary := by decide +kernel
  rw [there, Option.map_some, Option.some_inj, Prod.mk.injEq] at held
  rw [there', Option.map_some, Option.some_inj] at held'
  refine ⟨created, ?_, ?_, (fault (by decide +kernel) _ _ asks refused).2, ?_⟩
  · rw [conflict, if_neg (by rw [held.1]; decide), held.1, held.2]
    rfl
  · exact again.trans (if_pos held')
  · obtain ⟨⟨_, i⟩, -, rfl, -, built, -, -, -, entries⟩ := new (by decide +kernel) fun s asks => by
      cases asks
      decide +kernel
    have place : r.meters.length = 3 := by decide +kernel
    have name : timer.identify {} { name := "t" } = known := by rfl
    rw [place, name] at entries
    -- what a look-up gives depends on what is built only
    have newcomers : ∀ other kind, (timer.build {} (at' 3)).toOption.map (fun i =>
        ((⟨known, i⟩ :: Meter.derived ⟨known, i⟩ 3).find? fun new => new.id.same other).map Meter.kind)
          = some (some kind) →
        (after.known? other).map Meter.kind = ((r.known? other).map Meter.kind).or (some kind) := by
      intro other kind found
      rw [name] at built
      rw [built] at found
      rw [entries, ← Option.some.inj found, Option.map_or]
    refine ⟨?_, ?_, ?_⟩
    · rw [newcomers _ .gauge (by decide +kernel)]
      decide +kernel
    · rw [newcomers _ .gauge (by decide +kernel)]
      decide +kernel
    · rw [newcomers _ .timer (by decide +kernel)]
      decide +kernel

end Register

end Registry

end StepMeters
