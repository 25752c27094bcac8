import StepMeters.Proofs.Meter.Settling
import StepMeters.Proofs.Registry.Freezing
import StepMeters.Proofs.Registry.Places

/-!
# Settled readings of registered meters

Within a step a statistic of a meter reads the same, whatever is asked of the registry in between. What counts is
which wall times the meter itself has seen (`Registry.seen`): recordings and readings of other meters have no part
in it, nor have queries of its window.
-/

namespace StepMeters

/-- All parts of an instrument count in steps of one length. -/
def Instrument.CountsIn (stepMillis : Nat) (i : Instrument) : Prop :=
  ∀ part a, i.part? part = some a → a.stepMillis = stepMillis

/-- Closing does not change the length of the steps. -/
lemma Accumulator.stepMillis_close (a : Accumulator) (wall : Nat) : (a.close wall).stepMillis = a.stepMillis := by
  rw [close]
  split <;> exact stepMillis_roll a wall

/-- All parts of all meters count in the step used, whatever is done with the meters. -/
lemma Instrument.isInvariant_countsIn (c : Configuration) :
    IsInvariant c (CountsIn c.step.stepMillis) where
  build built part a has := by
    rw [part?_build built has]
    rfl
  gauge g part a has := by
    cases part <;> cases has
  apply visit i counts part a has := by
    rw [part?_apply, Option.map_eq_some_iff] at has
    obtain ⟨before, has, rfl⟩ := has
    rw [Accumulator.stepMillis_run]
    exact counts part before has
  close m i counts part a has := by
    rw [part?_close, Option.map_eq_some_iff] at has
    obtain ⟨before, has, rfl⟩ := has
    rw [Accumulator.stepMillis_close, Accumulator.stepMillis_run]
    exact counts part before has

namespace Registry

/-- The wall times that the meter at a place sees during some requests. -/
def seen (ref : MeterRef) (r : Registry) (requests : List Request) : List Nat :=
  r.meters[ref]?.elim [] fun meter => meter.instrument.seen (visitsIn ref r requests)

section Settling
variable {r₀ : Registry} {c : Configuration} {p : Publisher} {ref : MeterRef} {meter : Meter}

/-- What a run of requests brings to a place is what its parts bring there. -/
lemma visitsIn_append (ref : MeterRef) (r : Registry) (requests requests' : List Request) :
    visitsIn ref r (requests ++ requests') = visitsIn ref r requests ++ visitsIn ref (r.serve requests) requests' := by
  induction requests generalizing r with
  | nil => rfl
  | cons request rest ih =>
    rw [List.cons_append, visitsIn, visitsIn, ih, List.append_assoc]
    rfl

/-- A reading of a meter that is no gauge is one visit of it. -/
lemma visitsAt_read {r : Registry} (there : r.meters[ref]? = some meter) (stepped : meter.kind ≠ .gauge)
    (m : Moment) (unit : Option TimeUnit) (s : Statistic) :
    visitsAt ref m (readTouches r.meters ref unit s) = [⟨m, .read s unit⟩] := by
  have plain : (r.meters[ref]?.bind fun meter => meter.instrument.gauge?) = none := by
    rw [there, Option.bind_some]
    obtain ⟨id, i⟩ := meter
    cases i with
    | gauge g => exact absurd rfl stepped
    | _ => rfl
  unfold readTouches
  rw [plain, visitsAt_cons, if_pos rfl]
  rfl

/-- A reading is stable for the whole step. Two readings of one statistic of a meter that is no gauge give the
same value if, from the first to the second, the meter sees the wall clock in no step later than that of the first
reading, and the registry does not close in between. -/
theorem reading_run (created : ofConfiguration c p = .ok r₀) (past : List Request)
    (there : (r₀.serve past).meters[ref]? = some meter) (stepped : meter.kind ≠ .gauge) (m m' : Moment)
    (unit : Option TimeUnit) (s : Statistic) (between : List Request) (isOpen : ∀ m, .close m ∉ between) :
    let first := (r₀.serve past).read m ref unit s
    let second := (first.state.serve between).read m' ref unit s
    let again : Request := .visit ⟨m', .read ref unit s⟩
    (∀ wall ∈ seen ref first.state (between ++ [again]),
      wall / c.step.stepMillis ≤ m.wall / c.step.stepMillis) →
    second.value = first.value := by
  intro first second again early
  have counts := forall_serve_of_ofConfiguration (Instrument.isInvariant_countsIn c) created past meter
    (List.mem_of_getElem? there)
  -- the meter after the first reading, and after all that is done in between
  let i := meter.instrument.apply ⟨m, .read s unit⟩
  have there₁ : first.state.meters[ref]? = some { meter with instrument := i } := by
    show ((r₀.serve past).read m ref unit s).state.meters[ref]? = _
    rw [state_read, getElem?_touched there, visitsAt_read there stepped]
    rfl
  have stepped₁ := stepped_of_kept stepped (Instrument.kept_apply m meter.instrument (.read s unit))
  have there₂ := getElem?_serve_visits there₁ between isOpen
  have stepped₂ := stepped_of_kept stepped₁ (Instrument.kept_run i (visitsIn ref first.state between))
  have values : second.value = ((i.run (visitsIn ref first.state between)).read? m' s unit).map Outcome.value := by
    show ((first.state.serve between).read m' ref unit s).value = _
    rw [read_eq_visit there₂ stepped₂, value_visit, there₂]
    rfl
  have value : first.value = (meter.instrument.read? m s unit).map Outcome.value := by
    show ((r₀.serve past).read m ref unit s).value = _
    rw [read_eq_visit there stepped, value_visit, there]
    rfl
  rw [values, value]
  refine Instrument.value_read_run counts m m' s unit _ fun wall sees => early wall ?_
  have last : visitsIn ref (first.state.serve between) [again] = [⟨m', .read s unit⟩] := by
    show visitsAt ref m' (readTouches _ ref unit s) ++ [] = _
    rw [visitsAt_read there₂ stepped₂, List.append_nil]
  rw [seen, there₁, Option.elim_some, visitsIn_append, last]
  exact sees

/-- A timer that is read in the second step. Until it is read again a second is recorded, a cycle is published and
the clock goes back a little; a query of the window even comes from a clock that is far ahead. -/
theorem reading_run_timer :
    let at' (wall : Nat) : Moment := { wall, monotonic := 0 }
    let r₀ : Registry := { config := {}, publisher := .hook [] }
    let past : List Request := [.visit ⟨at' 0, .register { name := "t" } (.timer {})⟩,
      .visit ⟨at' 5, .record 0 (.duration (Duration.ofMillis 7))⟩]
    let between : List Request := [.visit ⟨at' 60002, .record 0 (.duration (Duration.ofSeconds 1))⟩,
      .visit ⟨at' 119999, .publish⟩, .visit ⟨at' 500000, .percentile 0 none 0.5⟩]
    let first := (r₀.serve past).read (at' 60001) 0 none .mean
    let second := (first.state.serve between).read (at' 60000) 0 none .mean
    (∀ wall ∈ seen 0 first.state (between ++ [.visit ⟨at' 60000, .read 0 none .mean⟩]),
      wall / 60000 ≤ 60001 / 60000) ∧ first.value.isSome ∧ second.value = first.value := by
  intro at' r₀ past between first second
  have created : ofConfiguration {} (.hook []) = .ok r₀ := by rfl
  have kinds : (r₀.serve past).meters[0]?.map Meter.kind = some .timer := by decide +kernel
  obtain ⟨meter, there, kind⟩ := Option.map_eq_some_iff.1 kinds
  have stepped : meter.kind ≠ .gauge := by
    rw [kind]
    decide
  have early : ∀ wall ∈ seen 0 first.state (between ++ [.visit ⟨at' 60000, .read 0 none .mean⟩]),
      wall / 60000 ≤ 60001 / 60000 := by
    decide +kernel
  have isOpen : ∀ m, Request.close m ∉ between := by simp [between]
  refine ⟨early, ?_, ?_⟩
  · decide +kernel
  · exact reading_run created past there stepped (at' 60001) (at' 60000) none .mean between isOpen early

end Settling

end Registry

end StepMeters
