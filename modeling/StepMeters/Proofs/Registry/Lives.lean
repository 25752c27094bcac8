import StepMeters.Proofs.Registry.History

/-!
# Lives of meters

Whatever is done with an open registry, the meters that it has are touched, and others come after them
(`grows_apply`). So each place has a life (`life?`): a meter that was new at some moment, or a gauge, and the
visits that the touches since then have brought to it. The meter at the place is always what these visits have
made of it (`Lives.exists_life`).
-/

namespace StepMeters.Registry

/-- A meter when it was new, and what has been done with it since. -/
structure Life where
  birth : Moment
  new : Instrument
  visits : List Instrument.Visit

/-- The life at a place after one more visit of the registry. It begins with the visit that brings the meter. -/
def Life.after? (ref : MeterRef) (r : Registry) (life : Option Life) (visit : Visit) : Option Life :=
  match life with
  | some l => some { l with visits := l.visits ++ visitsAt ref visit.moment (visit.touches r) }
  | none => (r.apply visit).meters[ref]?.map fun meter => ⟨visit.moment, meter.instrument, []⟩

/-- The life at a place after a run of visits of the registry. -/
def life? (ref : MeterRef) (r : Registry) (life : Option Life) : List Visit → Option Life
  | [] => life
  | visit :: rest => life? ref (r.apply visit) (Life.after? ref r life visit) rest

/-- An instrument that a registry brings at a moment: a new one, or a gauge, which needs no moment. -/
def IsNew (c : Configuration) (m : Moment) (i : Instrument) : Prop :=
  (∃ b : Blueprint, b.build c m = .ok i) ∨ i.kind = .gauge

/-- What a visit may leave of a registry: the meters have been touched, and others have come after them. -/
def Grows (r r' : Registry) (m : Moment) (touches : List Touch) : Prop :=
  ∃ added publisher running,
    r' = { r with meters := touchAll m r.meters touches ++ added, publisher, running } ∧
      ∀ meter ∈ added, IsNew r.config m meter.instrument

/-- An open registry, with the life of the meter at a place: the meter is what its life has made of it. -/
structure Lives (r : Registry) (c : Configuration) (ref : MeterRef) (life : Option Life) : Prop where
  config : r.config = c
  isOpen : r.closed = false
  isNew : ∀ l, life = some l → IsNew c l.birth l.new
  grown : r.meters[ref]?.map Meter.instrument = life.map fun l => l.new.run l.visits

section Grows
variable {r r' : Registry} {ref : MeterRef} {meter : Meter} {m : Moment} {touches : List Touch}

/-- Touches alone let a registry grow by nothing. -/
lemma grows_of_touched {running : Bool} (publisher : Publisher)
    (e : r' = { r.touched m touches with publisher, running }) : r.Grows r' m touches := by
  refine ⟨[], publisher, running, ?_, fun _ none => absurd none List.not_mem_nil⟩
  rw [List.append_nil]
  exact e

/-- A registered meter comes after those that there are, with its gauges. -/
lemma grows_register (r : Registry) (m : Moment) (id : Identity) (b : Blueprint) :
    r.Grows (r.apply ⟨m, .register id b⟩) m [] := by
  rw [Registry.apply]
  dsimp only
  split
  · rename_i outcome registered
    obtain ⟨_, _, _, _, _, _, same⟩ | ⟨new, added, -, -, built, -, e, -, gauges⟩ := register_inv registered
    · rw [same]
      exact grows_of_touched r.publisher rfl
    · refine ⟨new :: added, r.publisher, r.running, e, fun meter mem => ?_⟩
      rcases List.mem_cons.1 mem with rfl | gauge
      · exact .inl ⟨b, built⟩
      · obtain ⟨g, e⟩ := gauge_of_mem_derived (gauges meter gauge)
        rw [e]
        exact .inr rfl
  · exact grows_of_touched r.publisher rfl

/-- A visit touches the meters that there are, and may add new ones. -/
lemma grows_apply (r : Registry) (visit : Visit) :
    r.Grows (r.apply visit) visit.moment (visit.touches r) := by
  obtain ⟨id, b, e⟩ | ⟨publisher, running, e⟩ := r.apply_inv visit
  · obtain ⟨m, action⟩ := visit
    cases e
    exact r.grows_register m id b
  · exact grows_of_touched publisher e

/-- A registry that grows keeps its configuration. -/
lemma Grows.config (h : r.Grows r' m touches) : r'.config = r.config := by
  obtain ⟨_, _, _, rfl, -⟩ := h
  rfl

/-- A registry that grows is as open or closed as before. -/
lemma Grows.closed (h : r.Grows r' m touches) : r'.closed = r.closed := by
  obtain ⟨_, _, _, rfl, -⟩ := h
  rfl

/-- A meter stays at its place. -/
lemma Grows.getElem? (h : r.Grows r' m touches) (there : r.meters[ref]? = some meter) : r'.meters[ref]?
      = some { meter with instrument := meter.instrument.run (visitsAt ref m touches) } := by
  obtain ⟨added, _, _, rfl, -⟩ := h
  have inside := (List.getElem?_eq_some_iff.1 there).1
  show (touchAll m r.meters touches ++ added)[ref]? = _
  rw [List.getElem?_append_left (by rwa [length_touchAll]), getElem?_touchAll, there]
  rfl

/-- A meter at a place where there was none is new. -/
lemma Grows.isNew (h : r.Grows r' m touches) (absent : r.meters.length ≤ ref)
    (there : r'.meters[ref]? = some meter) : IsNew r.config m meter.instrument := by
  obtain ⟨added, _, _, rfl, new⟩ := h
  rw [← length_touchAll m r.meters touches] at absent
  change (touchAll m r.meters touches ++ added)[ref]? = some meter at there
  rw [List.getElem?_append_right absent] at there
  exact new meter (List.mem_of_getElem? there)

end Grows

section Lives
variable {r : Registry} {c : Configuration} {p : Publisher} {ref : MeterRef} {meter : Meter} {life : Option Life}

/-- A visit adds its touches to the life of a meter, or begins it. -/
lemma Lives.apply (h : r.Lives c ref life) (visit : Visit) :
    (r.apply visit).Lives c ref (Life.after? ref r life visit) := by
  have grows := r.grows_apply visit
  have config := grows.config.trans h.config
  have isOpen := grows.closed.trans h.isOpen
  cases life with
  | none =>
    have absent : r.meters.length ≤ ref := List.getElem?_eq_none_iff.1 (Option.map_eq_none_iff.1 h.grown)
    refine ⟨config, isOpen, fun l has => ?_, ?_⟩
    · obtain ⟨meter, there, rfl⟩ := Option.map_eq_some_iff.1 has
      rw [← h.config]
      exact grows.isNew absent there
    · rw [Life.after?, Option.map_map]
      rfl
  | some l =>
    obtain ⟨meter, there, grown⟩ := Option.map_eq_some_iff.1 h.grown
    refine ⟨config, isOpen, fun l' has => ?_, ?_⟩
    · cases has
      exact h.isNew l rfl
    · rw [grows.getElem? there, Life.after?, Option.map_some, Option.map_some]
      dsimp only
      rw [grown, Instrument.run_append]

/-- After a run of visits a meter is what its life has made of it. -/
lemma Lives.run (h : r.Lives c ref life) (visits : List Visit) :
    (r.run visits).Lives c ref (life? ref r life visits) := by
  induction visits generalizing r life with
  | nil => exact h
  | cons visit rest ih => exact ih (h.apply visit)

/-- No place of a new registry has a life. -/
lemma lives_of_ofConfiguration (created : ofConfiguration c p = .ok r) (ref : MeterRef) :
    r.Lives c ref none := by
  obtain ⟨-, rfl⟩ := eq_of_ofConfiguration created
  exact ⟨rfl, rfl, (fun _ none => by cases none), rfl⟩

/-- Every meter has a life. -/
lemma Lives.exists_life (h : r.Lives c ref life) (there : r.meters[ref]? = some meter) :
    ∃ l, life = some l ∧ IsNew c l.birth l.new ∧ meter.instrument = l.new.run l.visits := by
  have grown := h.grown
  rw [there, Option.map_some, eq_comm, Option.map_eq_some_iff] at grown
  obtain ⟨l, has, grown⟩ := grown
  exact ⟨l, has, h.isNew l has, grown.symm⟩

end Lives

end StepMeters.Registry
