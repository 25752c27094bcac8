import StepMeters.Proofs.Registry.Touches

/-!
# Looks at registered meters

Readings, snapshots, reports and publish cycles touch the meters of a registry in many ways, gauges even those
of other meters. All of it amounts to looks at instruments. So a relation between instruments that allows looks
(`Instrument.AllowsLooks`) also holds from every meter to what any of these leave at its place
(`Registry.Alters`); with the looks themselves as the relation, this is `Registry.Looked`.
-/

namespace StepMeters

/-- A relation from instruments to what some looks at a moment leave of them. -/
structure Instrument.AllowsLooks (m : Moment) (R : Instrument → Instrument → Prop) : Prop where
  refl : ∀ i, R i i
  trans : ∀ {i i' i''}, R i i' → R i' i'' → R i i''
  look : ∀ (i : Instrument) (action : Action), action.IsLook → R i (i.apply ⟨m, action⟩)

/-- A look leaves a meter looked at. -/
lemma Instrument.allowsLooks_looked (m : Moment) : AllowsLooks m (Looked m) :=
  ⟨looked_refl m, Looked.trans, looked_apply m⟩

/-- What is related to by each of some visits is related to by all of them. -/
lemma Instrument.AllowsLooks.run {m : Moment} {R : Instrument → Instrument → Prop} (allows : AllowsLooks m R)
    {visits : List Visit} (works : ∀ visit ∈ visits, ∀ i : Instrument, R i (i.apply visit)) (i : Instrument) :
    R i (i.run visits) := by
  induction visits generalizing i with
  | nil => exact allows.refl i
  | cons visit rest ih =>
    exact allows.trans (works visit List.mem_cons_self i)
      (ih (fun visit mem => works visit (List.mem_cons_of_mem _ mem)) _)

namespace Registry

/-- A registry has the same meters as before, in the same places, and each instrument relates to the one
before. -/
structure Alters (R : Instrument → Instrument → Prop) (r r' : Registry) : Prop where
  config : r'.config = r.config
  closed : r'.closed = r.closed
  length : r'.meters.length = r.meters.length
  meters : ∀ (ref : MeterRef) (meter : Meter), r.meters[ref]? = some meter →
    ∃ i, R meter.instrument i ∧ r'.meters[ref]? = some { meter with instrument := i }

section Alters
variable {R : Instrument → Instrument → Prop} {r r' r'' : Registry} {m : Moment}

/-- The publisher and the schedule are no concern of the meters. -/
lemma Alters.congr (h : Alters R r r') (config : r''.config = r'.config) (closed : r''.closed = r'.closed)
    (meters : r''.meters = r'.meters) : Alters R r r'' :=
  ⟨config.trans h.config, closed.trans h.closed, (congrArg List.length meters).trans h.length,
    fun ref meter there => by rw [meters]; exact h.meters ref meter there⟩

/-- No meter is new: each comes from the one before at its place. -/
lemma Alters.before (h : Alters R r r') {ref : MeterRef} {meter' : Meter}
    (there' : r'.meters[ref]? = some meter') :
    ∃ meter, r.meters[ref]? = some meter ∧ R meter.instrument meter'.instrument ∧ meter'.id = meter.id := by
  have inside := (List.getElem?_eq_some_iff.1 there').1
  rw [h.length] at inside
  have there := List.getElem?_eq_getElem inside
  obtain ⟨i, relates, e⟩ := h.meters ref _ there
  rw [there', Option.some_inj] at e
  subst e
  exact ⟨_, there, relates, rfl⟩

variable (allows : Instrument.AllowsLooks m R)
include allows

/-- A registry that is left alone has each instrument as it was. -/
lemma alters_refl (r : Registry) : Alters R r r :=
  ⟨rfl, rfl, rfl, fun _ meter there => ⟨meter.instrument, allows.refl _, there⟩⟩

/-- What alters a registry twice alters it. -/
lemma Alters.trans (h : Alters R r r') (h' : Alters R r' r'') : Alters R r r'' := by
  refine ⟨h'.config.trans h.config, h'.closed.trans h.closed, h'.length.trans h.length, ?_⟩
  intro ref meter there
  obtain ⟨i, before, there'⟩ := h.meters ref meter there
  obtain ⟨i', after, there''⟩ := h'.meters ref _ there'
  exact ⟨i', allows.trans before after, there''⟩

/-- Touches alter the registry as they alter instruments. -/
lemma alters_touched {touches : List Touch} (works : ∀ t ∈ touches, ∀ i : Instrument, R i (i.apply ⟨m, t.action⟩))
    (r : Registry) : Alters R r (r.touched m touches) := by
  refine ⟨rfl, rfl, length_touchAll m r.meters touches, fun ref meter there => ?_⟩
  refine ⟨meter.instrument.run (visitsAt ref m touches), allows.run (fun visit mem => ?_) _, ?_⟩
  · obtain ⟨t, here, rfl⟩ := List.mem_map.1 mem
    exact works t (List.mem_filter.1 here).1
  · exact getElem?_touched there m touches

/-- Looks alter the registry as the relation allows. -/
lemma alters_looks {touches : List Touch} (looks : ∀ t ∈ touches, t.action.IsLook) (r : Registry) :
    Alters R r (r.touched m touches) :=
  alters_touched allows (fun t mem i => allows.look i t.action (looks t mem)) r

end Alters

section Touches
variable {meters : List Meter}

/-- A gauge only looks at its owner. -/
lemma isLook_gaugeTouches (gauge : Gauge) : ∀ t ∈ gaugeTouches gauge, t.action.IsLook := by
  intro t mem
  cases gauge with
  | observed source => cases mem
  | percentile owner part =>
    rw [List.mem_singleton.1 mem]
    nofun
  | countAtMost owner boundary =>
    rw [List.mem_singleton.1 mem]
    nofun

/-- Reading a statistic only looks. -/
lemma isLook_readTouches (ref : MeterRef) (unit : Option TimeUnit) (s : Statistic) :
    ∀ t ∈ readTouches meters ref unit s, t.action.IsLook := by
  unfold readTouches
  split
  · exact isLook_gaugeTouches _
  · intro t mem
    rw [List.mem_singleton.1 mem]
    nofun

/-- A report only looks. -/
lemma isLook_reportTouches (ref : MeterRef) : ∀ t ∈ reportTouches meters ref, t.action.IsLook := by
  intro t mem
  obtain ⟨s, -, mem⟩ := List.mem_flatMap.1 mem
  exact isLook_readTouches ref none s t mem

/-- A publish cycle only looks. -/
lemma isLook_cycleTouches : ∀ t ∈ cycleTouches meters, t.action.IsLook := by
  intro t mem
  rcases List.mem_append.1 mem with mem | mem
  · obtain ⟨ref, -, rfl⟩ := List.mem_map.1 mem
    nofun
  · obtain ⟨ref, -, mem⟩ := List.mem_flatMap.1 mem
    exact isLook_reportTouches ref t mem

end Touches

/-- What some looks at the meters of a registry leave. -/
structure Looked (m : Moment) (r r' : Registry) : Prop where
  config : r'.config = r.config
  closed : r'.closed = r.closed
  length : r'.meters.length = r.meters.length
  meters : ∀ (ref : MeterRef) (meter : Meter), r.meters[ref]? = some meter →
    ∃ i, Instrument.Looked m meter.instrument i ∧ r'.meters[ref]? = some { meter with instrument := i }

section Looked
variable {r r' r'' : Registry} {m : Moment}

/-- Looks at each meter are looks at the registry. -/
lemma Alters.looked (h : Alters (Instrument.Looked m) r r') : Looked m r r' :=
  ⟨h.config, h.closed, h.length, h.meters⟩

/-- Looks at the registry are looks at each meter. -/
lemma Looked.alters (h : Looked m r r') : Alters (Instrument.Looked m) r r' :=
  ⟨h.config, h.closed, h.length, h.meters⟩

/-- A registry that nobody read is as it was. -/
lemma looked_refl (m : Moment) (r : Registry) : Looked m r r :=
  (alters_refl (Instrument.allowsLooks_looked m) r).looked

/-- Touches that only look are looks at the registry. -/
lemma looked_of_touched {touches : List Touch} {publisher : Publisher} {running : Bool}
    (e : r' = { r.touched m touches with publisher, running }) (looks : ∀ t ∈ touches, t.action.IsLook) :
    Looked m r r' := by
  have alters : Alters (Instrument.Looked m) r { r.touched m touches with publisher, running } :=
    (alters_looks (Instrument.allowsLooks_looked m) looks r).congr rfl rfl rfl
  rw [e]
  exact alters.looked

end Looked

end Registry

end StepMeters
