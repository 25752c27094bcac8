import StepMeters.Proofs.Registry.Identities
import StepMeters.Proofs.Registry.Lives

/-!
# Meters at their places

What a run of requests does with the meter at one place are visits (`visitsIn`), if the registry is not closed in
between (`getElem?_serve_visits`). And what holds of every new instrument, and is not taken away by anything that is
done with it (`Instrument.IsInvariant`), holds of every meter at any time (`forall_serve`).
-/

namespace StepMeters

/-- A property that every instrument has when it is new, and keeps whatever is done with it. -/
structure Instrument.IsInvariant (c : Configuration) (P : Instrument → Prop) : Prop where
  build : ∀ {b : Blueprint} {m : Moment} {i : Instrument}, b.build c m = .ok i → P i
  gauge : ∀ g, P (.gauge g)
  apply : ∀ (visit : Visit) {i : Instrument}, P i → P (i.apply visit)
  close : ∀ (m : Moment) {i : Instrument}, P i → P (i.close m)

namespace Registry

namespace Request

/-- The moment of a request. -/
def moment : Request → Moment
  | visit v => v.moment
  | close m => m

/-- What a request does with the meters that there are. A close that publishes reports all of them. -/
def touches (r : Registry) : Request → List Touch
  | visit v => v.touches r
  | close _ =>
    if r.closed || !r.config.enabled then [] else r.places.flatMap (reportTouches r.meters)

end Request

/-- The visits that some requests bring to a place. -/
def visitsIn (ref : MeterRef) (r : Registry) : List Request → List Instrument.Visit
  | [] => []
  | request :: rest =>
    visitsAt ref request.moment (request.touches r) ++ visitsIn ref (r.handle request) rest

section Places
variable {r : Registry} {c : Configuration} {p : Publisher} {ref : MeterRef} {meter : Meter}

/-- As long as the registry does not close, its meters are visited only. -/
lemma getElem?_serve_visits (there : r.meters[ref]? = some meter) (requests : List Request)
    (isOpen : ∀ m, .close m ∉ requests) : (r.serve requests).meters[ref]?
      = some { meter with instrument := meter.instrument.run (visitsIn ref r requests) } := by
  induction requests generalizing r meter with
  | nil => exact there
  | cons request rest ih =>
    cases request with
    | close m => exact absurd List.mem_cons_self (isOpen m)
    | visit visit =>
      have there' := (r.grows_apply visit).getElem? there
      have later := ih there' fun m mem => isOpen m (List.mem_cons_of_mem _ mem)
      refine later.trans ?_
      rw [visitsIn, Instrument.run_append]
      rfl

/-- No request changes the configuration. -/
lemma config_handle (r : Registry) (request : Request) : (r.handle request).config = r.config := by
  cases request with
  | visit visit => exact (r.grows_apply visit).config
  | close m =>
    have allows : Instrument.AllowsLooks m fun _ _ => True :=
      ⟨fun _ => trivial, fun _ _ => trivial, fun _ _ _ => trivial⟩
    exact (alters_close allows (fun _ => trivial) r).config

/-- A registry keeps the configuration that it was made of. -/
lemma config_serve_of_ofConfiguration (created : ofConfiguration c p = .ok r) (requests : List Request) :
    (r.serve requests).config = c := by
  have config : r.config = c := by rw [(eq_of_ofConfiguration created).2]
  exact ((sound_of_ofConfiguration created).serve requests).2.config.trans config

/-- Meters that were altered have a property if they had it before. -/
lemma Alters.forall {r r' : Registry} {P : Instrument → Prop} (alters : Alters (fun i i' => P i → P i') r r')
    (has : ∀ meter ∈ r.meters, P meter.instrument) : ∀ meter ∈ r'.meters, P meter.instrument := by
  intro meter' mem'
  obtain ⟨ref, there'⟩ := List.mem_iff_getElem?.1 mem'
  obtain ⟨meter, there, keeps, -⟩ := alters.before there'
  exact keeps (has meter (List.mem_of_getElem? there))

section Invariant
variable {P : Instrument → Prop} (inv : Instrument.IsInvariant c P)
include inv

/-- Looks keep an invariant. -/
lemma allowsLooks_of_isInvariant (m : Moment) : Instrument.AllowsLooks m fun i i' => P i → P i' where
  refl _ h := h
  trans h h' has := h' (h has)
  look _ action _ has := inv.apply ⟨m, action⟩ has

/-- A visit keeps an invariant of all meters, the new ones included. -/
lemma forall_apply (config : r.config = c) (has : ∀ meter ∈ r.meters, P meter.instrument) (visit : Visit) :
    ∀ meter ∈ (r.apply visit).meters, P meter.instrument := by
  obtain ⟨added, publisher, running, e, new⟩ := r.grows_apply visit
  have allows := allowsLooks_of_isInvariant inv visit.moment
  have alters : Alters (fun i i' => P i → P i') r (r.touched visit.moment (visit.touches r)) :=
    alters_touched allows (fun t _ _ => inv.apply ⟨visit.moment, t.action⟩) r
  intro meter mem
  rw [e] at mem
  rcases List.mem_append.1 mem with old | mem
  · exact alters.forall has meter old
  · rcases new meter mem with ⟨b, built⟩ | gauge
    · rw [config] at built
      exact inv.build built
    · obtain ⟨id, i⟩ := meter
      cases i with
      | gauge g => exact inv.gauge g
      | _ => cases gauge

/-- A request keeps an invariant of all meters. -/
lemma forall_handle (config : r.config = c) (has : ∀ meter ∈ r.meters, P meter.instrument)
    (request : Request) : ∀ meter ∈ (r.handle request).meters, P meter.instrument := by
  cases request with
  | visit visit => exact forall_apply inv config has visit
  | close m =>
    exact (alters_close (allowsLooks_of_isInvariant inv m) (fun _ => inv.close m) r).forall has

/-- Any requests keep an invariant of all meters. -/
lemma forall_serve (config : r.config = c) (has : ∀ meter ∈ r.meters, P meter.instrument)
    (requests : List Request) : ∀ meter ∈ (r.serve requests).meters, P meter.instrument := by
  induction requests generalizing r with
  | nil => exact has
  | cons request rest ih =>
    exact ih ((r.config_handle request).trans config) (forall_handle inv config has request)

/-- A registry that is created has no meters, so all that it ever has are new at some time. -/
lemma forall_serve_of_ofConfiguration (created : ofConfiguration c p = .ok r) (requests : List Request) :
    ∀ meter ∈ (r.serve requests).meters, P meter.instrument := by
  obtain ⟨-, rfl⟩ := eq_of_ofConfiguration created
  exact forall_serve inv rfl (fun _ none => absurd none List.not_mem_nil) requests

end Invariant

end Places

end Registry

end StepMeters
