import StepMeters.Meter.Derived
import StepMeters.Publishing.Publisher

/-!
# Registries

A registry holds meters in the order of their registration, and never gives one up. It knows whether it is
closed, and whether it publishes by schedule.
-/

namespace StepMeters

/-- Meters under one configuration, with the publisher that receives their readings. -/
structure Registry where
  config : Configuration
  publisher : Publisher
  meters : List Meter := []
  /-- Whether the last readings have been published. -/
  closed : Bool := false
  /-- Whether the registry publishes by schedule. -/
  running : Bool := false

namespace Registry

/-- An empty registry, unless its configuration is at fault. -/
def ofConfiguration (c : Configuration) (p : Publisher) : Except ConfigError Registry :=
  match c.fault? with
  | none => .ok { config := c, publisher := p }
  | some fault => .error fault

/-- A registry that is created is empty, open and idle, and its configuration is not at fault. -/
theorem eq_of_ofConfiguration {c : Configuration} {p : Publisher} {r : Registry}
    (created : ofConfiguration c p = .ok r) : c.fault? = none ∧ r = { config := c, publisher := p } := by
  rw [ofConfiguration] at created
  split at created
  · rename_i faultless
    cases created
    exact ⟨faultless, rfl⟩
  · cases created

/-- The place of the meter with an identity. -/
def find? (r : Registry) (id : Identity) : Option (Fin r.meters.length) :=
  r.meters.findFinIdx? fun meter => meter.id.same id

/-- The places of all meters, in order. -/
def places (r : Registry) : List MeterRef := List.range r.meters.length

/-- The places of the meters with a name, whatever their tags. -/
def named (r : Registry) (name : String) : List MeterRef :=
  r.places.filter fun ref => r.meters[ref]?.any (·.id.name == name)

/-- Changes the instrument of a meter. -/
def put (r : Registry) (ref : MeterRef) (instrument : Instrument) : Registry :=
  { r with meters := r.meters.modify ref ({ · with instrument }) }

/-- Works with the instrument at a place. Nothing happens if there is none, or if it does not suit. -/
def visit {α : Type} (r : Registry) (ref : MeterRef)
    (work? : Instrument → Option (Outcome Instrument α)) : Outcome Registry (Option α) :=
  match r.meters[ref]?.bind fun meter => work? meter.instrument with
  | none => ⟨none, r, []⟩
  | some outcome => (outcome.map some).within (r.put ref)

/-- Changing an instrument adds no meter and drops none. -/
@[simp] theorem length_meters_put (r : Registry) (ref : MeterRef) (instrument : Instrument) :
    (r.put ref instrument).meters.length = r.meters.length := by
  simp [put]

end Registry

end StepMeters
