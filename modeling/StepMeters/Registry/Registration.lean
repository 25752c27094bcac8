import StepMeters.Meter.Blueprint
import StepMeters.Registry.Basic
import StepMeters.Registry.Error

/-!
# Registration

An identity belongs to one meter for ever. Registering it again gives the same meter, whatever else is asked
for, unless it is asked for as another kind.
-/

namespace StepMeters.Registry

/-- Adds a meter, unless its identity is taken. -/
def addFree (meters : List Meter) (meter : Meter) : List Meter :=
  if meters.any fun m => m.id.same meter.id then meters else meters ++ [meter]

/-- Registers a meter and the gauges that it brings with it. -/
def register (r : Registry) (m : Moment) (id : Identity) (b : Blueprint) :
    Except RegistrationError (Outcome Registry MeterRef) :=
  let id := b.identify r.config id
  match r.find? id with
  | some ref =>
    let existing := r.meters[ref]
    if existing.kind = b.kind then .ok ⟨ref, r, []⟩
    else .error (.kindConflict existing.id.text existing.kind b.kind)
  | none =>
    match b.build r.config m with
    | .error cause => .error (.invalidConfiguration cause)
    | .ok instrument =>
      let ref := r.meters.length
      let meter : Meter := { id, instrument }
      let meters := (meter.derived ref).foldl addFree (r.meters ++ [meter])
      .ok ⟨ref, { r with meters }, [.registered b.kind id]⟩

end StepMeters.Registry
