import StepMeters.Meter.Basic

/-!
# Blueprints

What has to be said to create a meter, beside its identity.
-/

namespace StepMeters

/-- A meter that is asked for. -/
inductive Blueprint where
  | counter
  /-- A gauge of the amount of an object. -/
  | gauge (source : Source)
  | timer (options : Distribution.Options)
  | summary (options : Distribution.Options)
  /-- A counter that follows the amount of an object. -/
  | functionCounter (source : Source)
  /-- A timer that follows the amount of an object, and its time in some unit. -/
  | functionTimer (source : Source) (sourceUnit : TimeUnit)

namespace Blueprint

/-- The kind of meter that is asked for. -/
def kind : Blueprint → Kind
  | counter => .counter
  | gauge _ => .gauge
  | timer _ => .timer
  | summary _ => .summary
  | functionCounter _ => .functionCounter
  | functionTimer _ _ => .functionTimer

/-- What the meter is known by: timers that do not state a unit have the base unit. -/
def identify (b : Blueprint) (c : Configuration) (id : Identity) : Identity :=
  match b with
  | timer _ => id.withDefaultUnit c.baseUnit.name
  | functionTimer _ _ => id.withDefaultUnit c.baseUnit.name
  | _ => id

/-- A new instrument after the blueprint. The options of a timer or summary are laid over the default ones,
and refused if together they are at fault. -/
def build (b : Blueprint) (c : Configuration) (m : Moment) : Except ConfigError Instrument :=
  let stepMillis := c.step.stepMillis
  match b with
  | counter => .ok (.counter (.new .sum stepMillis m.wall))
  | gauge source => .ok (.gauge (.observed source))
  | timer options =>
    (Distribution.ofOptions (options.layeredOver c.distribution) stepMillis m).map fun nanos =>
      .timer { unit := c.baseUnit, nanos }
  | summary options => (Distribution.ofOptions (options.layeredOver c.distribution) stepMillis m).map .summary
  | functionCounter source =>
    .ok (.functionCounter { source, value := .new .sum stepMillis m.wall })
  | functionTimer source sourceUnit =>
    .ok (.functionTimer
      { source, sourceUnit
        unit := c.baseUnit
        counts := .new .sum stepMillis m.wall
        totals := .new .sum stepMillis m.wall })

end Blueprint

end StepMeters
