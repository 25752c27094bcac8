import StepMeters.Moment
import StepMeters.Window.Snapshot

/-!
# Distributions

A distribution describes one and the same recordings twice: by the statistics of the last complete step, and
by a sliding window. Timers keep one in nanoseconds, summaries in the unit of what they record.
-/

namespace StepMeters

/-- What a timer or summary keeps of its recordings. -/
structure Distribution where
  steps : StepStatistics
  window : Window

namespace Distribution

/-- An empty distribution with given options, unless their settings are at fault. -/
def ofOptions (o : Options) (stepMillis : Nat) (m : Moment) : Except ConfigError Distribution :=
  (Window.ofSettings o.settings m.monotonic).map fun window =>
    { steps := .new stepMillis m.wall, window }

/-- Records an amount, unless it is undefined or below zero. -/
def record (d : Distribution) (m : Moment) (amount : Float) : Outcome Distribution Unit :=
  if Amount.isAccepted amount then
    (d.window.record m.monotonic amount).within fun window =>
      { steps := d.steps.record m.wall amount, window }
  else ⟨(), d, []⟩

/-- Moves the statistics to the step of a moment. -/
def roll (d : Distribution) (m : Moment) : Distribution := { d with steps := d.steps.roll m.wall }

/-- Makes the statistics final. -/
def close (d : Distribution) (m : Moment) : Distribution := { d with steps := d.steps.close m.wall }

/-- The amount that a part of the windowed recordings does not exceed. -/
def percentile (d : Distribution) (m : Moment) (part : Float) : Outcome Distribution Float :=
  (d.window.percentile m.monotonic part).within fun window => { d with window }

/-- The number of windowed recordings that do not exceed an amount. -/
def countAtMost (d : Distribution) (m : Moment) (amount : Float) : Outcome Distribution Float :=
  (d.window.countAtMost m.monotonic amount).within fun window => { d with window }

/-- The distribution as a whole. -/
def snapshot (d : Distribution) (m : Moment) : Outcome Distribution Snapshot :=
  let parts := (d.window.percentileValues m.monotonic).andThen fun percentiles window =>
    (window.boundaryCounts m.monotonic).map fun boundaries => (percentiles, boundaries)
  { value :=
      { count := d.steps.count m.wall
        total := d.steps.total m.wall
        max := d.steps.max m.wall
        percentiles := parts.value.1
        boundaries := parts.value.2 }
    state := { steps := d.steps.roll m.wall, window := parts.state }
    log := parts.log }

end Distribution

end StepMeters
