import StepMeters.Registry.Error
import StepMeters.Registry.Reading

/-!
# Publishing

In a publish cycle all meters first move to the step of the clock and are then read for the publisher. The
last cycle, when the registry closes, makes all values final before they are read.
-/

namespace StepMeters.Registry

/-- Moves every meter to the step of a moment. -/
def rollAll (r : Registry) (m : Moment) : Registry := { r with meters := r.meters.map (·.roll m) }

/-- Makes the values of every meter final. -/
def closeAll (r : Registry) (m : Moment) : Registry := { r with meters := r.meters.map (·.close m) }

/-- Calls the publisher, which reads every meter and writes what it has to say about it. However the call ends, the
registry goes on. -/
def deliver (r : Registry) (m : Moment) : Outcome Registry Publication :=
  let count := r.meters.length
  let read := r.reports m r.places r.publisher.remarks
  let publication : Publication := { timestamp := m.wall, reports := read.value }
  let call := read.state.publisher.receive publication
  { value := publication
    state := { read.state with publisher := call.state }
    log := .publishing count :: read.log ++ call.log ++ call.value.log count }

/-- Publishes the last complete step, unless the registry is closed. -/
def publish (r : Registry) (m : Moment) : Outcome Registry (Option Publication) :=
  if r.closed then ⟨none, r, [.publishSkipped]⟩
  else ((r.rollAll m).deliver m).map some

/-- How the machine answers when it is asked for the thread of a schedule. -/
inductive Spawn where
  | spawned
  | refused (cause : String)
deriving DecidableEq, Repr

/-- Begins to publish by schedule. Registries that publish nothing on their own, and closed ones, never begin.
A schedule that goes on already ends before the machine is asked for a new thread, so if there is none nothing is
published by schedule any more. -/
def start (r : Registry) (spawn : Spawn := .spawned) : Outcome Registry (Except StartError Unit) :=
  if !r.config.enabled then ⟨.ok (), r, [.startDisabled]⟩
  else if r.closed then ⟨.ok (), r, [.startClosed]⟩
  else match spawn with
    | .spawned => ⟨.ok (), { r with running := true }, []⟩
    | .refused cause => ⟨.error (.spawn cause), { r with running := false }, [.spawnFailed cause]⟩

/-- Ends publishing by schedule. -/
def stop (r : Registry) : Outcome Registry Unit :=
  if r.running then ⟨(), { r with running := false }, [.stopping]⟩ else ⟨(), r, []⟩

/-- One cycle of the schedule, if the registry publishes by schedule. -/
def tick (r : Registry) (m : Moment) : Outcome Registry (Option Publication) :=
  if r.running then r.publish m else ⟨none, r, []⟩

/-- Publishes the step that is not complete yet, unless the registry publishes nothing on its own, and ends.
Only the first time has any effect. -/
def close (r : Registry) (m : Moment) : Outcome Registry (Option Publication) :=
  if r.closed then ⟨none, r, []⟩
  else
    let closing := { r with closed := true }
    let last :=
      if r.config.enabled then ((closing.closeAll m).deliver m).map some else ⟨none, closing, []⟩
    last.andThen fun publication r' => r'.stop.map fun _ => publication

end StepMeters.Registry

namespace StepMeters.Configuration

/-- The milliseconds from a wall time to the next cycle of the schedule, in words of 64 bits: up to the end
of the step, and one more so that every meter has moved on. -/
def nextDelay (c : Configuration) (wall : UInt64) : UInt64 :=
  let step := UInt64.ofNat c.step.stepMillis
  step - wall % step + 1

end StepMeters.Configuration
