import StepMeters.Decimal.Positional
import StepMeters.Event

/-!
# Publishers

A publisher reads all meters once in each publish cycle, one after the other, and may write about each of them
before it reads the next one. How its call ends is up to it, and is no concern of the meters.
-/

namespace StepMeters

/-- The readings of one meter. -/
structure Report where
  kind : Kind
  id : Identity
  measurements : List Measurement

/-- The report in one line. -/
def Report.text (r : Report) : String :=
  let fields := r.measurements.map fun m => (m.statistic.name, numeral m.value)
  let unit := r.id.baseUnit.toList.map fun unit => ("unit", unit)
  let words := (fields ++ unit).map fun field => field.1 ++ "=" ++ field.2
  " ".intercalate (r.kind.text :: r.id.text :: words)

/-- What a publisher receives. -/
structure Publication where
  /-- The wall time of the cycle. -/
  timestamp : Nat
  reports : List Report

/-- How a call of a publisher ends. -/
inductive Ending where
  | delivered
  | failed (cause : PublishError)
  | panicked
deriving DecidableEq, Repr

/-- What an ending reports about a call with so many meters. -/
def Ending.log (meters : Nat) : Ending → List Event
  | delivered => []
  | failed cause => [.publishFailed cause]
  | panicked => [.publisherPanicked meters]

/-- Who receives the readings. -/
inductive Publisher where
  /-- A program of its own, given by how its next calls end; after these all calls deliver. -/
  | hook (endings : List Ending)
  /-- One that writes a line of the log for each meter. -/
  | logger (level : Level)
deriving DecidableEq

namespace Publisher

/-- What a publisher writes about a meter once it has read it. -/
def remarks (p : Publisher) (report : Report) : List Event :=
  match p with
  | hook _ => []
  | logger level => [.line level report.text]

/-- Hands over a publication: how the call ends, and the publisher after it. Neither kind looks at what it got to
decide this. -/
def receive (p : Publisher) (_ : Publication) : Outcome Publisher Ending :=
  match p with
  | hook [] => ⟨.delivered, hook [], []⟩
  | hook (ending :: rest) => ⟨ending, hook rest, []⟩
  | logger level => ⟨.delivered, logger level, []⟩

end Publisher

end StepMeters
