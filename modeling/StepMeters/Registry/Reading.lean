import StepMeters.Meter.Recording
import StepMeters.Registry.Basic

/-!
# Work with registered meters

Recordings and readings of the meters of a registry. Each of them may move accumulators and windows on to
its own moment.
-/

namespace StepMeters.Registry

/-- The value of a gauge whose object is gone. -/
def undefined : Float := 0.0 / 0.0

/-- Reports something to a meter. -/
def record (r : Registry) (m : Moment) (ref : MeterRef) (recording : Recording) :
    Outcome Registry (Option Unit) :=
  r.visit ref (·.record? m recording)

/-- Reports several things to a meter, one after the other. -/
def recordAll (r : Registry) (m : Moment) (ref : MeterRef) :
    List Recording → Outcome Registry (Option Unit)
  | [] => ⟨some (), r, []⟩
  | recording :: rest =>
    (r.record m ref recording).andThen fun _ r' => r'.recordAll m ref rest

/-- A percentile of the windowed recordings of a timer or summary. -/
def percentile (r : Registry) (m : Moment) (ref : MeterRef) (unit : Option TimeUnit) (part : Float) :
    Outcome Registry (Option Float) :=
  r.visit ref (·.percentile? m unit part)

/-- The windowed recordings of a timer or summary that do not exceed an amount. -/
def countAtMost (r : Registry) (m : Moment) (ref : MeterRef) (unit : Option TimeUnit) (amount : Float) :
    Outcome Registry (Option Float) :=
  r.visit ref (·.countAtMost? m unit amount)

/-- A timer or summary as a whole. -/
def snapshot (r : Registry) (m : Moment) (ref : MeterRef) : Outcome Registry (Option Snapshot) :=
  r.visit ref (·.snapshot? m)

/-- The value of a gauge. -/
def readGauge (r : Registry) (m : Moment) : Gauge → Outcome Registry Float
  | .observed source => ⟨((m.sighting? source).map Sighting.amount).getD undefined, r, []⟩
  | .percentile owner part => (r.percentile m owner none part).map (·.getD undefined)
  | .countAtMost owner boundary =>
    (r.countAtMost m owner (some .nanoseconds) boundary).map (·.getD undefined)

/-- A statistic of a meter, times in the given unit or else in the one the meter publishes in. -/
def read (r : Registry) (m : Moment) (ref : MeterRef) (unit : Option TimeUnit) (s : Statistic) :
    Outcome Registry (Option Float) :=
  match r.meters[ref]?.map Meter.instrument, s with
  | some (.gauge gauge), .value => (r.readGauge m gauge).map some
  | _, s => r.visit ref (·.read? m s unit)

/-- Several statistics of a meter, one after the other. Those that the meter does not have are left out. -/
def readAll (r : Registry) (m : Moment) (ref : MeterRef) (unit : Option TimeUnit) :
    List Statistic → Outcome Registry (List Measurement)
  | [] => ⟨[], r, []⟩
  | s :: rest =>
    (r.read m ref unit s).andThen fun value r' =>
      (r'.readAll m ref unit rest).map fun measurements =>
        (value.map fun value => ⟨s, value⟩).toList ++ measurements

/-- All that a meter publishes. -/
def report (r : Registry) (m : Moment) (ref : MeterRef) : Outcome Registry (Option Report) :=
  match r.meters[ref]? with
  | none => ⟨none, r, []⟩
  | some meter =>
    (r.readAll m ref none meter.instrument.statistics).map fun measurements =>
      some { kind := meter.kind, id := meter.id, measurements }

/-- All that several meters publish, one meter after the other, with what is written about each of them before the
next one is read. -/
def reports (r : Registry) (m : Moment) (refs : List MeterRef) (remarks : Report → List Event := fun _ => []) :
    Outcome Registry (List Report) :=
  match refs with
  | [] => ⟨[], r, []⟩
  | ref :: rest =>
    (r.report m ref).andThen fun report r' =>
      let later := r'.reports m rest remarks
      { later with
        value := report.toList ++ later.value
        log := report.toList.flatMap remarks ++ later.log }

end StepMeters.Registry
