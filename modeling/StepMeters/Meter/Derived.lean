import StepMeters.Meter.Basic

/-!
# Gauges derived from a distribution

A timer or summary brings gauges with it: one for each of its percentiles and one for each of its
boundaries. They carry its tags, and one more that names the percentile or the boundary.
-/

namespace StepMeters

namespace Instrument

/-- The distribution of an instrument with the text that a boundary has outside. -/
def distribution? : Instrument → Option (Distribution × (Float → String))
  | timer t => some (t.nanos, fun boundary => numeral (t.unit.ofNanos boundary))
  | summary d => some (d, numeral)
  | _ => none

end Instrument

namespace Identity

/-- What the gauge of a percentile is known by. -/
def ofPercentile (id : Identity) (part : Float) : Identity :=
  (id.renamed (id.name ++ ".percentile")).withTag ⟨"phi", numeral part⟩

/-- What the gauge of a boundary is known by. -/
def ofBoundary (id : Identity) (text : String) : Identity :=
  (id.renamed (id.name ++ ".histogram")).withTag ⟨"le", text⟩

end Identity

/-- The text of a boundary. One beyond all words of 64 bits stands for every amount. -/
def boundaryText (text : Float → String) (boundary : Float) : String :=
  if 18446744073709551616.0 ≤ boundary then "+Inf" else text boundary

namespace Meter

/-- The gauges that a meter brings with it, given its place: percentiles first, then boundaries. -/
def derived (meter : Meter) (owner : MeterRef) : List Meter :=
  match meter.instrument.distribution? with
  | none => []
  | some (d, text) =>
    (d.window.percentiles.map fun part =>
      { id := meter.id.ofPercentile part, instrument := .gauge (.percentile owner part) })
    ++ d.window.boundaries.map fun boundary =>
      { id := meter.id.ofBoundary (boundaryText text boundary)
        instrument := .gauge (.countAtMost owner boundary) }

end Meter

end StepMeters
