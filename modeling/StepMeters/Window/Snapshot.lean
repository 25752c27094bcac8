import StepMeters.Step.Statistics
import StepMeters.Window.Label

/-!
# Snapshots

A snapshot shows a timer or summary as a whole: the statistics of the last step, and the percentiles and
boundary counts of the window.
-/

namespace StepMeters

/-- A timer or summary at one moment. -/
structure Snapshot where
  count : Nat
  total : Float
  max : Float
  percentiles : List Percentile
  boundaries : List BoundaryCount

namespace Snapshot

/-- The mean of the amounts of the step. -/
def mean (s : Snapshot) : Float := meanOf s.count s.total

/-- The statistics and the percentiles in one line. -/
def text (s : Snapshot) : String :=
  let fields := [("count", toString s.count), ("total", numeral s.total), ("max", numeral s.max),
      ("mean", numeral s.mean)]
    ++ s.percentiles.map fun p => (p.label, numeral p.amount)
  " ".intercalate (fields.map fun field => field.1 ++ "=" ++ field.2)

end Snapshot

end StepMeters
