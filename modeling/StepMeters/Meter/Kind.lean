/-!
# Kinds of meters and of readings
-/

namespace StepMeters

/-- The kinds of meters. -/
inductive Kind where
  | counter
  | gauge
  | timer
  | summary
  | functionCounter
  | functionTimer
deriving DecidableEq, Repr

namespace Kind

/-- The name of a kind in running text. -/
def text : Kind → String
  | .counter => "counter"
  | .gauge => "gauge"
  | .timer => "timer"
  | .summary => "distribution summary"
  | .functionCounter => "function counter"
  | .functionTimer => "function timer"

/-- The name of a kind as one capitalised word. -/
def label : Kind → String
  | .counter => "Counter"
  | .gauge => "Gauge"
  | .timer => "Timer"
  | .summary => "DistributionSummary"
  | .functionCounter => "FunctionCounter"
  | .functionTimer => "FunctionTimer"

end Kind

/-- What a reading of a meter says. -/
inductive Statistic where
  | count
  | total
  | totalTime
  | max
  | mean
  | value
deriving DecidableEq, Repr

namespace Statistic

/-- The name of a statistic. -/
def name : Statistic → String
  | .count => "count"
  | .total => "total"
  | .totalTime => "totalTime"
  | .max => "max"
  | .mean => "mean"
  | .value => "value"

end Statistic

/-- One reading of a meter. -/
structure Measurement where
  statistic : Statistic
  value : Float

end StepMeters
