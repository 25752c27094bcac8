import StepMeters.Amount
import StepMeters.Decimal.Positional
import StepMeters.Window.Query

/-!
# Labels of percentiles
-/

namespace StepMeters.Percentile

/-- A part of one in percent, rounded to six decimals. -/
def percent (part : Float) : Float :=
  (Amount.rounded (Amount.clamped part * 100.0 * 1000000.0)).toFloat / 1000000.0

/-- The label of a percentile, such as `p99` or `p999`: its percent without the decimal point. The ends of
the scale are called `min` and `max`. -/
def label (p : Percentile) : String :=
  let digits := numeral (percent p.part)
  if digits = "0" then "min"
  else if digits = "100" then "max"
  else String.ofList (('p' :: digits.toList).filter (· ≠ '.'))

end StepMeters.Percentile
