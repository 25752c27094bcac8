import StepMeters.Text.Blank
import StepMeters.Time.Duration

/-!
# Durations read from text

A duration is written as digits and a unit, as in `500ms`, `10s`, `1m`, `2h` or `1d`. Without a unit the
number counts milliseconds.
-/

namespace StepMeters.Duration

/-- The milliseconds in a unit, by the unit's abbreviation. -/
def unitMillis? (unit : List Char) : Option Nat :=
  match unit with
  | [] => some 1
  | ['m', 's'] => some 1
  | ['s'] => some 1000
  | ['m'] => some 60000
  | ['h'] => some 3600000
  | ['d'] => some 86400000
  | _ => none

/-- Reads a duration. Blanks may stand around the text and between number and unit. The number of
milliseconds has to fit 64 bits. -/
def parse? (raw : String) : Option Duration := do
  let text := Text.trimmed raw.toList
  let digits := text.takeWhile Char.isDigit
  let amount := Nat.ofDigitChars 10 digits 0
  let factor ← unitMillis? (Text.trimmed (text.dropWhile Char.isDigit))
  if digits.isEmpty || UInt64.size ≤ amount * factor then none else some (ofMillis (amount * factor))

end StepMeters.Duration
