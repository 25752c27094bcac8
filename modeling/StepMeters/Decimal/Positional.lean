import StepMeters.Decimal.Shortest

/-!
# Numbers written out

The text of a number never has an exponent: zeros fill the places between its digits and the decimal
point, a fraction ends with its last digit that is not zero, and a whole number has no point.
-/

namespace StepMeters

namespace Decimal

/-- A decimal number written out in full. -/
def text (d : Decimal) : List Char :=
  let digits := Nat.toDigits 10 d.digits
  let places := (-d.exponent).toNat
  let padded := List.replicate (places + 1 - digits.length) '0' ++ digits
    ++ List.replicate d.exponent.toNat '0'
  let whole := padded.take (padded.length - places)
  let fraction := ((padded.drop (padded.length - places)).reverse.dropWhile (· == '0')).reverse
  if fraction.isEmpty then whole else whole ++ '.' :: fraction

end Decimal

/-- The text of a floating-point number: its shortest decimal written out, with a minus sign for every
negative number and for the negative zero; infinities and undefined values have names. -/
def numeral (x : Float) : String :=
  let bits := x.toBits
  let negative := 1 <<< 63 ≤ bits.toNat
  let size := bits.toNat % (1 <<< 63)
  let body :=
    if size = 0 then ['0']
    else if size = 0x7FF0000000000000 then "inf".toList
    else (Dyadic.ofBits bits).shortest.text
  if 0x7FF0000000000000 < size then "NaN"
  else String.ofList (if negative then '-' :: body else body)

end StepMeters
