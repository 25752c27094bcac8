/-!
# The shortest decimal that reads back

A binary floating-point number stands for all real numbers that round to it. Of the decimals among these,
`shortest` gives one with the fewest digits, and of those the one nearest to the number itself; of two that
are equally near it takes the larger. All comparisons are made in natural numbers.
-/

namespace StepMeters

/-- The decimal number `digits * 10 ^ exponent`. -/
structure Decimal where
  digits : Nat
  exponent : Int
deriving DecidableEq, Repr

/-- The size of a finite binary number: `significand * 2 ^ exponent`. -/
structure Dyadic where
  significand : Nat
  exponent : Int
deriving DecidableEq, Repr

namespace Dyadic

/-- The size that the 63 low bits of a finite number in 64 bits stand for. -/
def ofBits (bits : UInt64) : Dyadic :=
  let fraction : Nat := bits.toNat % (1 <<< 52)
  let level : Nat := bits.toNat / (1 <<< 52) % (1 <<< 11)
  if level = 0 then ⟨fraction, -1074⟩ else ⟨(1 <<< 52) + fraction, (level : Int) - 1075⟩

end Dyadic

/-- A positive fraction `value / unit` with the two ends of the interval that rounds to it. -/
structure Surrounding where
  low : Nat
  value : Nat
  high : Nat
  unit : Nat
  /-- Whether the two ends round to the number as well. -/
  closed : Bool
deriving Repr

namespace Surrounding

/-- The reals that round to a number reach half way to its neighbours. Below a power of two the
neighbours are half as far apart. A tie goes to the even significand, so the ends belong to an even one. -/
def ofDyadic (d : Dyadic) : Surrounding :=
  let below := if d.significand = 1 <<< 52 then 1 else 2
  let factor := 1 <<< (d.exponent - 2).toNat
  { low := (4 * d.significand - below) * factor
    value := 4 * d.significand * factor
    high := (4 * d.significand + 2) * factor
    unit := 1 <<< (2 - d.exponent).toNat
    closed := d.significand % 2 = 0 }

/-- The same fractions divided by `10 ^ place`. -/
def shifted (s : Surrounding) (place : Int) : Surrounding :=
  let factor := Nat.pow 10 (-place).toNat
  { s with
    low := s.low * factor
    value := s.value * factor
    high := s.high * factor
    unit := s.unit * Nat.pow 10 place.toNat }

/-- Whether the whole number `n` rounds to the value. -/
def holds (s : Surrounding) (n : Nat) : Bool :=
  if s.closed then s.low ≤ n * s.unit && n * s.unit ≤ s.high
  else s.low < n * s.unit && n * s.unit < s.high

/-- Of the whole numbers next to the value, the nearer one that rounds to it. -/
def nearest? (s : Surrounding) : Option Nat :=
  let down := s.value / s.unit
  let up := down + 1
  match s.holds down, s.holds up with
  | true, true => some (if 2 * (s.value - down * s.unit) < s.unit then down else up)
  | true, false => some down
  | false, true => some up
  | false, false => none

/-- The count of decimal digits of a positive whole number. -/
def digitCount (n : Nat) : Nat := (Nat.toDigits 10 n).length

/-- The least `m` with `value / unit < 10 ^ m`. -/
def magnitude (s : Surrounding) : Int :=
  if s.unit ≤ s.value then digitCount (s.value / s.unit)
  else 1 - (digitCount ((s.unit - 1) / s.value) : Int)

end Surrounding

namespace Dyadic

/-- The shortest decimal that reads back as a positive number. Seventeen digits always do. -/
def shortest (d : Dyadic) : Decimal :=
  let s := Surrounding.ofDyadic d
  let top := s.magnitude
  let grids := (List.range 17).map fun (n : Nat) => top - 1 - (n : Int)
  (grids.findSome? fun place => (s.shifted place).nearest?.map (⟨·, place⟩)).getD ⟨0, 0⟩

end Dyadic

end StepMeters
