/-!
# Amounts

The floating-point numbers that meters work with. Meters accept amounts that are defined and not negative,
infinity among them. The whole numbers made of amounts fit 64 bits: what is larger becomes the greatest of
these.
-/

namespace StepMeters.Amount

/-- Meters accept an amount unless it is undefined or below zero. The negative zero is accepted. -/
def isAccepted (x : Float) : Bool := !(x.isNaN || x < 0.0)

/-- The nearest whole number of 64 bits; a half goes up. Amounts below zero and undefined ones give 0. -/
def rounded (x : Float) : UInt64 :=
  let whole := x.toUInt64
  if 0.5 ≤ x - whole.toFloat && whole.toNat + 1 < UInt64.size then whole + 1 else whole

/-- The least whole number of 64 bits that is not below the amount. -/
def ceiling (x : Float) : UInt64 :=
  let whole := x.toUInt64
  if whole.toFloat < x && whole.toNat + 1 < UInt64.size then whole + 1 else whole

/-- The smaller amount, or the one that is defined. -/
def least (x y : Float) : Float :=
  if x.isNaN then y else if y < x then y else x

/-- The larger amount, or the one that is defined. -/
def greatest (x y : Float) : Float :=
  if x.isNaN then y else if x < y then y else x

/-- The amount moved to the nearer end if it lies outside of zero to one. Undefined amounts go to zero. -/
def clamped (x : Float) : Float :=
  if 0.0 < x then least x 1.0 else 0.0

end StepMeters.Amount
