/-!
# Cells

An estimator does not tell all whole numbers of 64 bits apart. It keeps the leading bits of a number, as
many as its precision in decimal digits takes, and forgets the others: numbers that agree in these bits and
in length share a cell.
-/

namespace StepMeters.Cell

/-- The greatest number that can be recorded. -/
def top : Nat := UInt64.size - 1

/-- The leading bits that tell numbers apart: the least so many that `2 ^ bits` is at least
`2 * 10 ^ precision`. -/
def keptBits (precision : Nat) : Nat := Nat.log2 (2 * Nat.pow 10 precision - 1) + 1

/-- The number of bits of a number, zero having none. -/
def bitLength (n : Nat) : Nat := if n = 0 then 0 else Nat.log2 n + 1

/-- The size of the cell of a number: a power of two for each bit beyond the kept ones. -/
def size (precision n : Nat) : Nat := 1 <<< (bitLength n - keptBits precision)

/-- The least number of the cell of a number. -/
def lowest (precision n : Nat) : Nat := n / size precision n * size precision n

/-- The greatest number of the cell of a number. The greatest number of all stands in the last cell, but
is not reported for the others of that cell. -/
def highest (precision n : Nat) : Nat :=
  if n = top then top else min (lowest precision n + size precision n) top - 1

end StepMeters.Cell
