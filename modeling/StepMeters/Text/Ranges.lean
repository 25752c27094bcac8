/-!
# Sets of characters

A property of characters is written as a table of ranges of code points. The tables of this library
list their ranges in increasing order.
-/

namespace StepMeters.Text

/-- Ranges of code points, each given by its first and its last member. -/
abbrev Ranges := List (Nat × Nat)

/-- A character is in a table if its code point lies in one of the ranges. -/
def Ranges.has (ranges : Ranges) (c : Char) : Bool :=
  ranges.any fun range => range.1 ≤ c.toNat && c.toNat ≤ range.2

end StepMeters.Text
