import StepMeters.Distribution.Options

/-!
# Boundaries

A distribution counts how many amounts lie at or below each of its boundaries: the objectives, and on demand
a generated series that covers all words of 64 bits.
-/

namespace StepMeters.Distribution

/-- The boundaries from a power of four up to the next, in steps of a third of the power. -/
def thirds (power : Nat) : List Nat :=
  let third := power / 3
  let next := 4 * power - third
  (List.range ((next - power + (third - 1)) / third)).map fun n => power + n * third

/-- The generated boundaries: one, two and three, the powers of four up to `2 ^ 60` divided into thirds,
and the greatest word. -/
def generatedWords : List Nat :=
  [1, 2, 3] ++ (List.range 30).flatMap (fun n => thirds (Nat.pow 4 (n + 1))) ++ [UInt64.size - 1]

/-- The generated boundaries as amounts. -/
def generated : List Float := generatedWords.map Float.ofNat

/-- Puts a boundary into an increasing list, unless an equal one is there. -/
def insertBoundary (boundary : Float) : List Float → List Float
  | [] => [boundary]
  | b :: rest =>
    if boundary < b then boundary :: b :: rest
    else if b < boundary then b :: insertBoundary boundary rest
    else b :: rest

namespace Settings

/-- The boundaries in increasing order: the objectives, and with the histogram every generated boundary
from the least to the greatest expected amount. An undefined objective is no boundary. -/
def boundaries (s : Settings) : List Float :=
  let chosen := if s.histogram then generated.filter fun b => s.minimum ≤ b && b ≤ s.maximum else []
  ((s.objectives ++ chosen).filter fun b => !b.isNaN).foldl (fun bs b => insertBoundary b bs) []

/-- Whether the settings ask for any percentile or boundary. -/
def isPublishing (s : Settings) : Bool := !s.percentiles.isEmpty || !s.boundaries.isEmpty

end Settings

end StepMeters.Distribution
