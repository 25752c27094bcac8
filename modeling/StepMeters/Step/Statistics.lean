import StepMeters.Step.Accumulator

/-!
# Statistics of a step

How many amounts were recorded in a step, what they add up to, and the greatest of them. The three are
accumulators of their own: reading one moves that one alone to the step of the clock.
-/

namespace StepMeters

/-- Count, total and greatest of the amounts recorded step by step. -/
structure StepStatistics where
  counts : Accumulator
  totals : Accumulator
  maxima : Accumulator

namespace StepStatistics

/-- Statistics that begin at a wall time. -/
def new (stepMillis wall : Nat) : StepStatistics :=
  { counts := .new .sum stepMillis wall
    totals := .new .sum stepMillis wall
    maxima := .new .max stepMillis wall }

/-- Records an amount. -/
def record (s : StepStatistics) (wall : Nat) (amount : Float) : StepStatistics :=
  { counts := s.counts.record wall 1.0
    totals := s.totals.record wall amount
    maxima := s.maxima.record wall amount }

/-- Moves all three to the step of a wall time. -/
def roll (s : StepStatistics) (wall : Nat) : StepStatistics :=
  { counts := s.counts.roll wall, totals := s.totals.roll wall, maxima := s.maxima.roll wall }

/-- Closes all three. -/
def close (s : StepStatistics) (wall : Nat) : StepStatistics :=
  { counts := s.counts.close wall, totals := s.totals.close wall, maxima := s.maxima.close wall }

/-- How many amounts were recorded, as a whole number. -/
def count (s : StepStatistics) (wall : Nat) : Nat := (s.counts.poll wall).toUInt64.toNat

/-- The statistics after the count was read. -/
def afterCount (s : StepStatistics) (wall : Nat) : StepStatistics :=
  { s with counts := s.counts.roll wall }

/-- What the amounts add up to. -/
def total (s : StepStatistics) (wall : Nat) : Float := s.totals.poll wall

/-- The statistics after the total was read. -/
def afterTotal (s : StepStatistics) (wall : Nat) : StepStatistics :=
  { s with totals := s.totals.roll wall }

/-- The greatest amount. -/
def max (s : StepStatistics) (wall : Nat) : Float := s.maxima.poll wall

/-- The statistics after the greatest amount was read. -/
def afterMax (s : StepStatistics) (wall : Nat) : StepStatistics :=
  { s with maxima := s.maxima.roll wall }

/-- The statistics after the mean was read: the total is not looked at if nothing was recorded. -/
def afterMean (s : StepStatistics) (wall : Nat) : StepStatistics :=
  if s.count wall = 0 then s.afterCount wall else (s.afterCount wall).afterTotal wall

end StepStatistics

/-- A total divided among its parts; nothing recorded has a mean of zero. -/
def meanOf (count : Nat) (total : Float) : Float :=
  if count = 0 then 0.0 else total / Float.ofNat count

end StepMeters
