import StepMeters.Amount
import StepMeters.Estimator.Cell
import StepMeters.Estimator.Tally

/-!
# Estimators

An estimator counts whole numbers by cell and answers which number a given part of the recordings does not
exceed, up to the size of a cell. Windows take their estimators from elsewhere, and rely on a few laws of them only
(`Estimation.IsLawful`). The estimators here obey these; others that do would give the same answers
(`Window.lawful_run`).
-/

namespace StepMeters

/-- Recorded numbers, by the least number of their cell. -/
structure Estimator where
  counts : Tally := []
  /-- The greatest number recorded, or zero. -/
  greatest : Nat := 0
deriving DecidableEq, Repr

namespace Estimator

/-- Records a number. -/
def record (precision : Nat) (e : Estimator) (n : Nat) : Estimator :=
  { counts := e.counts.add (Cell.lowest precision n) 1
    greatest := max e.greatest n }

/-- The number of recordings. -/
def total (e : Estimator) : Nat := e.counts.total

/-- Whether an estimator can be added to another: no cell ends as high as the greatest number of all, so
one that recorded it cannot. -/
def isMergeable (precision : Nat) (e : Estimator) : Bool :=
  Cell.highest precision e.greatest < Cell.top

/-- Adds the recordings of another estimator. One that cannot be added leaves no trace. -/
def merge (precision : Nat) (e other : Estimator) : Estimator :=
  if other.isMergeable precision then
    { counts := e.counts.merge other.counts
      greatest := max e.greatest other.greatest }
  else e

/-- The recordings that a part `q` of all amounts to: rounded up, and at least one. -/
def rank (e : Estimator) (q : Float) : Nat :=
  max 1 (Amount.ceiling (q * Float.ofNat e.total)).toNat

/-- The number that a part `q` of the recordings does not exceed: the greatest of its cell, for `q = 0` the
least, and zero if nothing was recorded. -/
def quantile (precision : Nat) (e : Estimator) (q : Float) : Nat :=
  match e.counts.reach? (e.rank q) with
  | none => 0
  | some n => if q == 0.0 then Cell.lowest precision n else Cell.highest precision n

/-- The number of recordings in the cells up to that of a number. -/
def countUpTo (precision : Nat) (e : Estimator) (n : Nat) : Nat :=
  e.counts.upTo (Cell.lowest precision n)

end Estimator

end StepMeters
