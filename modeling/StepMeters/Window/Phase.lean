import StepMeters.Estimator.Basic

/-!
# Phases

A phase holds what was recorded during one slice of a window. Its numbers of recordings are kept in words of 64
bits; here they have no bound, as no one lives to fill such a word. The total of the amounts, which is kept as well,
is left out, because no answer shows it.
-/

namespace StepMeters

/-- What one slice of a window recorded. -/
structure Phase where
  /-- The number of recordings, without a bound. -/
  count : Nat := 0
  /-- The greatest amount, or zero. -/
  max : Float := 0
  /-- For each boundary the recordings that lie above the boundary before it and not above itself, without a bound. -/
  filed : List Nat
  /-- The recordings in the whole numbers of the estimator. -/
  estimator : Estimator := {}

namespace Phase

/-- A phase without recordings. -/
def empty (boundaries : Nat) : Phase := { filed := List.replicate boundaries 0 }

/-- Records an amount that is filed under a boundary, if there is one for it, and as a whole number. -/
def record (precision : Nat) (p : Phase) (amount : Float) (boundary : Option Nat) (scaled : Nat) : Phase :=
  { count := p.count + 1
    max := if p.max < amount then amount else p.max
    filed := boundary.elim p.filed fun i => p.filed.modify i (· + 1)
    estimator := p.estimator.record precision scaled }

/-- The first numbers of a list together. -/
def sumFirst : Nat → List Nat → Nat
  | 0, _ => 0
  | _, [] => 0
  | n + 1, x :: rest => x + sumFirst n rest

/-- The recordings that are filed under a boundary or an earlier one. -/
def filedUpTo (p : Phase) (boundary : Nat) : Nat := sumFirst (boundary + 1) p.filed

/-- A recording leaves as many counters as there are. -/
@[simp] theorem length_filed_record (precision : Nat) (p : Phase) (amount : Float)
    (boundary : Option Nat) (scaled : Nat) :
    (p.record precision amount boundary scaled).filed.length = p.filed.length := by
  cases boundary <;> simp [record]

end Phase

end StepMeters
