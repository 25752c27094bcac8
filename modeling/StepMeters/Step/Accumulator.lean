import StepMeters.Configuration.Basic

/-!
# Accumulators

An accumulator collects amounts step by step and shows what the last complete step has brought. The first
operation that sees the wall clock in a later step moves the live value to the shown one. If more than one
step has passed, nothing was recorded in the last of them, so zero is shown.

The number of the current step is kept in a word of 64 bits whose two greatest values are marks. One is set while
the live value moves, which here is done at once, and the other one says that the accumulator is closed, which here
is a field of its own. A clock that shows a step with the number of a mark is left out: an accumulator would wait for
itself, or take itself for closed.
-/

namespace StepMeters

/-- How the amounts of a step become one. -/
inductive Aggregation where
  | sum
  | max
deriving DecidableEq, Repr

/-- The aggregate of the amounts so far and one more. -/
def Aggregation.combine : Aggregation → Float → Float → Float
  | .sum, soFar, amount => soFar + amount
  | .max, soFar, amount => if soFar < amount then amount else soFar

/-- Collects amounts step by step. -/
structure Accumulator where
  aggregation : Aggregation
  /-- The length of a step in milliseconds. -/
  stepMillis : Nat
  /-- The step that the live value belongs to. -/
  step : Nat
  /-- The aggregate of the current step. -/
  live : Float := 0
  /-- The aggregate of the last complete step. -/
  shown : Float := 0
  /-- Whether the shown value is final. -/
  closed : Bool := false

namespace Accumulator

/-- The lesser of the two marks. Steps have lesser numbers. -/
def firstMark : Nat := UInt64.size - 2

/-- An accumulator that begins at a wall time. -/
def new (aggregation : Aggregation) (stepMillis wall : Nat) : Accumulator :=
  { aggregation, stepMillis, step := wall / stepMillis }

/-- Moves on to the step of a wall time, if that is later than the current one. -/
def roll (a : Accumulator) (wall : Nat) : Accumulator :=
  let now := wall / a.stepMillis
  if a.closed || now ≤ a.step then a
  else { a with step := now, live := 0.0, shown := if a.step + 1 < now then 0.0 else a.live }

/-- Adds an amount to the live value, whatever step the clock shows. -/
def add (a : Accumulator) (amount : Float) : Accumulator :=
  { a with live := a.aggregation.combine a.live amount }

/-- Records an amount in the step of a wall time. -/
def record (a : Accumulator) (wall : Nat) (amount : Float) : Accumulator := (a.roll wall).add amount

/-- What the last step that is complete at a wall time has brought. -/
def poll (a : Accumulator) (wall : Nat) : Float := (a.roll wall).shown

/-- Shows what the current step has brought so far, and keeps it. -/
def close (a : Accumulator) (wall : Nat) : Accumulator :=
  let rolled := a.roll wall
  if rolled.closed then rolled
  else { rolled with live := 0.0, shown := rolled.live, closed := true }

/-- A roll does not change how long steps take. -/
@[simp] theorem stepMillis_roll (a : Accumulator) (wall : Nat) :
    (a.roll wall).stepMillis = a.stepMillis := by
  simp only [roll]
  split <;> rfl

/-- Nothing happens before the clock shows a later step. -/
theorem roll_of_le {a : Accumulator} {wall : Nat} (h : wall / a.stepMillis ≤ a.step) :
    a.roll wall = a := by
  simp [roll, h]

/-- Nothing happens to a closed accumulator. -/
theorem roll_of_closed {a : Accumulator} (h : a.closed) (wall : Nat) : a.roll wall = a := by
  simp [roll, h]

/-- A roll leaves an accumulator in the later of its step and that of the clock. -/
theorem step_roll {a : Accumulator} (h : a.closed = false) (wall : Nat) :
    (a.roll wall).step = max a.step (wall / a.stepMillis) := by
  simp only [roll, h, Bool.false_or, decide_eq_true_eq]
  split
  · omega
  · dsimp only
    omega

/-- Only steps of one millisecond have numbers that get as far as the marks. -/
theorem div_lt_firstMark {stepMillis : Nat} (long : 1 < stepMillis) (wall : UInt64) :
    wall.toNat / stepMillis < firstMark := by
  have half : wall.toNat / stepMillis ≤ wall.toNat / 2 := Nat.div_le_div_left long (by decide)
  have word := wall.toNat_lt_size
  simp only [firstMark, UInt64.size] at word ⊢
  omega

/-- Looking twice at the same clock is looking once. -/
@[simp] theorem roll_roll (a : Accumulator) (wall : Nat) : (a.roll wall).roll wall = a.roll wall := by
  cases h : a.closed with
  | true => simp only [roll_of_closed h]
  | false =>
    apply roll_of_le
    rw [step_roll h, stepMillis_roll]
    omega

end Accumulator

end StepMeters
