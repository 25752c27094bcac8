import Mathlib.Algebra.Ring.Nat
import Mathlib.Tactic.Lemma
import StepMeters.Time.Clock

/-!
# Clocks that are moved

Monotonic time keeps every nanosecond by which a clock is moved, wall time only the whole milliseconds of each move:
what a move has beyond them is left out, and not kept for the next one. So wall time falls behind by a millisecond
whenever these rests fill one (`run_exact`), and moving a clock by one length after the other is moving it by their
sum just if the rests do not fill a millisecond (`run_eq_advance_iff`).
-/

namespace StepMeters.Clock

/-- A request that moves a clock. -/
inductive Move where
  | advance (d : Duration)
  | advanceSeconds (seconds : Nat)

/-- The time by which a request moves a clock. -/
def Move.length : Move → Duration
  | advance d => d
  | advanceSeconds seconds => .ofSeconds seconds

/-- The clock after a request. -/
def apply (clock : Clock) : Move → Clock
  | .advance d => clock.advance d
  | .advanceSeconds seconds => clock.advanceSeconds seconds

/-- The clock after some requests. -/
def run (clock : Clock) (moves : List Move) : Clock := moves.foldl apply clock

/-- The nanoseconds of all moves. -/
def nanosOf (moves : List Move) : Nat := (moves.map fun move => move.length.nanos).sum

/-- The whole milliseconds of each move. -/
def millisOf (moves : List Move) : Nat := (moves.map fun move => move.length.millis).sum

/-- The nanoseconds of each move beyond its whole milliseconds. -/
def restOf (moves : List Move) : Nat := (moves.map fun move => move.length.nanos % 1000000).sum

section Moves
variable {clock : Clock} {moves : List Move} {move : Move} {d d' : Duration}

/-- Every move of a clock is an advance by some length. -/
lemma apply_eq (clock : Clock) (move : Move) : clock.apply move = clock.advance move.length := by
  cases move <;> rfl

/-- The nanoseconds of a move come to those of the others. -/
lemma nanosOf_cons (move : Move) (moves : List Move) :
    nanosOf (move :: moves) = move.length.nanos + nanosOf moves := by
  simp only [nanosOf, List.map_cons, List.sum_cons]

/-- The whole milliseconds of a move come to those of the others. -/
lemma millisOf_cons (move : Move) (moves : List Move) :
    millisOf (move :: moves) = move.length.millis + millisOf moves := by
  simp only [millisOf, List.map_cons, List.sum_cons]

/-- What a move has beyond whole milliseconds comes to that of the others. -/
lemma restOf_cons (move : Move) (moves : List Move) :
    restOf (move :: moves) = move.length.nanos % 1000000 + restOf moves := by
  simp only [restOf, List.map_cons, List.sum_cons]

/-- Whole milliseconds and rests make up all nanoseconds. -/
lemma millisOf_mul_add_restOf (moves : List Move) : millisOf moves * 1000000 + restOf moves = nanosOf moves := by
  induction moves with
  | nil => rfl
  | cons move rest ih =>
    have split : move.length.millis * 1000000 + move.length.nanos % 1000000 = move.length.nanos :=
      Nat.div_add_mod' move.length.nanos 1000000
    rw [millisOf_cons, nanosOf_cons, restOf_cons, Nat.add_mul, Nat.add_add_add_comm, split, ih]

/-- A length that fits a word moves both times by all that they count. -/
lemma advance_eq (small : d.nanos < UInt64.size) : clock.advance d =
    { wall := clock.wall + UInt64.ofNat d.millis, monotonic := clock.monotonic + UInt64.ofNat d.nanos } := by
  have whole : d.cappedNanos = d.nanos := Nat.min_eq_left (Nat.le_sub_one_of_lt small)
  rw [advance, whole]

/-- What a run leaves: wall time has the whole milliseconds of each move, monotonic time all nanoseconds. -/
lemma run_eq (small : nanosOf moves < UInt64.size) : clock.run moves =
    { wall := clock.wall + UInt64.ofNat (millisOf moves)
      monotonic := clock.monotonic + UInt64.ofNat (nanosOf moves) } := by
  induction moves generalizing clock with
  | nil =>
    show clock = { wall := clock.wall + 0, monotonic := clock.monotonic + 0 }
    rw [UInt64.add_zero, UInt64.add_zero]
  | cons move rest ih =>
    rw [nanosOf_cons] at small
    rw [run, List.foldl_cons, ← run, ih (by omega), apply_eq, advance_eq (by omega), millisOf_cons, nanosOf_cons,
      UInt64.ofNat_add, UInt64.ofNat_add, UInt64.add_assoc, UInt64.add_assoc]

/-- The whole milliseconds of nanoseconds that fit a word leave room in it. -/
lemma millisOf_lt (small : nanosOf moves < UInt64.size) : millisOf moves + 1 < UInt64.size := by
  have whole := millisOf_mul_add_restOf moves
  simp only [UInt64.size] at small ⊢
  omega

/-- Wall time falls behind by the milliseconds that the rests fill. -/
lemma millisOf_add_restOf_div (moves : List Move) :
    millisOf moves + restOf moves / 1000000 = nanosOf moves / 1000000 := by
  rw [← millisOf_mul_add_restOf, Nat.add_comm, Nat.mul_comm, Nat.add_comm, Nat.mul_add_div (by decide)]

/-- Moves leave a clock as one move by all of them together does, just if their rests do not fill a millisecond. -/
lemma run_eq_advance_iff (small : nanosOf moves < UInt64.size) :
    clock.run moves = clock.advance ⟨nanosOf moves⟩ ↔ restOf moves < 1000000 := by
  have together : (⟨nanosOf moves⟩ : Duration).millis = millisOf moves + restOf moves / 1000000 :=
    (millisOf_add_restOf_div moves).symm
  have room := millisOf_lt small
  have room' : millisOf moves + restOf moves / 1000000 < UInt64.size := by
    rw [millisOf_add_restOf_div]
    exact Nat.lt_of_le_of_lt (Nat.div_le_self _ _) small
  rw [run_eq small, advance_eq (d := ⟨nanosOf moves⟩) small, mk.injEq, and_iff_left rfl, together,
    UInt64.add_right_inj, ← UInt64.toNat_inj, UInt64.toNat_ofNat_of_lt' (by omega), UInt64.toNat_ofNat_of_lt' room',
    Nat.left_eq_add, Nat.div_eq_zero_iff_lt (by decide)]

/-- Wall time has moved by the whole milliseconds of each single move. -/
lemma toNat_wall_run (small : nanosOf moves < UInt64.size) : (run {} moves).wall.toNat = 1 + millisOf moves := by
  have room := millisOf_lt small
  rw [Nat.add_comm] at room
  rw [run_eq small, UInt64.toNat_add, UInt64.toNat_ofNat_of_lt' (by omega)]
  exact Nat.mod_eq_of_lt room

/-- Monotonic time has moved by all nanoseconds. -/
lemma toNat_monotonic_run (small : nanosOf moves < UInt64.size) :
    ((run {} moves).monotonic - 1).toNat = nanosOf moves := by
  rw [run_eq small]
  show (1 + UInt64.ofNat (nanosOf moves) - 1).toNat = _
  rw [UInt64.add_comm, UInt64.add_sub_cancel, UInt64.toNat_ofNat_of_lt' small]

end Moves

/-- What any moves of less than `2 ^ 64` nanoseconds together make of a new clock. Monotonic time has counted all
nanoseconds since the start, and wall time the whole milliseconds of each move. It is behind monotonic time by as many
milliseconds as the rests of the moves fill, so the two agree just if these are less than one; and just then any clock
is left as if it had been moved by the sum at once. -/
theorem run_exact (moves : List Move) (small : nanosOf moves < UInt64.size) :
    let clock := run {} moves
    let elapsed := (clock.monotonic - 1).toNat
    elapsed = nanosOf moves ∧ clock.wall.toNat = 1 + millisOf moves ∧
    clock.wall.toNat + restOf moves / 1000000 = 1 + elapsed / 1000000 ∧
    (clock.wall.toNat = 1 + elapsed / 1000000 ↔ restOf moves < 1000000) ∧
    ∀ start : Clock, start.run moves = start.advance ⟨nanosOf moves⟩ ↔ restOf moves < 1000000 := by
  intro clock elapsed
  have monotonic : elapsed = nanosOf moves := toNat_monotonic_run small
  have wall : clock.wall.toNat = 1 + millisOf moves := toNat_wall_run small
  have lag := millisOf_add_restOf_div moves
  have behind : clock.wall.toNat + restOf moves / 1000000 = 1 + elapsed / 1000000 := by
    rw [wall, monotonic, Nat.add_assoc, lag]
  refine ⟨monotonic, wall, behind, ?_, fun start => run_eq_advance_iff small⟩
  rw [← behind, Nat.left_eq_add, Nat.div_eq_zero_iff_lt (by decide)]

/-- A millisecond and a half, two seconds, and less than half a millisecond: the rests do not fill another one. -/
theorem run_exact_short :
    let moves : List Move := [.advance ⟨1500000⟩, .advanceSeconds 2, .advance ⟨400000⟩]
    nanosOf moves < UInt64.size ∧ restOf moves = 900000 ∧ (run {} moves).wall.toNat = 2002 ∧
      run {} moves = ({} : Clock).advance ⟨2001900000⟩ := by
  intro moves
  have small : nanosOf moves < UInt64.size := by decide
  obtain ⟨-, wall, -, -, together⟩ := run_exact moves small
  exact ⟨small, by decide, wall, (together {}).2 (by decide)⟩

/-- Two halves of a millisecond move monotonic time by a whole one, and wall time not at all. -/
theorem run_halves :
    let half : Duration := ⟨500000⟩
    let clock := run {} [.advance half, .advance half]
    nanosOf [.advance half, .advance half] < UInt64.size ∧ clock.wall = 1 ∧ clock.monotonic = 1000001 ∧
      clock.wall.toNat ≠ 1 + (clock.monotonic - 1).toNat / 1000000 ∧
      clock ≠ ({} : Clock).advance ⟨500000 + 500000⟩ := by
  decide +kernel

end StepMeters.Clock
