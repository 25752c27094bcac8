import Mathlib.Tactic.Lemma
import StepMeters.Step.Accumulator

/-!
# Ledgers

A ledger lists amounts in the order in which they came. Each entry says to which slice of time its amount
belongs: the steps of an accumulator and the slots of a window are such slices. What an accumulator or a
window shows is stated as the aggregate, or the number, of the entries of some slices.
-/

namespace StepMeters

/-- The aggregate of amounts in order, from zero on. -/
def Aggregation.aggregate (g : Aggregation) (amounts : List Float) : Float := amounts.foldl g.combine 0.0

/-- A sum begins at zero, and the amounts are added to it one after the other. -/
lemma Aggregation.aggregate_sum (amounts : List Float) :
    Aggregation.sum.aggregate amounts = amounts.foldl (· + ·) 0.0 := rfl

/-- A maximum begins at zero, and gives way to each amount that exceeds it. -/
lemma Aggregation.aggregate_max (amounts : List Float) : Aggregation.max.aggregate amounts =
    amounts.foldl (fun soFar amount => if soFar < amount then amount else soFar) 0.0 := rfl

/-- One more amount is combined with the aggregate of those before. -/
lemma Aggregation.aggregate_concat (g : Aggregation) (amounts : List Float) (amount : Float) :
    g.aggregate (amounts ++ [amount]) = g.combine (g.aggregate amounts) amount := by
  simp only [aggregate, List.foldl_append, List.foldl_cons, List.foldl_nil]

/-- An amount with the slice of time that it belongs to. -/
structure Entry where
  slice : Nat
  amount : Float

/-- Entries in the order in which they were made. -/
abbrev Ledger := List Entry

namespace Ledger

/-- The amounts of one slice, in order. -/
def amountsIn (l : Ledger) (slice : Nat) : List Float :=
  (l.filter fun e => e.slice = slice).map Entry.amount

/-- The amounts of the slice just before one, in order. Nothing comes before the first slice. -/
def amountsBefore (l : Ledger) (slice : Nat) : List Float :=
  (l.filter fun e => e.slice + 1 = slice).map Entry.amount

/-- The slice before the next one is the slice itself. -/
lemma amountsBefore_succ (l : Ledger) (slice : Nat) : l.amountsBefore (slice + 1) = l.amountsIn slice := by
  simp only [amountsBefore, amountsIn, Nat.add_right_cancel_iff]

/-- An entry comes last among the amounts of its own slice. -/
lemma amountsIn_concat_self (l : Ledger) (slice : Nat) (amount : Float) :
    amountsIn (l ++ [⟨slice, amount⟩]) slice = l.amountsIn slice ++ [amount] := by
  simp [amountsIn]

/-- An entry adds nothing to the slices that do not follow its own. -/
lemma amountsBefore_concat_of_ne (l : Ledger) {e : Entry} {slice : Nat} (h : e.slice + 1 ≠ slice) :
    amountsBefore (l ++ [e]) slice = l.amountsBefore slice := by
  simp [amountsBefore, h]

/-- The amounts of a slice come from both parts of a ledger. -/
lemma amountsIn_append (l l' : Ledger) (slice : Nat) :
    amountsIn (l ++ l') slice = l.amountsIn slice ++ l'.amountsIn slice := by
  simp [amountsIn]

/-- No amounts belong to a slice that comes after all entries. -/
lemma amountsIn_of_lt {l : Ledger} {slice : Nat} (h : ∀ e ∈ l, e.slice < slice) :
    l.amountsIn slice = [] := by
  simp only [amountsIn, List.map_eq_nil_iff, List.filter_eq_nil_iff, decide_eq_true_eq]
  intro e he eq
  exact absurd (h e he) (by omega)

/-- No amounts come before a slice that follows none of the entries. -/
lemma amountsBefore_of_ne {l : Ledger} {slice : Nat} (h : ∀ e ∈ l, e.slice + 1 ≠ slice) :
    l.amountsBefore slice = [] := by
  simpa [amountsBefore] using h

/-- No amounts come before a slice that leaves a gap to all entries. -/
lemma amountsBefore_of_lt {l : Ledger} {slice : Nat} (h : ∀ e ∈ l, e.slice + 1 < slice) :
    l.amountsBefore slice = [] :=
  amountsBefore_of_ne fun e he => Nat.ne_of_lt (h e he)

end Ledger

end StepMeters
