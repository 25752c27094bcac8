/-!
# Tallies

A tally says how often each of some numbers was counted, with the numbers in increasing order. Counts are kept in
words of 64 bits; here they have no bound, as those of a phase.
-/

namespace StepMeters

/-- Numbers with their counts, by increasing number. -/
abbrev Tally := List (Nat × Nat)

namespace Tally

/-- Counts a number so many times more. -/
def add (key count : Nat) : Tally → Tally
  | [] => [(key, count)]
  | (k, c) :: rest =>
    if key < k then (key, count) :: (k, c) :: rest
    else if k < key then (k, c) :: add key count rest
    else (k, c + count) :: rest

/-- The counts of two tallies together. -/
def merge : Tally → Tally → Tally
  | [], b => b
  | a, [] => a
  | (k, c) :: as, (l, d) :: bs =>
    if k < l then (k, c) :: merge as ((l, d) :: bs)
    else if l < k then (l, d) :: merge ((k, c) :: as) bs
    else (k, c + d) :: merge as bs
termination_by a b => a.length + b.length

/-- All counts together. -/
def total (t : Tally) : Nat := t.foldr (fun entry soFar => entry.2 + soFar) 0

/-- The counts of all numbers up to a given one, together. -/
def upTo (t : Tally) (key : Nat) : Nat := total (t.filter (·.1 ≤ key))

/-- The first number at which the counts so far reach a target. -/
def reach? (target : Nat) : Tally → Option Nat
  | [] => none
  | (k, c) :: rest => if target ≤ c then some k else reach? (target - c) rest

/-- The counts of the first number and of the others together. -/
@[simp] theorem total_cons (k c : Nat) (t : Tally) : total ((k, c) :: t) = c + total t := rfl

end Tally

end StepMeters
