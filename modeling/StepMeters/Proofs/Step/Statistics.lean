import StepMeters.Proofs.Step.History
import StepMeters.Step.Statistics

/-!
# Statistics under one clock

Count, total and greatest amount of a step are accumulators of their own, and reading one of them leaves the
others in an earlier step. As long as the clock does not go back this makes no difference. An accumulator that
is not ahead of the clock enters an amount in the step of the clock, whatever step it stands in itself
(`Accumulator.Follows`), so the three describe one and the same ledger (`StepStatistics.Follows`). Any reading
moves some of the three and leaves the others alone (`StepStatistics.Looked`), which keeps the ledger.
-/

namespace StepMeters

namespace Accumulator

/-- What a look at an accumulator leaves: it has moved on to the step of the clock, or was left alone. -/
def Looked (wall : Nat) (a a' : Accumulator) : Prop := a' = a ∨ a' = a.roll wall

/-- An accumulator keeps the books of a ledger, and is not ahead of the clock. -/
structure Follows (a : Accumulator) (g : Aggregation) (stepMillis wall : Nat) (l : Ledger) : Prop where
  keeps : a.Keeps g stepMillis l
  inTime : a.step ≤ wall / stepMillis

section Follows
variable {a a' a'' : Accumulator} {g : Aggregation} {stepMillis wall wall' : Nat} {l : Ledger}

/-- Two looks at the same clock are one. -/
lemma Looked.trans (h : a.Looked wall a') (h' : a'.Looked wall a'') : a.Looked wall a'' := by
  rcases h with rfl | rfl
  · exact h'
  · rcases h' with rfl | rfl
    · exact .inr rfl
    · exact .inr (roll_roll a wall)

/-- A new accumulator follows the clock with no amounts. -/
lemma follows_new (g : Aggregation) (stepMillis wall : Nat) :
    (new g stepMillis wall).Follows g stepMillis wall [] :=
  ⟨keeps_new g stepMillis wall, Nat.le_refl _⟩

/-- The step of a later clock is in force. -/
lemma Follows.max_step (h : a.Follows g stepMillis wall l) (le : wall ≤ wall') :
    max a.step (wall' / stepMillis) = wall' / stepMillis :=
  Nat.max_eq_right (Nat.le_trans h.inTime (Nat.div_le_div_right le))

/-- Whether it moves on or falls behind, an accumulator keeps its ledger. -/
lemma Follows.looked (h : a.Follows g stepMillis wall l) (le : wall ≤ wall') (look : a.Looked wall' a') :
    a'.Follows g stepMillis wall' l := by
  rcases look with rfl | rfl
  · exact ⟨h.keeps, Nat.le_trans h.inTime (Nat.div_le_div_right le)⟩
  · exact ⟨h.keeps.roll wall', Nat.le_of_eq ((h.keeps.step_roll wall').trans (h.max_step le))⟩

/-- A recorded amount is entered for the step of the clock. -/
lemma Follows.record (h : a.Follows g stepMillis wall l) (le : wall ≤ wall') (amount : Float) :
    (a.record wall' amount).Follows g stepMillis wall' (l ++ [⟨wall' / stepMillis, amount⟩]) := by
  have keeps := h.keeps.record wall' amount
  rw [h.max_step le] at keeps
  exact ⟨keeps, (h.looked le (.inr rfl)).inTime⟩

/-- A poll shows the aggregate of the step before that of the clock. -/
lemma Follows.poll (h : a.Follows g stepMillis wall l) (le : wall ≤ wall') :
    a.poll wall' = g.aggregate (l.amountsBefore (wall' / stepMillis)) := by
  rw [h.keeps.poll, h.max_step le]

end Follows

end Accumulator

/-- How many amounts there are: a one for each of them, added up, as a whole number. -/
def countOf (amounts : List Float) : Nat :=
  (Aggregation.sum.aggregate (amounts.map fun _ => 1.0)).toUInt64.toNat

namespace Ledger

/-- A one in place of each amount. -/
def ones (l : Ledger) : Ledger := l.map fun e => { e with amount := 1.0 }

/-- A ledger of ones has as many of them in the step before as there are amounts. -/
lemma amountsBefore_ones (l : Ledger) (slice : Nat) :
    l.ones.amountsBefore slice = (l.amountsBefore slice).map fun _ => 1.0 := by
  simp [ones, amountsBefore, List.filter_map, Function.comp_def]

/-- A ledger of ones has as many of them in a step as there are amounts. -/
lemma amountsIn_ones (l : Ledger) (slice : Nat) :
    l.ones.amountsIn slice = (l.amountsIn slice).map fun _ => 1.0 := by
  simp [ones, amountsIn, List.filter_map, Function.comp_def]

/-- One more amount is one more one. -/
lemma ones_concat (l : Ledger) (slice : Nat) (amount : Float) :
    ones (l ++ [⟨slice, amount⟩]) = l.ones ++ [⟨slice, 1.0⟩] := by
  simp [ones]

end Ledger

namespace StepStatistics

/-- What looks of one moment leave of the statistics. -/
structure Looked (wall : Nat) (s s' : StepStatistics) : Prop where
  counts : s.counts.Looked wall s'.counts
  totals : s.totals.Looked wall s'.totals
  maxima : s.maxima.Looked wall s'.maxima

/-- All three accumulators follow the clock, and describe the same amounts. -/
structure Follows (s : StepStatistics) (stepMillis wall : Nat) (l : Ledger) : Prop where
  counts : s.counts.Follows .sum stepMillis wall l.ones
  totals : s.totals.Follows .sum stepMillis wall l
  maxima : s.maxima.Follows .max stepMillis wall l

section Looked
variable {s s' s'' : StepStatistics} {wall : Nat}

/-- Doing nothing is a look. -/
lemma looked_refl (s : StepStatistics) (wall : Nat) : s.Looked wall s := ⟨.inl rfl, .inl rfl, .inl rfl⟩

/-- Two looks at the same wall time are one. -/
lemma Looked.trans (h : s.Looked wall s') (h' : s'.Looked wall s'') : s.Looked wall s'' :=
  ⟨h.counts.trans h'.counts, h.totals.trans h'.totals, h.maxima.trans h'.maxima⟩

/-- Moving all three on is a look. -/
lemma looked_roll (s : StepStatistics) (wall : Nat) : s.Looked wall (s.roll wall) :=
  ⟨.inr rfl, .inr rfl, .inr rfl⟩

/-- Reading the count is a look. -/
lemma looked_afterCount (s : StepStatistics) (wall : Nat) : s.Looked wall (s.afterCount wall) :=
  ⟨.inr rfl, .inl rfl, .inl rfl⟩

/-- Reading the total is a look. -/
lemma looked_afterTotal (s : StepStatistics) (wall : Nat) : s.Looked wall (s.afterTotal wall) :=
  ⟨.inl rfl, .inr rfl, .inl rfl⟩

/-- Reading the greatest amount is a look. -/
lemma looked_afterMax (s : StepStatistics) (wall : Nat) : s.Looked wall (s.afterMax wall) :=
  ⟨.inl rfl, .inl rfl, .inr rfl⟩

/-- The mean needs the total only if there is a count. -/
lemma looked_afterMean (s : StepStatistics) (wall : Nat) : s.Looked wall (s.afterMean wall) := by
  rw [afterMean]
  split
  · exact s.looked_afterCount wall
  · exact (s.looked_afterCount wall).trans (looked_afterTotal _ wall)

end Looked

section Follows
variable {s s' : StepStatistics} {stepMillis wall wall' : Nat} {l : Ledger}

/-- New statistics follow the clock with no amounts. -/
lemma follows_new (stepMillis wall : Nat) : (new stepMillis wall).Follows stepMillis wall [] where
  counts := Accumulator.follows_new .sum stepMillis wall
  totals := Accumulator.follows_new .sum stepMillis wall
  maxima := Accumulator.follows_new .max stepMillis wall

/-- Whichever of the three move on, they keep describing the same amounts. -/
lemma Follows.looked (h : s.Follows stepMillis wall l) (le : wall ≤ wall') (look : s.Looked wall' s') :
    s'.Follows stepMillis wall' l :=
  ⟨h.counts.looked le look.counts, h.totals.looked le look.totals, h.maxima.looked le look.maxima⟩

/-- A recorded amount is entered for the step of the clock in all three. -/
lemma Follows.record (h : s.Follows stepMillis wall l) (le : wall ≤ wall') (amount : Float) :
    (s.record wall' amount).Follows stepMillis wall' (l ++ [⟨wall' / stepMillis, amount⟩]) := by
  refine ⟨?_, h.totals.record le amount, h.maxima.record le amount⟩
  rw [Ledger.ones_concat]
  exact h.counts.record le 1.0

/-- The count is the number of amounts in the step before that of the clock. -/
lemma Follows.count (h : s.Follows stepMillis wall l) (le : wall ≤ wall') :
    s.count wall' = countOf (l.amountsBefore (wall' / stepMillis)) := by
  rw [StepStatistics.count, h.counts.poll le, Ledger.amountsBefore_ones, countOf]

/-- The total is the sum of the amounts in the step before that of the clock. -/
lemma Follows.total (h : s.Follows stepMillis wall l) (le : wall ≤ wall') :
    s.total wall' = Aggregation.sum.aggregate (l.amountsBefore (wall' / stepMillis)) :=
  h.totals.poll le

/-- The maximum is the greatest of the amounts in the step before that of the clock. -/
lemma Follows.max (h : s.Follows stepMillis wall l) (le : wall ≤ wall') :
    s.max wall' = Aggregation.max.aggregate (l.amountsBefore (wall' / stepMillis)) :=
  h.maxima.poll le

end Follows

end StepStatistics

end StepMeters
