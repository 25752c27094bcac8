import StepMeters.Proofs.Amount.Arithmetic
import StepMeters.Proofs.Registry.Schedule

/-!
# The length of a step

A configuration is accepted for the milliseconds of its step, however many they are. Accumulators and the schedule
then count the step in a word of 64 bits. They agree on one length in any case (`usesStep_stepMillis`), and this is
the length that was accepted just if its milliseconds fit the word (`usesStep_exact`).
-/

namespace StepMeters

/-- What a new accumulator of a configuration shows at a wall time of an amount that was recorded when it was new. -/
def Configuration.shownAfter (c : Configuration) (g : Aggregation) (wall wall' : UInt64) (amount : Float) : Float :=
  ((Accumulator.new g c.step.stepMillis wall.toNat).record wall.toNat amount).poll wall'.toNat

/-- The steps of a configuration have a length: while the step right after its own lasts, the aggregate of an amount
is shown, which for an accepted amount is the amount; nothing is shown in any other step; and the schedule waits, in
words of 64 bits, until one millisecond of the next step has passed. Steps with the numbers of marks are left out. -/
structure Configuration.UsesStep (c : Configuration) (millis : Nat) : Prop where
  next : ∀ (g : Aggregation) (wall wall' : UInt64) (amount : Float), wall ≤ wall' →
    wall'.toNat / millis < Accumulator.firstMark → wall'.toNat / millis = wall.toNat / millis + 1 →
      c.shownAfter g wall wall' amount = g.aggregate [amount] ∧
      (Amount.isAccepted amount = true → (c.shownAfter g wall wall' amount == amount) = true)
  other : ∀ (g : Aggregation) (wall wall' : UInt64) (amount : Float), wall ≤ wall' →
    wall'.toNat / millis < Accumulator.firstMark → wall'.toNat / millis ≠ wall.toNat / millis + 1 →
      c.shownAfter g wall wall' amount = 0.0
  delay : ∀ wall : UInt64, (c.nextDelay wall).toNat = (millis - wall.toNat % millis + 1) % UInt64.size

namespace Configuration

section UsesStep
variable {c : Configuration} {g : Aggregation} {wall wall' : UInt64} {amount : Float}

/-- A single accepted amount is its own sum and its own maximum. -/
lemma aggregate_singleton_beq (accepted : Amount.isAccepted amount = true) (g : Aggregation) :
    (g.aggregate [amount] == amount) = true := by
  have nonneg := Amount.isAccepted_iff.1 accepted
  cases g with
  | sum => exact Amount.zero_add_beq nonneg
  | max =>
    have defined := (Amount.isNaN_of_le nonneg).2
    show ((if 0.0 < amount then amount else 0.0) == amount) = true
    split
    · exact Amount.beq_of_le (Amount.le_refl defined) (Amount.le_refl defined)
    · rename_i none
      exact Amount.beq_of_le nonneg (Amount.le_of_not_lt Amount.isNaN_zero defined none)

/-- The books of a new accumulator have the one amount, entered for the first step. -/
lemma shownAfter_eq (le : wall ≤ wall') :
    c.shownAfter g wall wall' amount = g.aggregate
      (Ledger.amountsBefore [⟨wall.toNat / c.step.stepMillis, amount⟩] (wall'.toNat / c.step.stepMillis)) := by
  have fresh := Accumulator.keeps_new g c.step.stepMillis wall.toNat
  have keeps := fresh.record wall.toNat amount
  have step := fresh.step_roll wall.toNat
  change ((Accumulator.new g c.step.stepMillis wall.toNat).record wall.toNat amount).step =
    max (wall.toNat / c.step.stepMillis) (wall.toNat / c.step.stepMillis) at step
  have later : wall.toNat / c.step.stepMillis ≤ wall'.toNat / c.step.stepMillis :=
    Nat.div_le_div_right (UInt64.le_iff_toNat_le.1 le)
  rw [shownAfter, keeps.poll, step, Nat.max_self, Nat.max_eq_right later]
  show g.aggregate (Ledger.amountsBefore [⟨max (wall.toNat / c.step.stepMillis) _, amount⟩] _) = _
  rw [Nat.max_self]

/-- An amount is shown in the step after its own. -/
lemma shownAfter_next (le : wall ≤ wall')
    (next : wall'.toNat / c.step.stepMillis = wall.toNat / c.step.stepMillis + 1) :
    c.shownAfter g wall wall' amount = g.aggregate [amount] := by
  rw [shownAfter_eq le, next, Ledger.amountsBefore_succ, Ledger.amountsIn]
  simp only [decide_true, List.filter_cons_of_pos, List.filter_nil, List.map_cons, List.map_nil]

/-- An amount is not shown in any other step. -/
lemma shownAfter_other (le : wall ≤ wall')
    (other : wall'.toNat / c.step.stepMillis ≠ wall.toNat / c.step.stepMillis + 1) :
    c.shownAfter g wall wall' amount = 0.0 := by
  rw [shownAfter_eq le, Ledger.amountsBefore, List.filter_cons_of_neg]
  · rfl
  · simpa using other.symm

/-- The accumulators and the schedule of a configuration agree on the length of a step. -/
lemma usesStep_stepMillis (c : Configuration) : c.UsesStep c.step.stepMillis where
  next g wall wall' amount le _ next := by
    rw [shownAfter_next le next]
    exact ⟨rfl, fun accepted => aggregate_singleton_beq accepted g⟩
  other g wall wall' amount le _ other := shownAfter_other le other
  delay wall := toNat_nextDelay c wall

/-- A length that does not fit a word is not the one that is used: after as many milliseconds as are used, an amount
is shown, and no step of such a length is over at any wall time. -/
lemma UsesStep.lt (uses : c.UsesStep c.step.millis) : c.step.millis < UInt64.size := by
  by_contra wide
  have fits := stepMillis_lt c.step
  set wall' := UInt64.ofNat c.step.stepMillis
  have word : wall'.toNat = c.step.stepMillis := UInt64.toNat_ofNat_of_lt' fits
  have next : wall'.toNat / c.step.stepMillis = UInt64.toNat 0 / c.step.stepMillis + 1 := by
    rw [word, Nat.div_self c.step.stepMillis_pos, UInt64.toNat_zero, Nat.zero_div]
  have zero : wall'.toNat / c.step.millis = 0 := Nat.div_eq_of_lt (by omega)
  have first : wall'.toNat / c.step.millis ≠ UInt64.toNat 0 / c.step.millis + 1 := by
    rw [zero]
    exact (Nat.succ_ne_zero _).symm
  have shown : c.shownAfter .sum 0 wall' 1.0 = Aggregation.sum.aggregate [1.0] := shownAfter_next UInt64.zero_le next
  rw [uses.other .sum 0 wall' 1.0 UInt64.zero_le (by rw [zero]; decide) first] at shown
  exact absurd shown (by decide)

end UsesStep

/-- The length that is used is the accepted one just if its milliseconds fit a word of 64 bits. For every accepted
step the accumulators and the schedule use one and the same length, the milliseconds of the step cut down to such a
word and at least one. If that is more than one millisecond, no wall time is in a step with the number of a mark. -/
theorem usesStep_exact (c : Configuration) (ok : c.fault? = none) :
    let used := max (c.step.millis % UInt64.size) 1
    c.UsesStep used ∧
    (c.UsesStep c.step.millis ↔ c.step.millis < UInt64.size) ∧
    (1 < used → ∀ wall : UInt64, wall.toNat / used < Accumulator.firstMark) := by
  refine ⟨usesStep_stepMillis c, ⟨UsesStep.lt, fun fits => ?_⟩, Accumulator.div_lt_firstMark⟩
  have uses := usesStep_stepMillis c
  rwa [stepMillis_of_lt (millis_pos ok) fits] at uses

/-- The longest step that fits is used as it is, with a part of a millisecond left out: at the last wall time an amount
of the first step is shown. -/
theorem usesStep_exact_longest :
    let c : Configuration := { step := ⟨(2 ^ 64 - 1) * 1000000 + 999999⟩ }
    c.fault? = none ∧ c.UsesStep (2 ^ 64 - 1) ∧ (c.shownAfter .max 5 18446744073709551615 2.5 == 2.5) = true := by
  intro c
  have ok : c.fault? = none := by decide +kernel
  have millis : c.step.millis = 2 ^ 64 - 1 := by decide +kernel
  obtain ⟨-, exactly, -⟩ := usesStep_exact c ok
  have uses : c.UsesStep c.step.millis := exactly.2 (by rw [millis]; decide)
  rw [millis] at uses
  obtain ⟨-, shown⟩ := uses.next .max 5 18446744073709551615 2.5 (by decide) (by decide) (by decide +kernel)
  exact ⟨ok, uses, shown (by decide)⟩

/-- An accepted step of a second more than `2 ^ 64` milliseconds is used as a step of one second. -/
theorem usesStep_narrowed :
    let c : Configuration := { step := .ofMillis (2 ^ 64 + 1000) }
    c.fault? = none ∧ c.step.millis = 2 ^ 64 + 1000 ∧ 1000 / c.step.millis ≠ 0 / c.step.millis + 1 ∧
      c.shownAfter .sum 0 1000 1.0 = 1.0 ∧ c.nextDelay 0 = 1001 ∧ ¬c.UsesStep c.step.millis := by
  refine ⟨by rfl, by decide, by decide, by decide, by decide, fun uses => ?_⟩
  exact absurd uses.lt (by decide)

end Configuration

end StepMeters
