import StepMeters.Proofs.Amount.Monotone
import StepMeters.Proofs.Window.Accepting
import StepMeters.Proofs.Window.Percentiles

/-!
# The order of percentiles

A scale is above zero, so the whole numbers that stand for amounts are in their order (`scaled_mono`), and so are
the amounts that are made of whole numbers again. A greater part of the recordings therefore never has a lesser
percentile, whichever of the ways to answer apply to the two parts, and no percentile exceeds the greatest
recording (`percentile_ordered_run`).
-/

namespace StepMeters.Window

section Scale
variable {s : Distribution.Settings} {start : Nat} {w : Window}

/-- Amounts are kept to thousandths at least, so a scale is above zero. -/
lemma zero_lt_scale (created : ofSettings s start = .ok w) : 0.0 < w.scale := by
  obtain ⟨faultless, rfl⟩ := new_of_ofSettings created
  have minimum := Distribution.Settings.minimum_pos faultless
  have one : Amount.HasValue 1.0 1 := Amount.valueOf_one ▸ .finite _ _ _ Amount.unpack_one
  obtain ⟨v, dividend, pos⟩ := isNumber_thousand.exists_value
  obtain ⟨k, divisor, pos'⟩ := (isNumber_least_one minimum).exists_value
  have small : k ≤ 1 :=
    divisor.le one (Amount.least_le_right (Amount.lt_iff.1 minimum).2.1 (by decide))
  have reach : v ≤ v / k := by
    rw [le_div_iff₀ pos']
    exact mul_le_of_le_one_right pos.le small
  have thousands : 1000.0 ≤ (new s start).scale :=
    dividend.approximates.le (Amount.approximates_div dividend divisor pos') reach
  exact Amount.lt_of_lt_of_le (show (0.0 : Float) < 1000.0 by decide) thousands

/-- A greater amount does not stand for a lesser whole number. -/
lemma scaled_mono (created : ofSettings s start = .ok w) {x y : Float} (nonneg : 0.0 ≤ x) (le : x ≤ y) :
    w.scaled x ≤ w.scaled y :=
  Amount.rounded_mul_mono nonneg le (zero_lt_scale created)

end Scale

section Percentile
variable {w : Window} {now : Nat}

/-- All percentiles of an empty window are zero. -/
lemma percentile_of_count_eq_zero (none : (w.rotate now).count = 0) (part : Float) :
    (w.percentile now part).value = 0.0 := by
  rw [percentile]
  split
  · rfl
  · dsimp only
    rw [quantile, if_pos none]

/-- Percentiles of less than all recordings of a run are accepted, in the order of the parts, and capped by the
greatest recording. -/
lemma percentile_le_percentile_of_lt_one {s : Distribution.Settings} {start : Nat}
    (created : ofSettings s start = .ok w) {past : List Visit} (some : ((w.run past).rotate now).count ≠ 0)
    {p p' : Float} (le : p ≤ p') (lt : p' < 1.0) :
    ((w.run past).percentile now p).value ≤ ((w.run past).percentile now p').value ∧
      ((w.run past).percentile now p').value ≤ ((w.run past).rotate now).max := by
  have laws := Estimator.isLawful w.precision
  have keeps := keeps_merged_run created past now
  have most := (((isAccepted_new created).run past).rotate now).zero_le_max
  have fits := w.scaled_lt_top_of_mem_mergeable (windowed s start past now)
  have defined := Amount.isNaN_of_le le
  have part := Amount.le_greatest_right defined.1 Amount.isNaN_zero
  have order := Amount.greatest_mono le Amount.isNaN_zero
  have part' := Amount.greatest_lt lt (show (0.0 : Float) < 1.0 by decide)
  have numbers := laws.quantile_mono keeps fits part order part'
  have bound := laws.quantile_lt_top keeps fits (Amount.le_trans part order) part'
  obtain ⟨v, value⟩ := Amount.exists_value_ofNat (bound.trans (by decide))
  obtain ⟨nonneg, quotients⟩ := Amount.div_le_div_right value (Amount.zero_le_ofNat _)
    (Amount.ofNat_le_ofNat numbers) (zero_lt_scale created)
  rw [percentile_run_of_lt_one created some defined.1 (Amount.lt_of_le_of_lt order part'),
    percentile_run_of_lt_one created some defined.2 part']
  exact ⟨Amount.least_mono quotients (Amount.isNaN_of_le most).2,
    Amount.least_le_right (Amount.isNaN_of_le quotients).2 (Amount.isNaN_of_le most).2⟩

end Percentile

/-- Percentiles are ordered and bounded, whatever ran before and whatever parts are asked for. A greater part has a
percentile that is not less; none is below zero or above the greatest recording, which is the percentile of one and
more; and all percentiles of an empty window are zero. -/
theorem percentile_ordered_run {s : Distribution.Settings} {start : Nat} {w : Window}
    (created : ofSettings s start = .ok w) (past : List Visit) (now : Nat) :
    let seen := (w.run past).rotate now
    let answer (part : Float) := ((w.run past).percentile now part).value
    (∀ p p', p ≤ p' → 0.0 ≤ answer p ∧ answer p ≤ answer p' ∧ answer p' ≤ seen.max) ∧
      (∀ p, 1.0 ≤ p → answer p = seen.max) ∧ (seen.count = 0 → ∀ p, answer p = 0.0) := by
  intro seen answer
  have accepted := (isAccepted_new created).run past
  have most : 0.0 ≤ seen.max := (accepted.rotate now).zero_le_max
  have defined := (Amount.isNaN_of_le most).2
  have empty : seen.count = 0 → ∀ p, answer p = 0.0 := percentile_of_count_eq_zero
  have whole : ∀ p, 1.0 ≤ p → answer p = seen.max := by
    intro p all
    by_cases none : seen.count = 0
    · have shown := (shows_windowed created past now).2
      have nothing : (windowed s start past now).map Entry.amount = [] := by
        rw [List.map_eq_nil_iff, ← List.length_eq_zero_iff, ← shown.count]
        exact none
      have max := shown.max.attained
      rw [nothing] at max
      exact (empty none p).trans (max.resolve_right List.not_mem_nil).symm
    · exact percentile_of_one_le none all
  refine ⟨fun p p' le => ⟨accepted.zero_le_percentile now p, ?_⟩, whole, empty⟩
  by_cases none : seen.count = 0
  · rw [empty none, empty none]
    exact ⟨Amount.le_refl Amount.isNaN_zero, most⟩
  · have one : (1.0 : Float).isNaN = false := by decide
    -- parts of one or more are answered by the maximum, and lesser ones by the scan
    rcases Amount.le_or_lt one (Amount.isNaN_of_le le).2 with all' | part'
    · rw [whole p' all']
      refine ⟨?_, Amount.le_refl defined⟩
      rcases Amount.le_or_lt one (Amount.isNaN_of_le le).1 with all | part
      · rw [whole p all]
        exact Amount.le_refl defined
      · have same := Amount.le_refl (Amount.isNaN_of_le le).1
        exact (percentile_le_percentile_of_lt_one created none same part).2
    · exact percentile_le_percentile_of_lt_one created none le part'

/-- Parts of less than nothing, of nothing, of a half and of twice all, in a window of three recordings, and a part
of an empty window. -/
theorem percentile_ordered_run_default :
    let w := new {} 0
    let past : List Visit := [⟨0, .record 5.0⟩, ⟨1, .record 2.0⟩, ⟨w.phaseNanos, .record 9.0⟩]
    let now := w.phaseNanos
    let answer (part : Float) := ((w.run past).percentile now part).value
    ofSettings {} 0 = .ok w ∧ answer (-1.0) ≤ answer 0.0 ∧ answer 0.0 ≤ answer 0.5 ∧ answer 0.5 ≤ answer 2.0 ∧
      answer 2.0 = ((w.run past).rotate now).max ∧ ((w.run []).percentile now 0.5).value = 0.0 := by
  intro w past now answer
  have created : ofSettings {} 0 = .ok w := by rfl
  obtain ⟨order, whole, -⟩ := percentile_ordered_run created past now
  obtain ⟨-, -, empty⟩ := percentile_ordered_run created [] now
  refine ⟨created, (order _ _ ?_).2.1, (order _ _ ?_).2.1, (order _ _ ?_).2.1, whole _ ?_, empty ?_ _⟩ <;>
    decide +kernel

end StepMeters.Window
