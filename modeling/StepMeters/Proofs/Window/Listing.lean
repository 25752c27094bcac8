import StepMeters.Proofs.Window.Counts
import StepMeters.Proofs.Window.Percentiles

/-!
# Lists and single questions

A window lists all its percentiles and boundaries at once. What it lists for one of them is also what it answers to
the question for this one alone.
-/

namespace StepMeters.Window

section Run
variable {s : Distribution.Settings} {start : Nat} {w : Window}

/-- The published percentiles are those that one is told who asks for them one by one. -/
lemma value_percentileValues_run (created : ofSettings s start = .ok w) (past : List Visit) (now : Nat) :
    ((w.run past).percentileValues now).value =
      s.percentiles.map fun part => ⟨part, ((w.run past).percentile now part).value⟩ := by
  obtain ⟨faultless, new⟩ := new_of_ofSettings created
  have rotated : ((w.run past).rotate now).percentiles = s.percentiles := by
    rw [(shows_windowed created past now).1.percentiles, ← new]
    rfl
  have percentiles : (w.run past).percentiles = s.percentiles :=
    ((w.run past).isLike_rotate now).percentiles.symm.trans rotated
  rw [percentileValues, percentiles]
  split
  · rename_i none
    rw [List.isEmpty_iff.1 none]
    rfl
  · dsimp only
    rw [rotated]
    refine List.map_congr_left fun part mem => ?_
    have isPart := (Distribution.Settings.fault?_eq_none_iff.1 faultless).percentiles part mem
    rw [Distribution.Settings.isPart, Bool.and_eq_true, decide_eq_true_iff] at isPart
    rw [percentile, (Amount.isNaN_of_le isPart.1).2]
    dsimp only
    rw [if_neg Bool.false_ne_true, Amount.greatest_of_le isPart.1]

/-- One who asks for an amount that equals a boundary is told the count at the boundary. -/
lemma value_countAtMost_run (created : ofSettings s start = .ok w) (past : List Visit) (now : Nat) {b x : Float}
    (mem : b ∈ s.boundaries) (same : (x == b) = true) :
    ((w.run past).countAtMost now x).value = Float.ofNat (atMost (windowed s start past now) b) := by
  have faultless := (new_of_ofSettings created).1
  obtain ⟨-, sound, -⟩ := Distribution.Settings.collects_boundaries faultless
  have boundaries := boundaries_run created past now
  have same' := Amount.beq_of_le (Amount.le_of_beq same).2 (Amount.le_of_beq same).1
  have accepted := Amount.isAccepted_iff.2
    (Amount.le_trans (Amount.le_of_lt ((sound b mem).pos faultless)) (Amount.le_of_beq same).2)
  obtain ⟨i, inside, here, value⟩ := value_countAtMost accepted ⟨b, boundaries ▸ mem, same'⟩
  simp only [boundaries] at inside here
  rw [value, filedUpTo_run created past now inside, atMost_congr here, atMost_congr same]

end Run

end StepMeters.Window
