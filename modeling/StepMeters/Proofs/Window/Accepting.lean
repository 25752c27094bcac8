import StepMeters.Proofs.Amount.Arithmetic
import StepMeters.Proofs.Distribution.Boundaries
import StepMeters.Proofs.Window.History

/-!
# Accepted answers of a window

A window keeps accepted amounts only, and divides by a scale that may be infinite but never is zero or undefined.
`Window.IsAccepted` says both. A new window has this property if its settings are accepted (`isAccepted_new`), every
visit keeps it (`IsAccepted.apply`), and then the answers to all questions are accepted amounts, whatever is asked for.
-/

namespace StepMeters.Window

open Amount (HasPlus IsNumber)

/-- The greatest amounts of all phases are accepted, and so are quotients by the scale. -/
structure IsAccepted (w : Window) : Prop where
  scale : HasPlus w.scale.toModel.unpack
  phases : ∀ p ∈ w.phases, 0.0 ≤ p.max

/-- The greatest amount of an empty phase is zero. -/
lemma zero_le_max_empty (boundaries : Nat) : 0.0 ≤ (Phase.empty boundaries).max := Amount.le_refl Amount.isNaN_zero

/-- What an accepted minimum is cut down to is a number: it may be as small as numbers are, but is at most one. -/
lemma isNumber_least_one {minimum : Float} (pos : 0.0 < minimum) : IsNumber (Amount.least minimum 1.0) := by
  have one : (1.0 : Float) < 2.0 := by decide
  rcases Amount.le_or_lt (Amount.lt_iff.1 pos).2.1 (Amount.lt_iff.1 one).1 with small | large
  · rw [Amount.least_of_le small]
    exact Amount.exists_finite_of_lt pos (Amount.lt_of_le_of_lt small one)
  · rw [Amount.least_of_lt large]
    exact Amount.exists_finite_of_lt (by decide) one

/-- A thousand is a number above zero. -/
lemma isNumber_thousand : IsNumber 1000.0 :=
  Amount.exists_finite_of_lt (show (0.0 : Float) < 1000.0 by decide) (show (1000.0 : Float) < 1001.0 by decide)

/-- A new window holds accepted amounts only. -/
lemma isAccepted_new {s : Distribution.Settings} {start : Nat} {w : Window} (created : ofSettings s start = .ok w) :
    w.IsAccepted := by
  obtain ⟨faultless, rfl⟩ := new_of_ofSettings created
  constructor
  · have minimum := Distribution.Settings.minimum_pos faultless
    exact Amount.hasPlus_div isNumber_thousand (isNumber_least_one minimum)
  · intro p mem
    rw [List.eq_of_mem_replicate mem]
    exact zero_le_max_empty _

section Visits
variable {w : Window} {now : Nat}

/-- A rotation brings in no amount. -/
lemma IsAccepted.rotate (h : w.IsAccepted) (now : Nat) : (w.rotate now).IsAccepted := by
  refine ⟨(w.isLike_rotate now).scale ▸ h.scale, fun p mem => ?_⟩
  rw [Window.rotate] at mem
  split at mem
  · exact h.phases p mem
  · obtain ⟨place, inside, rfl⟩ := List.mem_mapIdx.1 mem
    split
    · exact zero_le_max_empty _
    · exact h.phases _ (List.getElem_mem inside)

/-- A recorded amount that is at least zero may be the greatest of its phase. -/
lemma IsAccepted.file (h : w.IsAccepted) {amount : Float} (accepted : 0.0 ≤ amount) : (w.file amount).IsAccepted := by
  refine ⟨h.scale, fun p mem => ?_⟩
  obtain ⟨place, bound, rfl⟩ := List.mem_iff_getElem.1 mem
  have inside : place < w.phases.length := (List.length_modify ..).symm ▸ bound
  have before := h.phases _ (List.getElem_mem inside)
  have filed : (w.file amount).phases[place] =
      if w.current = place then w.recorded w.phases[place] amount else w.phases[place] :=
    List.getElem_modify ..
  rw [filed]
  split
  · show 0.0 ≤ if w.phases[place].max < amount then amount else w.phases[place].max
    split
    · exact accepted
    · exact before
  · exact before

/-- Nothing that is done with a window brings in an amount that is not accepted. -/
lemma IsAccepted.apply (h : w.IsAccepted) (visit : Visit) : (w.apply visit).IsAccepted := by
  rw [apply_eq]
  split
  · rename_i amount recorded
    exact (h.rotate visit.reading).file (Amount.isAccepted_iff.1 (Action.isAccepted_of_amount? recorded))
  · split
    · exact h.rotate visit.reading
    · exact h

/-- No run of visits brings in an amount that is not accepted. -/
lemma IsAccepted.run (h : w.IsAccepted) (visits : List Visit) : (w.run visits).IsAccepted := by
  induction visits generalizing w with
  | nil => exact h
  | cons visit rest ih => exact ih (h.apply visit)

end Visits

section Answers
variable {w : Window} (h : w.IsAccepted)
include h

/-- The greatest amount is at least zero. -/
lemma IsAccepted.zero_le_max : 0.0 ≤ w.max := by
  have fold (phases : List Phase) (all : ∀ p ∈ phases, 0.0 ≤ p.max) (top : Float) (nonneg : 0.0 ≤ top) :
      0.0 ≤ phases.foldl (fun top p => Amount.greatest top p.max) top := by
    induction phases generalizing top with
    | nil => exact nonneg
    | cons p rest ih =>
      obtain ⟨here, later⟩ := List.forall_mem_cons.1 all
      exact ih later _ (Amount.zero_le_greatest nonneg here)
  exact fold w.phases h.phases 0.0 (Amount.le_refl Amount.isNaN_zero)

/-- If there were no quotient, the greatest recording would be the answer. -/
lemma IsAccepted.zero_le_quantile (e : Estimator) (part : Float) : 0.0 ≤ w.quantile e part := by
  rw [quantile]
  split
  · exact Amount.le_refl Amount.isNaN_zero
  · split
    · exact h.zero_le_max
    · exact Amount.zero_le_least (Amount.zero_le_div_of_hasPlus (Amount.zero_le_ofNat _) h.scale) h.zero_le_max

/-- Percentiles are at least zero. -/
lemma IsAccepted.zero_le_percentile (now : Nat) (part : Float) : 0.0 ≤ (w.percentile now part).value := by
  rw [percentile]
  split
  · exact Amount.le_refl Amount.isNaN_zero
  · exact (h.rotate now).zero_le_quantile _ _

/-- Published percentiles are at least zero. -/
lemma IsAccepted.zero_le_percentileValues (now : Nat) : ∀ p ∈ (w.percentileValues now).value, 0.0 ≤ p.amount := by
  intro p mem
  rw [percentileValues] at mem
  split at mem
  · cases mem
  · obtain ⟨part, -, rfl⟩ := List.mem_map.1 mem
    exact (h.rotate now).zero_le_quantile _ _

end Answers

section Counts
variable (w : Window) (now : Nat)

/-- Counts up to an amount are at least zero. -/
lemma zero_le_countAtMost (amount : Float) : 0.0 ≤ (w.countAtMost now amount).value := by
  rw [countAtMost]
  split
  · dsimp only
    split <;> exact Amount.zero_le_ofNat _
  · exact Amount.le_refl Amount.isNaN_zero

/-- Published boundary counts are at least zero. -/
lemma zero_le_boundaryCounts : ∀ b ∈ (w.boundaryCounts now).value, 0.0 ≤ b.count := by
  intro b mem
  obtain ⟨place, inside, rfl⟩ := List.mem_mapIdx.1 mem
  exact Amount.zero_le_ofNat _

end Counts

end StepMeters.Window
