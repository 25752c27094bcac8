import StepMeters.Proofs.Window.CatchUp

/-!
# Rings that move on phase by phase

A rotation moves the ring by all phases that have ended, at once. The plain way is to move it by one phase, to clear
this phase, and to go on until the current phase has not ended (`Window.rotateStepwise`). Both ways lead to the same
window, whatever the gap, and so do rotations in between (`Window.rotations_run`).
-/

namespace StepMeters.Window

/-- The window after its ring has moved on by one phase, which is cleared. -/
def advanced (w : Window) : Window :=
  { w with
    phases := w.phases.set ((w.current + 1) % w.phases.length) (Phase.empty w.boundaries.length)
    current := (w.current + 1) % w.phases.length
    lastRotation := w.lastRotation + w.phaseNanos }

/-- Moves the ring on phase by phase, until less than a phase has passed since the current one began. -/
def rotateStepwise (w : Window) (now : Nat) : Window :=
  -- phases without a length would never end
  if 0 < w.phaseNanos ∧ w.phaseNanos ≤ now - w.lastRotation then rotateStepwise w.advanced now else w
termination_by now - w.lastRotation
decreasing_by
  show now - (w.lastRotation + w.phaseNanos) < now - w.lastRotation
  omega

section Advanced
variable {w : Window}

/-- The place that the ring moves onto is the only one that is not further ahead. -/
lemma ring_ahead_lt_one_iff {place current length : Nat} (inside : place < length)
    (currentInside : current < length) :
    (place + length - (current + 1)) % length < 1 ↔ (current + 1) % length = place := by
  rw [ring_ahead inside currentInside]
  rcases Nat.lt_or_ge (current + 1) length with next | last
  · rw [Nat.mod_eq_of_lt next]
    split <;> omega
  · obtain rfl : length = current + 1 := by omega
    rw [Nat.mod_self]
    split <;> omega

/-- Moving the ring on by one phase clears this phase and no other. -/
lemma advanced_eq_moved (ring : w.current < w.phases.length) : w.advanced = w.moved 1 := by
  have phases : w.phases.set ((w.current + 1) % w.phases.length) (Phase.empty w.boundaries.length) = w.cleared 1 := by
    apply List.ext_getElem
    · rw [List.length_set, length_cleared]
    · intro place _ bound
      have inside : place < w.phases.length := by rwa [length_cleared] at bound
      rw [List.getElem_set]
      simp only [cleared, List.getElem_mapIdx, ring_ahead_lt_one_iff inside ring]
  have one : min 1 w.phases.length = 1 := Nat.min_eq_left (Nat.zero_lt_of_lt ring)
  rw [advanced, phases, w.moved_of_ne Nat.one_ne_zero, one, Nat.one_mul]

/-- Moving on by one phase stays in the ring. -/
lemma current_advanced_lt (ring : w.current < w.phases.length) : w.advanced.current < w.advanced.phases.length := by
  show (w.current + 1) % w.phases.length < (w.phases.set _ _).length
  rw [List.length_set]
  exact Nat.mod_lt _ (by omega)

/-- One phase less is left to elapse after the ring has moved on by one. -/
lemma elapsed_advanced (w : Window) (now : Nat) : w.advanced.elapsed now = w.elapsed now - 1 := by
  have less := Nat.sub_mul_div (now - w.lastRotation) w.phaseNanos 1
  rw [Nat.mul_one, ← Nat.sub_add_eq] at less
  exact less

end Advanced

/-- Moving phase by phase ends where moving at once does. -/
lemma rotateStepwise_eq_rotate {w : Window} (ring : w.current < w.phases.length) (positive : 0 < w.phaseNanos)
    (now : Nat) : w.rotateStepwise now = w.rotate now := by
  fun_induction rotateStepwise w now with
  | case1 w ended ih =>
    -- the phase that has ended is the first of those that a rotation moves by
    have some : 1 ≤ w.elapsed now := (Nat.one_le_div_iff positive).2 ended.2
    rw [ih (current_advanced_lt ring) positive, rotate_eq_moved, elapsed_advanced, advanced_eq_moved ring,
      moved_moved ring, Nat.add_sub_cancel' some, rotate_eq_moved]
  | case2 w going =>
    have none : w.elapsed now = 0 := Nat.div_eq_of_lt (by omega)
    rw [rotate_eq_moved, none]
    rfl

/-- Rotations up to some time make no difference to a rotation at this time. -/
lemma rotate_foldl_rotate {w : Window} (ring : w.current < w.phases.length) {readings : List Nat} {now : Nat}
    (upTo : ∀ reading ∈ readings, reading ≤ now) : (readings.foldl rotate w).rotate now = w.rotate now := by
  induction readings generalizing w with
  | nil => rfl
  | cons reading rest ih =>
    obtain ⟨le, later⟩ := List.forall_mem_cons.1 upTo
    exact (ih (current_rotate_lt ring reading) later).trans (rotate_rotate ring le)

/-- Catching up is rotating on time. Whatever was done with a window, rotating it at some readings of the clock and
then at one that none of them exceeds leaves the same window, with the same contents of every phase, as rotating it
at the last reading alone, and as moving the ring on phase by phase. -/
theorem rotations_run {s : Distribution.Settings} {start : Nat} {w : Window} (created : ofSettings s start = .ok w)
    (past : List Visit) (readings : List Nat) (now : Nat) (upTo : ∀ reading ∈ readings, reading ≤ now) :
    (readings ++ [now]).foldl rotate (w.run past) = (w.run past).rotate now ∧
      (w.run past).rotateStepwise now = (w.run past).rotate now := by
  obtain ⟨holds, -⟩ := holds_run created past
  have ring : (w.run past).current < (w.run past).phases.length := by
    rw [holds.current, holds.length]
    exact Nat.mod_lt _ holds.length_pos
  constructor
  · rw [List.foldl_append]
    exact rotate_foldl_rotate ring upTo
  · exact rotateStepwise_eq_rotate ring (holds.nanos ▸ holds.nanos_pos) now

/-- Three recordings in the default window, and a pause of four phases that is cut into three. The ring wraps, and
everything is cleared. -/
theorem rotations_run_pause :
    let w := new {} 0
    let past : List Visit := [⟨0, .record 5.0⟩, ⟨w.phaseNanos, .record 2.0⟩, ⟨2 * w.phaseNanos, .record 9.0⟩]
    let soon := 4 * w.phaseNanos - 1
    let late := 6 * w.phaseNanos
    ofSettings {} 0 = .ok w ∧ (∀ reading ∈ [5, soon], reading ≤ late) ∧
      (([5, soon].foldl rotate (w.run past)).count = 2 ∧ ((w.run past).rotateStepwise soon).count = 2) ∧
      ([5, soon, late].foldl rotate (w.run past)).count = 0 ∧
      (w.run past).rotateStepwise late = [5, soon, late].foldl rotate (w.run past) := by
  intro w past soon late
  have created : ofSettings {} 0 = .ok w := by rfl
  have five : ∀ reading ∈ [5], reading ≤ soon := by decide
  have upTo : ∀ reading ∈ [5, soon], reading ≤ late := by decide
  obtain ⟨before, stepwise⟩ := rotations_run created past [5] soon five
  obtain ⟨after, stepwise'⟩ := rotations_run created past [5, soon] late upTo
  have two : ((w.run past).rotate soon).count = 2 := by decide +kernel
  have none : ((w.run past).rotate late).count = 0 := by decide +kernel
  exact ⟨created, upTo, ⟨(congrArg count before).trans two, (congrArg count stepwise).trans two⟩,
    (congrArg count after).trans none, stepwise'.trans after.symm⟩

end StepMeters.Window
