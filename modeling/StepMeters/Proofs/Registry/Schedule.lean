import Mathlib.Algebra.Order.Group.Nat
import Mathlib.Tactic.Lemma
import StepMeters.Proofs.Step.History
import StepMeters.Registry.Publishing

/-!
# The schedule

A registry that publishes on its own waits, after each cycle, until just after the next boundary of a step.
Waits are computed in words of 64 bits from a step that is narrowed to such a word, and end one millisecond
past the boundary. `Configuration.Lands` says that a wait is exact and ends in the step right after the one in
which it begins; `ticks_run` says for which steps that is so, and what a meter shows at each cycle.
-/

namespace StepMeters.Configuration

/-- A cycle that waits from a wall time on comes in the next step, and nothing wraps on the way. -/
structure Lands (c : Configuration) (wall : UInt64) : Prop where
  exact : (c.nextDelay wall).toNat = c.step.millis - wall.toNat % c.step.millis + 1
  waits : 0 < (c.nextDelay wall).toNat
  next : (wall.toNat + (c.nextDelay wall).toNat) / c.step.millis = wall.toNat / c.step.millis + 1

/-- The wall times of the cycles of a schedule, each as long after the one before as the wait computed
there. -/
def tickTime (c : Configuration) (start : Nat) : Nat → Nat
  | 0 => start
  | n + 1 =>
    let last := tickTime c start n
    last + (c.nextDelay (UInt64.ofNat last)).toNat

section Lands
variable {c : Configuration} {wall : UInt64}

/-- An accepted step has at least one whole millisecond. -/
lemma millis_pos (ok : c.fault? = none) : 0 < c.step.millis := by
  rw [fault?] at ok
  split at ok
  · cases ok
  · omega

/-- The milliseconds used fit a machine word. -/
lemma stepMillis_lt (step : Duration) : step.stepMillis < UInt64.size := by
  have : step.millis % UInt64.size < UInt64.size := Nat.mod_lt _ (by decide)
  rw [Duration.stepMillis]
  exact Nat.max_lt.2 ⟨this, by decide⟩

/-- A step of fewer milliseconds than a machine word holds is used as it is. -/
lemma stepMillis_of_lt {step : Duration} (pos : 0 < step.millis) (fits : step.millis < UInt64.size) :
    step.stepMillis = step.millis := by
  rw [Duration.stepMillis, Nat.mod_eq_of_lt fits, Nat.max_eq_left pos]

/-- The wait as a number: only the last addition can wrap. -/
lemma toNat_nextDelay (c : Configuration) (wall : UInt64) :
    (c.nextDelay wall).toNat
      = (c.step.stepMillis - wall.toNat % c.step.stepMillis + 1) % UInt64.size := by
  have word : (UInt64.ofNat c.step.stepMillis).toNat = c.step.stepMillis :=
    UInt64.toNat_ofNat_of_lt' (stepMillis_lt c.step)
  have rest : wall % UInt64.ofNat c.step.stepMillis ≤ UInt64.ofNat c.step.stepMillis := by
    rw [UInt64.le_iff_toNat_le, UInt64.toNat_mod, word]
    exact Nat.le_of_lt (Nat.mod_lt _ c.step.stepMillis_pos)
  rw [nextDelay, UInt64.toNat_add, UInt64.toNat_sub_of_le _ _ rest, UInt64.toNat_mod, word]
  rfl

/-- A wait to the end of a step and one more ends in the next step, unless the step is a single unit. -/
lemma next_step {s : Nat} (long : 1 < s) (t : Nat) : (t + (s - t % s + 1)) / s = t / s + 1 := by
  have split : t + (s - t % s + 1) = s * (t / s + 1) + 1 := by
    have below : t % s < s := Nat.mod_lt _ (by omega)
    have whole := Nat.div_add_mod t s
    rw [Nat.mul_add_one]
    omega
  rw [split, Nat.mul_add_div (by omega), Nat.div_eq_of_lt long, Nat.add_zero]

/-- With a step of one millisecond the wait leads past the next step. -/
lemma next_step_one (t : Nat) : (t + (1 - t % 1 + 1)) / 1 = t / 1 + 2 := by
  rw [Nat.mod_one, Nat.div_one, Nat.div_one]

/-- Where the exact wait fits a word, it is the one computed. -/
lemma lands_of_lt (long : 1 < c.step.millis) (fits : c.step.millis < UInt64.size)
    (exact : c.step.millis - wall.toNat % c.step.millis + 1 < UInt64.size) : c.Lands wall := by
  have delay : (c.nextDelay wall).toNat = c.step.millis - wall.toNat % c.step.millis + 1 := by
    rw [toNat_nextDelay, stepMillis_of_lt (by omega) fits, Nat.mod_eq_of_lt exact]
  refine ⟨delay, ?_, ?_⟩
  · rw [delay]
    exact Nat.succ_pos _
  · rw [delay]
    exact next_step long wall.toNat

/-- A step that does not fit a word is narrowed, and the wait is too short for it. -/
lemma lt_millis_sub_of_size_lt (wide : UInt64.size < c.step.millis) :
    c.step.stepMillis + wall.toNat < c.step.millis := by
  have word : wall.toNat < UInt64.size := wall.toNat_lt
  have whole := Nat.div_add_mod c.step.millis UInt64.size
  have more : 0 < c.step.millis / UInt64.size := Nat.div_pos (by omega) (by decide)
  rw [Duration.stepMillis]
  simp only [UInt64.size] at *
  omega

/-- The steps and wall times for which a cycle comes in the next step. -/
lemma lands_iff (ok : c.fault? = none) :
    c.Lands wall ↔
      (1 < c.step.millis ∧ c.step.millis + 1 < UInt64.size) ∨
      (c.step.millis + 1 = UInt64.size ∧ wall.toNat % c.step.millis ≠ 0) ∨
      (c.step.millis = UInt64.size ∧ wall.toNat + 1 = UInt64.size) := by
  have pos := millis_pos ok
  have word : wall.toNat < UInt64.size := wall.toNat_lt
  have delay := toNat_nextDelay c wall
  constructor
  · intro h
    have exact := h.exact
    have bound : (c.nextDelay wall).toNat < UInt64.size := (c.nextDelay wall).toNat_lt
    rcases Nat.lt_trichotomy c.step.millis UInt64.size with fits | full | wide
    · have long : c.step.millis ≠ 1 := by
        intro single
        have next := h.next
        rw [exact, single, next_step_one] at next
        omega
      by_cases last : c.step.millis + 1 = UInt64.size
      · exact .inr (.inl ⟨last, by omega⟩)
      · exact .inl ⟨by omega, by omega⟩
    · -- narrowed to zero, such a step counts as a single millisecond
      have narrowed : c.step.stepMillis = 1 := by rw [Duration.stepMillis, full, Nat.mod_self]; rfl
      rw [delay, narrowed, Nat.mod_one, full, Nat.mod_eq_of_lt word] at exact
      exact .inr (.inr ⟨full, by simp only [UInt64.size] at *; omega⟩)
    · -- a narrowed step is too short to wait for the end of the exact one
      have short : c.step.stepMillis + wall.toNat < c.step.millis := lt_millis_sub_of_size_lt wide
      rw [Nat.mod_eq_of_lt (by omega)] at exact
      have le := Nat.mod_le (c.step.stepMillis - wall.toNat % c.step.stepMillis + 1) UInt64.size
      omega
  · rintro (⟨long, fits⟩ | ⟨last, inside⟩ | ⟨full, last⟩)
    · exact lands_of_lt long (by omega) (by omega)
    · exact lands_of_lt (by simp only [UInt64.size] at last; omega) (by omega) (by omega)
    · have narrowed : c.step.stepMillis = 1 := by rw [Duration.stepMillis, full, Nat.mod_self]; rfl
      rw [narrowed, Nat.mod_one] at delay
      have two : (c.nextDelay wall).toNat = 2 := delay
      have inside : wall.toNat % c.step.millis = wall.toNat := Nat.mod_eq_of_lt (by omega)
      refine ⟨by omega, by omega, ?_⟩
      rw [two, full, Nat.div_eq_of_lt word, Nat.div_eq_of_lt_le] <;> simp only [UInt64.size] at * <;> omega

end Lands

section Ticks
variable {c : Configuration} {start : Nat}

/-- No cycle comes before the one before it. -/
lemma tickTime_mono (c : Configuration) (start : Nat) : Monotone (c.tickTime start) :=
  monotone_nat_of_le_succ fun _ => Nat.le_add_right _ _

/-- Each cycle comes in the step after that of the one before. -/
lemma tickTime_div (long : 1 < c.step.millis) (fits : c.step.millis + 1 < UInt64.size) (n : Nat) :
    c.tickTime start n < UInt64.size →
      c.tickTime start (n + 1) / c.step.millis = start / c.step.millis + (n + 1) := by
  induction n with
  | zero =>
    intro inside
    exact next_tick inside
  | succ n ih =>
    intro inside
    have here := ih (Nat.lt_of_le_of_lt (tickTime_mono c start (Nat.le_succ n)) inside)
    rw [← Nat.add_assoc, ← here]
    exact next_tick inside
where
  next_tick {n : Nat} (inside : c.tickTime start n < UInt64.size) :
      c.tickTime start (n + 1) / c.step.millis = c.tickTime start n / c.step.millis + 1 := by
    have lands : c.Lands (UInt64.ofNat (c.tickTime start n)) := lands_of_lt long (by omega) (by omega)
    have next := lands.next
    rw [UInt64.toNat_ofNat_of_lt' inside] at next
    exact next

/-- With steps of a single millisecond every second one is left out. -/
lemma tickTime_of_single (single : c.step.millis = 1) (start n : Nat) :
    c.tickTime start n = start + 2 * n := by
  have one : c.step.stepMillis = 1 := by rw [Duration.stepMillis, single]; rfl
  induction n with
  | zero => rfl
  | succ n ih =>
    rw [tickTime, ih, toNat_nextDelay, one, Nat.mod_one, Nat.mul_succ, ← Nat.add_assoc]
    rfl

end Ticks

/-- Which waits end in the next step: all, for steps of more than one millisecond that leave room in a word of
64 bits for one more. With such a step, cycles that follow each other at just these waits come in one step
after the other without leaving any out, and at each of them an accumulator shows the amounts of exactly the
step that was complete since the cycle before. With steps of one millisecond they come in every second one. -/
theorem ticks_run (c : Configuration) (ok : c.fault? = none) :
    (∀ wall, c.Lands wall ↔
      (1 < c.step.millis ∧ c.step.millis + 1 < UInt64.size) ∨
      (c.step.millis + 1 = UInt64.size ∧ wall.toNat % c.step.millis ≠ 0) ∨
      (c.step.millis = UInt64.size ∧ wall.toNat + 1 = UInt64.size)) ∧
    (1 < c.step.millis → c.step.millis + 1 < UInt64.size →
      ∀ (start n : Nat), c.tickTime start n < UInt64.size →
        let first := start / c.step.millis
        let time := c.tickTime start (n + 1)
        time / c.step.millis = first + (n + 1) ∧
        ∀ (a : Accumulator) (g : Aggregation) (l : Ledger), a.Keeps g c.step.stepMillis l →
          a.step ≤ first + (n + 1) → a.poll time = g.aggregate (l.amountsIn (first + n))) ∧
    (c.step.millis = 1 → ∀ start n, c.tickTime start n = start + 2 * n) := by
  refine ⟨fun wall => lands_iff ok, fun long fits start n inside => ?_, tickTime_of_single⟩
  intro first time
  have step : time / c.step.millis = first + (n + 1) := tickTime_div long fits n inside
  refine ⟨step, fun a g l keeps behind => ?_⟩
  have same : c.step.stepMillis = c.step.millis := stepMillis_of_lt (by omega) (by omega)
  rw [keeps.poll, same, step, Nat.max_eq_right behind, ← Nat.add_assoc, Ledger.amountsBefore_succ]

/-- The schedule of a registry that is left as it comes: from a boundary of a step on, the second cycle shows
what was recorded in the first step after it. -/
theorem ticks_run_default :
    let c : Configuration := {}
    let a : Accumulator := (Accumulator.new .sum 60000 0).record 60001 1.0
    c.fault? = none ∧ c.Lands 0 ∧ c.tickTime 0 2 = 120001 ∧ a.poll (c.tickTime 0 2) = 1.0 := by
  have ok : ({} : Configuration).fault? = none := by rfl
  obtain ⟨lands, run, -⟩ := ticks_run {} ok
  have keeps : ((Accumulator.new .sum 60000 0).record 60001 1.0).Keeps .sum 60000 [⟨1, 1.0⟩] :=
    (Accumulator.keeps_new .sum 60000 0).record 60001 1.0
  obtain ⟨-, shown⟩ := run (by decide) (by decide) 0 1 (by decide)
  refine ⟨ok, (lands 0).2 (.inl ⟨by decide, by decide⟩), by decide, ?_⟩
  exact shown _ .sum _ keeps (by decide)

/-- Configurations that are accepted and do not keep to the schedule. With steps of one millisecond the wait at
zero is two, and what a counter records in between is shown at none of the cycles; with the longest step that
fits a word the wait at zero is empty. -/
theorem ticks_skip :
    let short : Configuration := { step := .ofMillis 1 }
    let long : Configuration := { step := .ofMillis (2 ^ 64 - 1) }
    let a : Accumulator := (Accumulator.new .sum 1 0).record 0 1.0
    short.fault? = none ∧ short.nextDelay 0 = 2 ∧ ¬ short.Lands 0 ∧
      a.poll (short.tickTime 0 0) = 0.0 ∧ a.poll (short.tickTime 0 1) = 0.0 ∧
      Aggregation.sum.aggregate [1.0] = 1.0 ∧
      long.fault? = none ∧ long.nextDelay 0 = 0 ∧ ¬ long.Lands 0 := by
  refine ⟨by rfl, by decide, ?_, by rfl, by rfl, by rfl, by rfl, by decide, ?_⟩
  · intro lands
    exact absurd lands.next (by decide)
  · intro lands
    exact absurd lands.waits (by decide)

end StepMeters.Configuration
