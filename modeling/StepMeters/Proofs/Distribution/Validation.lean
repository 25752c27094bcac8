import Mathlib.Tactic.Lemma
import StepMeters.Distribution.Validation

/-!
# What accepted settings promise

Settings are refused for the first of a list of reasons. They are accepted just if none of the reasons applies
(`Settings.fault?_eq_none_iff`), so every bound that is checked may be read off (`Settings.IsValid`). The check of
the expiry against the number of phases is done without a limit; what is later counted in 64 bits is the expiry
cut down to a word. The phases are not too fine even so (`Settings.million_le_cappedNanos_div`), because they
are numbered by 32 bits.
-/

namespace StepMeters.Distribution.Settings
variable {s : Settings}

/-- No reason to refuse settings applies. -/
structure IsValid (s : Settings) : Prop where
  percentiles : ∀ part ∈ s.percentiles, isPart part = true
  minimum : isAboveZero s.minimum = true
  maximum : s.maximum.isNaN = false ∧ ¬s.maximum < s.minimum
  objectives : ∀ b ∈ s.objectives, isAboveZero b = true
  precision : s.precision ≤ 5
  bufferLength_pos : 0 < s.bufferLength
  bufferLength_lt : s.bufferLength < UInt32.size
  evenPhaseNanos : 1000000 ≤ s.evenPhaseNanos

/-- Phases are not too fine if 32 bits number them and each takes a millisecond. -/
lemma isTooFine_eq_false_iff :
    s.isTooFine = false ↔ s.bufferLength < UInt32.size ∧ 1000000 ≤ s.evenPhaseNanos := by
  simp [isTooFine]

/-- Settings are without a fault just if they are valid. -/
lemma fault?_eq_none_iff : s.fault? = none ↔ s.IsValid := by
  simp only [fault?, Option.orElse_eq_orElse, Option.orElse_eq_or, Option.or_eq_none_iff, Option.map_eq_none_iff,
    List.find?_eq_none, ite_eq_left_iff, ite_eq_right_iff, reduceCtorEq, imp_false, Bool.not_eq_true,
    Bool.not_eq_false, Bool.not_eq_true', Bool.or_eq_false_iff, decide_eq_false_iff_not, Nat.not_lt,
    isTooFine_eq_false_iff]
  constructor
  · rintro ⟨percentiles, minimum, maximum, objectives, precision, some, few, long⟩
    exact ⟨percentiles, minimum, maximum, objectives, precision, Nat.pos_of_ne_zero some, few, long⟩
  · intro h
    exact ⟨h.percentiles, h.minimum, h.maximum, h.objectives, h.precision, Nat.ne_of_gt h.bufferLength_pos,
      h.bufferLength_lt, h.evenPhaseNanos⟩

/-- The share of a phase in the expiry is a millisecond at least, also if the expiry is cut down to a word. -/
lemma IsValid.million_le_cappedNanos_div (h : s.IsValid) : 1000000 ≤ s.expiry.cappedNanos / s.bufferLength := by
  have even := (Nat.le_div_iff_mul_le h.bufferLength_pos).1 h.evenPhaseNanos
  have few := h.bufferLength_lt
  have word : 1000000 * s.bufferLength ≤ UInt64.size - 1 := by
    simp only [UInt32.size, UInt64.size] at few ⊢
    omega
  exact (Nat.le_div_iff_mul_le h.bufferLength_pos).2 (Nat.le_min.2 ⟨even, word⟩)

end StepMeters.Distribution.Settings
