import Mathlib
import StepMeters.Decimal.Positional

/-!
# Reading a decimal

A decimal that is written out says what number it stands for: the digits before the point count whole ones, those
behind it parts (`read_text`). Zeros may be put before the first and behind the last place without any difference.
-/

namespace StepMeters.Decimal

/-- The number that a decimal stands for. -/
def value (d : Decimal) : ℚ := d.digits * 10 ^ d.exponent

/-- The number that digits with a point between them stand for. -/
def read (text : List Char) : ℚ :=
  let fraction := (text.dropWhile (· != '.')).tail
  Nat.ofDigitChars 10 (text.takeWhile (· != '.')) 0 + Nat.ofDigitChars 10 fraction 0 / 10 ^ fraction.length

/-- The number that digits before a point and digits behind it stand for. -/
def number (whole fraction : List Char) : ℚ :=
  Nat.ofDigitChars 10 whole 0 + Nat.ofDigitChars 10 fraction 0 / 10 ^ fraction.length

section Text
variable {text : List Char}

/-- A text without a point stands for a whole number. -/
lemma read_whole (whole : '.' ∉ text) : read text = Nat.ofDigitChars 10 text 0 := by
  have plain : ∀ c ∈ text, (c != '.') = true := fun c mem => bne_iff_ne.2 (ne_of_mem_of_not_mem mem whole)
  rw [read, List.takeWhile_eq_self_iff.2 plain, List.dropWhile_eq_nil_iff.2 plain]
  simp [Nat.ofDigitChars_nil]

/-- A text with a point stands for what its digits before and behind it do. -/
lemma read_point (whole : '.' ∉ text) (fraction : List Char) :
    read (text ++ '.' :: fraction) = number text fraction := by
  have plain : ∀ c ∈ text, (c != '.') = true := fun c mem => bne_iff_ne.2 (ne_of_mem_of_not_mem mem whole)
  rw [read, List.takeWhile_append_of_pos plain, List.dropWhile_append_of_pos plain]
  simp [number]

/-- The digits of two lists, one after the other. -/
lemma ofDigitChars_append_zero (whole fraction : List Char) :
    (Nat.ofDigitChars 10 (whole ++ fraction) 0 : ℚ) / 10 ^ fraction.length
      = Nat.ofDigitChars 10 whole 0 + Nat.ofDigitChars 10 fraction 0 / 10 ^ fraction.length := by
  rw [Nat.ofDigitChars_append, Nat.ofDigitChars_eq_ofDigitChars_zero]
  push_cast
  rw [add_div, mul_div_cancel_left₀ _ (pow_ne_zero _ (by norm_num))]

/-- The zeros at the end of a fraction add nothing to it. -/
lemma ofDigitChars_append_zeros (fraction : List Char) (n : ℕ) :
    (Nat.ofDigitChars 10 (fraction ++ List.replicate n '0') 0 : ℚ) / 10 ^ (fraction ++ List.replicate n '0').length
      = Nat.ofDigitChars 10 fraction 0 / 10 ^ fraction.length := by
  rw [Nat.ofDigitChars_append, Nat.ofDigitChars_replicate_zero, List.length_append, List.length_replicate, pow_add]
  push_cast
  rw [mul_comm, mul_div_mul_right _ _ (pow_ne_zero _ (by norm_num))]

/-- The zeros that are dropped at the end can be put back. -/
lemma exists_append_zeros (fraction : List Char) :
    ∃ n, (fraction.reverse.dropWhile (· == '0')).reverse ++ List.replicate n '0' = fraction := by
  have zeros : ∀ c ∈ fraction.reverse.takeWhile (· == '0'), c = '0' := by
    intro c mem
    have zero := List.mem_takeWhile_imp mem
    exact beq_iff_eq.1 zero
  refine ⟨(fraction.reverse.takeWhile (· == '0')).length, ?_⟩
  rw [← List.reverse_replicate, ← List.eq_replicate_of_mem zeros, ← List.reverse_append,
    List.takeWhile_append_dropWhile, List.reverse_reverse]

/-- How many places stand behind the point, before zeros at the end are dropped. -/
def places (d : Decimal) : ℕ := (-d.exponent).toNat

/-- The digits of a decimal with enough zeros before and behind them to reach the point. -/
def padded (d : Decimal) : List Char :=
  List.replicate (d.places + 1 - (Nat.toDigits 10 d.digits).length) '0' ++ Nat.toDigits 10 d.digits
    ++ List.replicate d.exponent.toNat '0'

/-- The digits before the point. -/
def whole (d : Decimal) : List Char := d.padded.take (d.padded.length - d.places)

/-- The digits behind the point without the zeros at the end. -/
def fraction (d : Decimal) : List Char :=
  ((d.padded.drop (d.padded.length - d.places)).reverse.dropWhile (· == '0')).reverse

/-- A decimal is written with a point just if there are digits behind it. -/
lemma text_eq (d : Decimal) : d.text = if d.fraction.isEmpty then d.whole else d.whole ++ '.' :: d.fraction := rfl

/-- There are more digits than places behind the point. -/
lemma places_lt_length (d : Decimal) : d.places < d.padded.length := by
  simp only [padded, List.length_append, List.length_replicate]
  omega

/-- Zeros are digits. -/
lemma isDigit_of_mem_zeros {n : ℕ} : ∀ c ∈ List.replicate n '0', c.isDigit := by
  intro c mem
  rw [List.eq_of_mem_replicate mem]
  decide

/-- The padded digits are digits. -/
lemma isDigit_of_mem_padded (d : Decimal) : ∀ c ∈ d.padded, c.isDigit := by
  have digits : ∀ c ∈ Nat.toDigits 10 d.digits, c.isDigit :=
    fun c mem => Nat.isDigit_of_mem_toDigits (by decide) (by decide) mem
  exact List.forall_mem_append.2 ⟨List.forall_mem_append.2 ⟨isDigit_of_mem_zeros, digits⟩, isDigit_of_mem_zeros⟩

/-- The zeros that a fraction drops are all that is missing from the digits. -/
lemma exists_padded_eq (d : Decimal) : ∃ n, d.whole ++ (d.fraction ++ List.replicate n '0') = d.padded ∧
    (d.fraction ++ List.replicate n '0').length = d.places := by
  obtain ⟨n, zeros⟩ := exists_append_zeros (d.padded.drop (d.padded.length - d.places))
  change d.fraction ++ List.replicate n '0' = _ at zeros
  have := d.places_lt_length
  refine ⟨n, ?_, ?_⟩
  · rw [zeros]
    exact List.take_append_drop _ _
  · rw [zeros, List.length_drop]
    omega

/-- What stands before and behind the point are digits. -/
lemma isDigit_of_mem (d : Decimal) : ∀ c ∈ d.whole ++ d.fraction, c.isDigit := by
  intro c mem
  obtain ⟨n, padded, -⟩ := d.exists_padded_eq
  refine d.isDigit_of_mem_padded c ?_
  rw [← padded, ← List.append_assoc]
  exact List.mem_append_left _ mem

/-- There is a digit before the point. -/
lemma whole_ne_nil (d : Decimal) : d.whole ≠ [] := by
  have := d.places_lt_length
  refine List.ne_nil_of_length_pos ?_
  rw [whole, List.length_take]
  omega

/-- The digits before and behind the point stand for the decimal. -/
lemma number_eq (d : Decimal) : number d.whole d.fraction = d.value := by
  obtain ⟨n, split, length⟩ := d.exists_padded_eq
  have digits : Nat.ofDigitChars 10 d.padded 0 = d.digits * 10 ^ d.exponent.toNat := by
    simp [padded, Nat.ofDigitChars_append, Nat.ofDigitChars_replicate_zero, Nat.ofDigitChars_ten_toDigits, mul_comm]
  rw [number, ← ofDigitChars_append_zeros _ n, ← ofDigitChars_append_zero, split, digits, length, value, places]
  push_cast
  rw [mul_div_assoc, ← zpow_natCast, ← zpow_natCast, ← zpow_sub₀ (by norm_num)]
  congr 2
  omega

/-- A decimal that is written out reads as the number that it stands for. -/
lemma read_text (d : Decimal) : read d.text = d.value := by
  have plain : '.' ∉ d.whole := fun mem => absurd (d.isDigit_of_mem '.' (List.mem_append_left _ mem)) (by decide)
  rw [text_eq, ← number_eq]
  split
  · rename_i none
    rw [read_whole plain, List.isEmpty_iff.1 none]
    simp [number, Nat.ofDigitChars_nil]
  · exact read_point plain d.fraction

/-- The text of a decimal begins with a digit. -/
lemma exists_cons_text (d : Decimal) : ∃ c rest, c.isDigit ∧ d.text = c :: rest := by
  obtain ⟨c, rest, e⟩ := List.exists_cons_of_ne_nil d.whole_ne_nil
  have digits := d.isDigit_of_mem
  refine ⟨c, if d.fraction.isEmpty then rest else rest ++ '.' :: d.fraction, digits c (by simp [e]), ?_⟩
  rw [text_eq, e]
  split <;> rfl

end Text

end StepMeters.Decimal
