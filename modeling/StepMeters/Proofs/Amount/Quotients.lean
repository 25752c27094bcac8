import StepMeters.Proofs.Amount.Height

/-!
# Quotients of amounts

The digits of a quotient may have no end. Division finds enough of them, and what is left over tells on which side
of the half the rest is (`tells_fraction`). So a quotient is the nearest amount to the exact one
(`isNearest_div`), just as a product is.
-/

namespace StepMeters.Amount

open Float.Model (UnpackedFloat Format totalExponent)
open Float.Model.UnpackedFloat (Accuracy ExtendedMantissa accuracyOfFraction divCore)

/-- Quotient and remainder tell the exact quotient. -/
lemma tells_fraction {a b : ℕ} (pos : 0 < b) :
    Tells (.ofMantissaAndAccuracy (a / b) (accuracyOfFraction (a % b) b)) ((a : ℚ) / b) := by
  have divisor : (0 : ℚ) < b := by exact_mod_cast pos
  have split : (a : ℚ) / b = (a / b : ℕ) + (a % b : ℕ) / b := by
    rw [div_eq_iff divisor.ne', add_mul, div_mul_cancel₀ _ divisor.ne', mul_comm]
    exact_mod_cast (Nat.div_add_mod a b).symm
  have rest : ((a % b : ℕ) : ℚ) / b < 1 := (div_lt_one divisor).2 (by exact_mod_cast Nat.mod_lt a pos)
  rw [split, accuracyOfFraction]
  by_cases none : a % b = 0
  · rw [if_pos none, none, Nat.cast_zero, zero_div, add_zero]
    exact tells_exact _
  · have some : (0 : ℚ) < (a % b : ℕ) / b := div_pos (by exact_mod_cast Nat.pos_of_ne_zero none) divisor
    rw [if_neg none]
    -- the rest of the division tells on which side of one half the fraction lies
    rcases lt_trichotomy (2 * (a % b)) b with less | half | more
    · have below : ((a % b : ℕ) : ℚ) / b < 1 / 2 := by
        rw [div_lt_div_iff₀ divisor two_pos]
        have : ((2 * (a % b) : ℕ) : ℚ) < b := by exact_mod_cast less
        push_cast at this
        linarith
      rw [compare_lt_iff_lt.2 less]
      show low _ < _ ∧ _ < low _ + 1 / 2
      constructor <;> norm_num [low, ExtendedMantissa.ofMantissaAndAccuracy] <;> linarith
    · have exactly : ((a % b : ℕ) : ℚ) / b = 1 / 2 := by
        rw [div_eq_div_iff divisor.ne' two_ne_zero]
        have : ((2 * (a % b) : ℕ) : ℚ) = b := by exact_mod_cast half
        push_cast at this
        linarith
      rw [compare_eq_iff_eq.2 half, exactly]
      show _ = low _
      norm_num [low, ExtendedMantissa.ofMantissaAndAccuracy]
    · have above : 1 / 2 < ((a % b : ℕ) : ℚ) / b := by
        rw [div_lt_div_iff₀ two_pos divisor]
        have : (b : ℚ) < (2 * (a % b) : ℕ) := by exact_mod_cast more
        push_cast at this
        linarith
      rw [compare_gt_iff_gt.2 more]
      show low _ < _ ∧ _ < low _ + 1 / 2
      constructor <;> norm_num [low, ExtendedMantissa.ofMantissaAndAccuracy] <;> linarith

section Division
variable {m m' : ℕ} {e e' : ℤ}

/-- The exponents and lengths of two numbers bound their quotient from below. -/
lemma two_pow_sub_le_div (pos : 0 < m) (pos' : 0 < m') (e e' : ℤ) :
    (2 : ℚ) ^ ((m.log2 : ℤ) + e - (m'.log2 + e') - 1) ≤ valueOf m e / valueOf m' e' := by
  rw [le_div_iff₀ (valueOf_pos pos' e')]
  calc (2 : ℚ) ^ ((m.log2 : ℤ) + e - (m'.log2 + e') - 1) * valueOf m' e'
      ≤ 2 ^ ((m.log2 : ℤ) + e - (m'.log2 + e') - 1) * 2 ^ ((m'.log2 : ℤ) + 1 + e') :=
        mul_le_mul_of_nonneg_left (valueOf_lt_two_pow m' e').le (zpow_pos two_pos _).le
    _ = 2 ^ ((m.log2 : ℤ) + e) := by
        rw [← zpow_add₀ two_ne_zero]
        congr 1
        ring
    _ ≤ valueOf m e := two_pow_log2_le pos e

/-- The exponent at which division stops is low enough for rounding. -/
lemma exponent_divCore (m m' : ℕ) (e e' : ℤ) : (divCore .binary64 m e m' e').2.1 =
    min (e - e') (max ((m.log2 : ℤ) + e - (m'.log2 + e') - 53) (-1074)) := by
  show min (e - e') (Format.binary64.targetExponent _) = _
  simp only [Format.targetExponent, totalExponent, Format.mantissaBits, Format.minExponent]
  norm_num
  ring_nf

/-- What division finds tells the exact quotient, down to an exponent that is low enough for rounding. -/
lemma leaves_divCore (pos : 0 < m) (pos' : 0 < m') (e e' : ℤ) :
    let found := divCore .binary64 m e m' e'
    let v := valueOf m e / valueOf m' e'
    Tells (.ofMantissaAndAccuracy found.1 found.2.2) (v / 2 ^ found.2.1) ∧ found.2.1 ≤ exponentOf v := by
  intro found v
  have exponent : found.2.1 = min (e - e') (max ((m.log2 : ℤ) + e - (m'.log2 + e') - 53) (-1074)) :=
    exponent_divCore m m' e e'
  have positive : 0 < v := div_pos (valueOf_pos pos e) (valueOf_pos pos' e')
  constructor
  · have value : v / 2 ^ found.2.1 = ((m <<< (e - e' - found.2.1).toNat : ℕ) : ℚ) / m' := by
      have powers : (2 : ℚ) ^ (e - e' - found.2.1).toNat = 2 ^ e / 2 ^ e' / 2 ^ found.2.1 := by
        rw [← zpow_natCast, ← zpow_sub₀ two_ne_zero, ← zpow_sub₀ two_ne_zero]
        congr 1
        omega
      rw [Nat.shiftLeft_eq, Nat.cast_mul, Nat.cast_pow, Nat.cast_two, powers]
      show (m : ℚ) * 2 ^ e / (m' * 2 ^ e') / 2 ^ found.2.1 = _
      field_simp
    rw [value]
    exact tells_fraction pos'
  · have log : (m.log2 : ℤ) + e - (m'.log2 + e') - 1 < Int.log 2 v + 1 := by
      rw [← zpow_lt_zpow_iff_right₀ (one_lt_two : (1 : ℚ) < 2)]
      exact (two_pow_sub_le_div pos pos' e e').trans_lt (lt_two_pow_log v)
    rw [exponent, exponentOf]
    omega

/-- The quotient of two numbers is the nearest amount to the quotient of their values. -/
lemma isNearest_div {x y : Float} {pos : 0 < m} {pos' : 0 < m'}
    (h : x.toModel.unpack = .finite .positive m e pos) (h' : y.toModel.unpack = .finite .positive m' e' pos') :
    IsNearest (x / y) (valueOf m e / valueOf m' e') := by
  obtain ⟨tells, long⟩ := leaves_divCore pos pos' e e'
  obtain ⟨left, exponent⟩ := leaves_shift (div_pos (valueOf_pos pos e) (valueOf_pos pos' e')) tells long
  refine ⟨_, left, ?_⟩
  rw [← roundWithAccuracy_eq .positive rfl left exponent, unpack_div, h, h']
  rfl

end Division

end StepMeters.Amount
