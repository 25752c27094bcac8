import StepMeters.Proofs.Amount.Height

/-!
# Whole numbers as amounts

A whole number is turned into the nearest amount, and up to `2 ^ 53` none is rounded away. Amounts are turned
back into whole numbers by dropping or filling up what follows the point. What is no whole number gives the nearest
end of the words: zero for what is undefined, and the greatest word for infinity.
-/

namespace StepMeters.Amount

open Float.Model (UnpackedFloat Format)
open Float.Model.UnpackedFloat (Sign ExtendedMantissa)

section Shift
variable {n : ℕ}

/-- Digits of zero at the end make no difference. -/
lemma valueOf_shiftLeft_sub (n k : ℕ) (e : ℤ) : valueOf (n <<< k) (e - k) = valueOf n e := by
  rw [valueOf, valueOf, Nat.shiftLeft_eq, Nat.cast_mul, Nat.cast_pow, Nat.cast_two, zpow_sub₀ two_ne_zero, zpow_natCast]
  field_simp

/-- The value of a mantissa without an exponent is the mantissa. -/
lemma valueOf_zero (n : ℕ) : valueOf n 0 = n := by
  rw [valueOf, zpow_zero, mul_one]

/-- Digits that are appended and then counted as fractions change no value. -/
lemma valueOf_shiftLeft (n k : ℕ) : valueOf (n <<< k) (-k) = n := by
  rw [← zero_sub, valueOf_shiftLeft_sub, valueOf_zero]

/-- Appending digits keeps a number above zero. -/
lemma shiftLeft_pos (pos : 0 < n) (k : ℕ) : 0 < n <<< k := by
  rw [Nat.shiftLeft_eq]
  exact Nat.mul_pos pos (Nat.two_pow_pos k)

/-- Appending digits adds as many to the length of a number. -/
lemma log2_shiftLeft (pos : 0 < n) (k : ℕ) : (n <<< k).log2 = n.log2 + k := by
  have same : valueOf (n <<< k) (-k) = valueOf n 0 := by rw [valueOf_shiftLeft, valueOf_zero]
  have := log_le_log (shiftLeft_pos pos k) pos same.le
  have := log_le_log pos (shiftLeft_pos pos k) same.ge
  omega

/-- A whole number up to `2 ^ 53` has a form that is kept. -/
lemma exists_canonical (pos : 0 < n) (le : n ≤ 2 ^ 53) :
    ∃ m e, 0 < m ∧ IsCanonical m e ∧ e ≤ 971 ∧ valueOf m e = n := by
  rcases le.lt_or_eq with lt | rfl
  · have few := (Nat.log2_lt pos.ne').2 lt
    have digits := log2_shiftLeft pos (52 - n.log2)
    have pos' := shiftLeft_pos pos (52 - n.log2)
    refine ⟨n <<< (52 - n.log2), -(52 - n.log2 : ℕ), pos', ⟨?_, by omega, .inl ?_⟩, by omega,
      valueOf_shiftLeft _ _⟩
    · exact (Nat.log2_lt pos'.ne').1 (by omega)
    · exact (Nat.le_log2 pos'.ne').1 (by omega)
  · refine ⟨2 ^ 52, 1, by decide, ⟨by decide, by decide, .inl le_rfl⟩, by decide, ?_⟩
    rw [valueOf]
    norm_num

end Shift

section Conversion
variable {x : Float} {n : ℕ}

/-- One as a mantissa of full length. -/
lemma valueOf_one : valueOf (2 ^ 52) (-52) = 1 := by
  rw [valueOf]
  norm_num

/-- The amount one is unpacked to a mantissa of full length. -/
lemma unpack_one : (1.0 : Float).toModel.unpack = .finite .positive (2 ^ 52) (-52) (by decide) := by
  rfl

/-- Multiplying by one leaves an amount as it is. -/
lemma unpack_mul_one (nonneg : 0.0 ≤ x) : (x * 1.0).toModel.unpack = x.toModel.unpack := by
  have unfold := unpack_mul x 1.0
  cases unpacks_of_nonneg (zero_le_iff.1 nonneg) with
  | zero s h =>
    rw [unfold, h, unpack_one]
    cases s <;> rfl
  | finite m e pos h height canonical bound =>
    have product := rounds_mul h unpack_one
    rw [valueOf_one, mul_one] at product
    rw [product.unpack_eq pos canonical bound, h]
  | infinity h =>
    rw [unfold, h, unpack_one]
    rfl

/-- An amount that is at least zero equals itself times one. -/
lemma mul_one_beq (nonneg : 0.0 ≤ x) : (x * 1.0 == x) = true := by
  have same := unpack_mul_one nonneg
  have defined := (isNaN_of_le nonneg).2
  refine beq_iff.2 ⟨?_, defined, congrArg unpackedPlace same⟩
  exact (congrArg UnpackedFloat.isNaN same).trans defined

/-- No whole number up to `2 ^ 53` is rounded away. -/
lemma Rounds.unpack_of_natCast (h : Rounds x n) (pos : 0 < n) (le : n ≤ 2 ^ 53) :
    ∃ m e, ∃ p : 0 < m, x.toModel.unpack = .finite .positive m e p ∧ valueOf m e = n := by
  obtain ⟨m, e, p, canonical, bound, value⟩ := exists_canonical pos le
  rw [← value] at h
  exact ⟨m, e, p, h.unpack_eq p canonical bound, value⟩

/-- Mantissa and exponent of any length are made into the nearest amount. -/
lemma rounds_of_normalize {e : ℤ} (pos : 0 < n)
    (h : x.toModel.unpack = (Float.Model.pack (UnpackedFloat.normalize .binary64 n e .positive)).unpack) :
    Rounds x (valueOf n e) := by
  have above : compare (n : ℤ) 0 = .gt := compare_gt_iff_gt.2 (by omega)
  refine ⟨n <<< (e - target n e).toNat, e - (e - target n e).toNat, shiftLeft_pos pos _, ?_,
    valueOf_shiftLeft_sub _ _ _, ?_⟩
  · rw [IsLong, target, target, log2_shiftLeft pos]
    omega
  · rw [h, UnpackedFloat.normalize, above]
    dsimp only
    rw [UnpackedFloat.round, targetExponent_eq, Int.toNat_natCast]
    rfl

/-- A word above zero becomes the nearest amount. -/
lemma rounds_toFloat {n : UInt64} (pos : 0 < n.toNat) : Rounds n.toFloat n.toNat := by
  have rounds : Rounds n.toFloat (valueOf n.toNat 0) := rounds_of_normalize pos rfl
  rwa [valueOf_zero] at rounds

/-- A whole number above zero becomes the nearest amount. -/
lemma rounds_ofNat (pos : 0 < n) : Rounds (Float.ofNat n) n := by
  show Rounds (Float.ofScientific n false 0) n
  rw [Float.ofScientific]
  split
  · -- a short number is converted as a word, and multiplied by one
    rename_i short
    have word : n.toUInt64.toNat = n := by
      rw [UInt64.toNat_ofNat']
      omega
    obtain ⟨m, e, p, unpacked, value⟩ :=
      (rounds_toFloat (n := n.toUInt64) (by omega)).unpack_of_natCast (by omega) (by omega)
    have product := rounds_mul unpacked unpack_one
    rw [value, word, valueOf_one, mul_one] at product
    exact product
  · refine ⟨n <<< 53 * 10 ^ 0, -53 + 0, ?_, ?_, ?_, ?_⟩
    · rw [pow_zero, mul_one]
      exact shiftLeft_pos pos 53
    · rw [pow_zero, mul_one, IsLong, target, log2_shiftLeft pos]
      omega
    · rw [pow_zero, mul_one, add_zero]
      exact valueOf_shiftLeft n 53
    · have range : ¬(0 : ℤ) < -(2 ^ 11 + n.log2) := by omega
      show (Float.Model.ofScientific n 0).unpack = _
      rw [Float.Model.ofScientific, UnpackedFloat.ofScientific]
      rw [dif_neg pos.ne', if_neg (by decide), if_neg range, if_pos (by decide)]
      rfl

/-- The number zero becomes the amount zero. -/
lemma ofNat_zero : Float.ofNat 0 = 0.0 := by decide

/-- Whole numbers as amounts keep their order. -/
lemma ofNat_le_ofNat {n n' : ℕ} (le : n ≤ n') : Float.ofNat n ≤ Float.ofNat n' := by
  rcases Nat.eq_zero_or_pos n with rfl | pos
  · rw [ofNat_zero, zero_le_iff]
    rcases Nat.eq_zero_or_pos n' with rfl | pos'
    · rw [ofNat_zero, height_zero]
    · exact (rounds_ofNat pos').height_nonneg
  · exact (rounds_ofNat pos).le (rounds_ofNat (by omega)) (by exact_mod_cast le)

end Conversion

section Floor
variable {x : Float} {n : ℕ}

/-- The mantissa that is left of a number is its whole part. -/
lemma Tells.floor_eq {em : ExtendedMantissa} {v : ℚ} (h : Tells em v) : ⌊v⌋₊ = em.mantissa := by
  have nonneg : 0 ≤ v := (Nat.cast_nonneg em.mantissa).trans h.mantissa_le
  exact (Nat.floor_eq_iff nonneg).2 ⟨h.mantissa_le, h.lt_mantissa⟩

/-- Cutting off the fraction of an unpacked number gives its whole part. -/
lemma roundToInt_eq (m : ℕ) (e : ℤ) : UnpackedFloat.roundToInt .positive m e = ⌊valueOf m e⌋₊ := by
  have told := (tells_exact (m <<< (e - 0).toNat)).shiftRight (0 - (e - ((e - 0).toNat : ℤ))).toNat
  have value : ((m <<< (e - 0).toNat : ℕ) : ℚ) / 2 ^ (0 - (e - ((e - 0).toNat : ℤ))).toNat = valueOf m e := by
    rw [valueOf, Nat.shiftLeft_eq, Nat.cast_mul, Nat.cast_pow, Nat.cast_two, ← zpow_natCast, ← zpow_natCast,
      mul_div_assoc, ← zpow_sub₀ two_ne_zero]
    congr 2
    omega
  rw [value] at told
  rw [told.floor_eq]
  rfl

/-- A word made of an amount is the whole number below it, or the greatest word. -/
lemma toNat_toUInt64 {m : ℕ} {e : ℤ} {p : 0 < m} (h : x.toModel.unpack = .finite .positive m e p) :
    x.toUInt64.toNat = min ⌊valueOf m e⌋₊ (UInt64.size - 1) := by
  show (UInt64.ofNatClamp (x.toModel.unpack.toInt 0 (UInt64.size - 1)).toNat).toNat = _
  rw [h, UnpackedFloat.toInt, roundToInt_eq, Int.toNat_natCast, UInt64.ofNatClamp]
  split
  · rename_i lt
    rw [UInt64.toNat_ofNatLT]
    omega
  · rw [min_eq_right (by omega)]
    rfl

/-- Infinity becomes the greatest word. -/
lemma toNat_toUInt64_of_infinity (h : x.toModel.unpack = .infinity .positive) :
    x.toUInt64.toNat = UInt64.size - 1 := by
  show (UInt64.ofNatClamp (x.toModel.unpack.toInt 0 (UInt64.size - 1)).toNat).toNat = _
  rw [h]
  rfl

/-- Undefined amounts become the word zero. -/
lemma toUInt64_of_isNaN (h : x.toModel.unpack = .notANumber) : x.toUInt64 = 0 := by
  show UInt64.ofNatClamp (x.toModel.unpack.toInt 0 (UInt64.size - 1)).toNat = _
  rw [h]
  rfl

/-- Both zeros become the word zero. -/
lemma toUInt64_of_zero {s : Sign} (h : x.toModel.unpack = .zero s) : x.toUInt64 = 0 := by
  show UInt64.ofNatClamp (x.toModel.unpack.toInt 0 (UInt64.size - 1)).toNat = _
  rw [h]
  rfl

/-- The least whole number not below an amount is at most any whole number above it. -/
lemma toNat_ceiling_le {m : ℕ} {e : ℤ} {p : 0 < m} (h : x.toModel.unpack = .finite .positive m e p)
    (lt : valueOf m e < n) : (ceiling x).toNat ≤ n := by
  have floor : x.toUInt64.toNat < n := by
    rw [toNat_toUInt64 h]
    exact (min_le_left _ _).trans_lt ((Nat.floor_lt (valueOf_pos p e).le).2 lt)
  unfold ceiling
  dsimp only
  split
  · rename_i more
    rw [Bool.and_eq_true, decide_eq_true_iff, decide_eq_true_iff] at more
    rw [UInt64.toNat_add, UInt64.toNat_one, Nat.mod_eq_of_lt more.2]
    exact floor
  · exact floor.le

end Floor

end StepMeters.Amount
