import StepMeters.Proofs.Amount.Arithmetic

/-!
# Parts of whole numbers

Multiplying a whole number by a part of one rounds twice, the number and the product. Nevertheless the result,
filled up to a whole number, is not more than the number (`toNat_ceiling_mul_le`): the part is at least one step
below one, and so the product is at least one step below the rounded number (`mul_lt_of_lt_one`).
-/

namespace StepMeters.Amount

open Float.Model (UnpackedFloat)
open Float.Model.UnpackedFloat (ExtendedMantissa)

section Part
variable {q x y : Float} {n m : ℕ} {e : ℤ} {p : 0 < m}

/-- An amount between zero and one stays below one by `1 / 2 ^ 53` at least. -/
lemma valueOf_le_of_lt_one (pos : 0.0 < q) (lt : q < 1.0) (h : q.toModel.unpack = .finite .positive m e p) :
    valueOf m e ≤ 1 - 1 / 2 ^ 53 := by
  have levels := height_lt_height (le_of_lt pos) lt
  rw [height, height, h, unpack_one] at levels
  have before : level m e ≤ level (2 ^ 53 - 1) (-53) := by
    change level m e < level (2 ^ 52) (-52) at levels
    rw [level, level] at levels ⊢
    norm_num at levels ⊢
    omega
  refine ((isCanonical_of_unpack h).1.valueOf_le ⟨by decide, by decide, .inl (by decide)⟩ before).trans_eq ?_
  rw [valueOf]
  norm_num

/-- What stays one step of the last digit of all numbers below a number is rounded below it, unless the number is a
power of two. -/
lemma Leaves.level_lt_of_digits {em : ExtendedMantissa} {v : ℚ} (left : Leaves em v) (canonical : IsCanonical m e)
    (more : 2 ^ 52 < m) (part : v ≤ (m - m / 2 ^ 53) * 2 ^ e) :
    level em.roundedMantissa (exponentOf v) < level m e := by
  have unit : (0 : ℚ) < 2 ^ e := zpow_pos two_pos e
  have some : 0 < m := by omega
  -- the part stays clear of the half below the number
  have half : (m : ℚ) - m / 2 ^ 53 < (m - 1 : ℕ) + 1 / 2 := by
    have : ((2 ^ 52 : ℕ) : ℚ) < m := by exact_mod_cast more
    rw [Nat.cast_sub some, Nat.cast_one]
    push_cast at this
    linarith
  have whole : v ≤ valueOf m e := by
    refine part.trans (mul_le_mul_of_nonneg_right ?_ unit.le)
    have : (0 : ℚ) ≤ m / 2 ^ 53 := by positivity
    linarith
  have exponents : exponentOf v ≤ e := (exponentOf_mono left.pos whole).trans_eq (canonical.exponentOf_eq some)
  rcases exponents.lt_or_eq with less | same
  · have := left.roundedMantissa_le
    rw [level, level]
    omega
  · have told := left.tells
    rw [same] at told ⊢
    have := told.roundedMantissa_le_of_lt (((div_le_iff₀ unit).2 part).trans_lt half)
    rw [level, level]
    omega

/-- Below a power of two the numbers are closer, and what stays one of their steps below it is rounded at most to the
next one. -/
lemma Leaves.level_lt_of_two_pow {em : ExtendedMantissa} {v : ℚ} (left : Leaves em v) (normal : -1074 < e)
    (part : v ≤ ((2 ^ 52 : ℕ) - (2 ^ 52 : ℕ) / 2 ^ 53) * 2 ^ e) :
    level em.roundedMantissa (exponentOf v) < level (2 ^ 52) e := by
  have next : IsCanonical (2 ^ 53 - 1) (e - 1) := ⟨by decide, by omega, .inl (by decide)⟩
  obtain ⟨left', -⟩ := leaves_shift_exact (by decide) next.isLong
  have le : v ≤ valueOf (2 ^ 53 - 1) (e - 1) := by
    refine part.trans_eq ?_
    rw [valueOf, zpow_sub₀ two_ne_zero]
    norm_num
    ring
  have levels := left.level_mono left' le
  rw [left'.roundedMantissa_of_canonical (by decide) next, next.exponentOf_eq (by decide)] at levels
  refine levels.trans_lt ?_
  rw [level, level]
  norm_num
  omega

/-- A part of a number with all its digits is less than the number, although it is rounded. -/
lemma mul_lt_of_lt_one (pos : 0.0 < q) (lt : q < 1.0) (h : y.toModel.unpack = .finite .positive m e p)
    (normal : -1074 < e) : height (q * y) < height y := by
  obtain ⟨k, f, p', hq⟩ := exists_finite_of_lt pos lt
  obtain ⟨canonical, bound⟩ := isCanonical_of_unpack h
  have digits : 2 ^ 52 ≤ m := canonical.full.resolve_right normal.ne'
  have part : valueOf k f * valueOf m e ≤ (m - m / 2 ^ 53) * 2 ^ e := by
    refine (mul_le_mul_of_nonneg_right (valueOf_le_of_lt_one pos lt hq) (valueOf_pos p e).le).trans_eq ?_
    rw [valueOf]
    ring
  obtain ⟨em, left, unpacked⟩ := (rounds_mul hq h).isNearest
  have heights : height y = level m e := congrArg unpackedHeight h
  rw [height, unpacked, unpackedHeight_carried left, heights]
  refine (min_le_left _ _).trans_lt ?_
  rcases digits.lt_or_eq with more | rfl
  · exact left.level_lt_of_digits canonical more part
  · exact left.level_lt_of_two_pow normal part

/-- What equals zero is unpacked to one of the two zeros. -/
lemma unpack_of_beq_zero (zero : (q == 0.0) = true) : ∃ sign, q.toModel.unpack = .zero sign := by
  obtain ⟨le, ge⟩ := le_of_beq zero
  have least := zero_le_iff.1 ge
  have most : height q ≤ 0 := height_zero ▸ (le_iff_height least).1 le
  cases unpacks_of_nonneg least with
  | zero sign h => exact ⟨sign, h⟩
  | finite m e p h height canonical => exact absurd (canonical.level_pos p) (by omega)
  | infinity h height => exact absurd infinity_pos (by omega)

/-- Nothing is filled up to nothing, and so is what is undefined. -/
lemma ceiling_of_zero (h : (∃ sign, x.toModel.unpack = .zero sign) ∨ x.toModel.unpack = .notANumber) :
    ceiling x = 0 := by
  have word : x.toUInt64 = 0 := by
    rcases h with ⟨sign, zero⟩ | undefined
    · exact toUInt64_of_zero zero
    · exact toUInt64_of_isNaN undefined
  have least : ¬(0 : UInt64).toFloat < x := by
    intro less
    have above := height_lt_height (show 0.0 ≤ (0 : UInt64).toFloat by decide) less
    have none : height x ≤ 0 := by
      rcases h with ⟨sign, zero⟩ | undefined
      · exact (congrArg unpackedHeight zero).trans_le le_rfl
      · exact (congrArg unpackedHeight undefined).trans_le (by decide)
    exact absurd (above.trans_le none) (by decide)
  unfold ceiling
  dsimp only
  rw [word, if_neg]
  rw [Bool.and_eq_true, decide_eq_true_iff]
  exact fun both => least both.1

/-- Nothing of an amount is nothing, or undefined if the amount is infinite. -/
lemma ceiling_mul_of_zero (zero : (q == 0.0) = true) (y : Float) : ceiling (q * y) = 0 := by
  obtain ⟨sign, unpacked⟩ := unpack_of_beq_zero zero
  have product := unpack_mul q y
  rw [unpacked] at product
  apply ceiling_of_zero
  cases h : y.toModel.unpack with
  | notANumber =>
    rw [h] at product
    exact .inr (product.trans unpack_pack_notANumber)
  | infinity s =>
    rw [h] at product
    exact .inr (product.trans unpack_pack_notANumber)
  | zero s =>
    rw [h] at product
    exact .inl ⟨_, product.trans UnpackedFloat.unpack_packedZero⟩
  | finite s m e p =>
    rw [h] at product
    exact .inl ⟨_, product.trans UnpackedFloat.unpack_packedZero⟩

/-- A whole number above zero does not have the least exponent. -/
lemma normal_of_ofNat (some : 0 < n) (h : (Float.ofNat n).toModel.unpack = .finite .positive m e p) : -1074 < e := by
  have one : (0 : ℤ) ≤ height (Float.ofNat 1) := (rounds_ofNat one_pos).height_nonneg
  have levels := (le_iff_height one).1 (ofNat_le_ofNat some)
  have least : height (Float.ofNat 1) = level (2 ^ 52) (-52) := by decide
  have digits := (isCanonical_of_unpack h).1.lt
  rw [least, height, h] at levels
  change level (2 ^ 52) (-52) ≤ level m e at levels
  rw [level, level] at levels
  omega

/-- A part of a whole number, filled up, is not more than the number. -/
lemma toNat_ceiling_mul_le (pos : 0.0 < q) (lt : q < 1.0) (n : ℕ) : (ceiling (q * Float.ofNat n)).toNat ≤ n := by
  rcases Nat.lt_or_ge n UInt64.size with word | beyond
  · rcases Nat.eq_zero_or_pos n with rfl | some
    · have zero : (Float.ofNat 0 == 0.0) = true := by decide
      obtain ⟨k, f, p', hq⟩ := exists_finite_of_lt pos lt
      obtain ⟨sign, unpacked⟩ := unpack_of_beq_zero zero
      have product := unpack_mul q (Float.ofNat 0)
      rw [hq, unpacked] at product
      rw [ceiling_of_zero (.inl ⟨_, product.trans UnpackedFloat.unpack_packedZero⟩)]
      exact le_rfl
    · obtain ⟨m, e, p, h⟩ := isNumber_ofNat some word
      have less := mul_lt_of_lt_one pos lt h (normal_of_ofNat some h)
      have nonneg := zero_le_iff.1 (zero_le_mul (le_of_lt pos) ⟨m, e, p, h⟩)
      cases unpacks_of_nonneg nonneg with
      | zero sign zero => simp [ceiling_of_zero (.inl ⟨sign, zero⟩)]
      | finite k f p' product =>
        apply toNat_ceiling_le product
        by_contra reached
        -- otherwise the product would be rounded up to the number, as the whole number is
        have back := (rounds_ofNat some).le (rounds_self product) (not_lt.1 reached)
        exact absurd ((le_iff_height (nonneg.trans less.le)).1 back) (not_le.2 less)
      | infinity product top =>
        obtain ⟨canonical, bound⟩ := isCanonical_of_unpack h
        have high : height (Float.ofNat n) = level m e := congrArg unpackedHeight h
        have := canonical.level_lt_infinity bound
        omega
  · exact (UInt64.toNat_lt_size _).le.trans beyond

end Part

end StepMeters.Amount
