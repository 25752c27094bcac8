import StepMeters.Proofs.Amount.Parts
import StepMeters.Proofs.Amount.Quotients

/-!
# Operations that keep the order

An amount that is at least zero has an exact value (`HasValue`), unless it is infinite. Products, quotients and
differences of such amounts approximate the exact ones (`Approximates`), and what approximates a greater value is
not less (`Approximates.le`). So multiplication and division by an amount above zero keep the order wherever they
are defined, and so does making whole numbers of amounts, whether by rounding or by filling up.
-/

namespace StepMeters.Amount

open Float.Model (UnpackedFloat)
open Float.Model.UnpackedFloat (Sign)

/-- The exact value of an amount that is at least zero. Infinity has none. -/
inductive HasValue (x : Float) : ℚ → Prop where
  | zero (s : Sign) (h : x.toModel.unpack = .zero s) : HasValue x 0
  | finite (m : ℕ) (e : ℤ) (p : 0 < m) (h : x.toModel.unpack = .finite .positive m e p) : HasValue x (valueOf m e)

/-- An amount is zero for the value zero, and the nearest amount to a value above zero. -/
inductive Approximates (x : Float) : ℚ → Prop where
  | zero (s : Sign) (h : x.toModel.unpack = .zero s) : Approximates x 0
  | nearest {v : ℚ} (h : IsNearest x v) : Approximates x v

section Values
variable {x y z : Float} {v w u : ℚ}

/-- Only values above zero have a nearest amount in this sense. -/
lemma IsNearest.pos (h : IsNearest x v) : 0 < v := by
  obtain ⟨em, left, -⟩ := h
  exact left.pos

/-- The value of an amount is at least zero. -/
lemma HasValue.nonneg (h : HasValue x v) : 0 ≤ v := by
  cases h with
  | zero s h => exact le_rfl
  | finite m e p h => exact (valueOf_pos p e).le

/-- An amount approximates its own value. -/
lemma HasValue.approximates (h : HasValue x v) : Approximates x v := by
  cases h with
  | zero s h => exact .zero s h
  | finite m e p h => exact .nearest (rounds_self h).isNearest

/-- What approximates a value is at least zero. -/
lemma Approximates.zero_le (h : Approximates x v) : 0.0 ≤ x := by
  cases h with
  | zero s h => exact zero_le_iff_isNonneg.2 (.inr ⟨s, h⟩)
  | nearest h => exact zero_le_iff.2 h.height_nonneg

/-- What approximates a value above zero is the nearest amount to it. -/
lemma Approximates.isNearest (h : Approximates x v) (pos : 0 < v) : IsNearest x v := by
  cases h with
  | zero s h => exact absurd pos (lt_irrefl 0)
  | nearest h => exact h

/-- Both zeros have the height zero. -/
lemma height_of_zero {s : Sign} (h : x.toModel.unpack = .zero s) : height x = 0 := congrArg unpackedHeight h

/-- Infinity has the height just above all finite numbers. -/
lemma height_of_infinity (h : x.toModel.unpack = .infinity .positive) : height x = level (2 ^ 52) 972 :=
  congrArg unpackedHeight h

/-- A greater value is approximated by an amount that is not less. -/
lemma Approximates.le (h : Approximates x v) (h' : Approximates y w) (le : v ≤ w) : x ≤ y := by
  have above := zero_le_iff.1 h'.zero_le
  cases h with
  | zero s h => exact (le_iff_height (height_of_zero h).ge).2 ((height_of_zero h).trans_le above)
  | nearest h =>
    cases h' with
    | zero s h' => exact absurd h.pos (not_lt.2 le)
    | nearest h' => exact h.le h' le

/-- Amounts are compared as their values are. -/
lemma HasValue.le (h : HasValue x v) (h' : HasValue y w) (le : x ≤ y) : v ≤ w := by
  cases h with
  | zero s h => exact h'.nonneg
  | finite m e p h =>
    obtain ⟨canonical, bound⟩ := isCanonical_of_unpack h
    have high : height x = level m e := congrArg unpackedHeight h
    have low := canonical.level_pos p
    have heights := (le_iff_height (high ▸ low.le)).1 le
    rw [high] at heights
    cases h' with
    | zero s h' => exact absurd (low.trans_le heights) (height_of_zero h').not_gt
    | finite m' e' p' h' =>
      rw [height, h'] at heights
      exact canonical.valueOf_le (isCanonical_of_unpack h').1 heights

/-- What approximates the value of an amount has this value. -/
lemma Approximates.hasValue (h : Approximates x v) (h' : HasValue y v) : HasValue x v := by
  cases h with
  | zero s h => exact .zero s h
  | nearest h =>
    cases h' with
    | zero t h' => exact absurd h.pos (lt_irrefl 0)
    | finite m e p h' =>
      obtain ⟨canonical, bound⟩ := isCanonical_of_unpack h'
      exact .finite m e p (h.unpack_eq p canonical bound)

/-- No whole number up to `2 ^ 53` is rounded away. -/
lemma hasValue_ofNat {n : ℕ} (le : n ≤ 2 ^ 53) : HasValue (Float.ofNat n) n := by
  rcases Nat.eq_zero_or_pos n with rfl | pos
  · rw [Nat.cast_zero]
    exact .zero .positive (by rfl)
  · obtain ⟨m, e, p, h, value⟩ := (rounds_ofNat pos).unpack_of_natCast pos le
    exact value ▸ .finite m e p h

/-- A literal that is a whole number has this number as its value. -/
lemma hasValue_literal {n : ℕ} (e : x = Float.ofNat n) (le : n ≤ 2 ^ 53) : HasValue x n := e ▸ hasValue_ofNat le

/-- Amounts of the same value are equal. -/
lemma HasValue.beq (h : HasValue x v) (h' : HasValue y v) : (x == y) = true :=
  beq_of_le (h.approximates.le h'.approximates le_rfl) (h'.approximates.le h.approximates le_rfl)

/-- An amount that is at least zero has a value or is infinity. -/
lemma exists_value_or_infinity (nonneg : 0.0 ≤ x) :
    (∃ v, HasValue x v) ∨ x.toModel.unpack = .infinity .positive := by
  cases unpacks_of_nonneg (zero_le_iff.1 nonneg) with
  | zero s h => exact .inl ⟨0, .zero s h⟩
  | finite m e p h => exact .inl ⟨_, .finite m e p h⟩
  | infinity h => exact .inr h

/-- Every amount that is at least zero is at most infinity. -/
lemma le_infinity (nonneg : 0.0 ≤ x) (h : y.toModel.unpack = .infinity .positive) : x ≤ y := by
  have top := infinity_pos
  have above := zero_le_iff.1 nonneg
  rw [le_iff_height above, height_of_infinity h]
  cases unpacks_of_nonneg above with
  | zero s h height => exact height.trans_le top.le
  | finite m e p h height canonical bound => exact height.trans_le (canonical.level_lt_infinity bound).le
  | infinity h height => exact height.le

/-- An amount with a value stands below infinity. -/
lemma HasValue.lt_infinity (h : HasValue x v) : height x < level (2 ^ 52) 972 := by
  cases h with
  | zero s h => exact (height_of_zero h).trans_lt infinity_pos
  | finite m e p h =>
    obtain ⟨canonical, bound⟩ := isCanonical_of_unpack h
    exact (congrArg unpackedHeight h).trans_lt (canonical.level_lt_infinity bound)

/-- What is at most a finite amount is finite. -/
lemma HasValue.exists_of_le (h : HasValue y w) (nonneg : 0.0 ≤ x) (le : x ≤ y) : ∃ v, HasValue x v ∧ v ≤ w := by
  rcases exists_value_or_infinity nonneg with ⟨v, hx⟩ | infinite
  · exact ⟨v, hx, hx.le h le⟩
  · have heights := (le_iff_height (zero_le_iff.1 nonneg)).1 le
    rw [height_of_infinity infinite] at heights
    exact absurd h.lt_infinity (not_lt.2 heights)

/-- An amount with a value above zero is a number. -/
lemma HasValue.isNumber (h : HasValue x v) (pos : 0 < v) : IsNumber x := by
  cases h with
  | zero s h => exact absurd pos (lt_irrefl 0)
  | finite m e p h => exact ⟨m, e, p, h⟩

/-- An amount that equals another has its value. -/
lemma HasValue.of_beq (h : HasValue y w) (same : (x == y) = true) : HasValue x w := by
  obtain ⟨le, ge⟩ := le_of_beq same
  obtain ⟨v, hx, below⟩ := h.exists_of_le (le_trans h.approximates.zero_le ge) le
  rwa [le_antisymm (h.le hx ge) below]

/-- A number has a value, and it is above zero. -/
lemma IsNumber.exists_value (h : IsNumber x) : ∃ v, HasValue x v ∧ 0 < v := by
  obtain ⟨m, e, p, h⟩ := h
  exact ⟨_, .finite m e p h, valueOf_pos p e⟩

/-- A whole number that fits a word is an amount with a value. -/
lemma exists_value_ofNat {n : ℕ} (lt : n < UInt64.size) : ∃ v, HasValue (Float.ofNat n) v := by
  rcases Nat.eq_zero_or_pos n with rfl | pos
  · exact ⟨0, .zero .positive (by rfl)⟩
  · obtain ⟨v, value, -⟩ := (isNumber_ofNat pos lt).exists_value
    exact ⟨v, value⟩

/-- An amount above zero is a number or infinite. -/
lemma isNumber_or_infinity (pos : 0.0 < x) : IsNumber x ∨ x.toModel.unpack = .infinity .positive := by
  have above := height_lt_height (le_refl isNaN_zero) pos
  rw [height_zero] at above
  cases unpacks_of_nonneg above.le with
  | zero s h height => exact absurd height above.ne'
  | finite m e p h => exact .inl ⟨m, e, p, h⟩
  | infinity h => exact .inr h

end Values

section Operations
variable {x y z c : Float} {v w u : ℚ}

/-- A product approximates the product of the values. -/
lemma approximates_mul (h : HasValue x v) (h' : HasValue y w) : Approximates (x * y) (v * w) := by
  have product := unpack_mul x y
  cases h with
  | zero s h =>
    rw [h] at product
    rw [zero_mul]
    cases h' with
    | zero t h' =>
      rw [h'] at product
      exact .zero _ (product.trans UnpackedFloat.unpack_packedZero)
    | finite m e p h' =>
      rw [h'] at product
      exact .zero _ (product.trans UnpackedFloat.unpack_packedZero)
  | finite m e p h =>
    cases h' with
    | zero t h' =>
      rw [h, h'] at product
      rw [mul_zero]
      exact .zero _ (product.trans UnpackedFloat.unpack_packedZero)
    | finite m' e' p' h' => exact .nearest (rounds_mul h h').isNearest

/-- A quotient approximates the quotient of the values, if the divisor is above zero. -/
lemma approximates_div (h : HasValue x v) (h' : HasValue y w) (pos : 0 < w) : Approximates (x / y) (v / w) := by
  cases h' with
  | zero t h' => exact absurd pos (lt_irrefl 0)
  | finite m' e' p' h' =>
    cases h with
    | zero s h =>
      have quotient := unpack_div x y
      rw [h, h'] at quotient
      rw [zero_div]
      exact .zero _ (quotient.trans UnpackedFloat.unpack_packedZero)
    | finite m e p h => exact .nearest (isNearest_div h h')

/-- The mantissas of two numbers can be subtracted at the lesser exponent. -/
lemma valueOf_sub (m m' : ℕ) (e e' : ℤ) :
    (((m <<< (e - min e e').toNat : ℕ) : ℚ) - (m' <<< (e' - min e e').toNat : ℕ)) * 2 ^ min e e' =
      valueOf m e - valueOf m' e' := by
  have common (n : ℕ) {f : ℤ} (le : min e e' ≤ f) :
      ((n <<< (f - min e e').toNat : ℕ) : ℚ) * 2 ^ min e e' = valueOf n f := by
    have shifted := valueOf_shiftLeft_sub n (f - min e e').toNat f
    rw [Int.toNat_of_nonneg (by omega), sub_sub_cancel] at shifted
    exact shifted
  rw [sub_mul, common m (min_le_left _ _), common m' (min_le_right _ _)]

/-- The difference of two mantissas at the lesser exponent is rounded once. -/
lemma approximates_sub_of_finite {m m' : ℕ} {e e' : ℤ} {p : 0 < m} {p' : 0 < m'}
    (h : x.toModel.unpack = .finite .positive m e p) (h' : z.toModel.unpack = .finite .positive m' e' p')
    (le : valueOf m' e' ≤ valueOf m e) : Approximates (x - z) (valueOf m e - valueOf m' e') := by
  have exactly := valueOf_sub m m' e e'
  have unit : (0 : ℚ) < 2 ^ min e e' := zpow_pos two_pos _
  have digits : m' <<< (e' - min e e').toNat ≤ m <<< (e - min e e').toNat := by
    have := sub_nonneg.1 (nonneg_of_mul_nonneg_left ((sub_nonneg.2 le).trans_eq exactly.symm) unit)
    exact_mod_cast this
  obtain ⟨rest, split⟩ := Nat.exists_eq_add_of_le digits
  have mantissa : ((m <<< (e - min e e').toNat : ℕ) : ℤ) - (m' <<< (e' - min e e').toNat : ℕ) = rest := by omega
  have value : valueOf rest (min e e') = valueOf m e - valueOf m' e' := by
    rw [← exactly, split, valueOf, Nat.cast_add, add_sub_cancel_left]
  have difference : (x - z).toModel.unpack = (Float.Model.pack (UnpackedFloat.normalize .binary64
      (((m <<< (e - min e e').toNat : ℕ) : ℤ) - (m' <<< (e' - min e e').toNat : ℕ)) (min e e') .positive)).unpack := by
    rw [unpack_sub, h, h']
    rfl
  rw [mantissa] at difference
  rw [← value]
  rcases Nat.eq_zero_or_pos rest with rfl | some
  · rw [valueOf, Nat.cast_zero, zero_mul]
    exact .zero .positive (difference.trans UnpackedFloat.unpack_packedZero)
  · exact .nearest (rounds_of_normalize some difference).isNearest

/-- A difference approximates the difference of the values, if this is not below zero. -/
lemma approximates_sub (h : HasValue x v) (h' : HasValue z u) (le : u ≤ v) : Approximates (x - z) (v - u) := by
  have difference := unpack_sub x z
  cases h' with
  | zero t h' =>
    rw [sub_zero]
    cases h with
    | zero s h =>
      rw [h, h'] at difference
      cases s <;> cases t <;> exact .zero _ difference
    | finite m e p h =>
      obtain ⟨canonical, bound⟩ := isCanonical_of_unpack h
      rw [h, h'] at difference
      exact (HasValue.finite m e p (difference.trans (unpack_pack_finite .positive p canonical bound))).approximates
  | finite m' e' p' h' =>
    cases h with
    | zero s h => exact absurd (valueOf_pos p' e') (not_lt.2 le)
    | finite m e p h => exact approximates_sub_of_finite h h' le

/-- Infinity stays what it is when it is multiplied by an amount above zero. -/
lemma unpack_mul_infinity (pos : 0.0 < x) (pos' : 0.0 < y)
    (h : x.toModel.unpack = .infinity .positive ∨ y.toModel.unpack = .infinity .positive) :
    (x * y).toModel.unpack = .infinity .positive := by
  have product := unpack_mul x y
  rcases isNumber_or_infinity pos with ⟨m, e, p, hx⟩ | hx
  · rcases isNumber_or_infinity pos' with ⟨m', e', p', hy⟩ | hy
    · rw [hx, hy] at h
      rcases h with h | h <;> cases h
    · rw [hx, hy] at product
      exact product.trans (unpack_pack_infinity .positive)
  · rcases isNumber_or_infinity pos' with ⟨m', e', p', hy⟩ | hy <;> rw [hx, hy] at product <;>
      exact product.trans (unpack_pack_infinity .positive)

/-- Infinity stays what it is when it is divided by a number. -/
lemma unpack_div_infinity (h : x.toModel.unpack = .infinity .positive) (number : IsNumber y) :
    (x / y).toModel.unpack = .infinity .positive := by
  obtain ⟨m, e, p, h'⟩ := number
  have quotient := unpack_div x y
  rw [h, h'] at quotient
  exact quotient.trans (unpack_pack_infinity .positive)

/-- Infinity is above zero. -/
lemma pos_of_infinity (h : x.toModel.unpack = .infinity .positive) : 0.0 < x :=
  lt_of_lt_of_le (show (0.0 : Float) < 1.0 by decide) (le_infinity (by decide) h)

/-- Infinity is at least zero. -/
lemma zero_le_infinity (h : x.toModel.unpack = .infinity .positive) : 0.0 ≤ x := le_of_lt (pos_of_infinity h)

/-- An amount with a value above zero is above zero. -/
lemma HasValue.zero_lt (h : HasValue x v) (pos : 0 < v) : 0.0 < x := by
  cases h with
  | zero s h => exact absurd pos (lt_irrefl 0)
  | finite m e p h =>
    have value : HasValue x (valueOf m e) := .finite m e p h
    rcases le_or_lt (isNaN_of_le value.approximates.zero_le).2 isNaN_zero with least | above
    · exact absurd (value.le (.zero .positive rfl) least) (not_le.2 pos)
    · exact above

/-- Multiplying by an amount above zero keeps the order, but zero times infinity is undefined. -/
lemma mul_le_mul_right (nonneg : 0.0 ≤ x) (le : x ≤ y) (pos : 0.0 < c) :
    (x * c).toModel.unpack = .notANumber ∨ 0.0 ≤ x * c ∧ x * c ≤ y * c := by
  rcases isNumber_or_infinity pos with number | top
  · obtain ⟨k, hc, -⟩ := number.exists_value
    have product := zero_le_mul nonneg number
    rcases exists_value_or_infinity (le_trans nonneg le) with ⟨w, hy⟩ | beyond
    · obtain ⟨v, hx, values⟩ := hy.exists_of_le nonneg le
      have order := (approximates_mul hx hc).le (approximates_mul hy hc) (mul_le_mul_of_nonneg_right values hc.nonneg)
      exact .inr ⟨product, order⟩
    · exact .inr ⟨product, le_infinity product (unpack_mul_infinity (pos_of_infinity beyond) pos (.inl beyond))⟩
  · rcases le_or_lt (isNaN_of_le nonneg).2 isNaN_zero with zero | some
    · obtain ⟨sign, h⟩ := unpack_of_beq_zero (beq_of_le zero nonneg)
      have product := unpack_mul x c
      rw [h, top] at product
      exact .inl (product.trans unpack_pack_notANumber)
    · have product := zero_le_infinity (unpack_mul_infinity some pos (.inr top))
      exact .inr ⟨product, le_infinity product (unpack_mul_infinity (lt_of_lt_of_le some le) pos (.inr top))⟩

/-- Dividing finite amounts by an amount above zero keeps the order. -/
lemma div_le_div_right (h' : HasValue y w) (nonneg : 0.0 ≤ x) (le : x ≤ y) (pos : 0.0 < c) :
    0.0 ≤ x / c ∧ x / c ≤ y / c := by
  obtain ⟨v, h, values⟩ := h'.exists_of_le nonneg le
  rcases isNumber_or_infinity pos with number | top
  · obtain ⟨k, hc, positive⟩ := number.exists_value
    have quotient := approximates_div h hc positive
    have order := quotient.le (approximates_div h' hc positive) (div_le_div_of_nonneg_right values positive.le)
    exact ⟨quotient.zero_le, order⟩
  · -- all finite parts of infinity are zero
    have zero {z : Float} {u : ℚ} (hz : HasValue z u) : Approximates (z / c) 0 := by
      have quotient := unpack_div z c
      cases hz with
      | zero s hz =>
        rw [hz, top] at quotient
        exact .zero _ (quotient.trans UnpackedFloat.unpack_packedZero)
      | finite m e p hz =>
        rw [hz, top] at quotient
        exact .zero _ (quotient.trans UnpackedFloat.unpack_packedZero)
    exact ⟨(zero h).zero_le, (zero h).le (zero h') le_rfl⟩

end Operations

section Words
variable {x y : Float} {v w : ℚ}

/-- A word becomes an amount that approximates it. -/
lemma approximates_toFloat (n : UInt64) : Approximates n.toFloat n.toNat := by
  rcases Nat.eq_zero_or_pos n.toNat with zero | pos
  · obtain rfl : n = 0 := UInt64.toNat_inj.1 zero
    exact .zero .positive (by rfl)
  · exact .nearest (rounds_toFloat pos).isNearest

/-- An amount with a value becomes the whole part of it, or the greatest word. -/
lemma HasValue.toNat_toUInt64 (h : HasValue x v) : x.toUInt64.toNat = min ⌊v⌋₊ (UInt64.size - 1) := by
  cases h with
  | zero s h =>
    rw [toUInt64_of_zero h, Nat.floor_zero]
    rfl
  | finite m e p h => exact Amount.toNat_toUInt64 h

/-- Dropping what follows the point keeps the order. -/
lemma toNat_toUInt64_mono (nonneg : 0.0 ≤ x) (le : x ≤ y) : x.toUInt64.toNat ≤ y.toUInt64.toNat := by
  rcases exists_value_or_infinity (le_trans nonneg le) with ⟨w, hy⟩ | beyond
  · obtain ⟨v, hx, values⟩ := hy.exists_of_le nonneg le
    rw [hx.toNat_toUInt64, hy.toNat_toUInt64]
    exact min_le_min_right _ (Nat.floor_le_floor values)
  · rw [toNat_toUInt64_of_infinity beyond]
    exact Nat.le_pred_of_lt (UInt64.toNat_lt_size _)

/-- Stepping up from the lesser of two words keeps the order, if from equal words one steps up with the other. -/
lemma toNat_step_mono {a b : UInt64} {up up' : Bool} (le : a.toNat ≤ b.toNat)
    (together : a = b → b.toNat + 1 < UInt64.size → up = true → up' = true) :
    (if up && a.toNat + 1 < UInt64.size then a + 1 else a).toNat ≤
      (if up' && b.toNat + 1 < UInt64.size then b + 1 else b).toNat := by
  have steps (n : UInt64) (fits : n.toNat + 1 < UInt64.size) : (n + 1).toNat = n.toNat + 1 := by
    rw [UInt64.toNat_add, UInt64.toNat_one, Nat.mod_eq_of_lt fits]
  have upwards : b.toNat ≤ (if up' && b.toNat + 1 < UInt64.size then b + 1 else b).toNat := by
    split
    · rename_i more
      rw [Bool.and_eq_true, decide_eq_true_iff] at more
      rw [steps b more.2]
      exact Nat.le_succ _
    · exact Nat.le_refl _
  split
  · rename_i more
    rw [Bool.and_eq_true, decide_eq_true_iff] at more
    rw [steps a more.2]
    rcases Nat.lt_or_eq_of_le le with less | same
    · exact Nat.le_trans less upwards
    · obtain rfl := UInt64.toNat_inj.1 same
      rw [if_pos, steps a more.2]
      rw [Bool.and_eq_true, decide_eq_true_iff]
      exact ⟨together rfl more.2 more.1, more.2⟩
  · exact Nat.le_trans le upwards

/-- Filling up to whole numbers keeps the order. -/
lemma ceiling_mono (nonneg : 0.0 ≤ x) (le : x ≤ y) : (ceiling x).toNat ≤ (ceiling y).toNat := by
  refine toNat_step_mono (toNat_toUInt64_mono nonneg le) fun same _ more => ?_
  rw [decide_eq_true_iff] at more ⊢
  exact lt_of_lt_of_le (same ▸ more) le

/-- Rounding to whole numbers keeps the order. -/
lemma rounded_mono (nonneg : 0.0 ≤ x) (le : x ≤ y) : (rounded x).toNat ≤ (rounded y).toNat := by
  refine toNat_step_mono (toNat_toUInt64_mono nonneg le) fun same fits more => ?_
  rw [decide_eq_true_iff] at more ⊢
  rw [same] at more
  refine le_trans more ?_
  rcases exists_value_or_infinity (le_trans nonneg le) with ⟨w, hy⟩ | beyond
  · obtain ⟨v, hx, values⟩ := hy.exists_of_le nonneg le
    -- the word is below both amounts, so the differences are not below zero
    have below : (y.toUInt64.toNat : ℚ) ≤ v := by
      rw [← same, hx.toNat_toUInt64]
      exact (Nat.cast_le.2 (min_le_left _ _)).trans (Nat.floor_le hx.nonneg)
    have whole := approximates_toFloat y.toUInt64
    obtain ⟨u, hz, -⟩ := hx.exists_of_le whole.zero_le (whole.le hx.approximates below)
    have least := hz.le hx (whole.le hx.approximates below)
    exact (approximates_sub hx hz least).le (approximates_sub hy hz (least.trans values)) (sub_le_sub_right values u)
  · rw [toNat_toUInt64_of_infinity beyond] at fits
    exact absurd fits (by decide)

/-- Undefined amounts are rounded to zero. -/
lemma rounded_of_isNaN (h : x.toModel.unpack = .notANumber) : rounded x = 0 := by
  have difference := unpack_sub x (0 : UInt64).toFloat
  rw [h] at difference
  have undefined : (x - (0 : UInt64).toFloat).isNaN = true :=
    congrArg UnpackedFloat.isNaN (difference.trans unpack_pack_notANumber)
  have none : ¬(0.5 : Float) ≤ x - (0 : UInt64).toFloat := fun half => by
    rw [(isNaN_of_le half).2] at undefined
    cases undefined
  unfold rounded
  dsimp only
  rw [toUInt64_of_isNaN h, if_neg]
  rw [Bool.and_eq_true, decide_eq_true_iff]
  exact fun both => none both.1

/-- Rounding a product with an amount above zero keeps the order. -/
lemma rounded_mul_mono {c : Float} (nonneg : 0.0 ≤ x) (le : x ≤ y) (pos : 0.0 < c) :
    (rounded (x * c)).toNat ≤ (rounded (y * c)).toNat := by
  rcases mul_le_mul_right nonneg le pos with undefined | ⟨nonneg', le'⟩
  · rw [rounded_of_isNaN undefined]
    exact Nat.zero_le _
  · exact rounded_mono nonneg' le'

/-- Filling up a product with an amount above zero keeps the order. -/
lemma ceiling_mul_mono {c : Float} (nonneg : 0.0 ≤ x) (le : x ≤ y) (pos : 0.0 < c) :
    (ceiling (x * c)).toNat ≤ (ceiling (y * c)).toNat := by
  rcases mul_le_mul_right nonneg le pos with undefined | ⟨nonneg', le'⟩
  · rw [ceiling_of_zero (.inr undefined)]
    exact Nat.zero_le _
  · exact ceiling_mono nonneg' le'

end Words

end StepMeters.Amount
