import StepMeters.Proofs.Amount.Whole

/-!
# Arithmetic of accepted amounts

Sums of accepted amounts are accepted, and so are their products and quotients with numbers above zero. What is
computed exactly is rounded and packed, and none of this touches the sign (`hasPlus_round`, `hasPlus_pack`); so a
result that is not accepted can only be undefined. There is none such unless infinity is multiplied by zero or
divided by infinity, or zero is divided by zero.
-/

namespace StepMeters.Amount

open Float.Model (UnpackedFloat Format)
open Float.Model.UnpackedFloat (Sign Accuracy roundWithAccuracy packComponents unpackSign_packComponents
  unpackMantissa_packComponents unpackExponent_packComponents)

/-- An unpacked number with a plus sign. -/
def HasPlus : UnpackedFloat → Prop
  | .zero s => s = .positive
  | .finite s _ _ _ => s = .positive
  | .infinity s => s = .positive
  | .notANumber => False

/-- An unpacked number that is at least zero, with a plus sign or the negative zero. -/
def IsNonneg (f : UnpackedFloat) : Prop := HasPlus f ∨ ∃ s, f = .zero s

/-- A finite amount above zero. -/
def IsNumber (x : Float) : Prop := ∃ m e, ∃ p : 0 < m, x.toModel.unpack = .finite .positive m e p

section Packing
variable {x : Float} {f : UnpackedFloat}

/-- What is packed with an exponent that is not the last keeps its sign. -/
lemma hasPlus_unpack_packComponents {b : BitVec 11} (ne : b ≠ -1#11) (mantissa : BitVec 52) :
    HasPlus (UnpackedFloat.unpack .binary64 (packComponents .binary64 .positive b mantissa)) := by
  unfold UnpackedFloat.unpack
  simp only [unpackMantissa_packComponents, unpackExponent_packComponents, unpackSign_packComponents,
    Sign.ofBitVec_toBitVec]
  rw [if_neg ne]
  split
  · split <;> rfl
  · rfl

/-- Packing keeps a plus sign. -/
lemma hasPlus_pack (h : HasPlus f) : HasPlus (Float.Model.pack f).unpack := by
  cases f with
  | notANumber => cases h
  | zero s =>
    cases h
    rfl
  | infinity s =>
    cases h
    rfl
  | finite s m e pos =>
    cases h
    show HasPlus (UnpackedFloat.unpack .binary64 (UnpackedFloat.pack .binary64 _))
    rw [pack_finite]
    split
    · rfl
    · split
      · refine hasPlus_unpack_packComponents (ofNat_ne_of_lt (k := 2047) ?_ (by decide) ?_) _ <;> omega
      · exact hasPlus_unpack_packComponents (by decide) _

/-- Rounding keeps the sign. -/
lemma hasPlus_round (m : ℕ) (e : ℤ) (accuracy : Accuracy) :
    HasPlus (roundWithAccuracy .binary64 .positive m e accuracy) := by
  unfold roundWithAccuracy
  dsimp only
  split <;> rfl

/-- The amounts that are at least zero are those that unpack so. -/
lemma zero_le_iff_isNonneg : 0.0 ≤ x ↔ IsNonneg x.toModel.unpack := by
  rw [zero_le_iff]
  constructor
  · intro nonneg
    cases unpacks_of_nonneg nonneg with
    | zero s h => exact .inr ⟨s, h⟩
    | finite m e p h => exact .inl (h ▸ rfl)
    | infinity h => exact .inl (h ▸ rfl)
  · intro nonneg
    rw [height]
    cases h : x.toModel.unpack with
    | notANumber =>
      rw [h] at nonneg
      rcases nonneg with plus | ⟨s, zero⟩
      · cases plus
      · cases zero
    | zero s => rfl
    | infinity s =>
      rw [h] at nonneg
      rcases nonneg with rfl | ⟨s, zero⟩
      · decide
      · cases zero
    | finite s m e p =>
      rw [h] at nonneg
      rcases nonneg with rfl | ⟨s, zero⟩
      · exact ((isCanonical_of_unpack h).1.level_pos p).le
      · cases zero

/-- A result that is at least zero is so once it is packed. -/
lemma zero_le_of_pack (packed : x.toModel = Float.Model.pack f) (nonneg : IsNonneg f) : 0.0 ≤ x := by
  rw [zero_le_iff_isNonneg, packed]
  rcases nonneg with plus | ⟨s, rfl⟩
  · exact .inl (hasPlus_pack plus)
  · cases s <;> exact .inr ⟨_, rfl⟩

end Packing

section Unpacked
variable {a b : UnpackedFloat} {m : ℕ} {e : ℤ} {p : 0 < m}

/-- What is at least zero is a zero, a finite number above zero or infinity. -/
lemma isNonneg_inv (h : IsNonneg a) : (∃ s, a = .zero s) ∨ (∃ m e p, a = .finite .positive m e p) ∨
    a = .infinity .positive := by
  rcases h with plus | zero
  · cases a with
    | notANumber => cases plus
    | zero s => exact .inl ⟨s, rfl⟩
    | finite s m e p =>
      cases plus
      exact .inr (.inl ⟨m, e, p, rfl⟩)
    | infinity s =>
      cases plus
      exact .inr (.inr rfl)
  · exact .inl zero

/-- Numbers that are at least zero stay so when they are brought into form. -/
lemma isNonneg_normalize {n : ℤ} (nonneg : 0 ≤ n) (e : ℤ) :
    IsNonneg (UnpackedFloat.normalize .binary64 n e .positive) := by
  unfold UnpackedFloat.normalize
  rcases nonneg.lt_or_eq with pos | rfl
  · rw [compare_gt_iff_gt.2 pos]
    exact .inl (hasPlus_round ..)
  · exact .inl rfl

/-- Sums of numbers that are at least zero are so. -/
lemma isNonneg_add (ha : IsNonneg a) (hb : IsNonneg b) : IsNonneg (UnpackedFloat.add .binary64 a b) := by
  rcases isNonneg_inv ha with ⟨s, rfl⟩ | ⟨m, e, p, rfl⟩ | rfl
  · rcases isNonneg_inv hb with ⟨t, rfl⟩ | ⟨m', e', p', rfl⟩ | rfl
    · cases s <;> cases t <;> exact .inr ⟨_, rfl⟩
    · exact .inl rfl
    · exact .inl rfl
  · rcases isNonneg_inv hb with ⟨t, rfl⟩ | ⟨m', e', p', rfl⟩ | rfl
    · exact .inl rfl
    · exact isNonneg_normalize (Int.add_nonneg (Int.natCast_nonneg _) (Int.natCast_nonneg _)) _
    · exact .inl rfl
  · rcases isNonneg_inv hb with ⟨t, rfl⟩ | ⟨m', e', p', rfl⟩ | rfl <;> exact .inl rfl

/-- A product is undefined only if one factor is zero and the other infinite. -/
lemma isNonneg_mul (ha : IsNonneg a) : IsNonneg (UnpackedFloat.mul .binary64 a (.finite .positive m e p)) := by
  rcases isNonneg_inv ha with ⟨s, rfl⟩ | ⟨m', e', p', rfl⟩ | rfl
  · exact .inr ⟨_, rfl⟩
  · exact .inl (hasPlus_round ..)
  · exact .inl rfl

/-- Quotients by a finite number above zero are at least zero if the dividend is. -/
lemma isNonneg_div (ha : IsNonneg a) : IsNonneg (UnpackedFloat.div .binary64 a (.finite .positive m e p)) := by
  rcases isNonneg_inv ha with ⟨s, rfl⟩ | ⟨m', e', p', rfl⟩ | rfl
  · exact .inr ⟨_, rfl⟩
  · exact .inl (hasPlus_round ..)
  · exact .inl rfl

/-- A quotient by a number that is not below zero is undefined or not below zero. -/
lemma isNonneg_div_of_hasPlus (ha : IsNonneg a) (hb : HasPlus b) :
    UnpackedFloat.div .binary64 a b = .notANumber ∨ IsNonneg (UnpackedFloat.div .binary64 a b) := by
  cases b with
  | notANumber => cases hb
  | finite s m e p =>
    cases hb
    exact .inr (isNonneg_div ha)
  | zero s =>
    cases hb
    rcases isNonneg_inv ha with ⟨s, rfl⟩ | ⟨m', e', p', rfl⟩ | rfl
    · exact .inl rfl
    · exact .inr (.inl rfl)
    · exact .inr (.inl rfl)
  | infinity s =>
    cases hb
    rcases isNonneg_inv ha with ⟨s, rfl⟩ | ⟨m', e', p', rfl⟩ | rfl
    · exact .inr (.inr ⟨_, rfl⟩)
    · exact .inr (.inl rfl)
    · exact .inl rfl

end Unpacked

section Arithmetic
variable {x y : Float}

/-- Sums of amounts that are at least zero are so. -/
lemma zero_le_add (hx : 0.0 ≤ x) (hy : 0.0 ≤ y) : 0.0 ≤ x + y :=
  zero_le_of_pack rfl (isNonneg_add (zero_le_iff_isNonneg.1 hx) (zero_le_iff_isNonneg.1 hy))

/-- An amount that is at least zero stays so when it is multiplied by a number above zero. -/
lemma zero_le_mul (hx : 0.0 ≤ x) (hy : IsNumber y) : 0.0 ≤ x * y := by
  obtain ⟨m, e, p, hy⟩ := hy
  have product := isNonneg_mul (zero_le_iff_isNonneg.1 hx) (m := m) (e := e) (p := p)
  rw [← hy] at product
  exact zero_le_of_pack rfl product

/-- An amount that is at least zero stays so when it is divided by a number above zero. -/
lemma zero_le_div (hx : 0.0 ≤ x) (hy : IsNumber y) : 0.0 ≤ x / y := by
  obtain ⟨m, e, p, hy⟩ := hy
  have quotient := isNonneg_div (zero_le_iff_isNonneg.1 hx) (m := m) (e := e) (p := p)
  rw [← hy] at quotient
  exact zero_le_of_pack rfl quotient

/-- A quotient by a number that is not below zero is undefined or accepted. -/
lemma zero_le_div_of_hasPlus (hx : 0.0 ≤ x) (hy : HasPlus y.toModel.unpack) (defined : (x / y).isNaN = false) :
    0.0 ≤ x / y := by
  rcases isNonneg_div_of_hasPlus (zero_le_iff_isNonneg.1 hx) hy with undefined | quotient
  · have nan : (x / y).toModel = Float.Model.pack .notANumber := congrArg Float.Model.pack undefined
    have isNaN : (x / y).isNaN = (Float.Model.pack .notANumber).unpack.isNaN := by
      rw [← nan]
      rfl
    rw [isNaN] at defined
    cases defined
  · exact zero_le_of_pack rfl quotient

/-- A quotient of two numbers above zero has a plus sign. -/
lemma hasPlus_div (hx : IsNumber x) (hy : IsNumber y) : HasPlus (x / y).toModel.unpack := by
  obtain ⟨m, e, p, hx⟩ := hx
  obtain ⟨m', e', p', hy⟩ := hy
  rw [unpack_div, hx, hy]
  exact hasPlus_pack (hasPlus_round ..)

/-- A whole number above zero is an amount above zero. -/
lemma zero_lt_ofNat {n : ℕ} (pos : 0 < n) : 0.0 < Float.ofNat n :=
  lt_of_lt_of_le (show 0.0 < Float.ofNat 1 by decide) (ofNat_le_ofNat pos)

/-- Whole numbers of 64 bits are numbers. -/
lemma isNumber_ofNat {n : ℕ} (pos : 0 < n) (lt : n < UInt64.size) : IsNumber (Float.ofNat n) := by
  have most : Float.ofNat UInt64.size < Float.ofNat (2 * UInt64.size) := by decide
  exact exists_finite_of_lt (zero_lt_ofNat pos) (lt_of_le_of_lt (ofNat_le_ofNat lt.le) most)

/-- A whole number is an amount that is at least zero. -/
lemma zero_le_ofNat (n : ℕ) : 0.0 ≤ Float.ofNat n := ofNat_zero ▸ ofNat_le_ofNat n.zero_le

/-- Adding to zero leaves an amount as it is, except that the negative zero becomes the other one. -/
lemma zero_add_beq (nonneg : 0.0 ≤ x) : (0.0 + x == x) = true := by
  have unfold : (0.0 + x).toModel.unpack =
      (Float.Model.pack (UnpackedFloat.add .binary64 (.zero .positive) x.toModel.unpack)).unpack := rfl
  have defined := (isNaN_of_le nonneg).2
  have same : unpackedPlace (0.0 + x).toModel.unpack = unpackedPlace x.toModel.unpack := by
    cases unpacks_of_nonneg (zero_le_iff.1 nonneg) with
    | zero s h =>
      rw [unfold, h]
      cases s <;> rfl
    | finite m e p h height canonical bound =>
      rw [unfold, h]
      exact congrArg unpackedPlace (unpack_pack_finite .positive p canonical bound)
    | infinity h =>
      rw [unfold, h]
      exact congrArg unpackedPlace (unpack_pack_infinity .positive)
  exact beq_iff.2 ⟨(isNaN_of_le (zero_le_add (le_refl isNaN_zero) nonneg)).2, defined, same⟩

end Arithmetic

end StepMeters.Amount
