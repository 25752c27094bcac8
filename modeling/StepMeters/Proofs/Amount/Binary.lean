import Mathlib
import StepMeters.Amount

/-!
# How amounts are kept

A number is kept as a sign, a mantissa of at most 53 binary digits and an exponent, packed into a word of 64
bits. Each number has one such form: all 53 digits are there, unless the exponent is the least one
(`IsCanonical`). What is unpacked from a word is in this form, and such a form survives packing, unless the
exponent is too great and infinity takes its place.
-/

namespace StepMeters.Amount
open Float.Model (UnpackedFloat Format totalExponent)
open Float.Model.UnpackedFloat (Sign Accuracy ExtendedMantissa packComponents unpackSign_packComponents
  unpackMantissa_packComponents unpackExponent_packComponents packedInfinity unpackMantissa unpackExponent unpackSign)

/-- Mantissa and exponent are those of a number as it is kept. -/
structure IsCanonical (m : ℕ) (e : ℤ) : Prop where
  lt : m < 2 ^ 53
  le : -1074 ≤ e
  full : 2 ^ 52 ≤ m ∨ e = -1074

/-- The implicit leading digit of a mantissa is worth `2 ^ 52`. -/
lemma toNat_implicit (m : BitVec 52) : (1#1 ++ m).toNat = 2 ^ 52 + m.toNat := by
  rw [BitVec.toNat_append, ← Nat.shiftLeft_add_eq_or_of_lt m.isLt]
  simp [Nat.shiftLeft_eq]

/-- Different numbers that fit a field are different fields. -/
lemma ofNat_ne_of_lt {w n k : ℕ} (lt : n < 2 ^ w) (lt' : k < 2 ^ w) (ne : n ≠ k) :
    BitVec.ofNat w n ≠ BitVec.ofNat w k := by
  intro same
  have := congrArg BitVec.toNat same
  rw [BitVec.toNat_ofNat, BitVec.toNat_ofNat, Nat.mod_eq_of_lt lt, Nat.mod_eq_of_lt lt'] at this
  exact ne this

/-- The fields of a number with the implicit leading digit are unpacked to its mantissa and exponent. -/
lemma unpack_normal (s : Sign) {b m : ℕ} (b_pos : 0 < b) (b_lt : b < 2047) (le : 2 ^ 52 ≤ m) (lt : m < 2 ^ 53)
    (pos : 0 < m) :
    UnpackedFloat.unpack .binary64 (packComponents .binary64 s (BitVec.ofNat 11 b) (BitVec.ofNat 52 m))
      = .finite s m (b - 1075) pos := by
  unfold UnpackedFloat.unpack
  simp only [unpackMantissa_packComponents, unpackExponent_packComponents, unpackSign_packComponents,
    Sign.ofBitVec_toBitVec]
  have ne : BitVec.ofNat 11 b ≠ -1#11 := ofNat_ne_of_lt (k := 2047) (by omega) (by decide) (by omega)
  have ne' : BitVec.ofNat 11 b ≠ 0#11 := ofNat_ne_of_lt (by omega) (by decide) (by omega)
  rw [if_neg ne, if_neg ne']
  congr 1
  · rw [toNat_implicit, BitVec.toNat_ofNat]
    omega
  · rw [BitVec.toNat_ofNat, Nat.mod_eq_of_lt (by omega)]
    rfl

/-- The fields of a number without the implicit leading digit are unpacked to its mantissa and the least exponent.
-/
lemma unpack_subnormal (s : Sign) {m : ℕ} (lt : m < 2 ^ 52) (pos : 0 < m) :
    UnpackedFloat.unpack .binary64 (packComponents .binary64 s 0#11 (BitVec.ofNat 52 m))
      = .finite s m (-1074) pos := by
  unfold UnpackedFloat.unpack
  simp only [unpackMantissa_packComponents, unpackExponent_packComponents, unpackSign_packComponents,
    Sign.ofBitVec_toBitVec]
  have ne : (0#11) ≠ -1#11 := by decide
  have ne' : BitVec.ofNat 52 m ≠ 0#52 := ofNat_ne_of_lt lt (by decide) (by omega)
  rw [if_neg ne, if_pos trivial, dif_neg ne']
  congr 1
  rw [BitVec.toNat_ofNat, Nat.mod_eq_of_lt lt]

/-- How a number is packed. -/
lemma pack_finite (s : Sign) {m : ℕ} (e : ℤ) (pos : 0 < m) :
    UnpackedFloat.pack .binary64 (.finite s m e pos) =
      if 971 < e then packedInfinity .binary64 s
      else if m.log2 = 52 then packComponents .binary64 s (BitVec.ofNat 11 (e + 1075).toNat) (BitVec.ofNat 52 m)
      else packComponents .binary64 s 0#11 (BitVec.ofNat 52 m) := by
  have biased : e + ((1023 : ℕ) : ℤ) + ((52 : ℕ) : ℤ) = e + 1075 := by omega
  show (if 2 ^ 11 ≤ (e + ((1023 : ℕ) : ℤ) + ((52 : ℕ) : ℤ)).toNat + 1 then _
    else if m.log2 + 1 = 53 then _ else _) = _
  rw [biased]
  by_cases beyond : 971 < e
  · rw [if_pos (by omega), if_pos beyond]
  · rw [if_neg (by omega), if_neg beyond]
    by_cases normal : m.log2 = 52
    · rw [if_pos (by omega), if_pos normal, ← biased]
      rfl
    · rw [if_neg (by omega), if_neg normal]

/-- A number as it is kept, within the greatest exponent, is kept as it is. -/
lemma unpack_pack_finite (s : Sign) {m : ℕ} {e : ℤ} (pos : 0 < m) (h : IsCanonical m e) (le : e ≤ 971) :
    (Float.Model.pack (.finite s m e pos)).unpack = .finite s m e pos := by
  show UnpackedFloat.unpack .binary64 (UnpackedFloat.pack .binary64 _) = _
  have least := h.le
  rw [pack_finite, if_neg (by omega)]
  by_cases normal : 2 ^ 52 ≤ m
  · have log : m.log2 = 52 := by
      have := (Nat.le_log2 pos.ne').2 normal
      have := (Nat.log2_lt pos.ne').2 h.lt
      omega
    rw [if_pos log, unpack_normal s (by omega) (by omega) normal h.lt pos]
    congr 1
    omega
  · have lt : m < 2 ^ 52 := by omega
    have log : m.log2 ≠ 52 := ((Nat.log2_lt pos.ne').2 lt).ne
    obtain rfl : e = -1074 := h.full.resolve_left normal
    rw [if_neg log, unpack_subnormal s lt pos]

/-- A number beyond the greatest exponent is kept as infinity. -/
lemma unpack_pack_of_lt (s : Sign) {m : ℕ} {e : ℤ} (pos : 0 < m) (gt : 971 < e) :
    (Float.Model.pack (.finite s m e pos)).unpack = .infinity s := by
  show UnpackedFloat.unpack .binary64 (UnpackedFloat.pack .binary64 _) = _
  rw [pack_finite, if_pos gt]
  cases s <;> rfl

/-- Infinity survives being packed. -/
lemma unpack_pack_infinity (s : Sign) : (Float.Model.pack (.infinity s)).unpack = .infinity s := by
  cases s <;> rfl

/-- The undefined number survives being packed. -/
lemma unpack_pack_notANumber : (Float.Model.pack .notANumber).unpack = .notANumber := by
  rfl

/-- Results are computed from what is unpacked, and packed again. -/
lemma unpack_mul (x y : Float) : (x * y).toModel.unpack =
    (Float.Model.pack (UnpackedFloat.mul .binary64 x.toModel.unpack y.toModel.unpack)).unpack := rfl

/-- A quotient is formed from the unpacked numbers. -/
lemma unpack_div (x y : Float) : (x / y).toModel.unpack =
    (Float.Model.pack (UnpackedFloat.div .binary64 x.toModel.unpack y.toModel.unpack)).unpack := rfl

/-- A difference is formed from the unpacked numbers. -/
lemma unpack_sub (x y : Float) : (x - y).toModel.unpack =
    (Float.Model.pack (UnpackedFloat.sub .binary64 x.toModel.unpack y.toModel.unpack)).unpack := rfl

/-- Where the parts of a number are in its bits. -/
lemma toNat_unpackMantissa (bits : BitVec 64) :
    (@unpackMantissa .binary64 bits).toNat = bits.toNat % 2 ^ 52 := by
  show (bits.extractLsb 51 0).toNat = _
  rw [BitVec.extractLsb_toNat, Nat.shiftRight_zero]

/-- The exponent field holds the eleven digits above the mantissa. -/
lemma toNat_unpackExponent (bits : BitVec 64) :
    (@unpackExponent .binary64 bits).toNat = bits.toNat / 2 ^ 52 % 2 ^ 11 := by
  show (bits.extractLsb 62 52).toNat = _
  rw [BitVec.extractLsb_toNat, Nat.shiftRight_eq_div_pow]

/-- The sign field is the first of all digits. -/
lemma toNat_unpackSign (bits : BitVec 64) :
    (@unpackSign .binary64 bits).toNat = bits.toNat / 2 ^ 63 % 2 := by
  show (bits.extractLsb 63 63).toNat = _
  rw [BitVec.extractLsb_toNat, Nat.shiftRight_eq_div_pow]

/-- Which parts of its bits a number is made of. -/
lemma fields_of_unpack {bits : BitVec 64} {s : Sign} {m : ℕ} {e : ℤ} {pos : 0 < m}
    (h : UnpackedFloat.unpack .binary64 bits = .finite s m e pos) :
    (s = .positive → bits.toNat < 2 ^ 63) ∧ bits.toNat / 2 ^ 52 % 2 ^ 11 < 2047 ∧
      (bits.toNat / 2 ^ 52 % 2 ^ 11 = 0 ∧ m = bits.toNat % 2 ^ 52 ∧ e = -1074 ∨
        bits.toNat / 2 ^ 52 % 2 ^ 11 ≠ 0 ∧ m = 2 ^ 52 + bits.toNat % 2 ^ 52 ∧
          e = (bits.toNat / 2 ^ 52 % 2 ^ 11 : ℕ) - 1075) := by
  have bias : (Format.binary64.exponentBias : ℤ) = 1023 := rfl
  have positive : Sign.ofBitVec (@unpackSign .binary64 bits) = .positive → bits.toNat < 2 ^ 63 := by
    intro sign
    have bit := toNat_unpackSign bits
    have lt := bits.isLt
    rw [Sign.ofBitVec] at sign
    split at sign
    · rename_i zero
      rw [congrArg BitVec.toNat zero, BitVec.toNat_ofNat] at bit
      omega
    · cases sign
  rw [← toNat_unpackExponent, ← toNat_unpackMantissa]
  unfold UnpackedFloat.unpack at h
  dsimp only at h
  generalize @unpackExponent .binary64 bits = b at h ⊢
  split at h
  · split at h <;> cases h
  · rename_i notLast
    have bounded : b.toNat < 2047 := by
      have ne : b.toNat ≠ (-1#11).toNat := fun same => notLast (BitVec.eq_of_toNat_eq same)
      have le : b.toNat < 2 ^ 11 := b.isLt
      simp at ne
      omega
    split at h
    · split at h
      · cases h
      · -- below the least normal number the mantissa has fewer digits
        rename_i first _
        cases h
        refine ⟨positive, bounded, .inl ⟨by rw [first]; rfl, rfl, ?_⟩⟩
        rw [first, bias]
        decide
    · rename_i notFirst
      have some : b.toNat ≠ 0 := fun same => notFirst (BitVec.eq_of_toNat_eq same)
      cases h
      refine ⟨positive, bounded, .inr ⟨some, toNat_implicit _, ?_⟩⟩
      rw [bias]
      rfl

/-- Numbers are kept in canonical form. -/
lemma isCanonical_of_unpack {bits : BitVec Format.binary64.numBits} {s : Sign} {m : ℕ} {e : ℤ} {pos : 0 < m}
    (h : UnpackedFloat.unpack .binary64 bits = .finite s m e pos) : IsCanonical m e ∧ e ≤ 971 := by
  obtain ⟨-, bounded, ⟨-, rfl, rfl⟩ | ⟨some, rfl, rfl⟩⟩ := fields_of_unpack h
  · exact ⟨⟨by omega, by decide, .inr rfl⟩, by decide⟩
  · exact ⟨⟨by omega, by omega, .inl (by omega)⟩, by omega⟩

end StepMeters.Amount
