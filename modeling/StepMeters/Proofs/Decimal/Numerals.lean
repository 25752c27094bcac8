import StepMeters.Proofs.Decimal.Shortest

/-!
# Different numbers have different texts

The text of a number reads as a real number that rounds to it, and no other number is rounded to. So a text belongs
to one number only (`Numeral.injective`), the two zeros and the names of infinity and of the undefined number
included.
-/

namespace StepMeters
open Amount (IsCanonical level)
open Float.Model (UnpackedFloat Format)

namespace Numeral

/-- The bits of a number without its sign. -/
def size (bits : UInt64) : ℕ := bits.toNat % 2 ^ 63

/-- The text of a number without its sign. -/
def unsigned (bits : UInt64) : List Char :=
  if size bits = 0 then ['0']
  else if size bits = 0x7FF0000000000000 then "inf".toList
  else (Dyadic.ofBits bits).shortest.text

/-- The text of a number with its sign. -/
def signed (bits : UInt64) : List Char :=
  if 2 ^ 63 ≤ bits.toNat then '-' :: unsigned bits else unsigned bits

/-- The characters of a numeral, told from the bits of the number. -/
lemma toList_numeral (x : Float) : (numeral x).toList =
    if 0x7FF0000000000000 < size x.toBits then "NaN".toList else signed x.toBits := by
  have unfold : numeral x
      = if 0x7FF0000000000000 < size x.toBits then "NaN" else String.ofList (signed x.toBits) := rfl
  rw [unfold]
  split
  · rfl
  · exact String.toList_ofList

section Unsigned
variable {bits bits' : UInt64} {x y : Float}

/-- The size of a number is its level. -/
lemma isCanonical_ofBits (finite : size bits < 0x7FF0000000000000) :
    IsCanonical (Dyadic.ofBits bits).significand (Dyadic.ofBits bits).exponent ∧
      level (Dyadic.ofBits bits).significand (Dyadic.ofBits bits).exponent = size bits := by
  rw [size] at finite ⊢
  rw [Dyadic.ofBits, Nat.one_shiftLeft, Nat.one_shiftLeft]
  split
  · refine ⟨⟨?_, le_rfl, .inr rfl⟩, ?_⟩
    · dsimp only
      omega
    · rw [level]
      dsimp only
      omega
  · refine ⟨⟨?_, ?_, .inl ?_⟩, ?_⟩
    · dsimp only
      omega
    · dsimp only
      omega
    · dsimp only
      omega
    · rw [level]
      dsimp only
      omega

/-- A finite number that is not zero has a significand above zero. -/
lemma significand_pos (some : size bits ≠ 0) (finite : size bits < 0x7FF0000000000000) :
    0 < (Dyadic.ofBits bits).significand := by
  obtain ⟨canonical, number⟩ := isCanonical_ofBits finite
  rcases canonical.full with full | least
  · omega
  · rw [level, least] at number
    omega

/-- The text of a number above zero reads as a real number that rounds to it. -/
lemma around_read (some : size bits ≠ 0) (finite : size bits < 0x7FF0000000000000) :
    (Surrounding.ofDyadic (Dyadic.ofBits bits)).Around (Decimal.read (Dyadic.ofBits bits).shortest.text) := by
  rw [Decimal.read_text]
  exact Dyadic.around_shortest (significand_pos some finite) (isCanonical_ofBits finite).1.lt

/-- The digits of a finite number that is not zero stand for a number above zero. -/
lemma read_pos (some : size bits ≠ 0) (finite : size bits < 0x7FF0000000000000) :
    0 < Decimal.read (Dyadic.ofBits bits).shortest.text := by
  have pos := significand_pos some finite
  refine lt_of_lt_of_le ?_ (around_read some finite).bounds.1
  rw [Dyadic.low_div_ofDyadic]
  refine mul_pos ?_ (zpow_pos two_pos _)
  norm_cast
  split <;> omega

/-- The digit zero stands for zero. -/
lemma read_zero : Decimal.read ['0'] = 0 := by
  rw [Decimal.read_whole (by decide)]
  rfl

/-- Zero is written as a single digit. -/
lemma unsigned_of_zero (zero : size bits = 0) : unsigned bits = ['0'] := if_pos zero

/-- Infinity is written by its name. -/
lemma unsigned_of_infinity (infinite : size bits = 0x7FF0000000000000) : unsigned bits = "inf".toList := by
  rw [unsigned, if_neg (by omega), if_pos infinite]

/-- A finite number that is not zero is written as its shortest decimal. -/
lemma unsigned_of_finite (some : size bits ≠ 0) (finite : size bits < 0x7FF0000000000000) :
    unsigned bits = (Dyadic.ofBits bits).shortest.text := by
  rw [unsigned, if_neg some, if_neg finite.ne]

/-- The text of a finite number begins with a digit. -/
lemma exists_digit_of_finite (finite : size bits < 0x7FF0000000000000) :
    ∃ c rest, c.isDigit ∧ unsigned bits = c :: rest := by
  rcases eq_or_ne (size bits) 0 with zero | some
  · exact ⟨'0', [], by decide, unsigned_of_zero zero⟩
  · rw [unsigned_of_finite some finite]
    exact Decimal.exists_cons_text _

/-- No finite number is written as infinity is. -/
lemma unsigned_ne_of_finite (finite : size bits < 0x7FF0000000000000) : unsigned bits ≠ "inf".toList := by
  obtain ⟨c, rest, digit, e⟩ := exists_digit_of_finite finite
  intro same
  rw [e] at same
  cases same
  exact absurd digit (by decide)

/-- No finite number but zero is written as zero is. -/
lemma unsigned_ne_of_zero (zero : size bits = 0) (some : size bits' ≠ 0)
    (finite : size bits' < 0x7FF0000000000000) : unsigned bits ≠ unsigned bits' := by
  intro same
  have pos := read_pos some finite
  rw [← unsigned_of_finite some finite, ← same, unsigned_of_zero zero, read_zero] at pos
  exact lt_irrefl _ pos

/-- Numbers up to infinity that have the same text but for the sign have the same size. -/
lemma size_eq_of_unsigned (defined : size bits ≤ 0x7FF0000000000000)
    (defined' : size bits' ≤ 0x7FF0000000000000) (same : unsigned bits = unsigned bits') :
    size bits = size bits' := by
  rcases defined.lt_or_eq with finite | infinite <;> rcases defined'.lt_or_eq with finite' | infinite'
  · rcases eq_or_ne (size bits) 0 with zero | some <;> rcases eq_or_ne (size bits') 0 with zero' | some'
    · rw [zero, zero']
    · exact absurd same (unsigned_ne_of_zero zero some' finite')
    · exact absurd same.symm (unsigned_ne_of_zero zero' some finite)
    · obtain ⟨canonical, number⟩ := isCanonical_ofBits finite
      obtain ⟨canonical', number'⟩ := isCanonical_ofBits finite'
      have around := around_read some finite
      rw [← unsigned_of_finite some finite, same, unsigned_of_finite some' finite'] at around
      have levels := Dyadic.level_eq_of_around canonical canonical' around (around_read some' finite')
      omega
  · exact absurd (same.trans (unsigned_of_infinity infinite')) (unsigned_ne_of_finite finite)
  · exact absurd (same.symm.trans (unsigned_of_infinity infinite)) (unsigned_ne_of_finite finite')
  · rw [infinite, infinite']

/-- No text of a number without its sign begins with a sign or with the letter of the undefined number. -/
lemma exists_cons_unsigned (defined : size bits ≤ 0x7FF0000000000000) :
    ∃ c rest, c ≠ '-' ∧ c ≠ 'N' ∧ unsigned bits = c :: rest := by
  rcases defined.lt_or_eq with finite | infinite
  · obtain ⟨c, rest, digit, e⟩ := exists_digit_of_finite finite
    refine ⟨c, rest, ?_, ?_, e⟩
    · rintro rfl
      exact absurd digit (by decide)
    · rintro rfl
      exact absurd digit (by decide)
  · exact ⟨'i', ['n', 'f'], by decide, by decide, unsigned_of_infinity infinite⟩

/-- The text of a number tells its bits. -/
lemma eq_of_signed (defined : size bits ≤ 0x7FF0000000000000) (defined' : size bits' ≤ 0x7FF0000000000000)
    (same : signed bits = signed bits') : bits = bits' := by
  have lt := bits.toNat_lt
  have lt' := bits'.toNat_lt
  have sizes (same : unsigned bits = unsigned bits') : bits.toNat % 2 ^ 63 = bits'.toNat % 2 ^ 63 :=
    size_eq_of_unsigned defined defined' same
  obtain ⟨c, rest, sign, -, e⟩ := exists_cons_unsigned defined
  obtain ⟨c', rest', sign', -, e'⟩ := exists_cons_unsigned defined'
  apply UInt64.toNat_inj.1
  rw [signed, signed] at same
  split at same <;> split at same
  · have := sizes (List.cons.inj same).2
    omega
  · rw [e'] at same
    exact absurd (List.cons.inj same).1.symm sign'
  · rw [e] at same
    exact absurd (List.cons.inj same).1 sign
  · have := sizes same
    omega

/-- No defined number is written as the undefined one is. -/
lemma signed_ne_of_defined (defined : size bits ≤ 0x7FF0000000000000) : signed bits ≠ "NaN".toList := by
  obtain ⟨c, rest, -, letter, e⟩ := exists_cons_unsigned defined
  rw [signed, e]
  intro same
  split at same
  · exact absurd (List.cons.inj same).1 (by decide)
  · exact letter (List.cons.inj same).1

/-- There is one undefined number only. -/
lemma toBits_of_undefined (undefined : 0x7FF0000000000000 < size x.toBits) :
    x.toBits.toBitVec = UnpackedFloat.packedNaN .binary64 := by
  rw [size] at undefined
  have lt := x.toBits.toNat_lt
  refine x.toModel.valid.eq_packedNaN (BitVec.eq_of_toNat_eq ?_) fun zero => ?_
  · show (x.toBits.toBitVec.extractLsb 62 52).toNat = 2047
    rw [BitVec.extractLsb_toNat, Nat.shiftRight_eq_div_pow, UInt64.toNat_toBitVec]
    omega
  · have fraction := congrArg BitVec.toNat zero
    change (x.toBits.toBitVec.extractLsb 51 0).toNat = 0 at fraction
    rw [BitVec.extractLsb_toNat, Nat.shiftRight_zero, UInt64.toNat_toBitVec] at fraction
    omega

end Unsigned

/-- Different numbers have different texts. -/
theorem injective : Function.Injective numeral := by
  intro x y same
  have bits : x.toBits = y.toBits := by
    have same := congrArg String.toList same
    rw [toList_numeral, toList_numeral] at same
    split at same <;> split at same
    · rename_i undefined undefined'
      exact UInt64.toBitVec_inj.1 ((toBits_of_undefined undefined).trans (toBits_of_undefined undefined').symm)
    · rename_i defined
      exact absurd same.symm (signed_ne_of_defined (not_lt.1 defined))
    · rename_i defined _
      exact absurd same (signed_ne_of_defined (not_lt.1 defined))
    · rename_i defined defined'
      exact eq_of_signed (not_lt.1 defined) (not_lt.1 defined') same
  obtain ⟨⟨_, _⟩⟩ := x
  obtain ⟨⟨_, _⟩⟩ := y
  cases bits
  rfl

end Numeral

end StepMeters
