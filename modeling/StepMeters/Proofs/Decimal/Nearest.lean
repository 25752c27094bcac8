import StepMeters.Proofs.Amount.Monotone
import StepMeters.Proofs.Decimal.Numerals
import StepMeters.Proofs.Decimal.Plain

/-!
# Short decimals come back

A decimal that is rounded to the nearest number lies in the interval that rounds to it
(`Dyadic.exists_around_of_isNearest`). If the decimal is short enough, so that the numbers are closer than the grid it
stands on, no other point of this grid is in the interval, and it is the shortest decimal of the number
(`Dyadic.value_shortest`). So the text of the number is the decimal written out (`Numeral.exists_text_of_isNearest`).
-/

namespace StepMeters
open Amount (IsNearest exponentOf valueOf)

namespace Dyadic
open Surrounding (ofDyadic)

section Shortest
variable {d : Dyadic} {v : ℚ} {n : ℕ} {place : ℤ}

/-- Two places less are a quarter. -/
lemma two_pow_sub_two (e : ℤ) : (2 : ℚ) ^ (e - 2) = 2 ^ e / 4 := by
  rw [zpow_sub₀ two_ne_zero]
  norm_num

/-- The value of the surrounding of a binary number is that number. -/
lemma value_div_ofDyadic (d : Dyadic) :
    ((ofDyadic d).value : ℚ) / (ofDyadic d).unit = valueOf d.significand d.exponent := by
  refine (d.natCast_div_ofDyadic (4 * d.significand)).trans ?_
  rw [valueOf, two_pow_sub_two]
  push_cast
  ring

/-- What rounds to a number is at most half a step away. -/
lemma around_bounds (pos : 0 < d.significand) (around : (ofDyadic d).Around v) :
    valueOf d.significand d.exponent - 2 ^ d.exponent / 2 ≤ v ∧
    v ≤ valueOf d.significand d.exponent + 2 ^ d.exponent / 2 := by
  have unit : (0 : ℚ) < 2 ^ d.exponent := zpow_pos two_pos _
  obtain ⟨low, high⟩ := around.bounds
  rw [low_div_ofDyadic, two_pow_sub_two] at low
  rw [high_div_ofDyadic, two_pow_sub_two] at high
  have least : (4 * d.significand - 2 : ℚ) ≤ (4 * d.significand - (if d.significand = 2 ^ 52 then 1 else 2) : ℕ) := by
    rw [Nat.cast_sub (by split <;> omega)]
    split <;> push_cast <;> linarith
  have scaled := mul_le_mul_of_nonneg_right least (by linarith : (0 : ℚ) ≤ 2 ^ d.exponent / 4)
  rw [valueOf]
  push_cast at high
  constructor <;> linarith

/-- A grid on which the numbers are closer has a point next to a number that rounds to it if it has any. -/
lemma exists_nearest?_of_around (pos : 0 < d.significand) (fine : (2 : ℚ) ^ d.exponent < 10 ^ place)
    (around : (ofDyadic d).Around (n * 10 ^ place)) : ∃ k, ((ofDyadic d).shifted place).nearest? = some k := by
  have step : (0 : ℚ) < 10 ^ place := zpow_pos (by norm_num) _
  have unit := Surrounding.unit_shifted_pos d.unit_ofDyadic_pos place
  have holds : ((ofDyadic d).shifted place).holds n = true := by
    rwa [Surrounding.holds_iff unit, Surrounding.around_shifted]
  have scaled : (((ofDyadic d).shifted place).value : ℚ) / ((ofDyadic d).shifted place).unit
      = valueOf d.significand d.exponent / 10 ^ place := by
    rw [← value_div_ofDyadic, div_eq_mul_inv _ ((10 : ℚ) ^ place), ← zpow_neg]
    exact (ofDyadic d).natCast_div_shifted place (ofDyadic d).value
  have half : (0 : ℚ) < 2 ^ d.exponent := zpow_pos two_pos _
  obtain ⟨below, above⟩ := around_bounds pos around
  apply Surrounding.exists_nearest?_of_near unit holds
  · rw [scaled, lt_div_iff₀ step]
    linarith
  · rw [scaled, div_lt_iff₀ step]
    linarith

/-- Such a grid is one of the seventeen if the point is not the first one. -/
lemma listed_of_around (pos : 0 < d.significand) (lt : d.significand < 2 ^ 53) (some : 2 ≤ n)
    (fine : (2 : ℚ) ^ d.exponent < 10 ^ place) (around : (ofDyadic d).Around (n * 10 ^ place)) :
    (ofDyadic d).magnitude - 17 ≤ place ∧ place < (ofDyadic d).magnitude := by
  have step : (0 : ℚ) < 10 ^ place := zpow_pos (by norm_num) _
  have value := value_ofDyadic_pos pos
  have first := Surrounding.ten_pow_magnitude_le value d.unit_ofDyadic_pos
  have beyond := Surrounding.lt_ten_pow_magnitude value d.unit_ofDyadic_pos
  rw [value_div_ofDyadic] at first beyond
  have high : (10 : ℚ) ^ place < 10 ^ (ofDyadic d).magnitude := by
    have steps : (2 : ℚ) * 10 ^ place ≤ n * 10 ^ place :=
      mul_le_mul_of_nonneg_right (by exact_mod_cast some) step.le
    have := (around_bounds pos around).2
    linarith
  have low : (10 : ℚ) ^ ((ofDyadic d).magnitude - 1) < 10 ^ (16 + place) := by
    have digits : (d.significand : ℚ) < 10 ^ 16 := by
      have : d.significand < 10 ^ 16 := lt.trans (by decide)
      exact_mod_cast this
    calc (10 : ℚ) ^ ((ofDyadic d).magnitude - 1) ≤ d.significand * 2 ^ d.exponent := first
      _ < 10 ^ 16 * 10 ^ place := mul_lt_mul'' digits fine (Nat.cast_nonneg _) (zpow_pos two_pos _).le
      _ = 10 ^ (16 + place) := by rw [zpow_add₀ (by norm_num), zpow_ofNat]
  rw [zpow_lt_zpow_iff_right₀ (by norm_num)] at low high
  omega

/-- A decimal of some steps of a grid on which the numbers are closer is the shortest one that rounds to its
number. -/
lemma value_shortest (pos : 0 < d.significand) (lt : d.significand < 2 ^ 53) (some : 2 ≤ n)
    (fine : (2 : ℚ) ^ d.exponent < 10 ^ place) (around : (ofDyadic d).Around (n * 10 ^ place)) :
    d.shortest.value = n * 10 ^ place := by
  have step : (0 : ℚ) < 10 ^ place := zpow_pos (by norm_num) _
  have grid : place ≤ d.shortest.exponent := by
    by_contra coarser
    obtain ⟨low, high⟩ := listed_of_around pos lt some fine around
    obtain ⟨k, here⟩ := exists_nearest?_of_around pos fine around
    rw [(exists_shortest pos lt).2 place (by omega) low high] at here
    cases here
  -- the decimal found is a point of the grid as well, and there is room for one only
  obtain ⟨k, multiple⟩ : ∃ k : ℕ, d.shortest.value = k * 10 ^ place := by
    refine ⟨d.shortest.digits * 10 ^ (d.shortest.exponent - place).toNat, ?_⟩
    rw [Decimal.value, Nat.cast_mul, mul_assoc, Nat.cast_pow, ← zpow_natCast, Nat.cast_ofNat,
      ← zpow_add₀ (by norm_num)]
    congr 2
    omega
  have bounds := around_bounds pos around
  have bounds' := around_bounds pos (multiple ▸ around_shortest pos lt)
  have less : (k : ℚ) * 10 ^ place < (n + 1) * 10 ^ place := by linarith
  have more : (n : ℚ) * 10 ^ place < (k + 1) * 10 ^ place := by linarith
  have upper : k < n + 1 := by exact_mod_cast lt_of_mul_lt_mul_right less step.le
  have lower : n < k + 1 := by exact_mod_cast lt_of_mul_lt_mul_right more step.le
  rw [multiple, (by omega : k = n)]

end Shortest

section Nearest
variable {x : Float} {v : ℚ}

/-- A number between the ends is around the value, and so are the ends themselves for an even significand. -/
lemma around_of_bounds {d : Dyadic}
    (h : ((ofDyadic d).low : ℚ) / (ofDyadic d).unit < v ∧ v < (ofDyadic d).high / (ofDyadic d).unit ∨
      d.significand % 2 = 0 ∧ (ofDyadic d).low / (ofDyadic d).unit ≤ v ∧ v ≤ (ofDyadic d).high / (ofDyadic d).unit) :
    (ofDyadic d).Around v := by
  rw [Surrounding.Around]
  split
  · rcases h with ⟨low, high⟩ | ⟨-, bounds⟩
    · exact ⟨low.le, high.le⟩
    · exact bounds
  · rename_i isOpen
    exact h.resolve_right fun closed => isOpen (decide_eq_true closed.1)

/-- Where nothing carries, the interval reaches half a step to both sides, but below a power of two it is the value
itself that stays above the lower end. -/
lemma around_of_near {r : ℕ} {e : ℤ} (digits : 2 ^ 52 ≤ r) (reach : (2 : ℚ) ^ 52 ≤ v / 2 ^ e)
    (near : (r : ℚ) - 1 / 2 < v / 2 ^ e ∧ v / 2 ^ e < r + 1 / 2 ∨
      r % 2 = 0 ∧ (r : ℚ) - 1 / 2 ≤ v / 2 ^ e ∧ v / 2 ^ e ≤ r + 1 / 2) : (ofDyadic ⟨r, e⟩).Around v := by
  have unit : (0 : ℚ) < 2 ^ e := zpow_pos two_pos _
  rw [lt_div_iff₀ unit, div_lt_iff₀ unit, le_div_iff₀ unit, div_le_iff₀ unit] at near
  rw [le_div_iff₀ unit] at reach
  apply around_of_bounds
  rw [low_div_ofDyadic, high_div_ofDyadic]
  dsimp only
  rw [two_pow_sub_two]
  by_cases power : r = 2 ^ 52
  · subst power
    norm_num at near reach ⊢
    refine .inr ⟨?_, ?_⟩
    · linarith
    · rcases near with near | near <;> linarith
  · rw [if_neg power, Nat.cast_sub (by omega)]
    push_cast
    refine near.imp (fun strict => ?_) (And.imp id fun bounds => ?_)
    · constructor <;> linarith
    · constructor <;> linarith

/-- Where rounding carries to the next power of two, the interval has half the step below it. -/
lemma around_of_carry {e : ℤ} (low : ((2 : ℚ) ^ 53 - 1 / 2) * 2 ^ e ≤ v) (high : v ≤ (2 ^ 53 + 1 / 2) * 2 ^ e) :
    (ofDyadic ⟨2 ^ 52, e + 1⟩).Around v := by
  have unit : (0 : ℚ) < 2 ^ e := zpow_pos two_pos _
  have half : (2 : ℚ) ^ (e + 1 - 2) = 2 ^ e / 2 := by
    rw [two_pow_sub_two, zpow_add_one₀ two_ne_zero]
    ring
  apply around_of_bounds
  rw [low_div_ofDyadic, high_div_ofDyadic]
  dsimp only
  rw [half, if_pos rfl]
  refine .inr ⟨by decide, ?_, ?_⟩
  · norm_num at low ⊢
    linarith
  · norm_num at high ⊢
    linarith

/-- What is rounded to a number lies in the interval that rounds to it. -/
lemma exists_around_of_isNearest (h : IsNearest x v) (normal : -1074 < exponentOf v) (bound : exponentOf v < 971) :
    ∃ m e, ∃ p : 0 < m, x.toModel.unpack = .finite .positive m e p ∧ e ≤ exponentOf v + 1 ∧
      (ofDyadic ⟨m, e⟩).Around v := by
  obtain ⟨em, left, unpacked⟩ := h
  have digits := left.le_roundedMantissa normal
  have reach := Amount.two_pow_le_div left.pos normal
  have near := left.tells.near
  rw [Amount.carried, dif_neg (by omega)] at unpacked
  rcases left.roundedMantissa_le.lt_or_eq with few | carry
  · rw [if_pos few, Amount.unpack_pack_finite .positive _ ⟨few, normal.le, .inl digits⟩ bound.le] at unpacked
    exact ⟨_, _, _, unpacked, by omega, around_of_near digits reach near⟩
  · have unit : (0 : ℚ) < 2 ^ exponentOf v := zpow_pos two_pos _
    rw [if_neg (by omega), Amount.unpack_pack_finite .positive _ ⟨by decide, by omega, .inl le_rfl⟩ bound] at unpacked
    have close : (em.roundedMantissa : ℚ) - 1 / 2 ≤ v / 2 ^ exponentOf v ∧
        v / 2 ^ exponentOf v ≤ em.roundedMantissa + 1 / 2 :=
      near.elim (fun strict => ⟨strict.1.le, strict.2.le⟩) And.right
    rw [carry, le_div_iff₀ unit, div_le_iff₀ unit] at close
    push_cast at close
    exact ⟨_, _, _, unpacked, le_rfl, around_of_carry close.1 close.2⟩

end Nearest

end Dyadic

namespace Numeral

section Text
variable {x : Float} {m n : ℕ} {e place : ℤ} {p : 0 < m}

/-- How a number above zero is kept in its bits. -/
lemma ofBits_of_unpack (h : x.toModel.unpack = .finite .positive m e p) :
    x.toBits.toNat < 2 ^ 63 ∧ size x.toBits ≠ 0 ∧ size x.toBits < 0x7FF0000000000000 ∧
      Dyadic.ofBits x.toBits = ⟨m, e⟩ := by
  have lt := x.toBits.toNat_lt
  change Float.Model.UnpackedFloat.unpack .binary64 x.toBits.toBitVec = _ at h
  obtain ⟨sign, bounded, parts⟩ := Amount.fields_of_unpack h
  have positive := sign rfl
  rw [UInt64.toNat_toBitVec] at positive bounded parts
  rw [size, Dyadic.ofBits, Nat.one_shiftLeft, Nat.one_shiftLeft]
  rcases parts with ⟨first, rfl, rfl⟩ | ⟨some, rfl, rfl⟩
  · rw [if_pos first]
    exact ⟨by omega, by omega, by omega, rfl⟩
  · rw [if_neg some]
    exact ⟨by omega, by omega, by omega, rfl⟩

/-- The text of a number above zero. -/
lemma toList_of_unpack (h : x.toModel.unpack = .finite .positive m e p) :
    (numeral x).toList = (Dyadic.shortest ⟨m, e⟩).text := by
  obtain ⟨sign, some, finite, dyadic⟩ := ofBits_of_unpack h
  rw [toList_numeral, if_neg (by omega), signed, if_neg (by omega), unsigned_of_finite some finite, dyadic]

/-- A number that is nearest to a short decimal is written as this decimal. -/
lemma exists_text_of_isNearest (h : IsNearest x (n * 10 ^ place)) (some : 2 ≤ n)
    (normal : -1074 < exponentOf (n * 10 ^ place)) (bound : exponentOf (n * 10 ^ place) < 971)
    (fine : (2 : ℚ) ^ (exponentOf (n * 10 ^ place) + 1) < 10 ^ place) :
    ∃ d : Decimal, 0 < d.digits ∧ d.value = n * 10 ^ place ∧ (numeral x).toList = d.text := by
  obtain ⟨m, e, p, unpacked, le, around⟩ := Dyadic.exists_around_of_isNearest h normal bound
  have step : (2 : ℚ) ^ e < 10 ^ place := (zpow_le_zpow_right₀ one_le_two le).trans_lt fine
  have value := Dyadic.value_shortest (d := ⟨m, e⟩) p (Amount.isCanonical_of_unpack unpacked).1.lt some step around
  refine ⟨_, Nat.pos_of_ne_zero fun none => ?_, value, toList_of_unpack unpacked⟩
  have pos := h.pos
  rw [← value, Decimal.value, none, Nat.cast_zero, zero_mul] at pos
  exact lt_irrefl _ pos

end Text

end Numeral

end StepMeters
