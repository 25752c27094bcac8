import StepMeters.Proofs.Amount.Binary

/-!
# Rounding

The result of an operation on amounts is an exact value that is rounded: to 53 binary digits, or to the digits
that the least exponent leaves, and of two neighbours equally near to the even one. Digits are dropped one by
one, and two bits keep what must be known of them (`Tells`), whether there are more of them or not: a quotient may
have no end. What is left of an exact value at the exponent to which it is rounded (`Leaves`) therefore does not
depend on how the value was computed. Numbers with all their digits are numbered upwards by `level`, in which a
carry to the next power of two does not show, and rounding keeps the order (`Leaves.level_mono`).
-/

namespace StepMeters.Amount

open Float.Model (UnpackedFloat Format totalExponent)
open Float.Model.UnpackedFloat (Sign Accuracy ExtendedMantissa shiftToExponent shiftToTargetExponent roundWithAccuracy)

/-- A mantissa, and a half more if the round bit is set. -/
def low (em : ExtendedMantissa) : ℚ := em.mantissa + em.roundBit.toNat / 2

/-- What a mantissa with its two residual bits says about a number: it is the low one, or if the sticky bit is
set lies between this and the next half. -/
def Tells (em : ExtendedMantissa) (x : ℚ) : Prop :=
  if em.stickyBit then low em < x ∧ x < low em + 1 / 2 else x = low em

/-- An exact mantissa tells its own number. -/
lemma tells_exact (m : ℕ) : Tells (.ofMantissaAndAccuracy m .exact) m := by
  show (m : ℚ) = m + ((0 : ℕ) : ℚ) / 2
  rw [Nat.cast_zero, zero_div, add_zero]

section Tells
variable {em em' : ExtendedMantissa} {x y : ℚ}

/-- The low number of a mantissa is at most a half above it. -/
lemma low_bounds (em : ExtendedMantissa) : em.mantissa ≤ low em ∧ low em ≤ em.mantissa + 1 / 2 := by
  rw [low]
  cases em.roundBit with
  | false =>
    rw [Bool.toNat_false]
    constructor <;> norm_num
  | true =>
    rw [Bool.toNat_true]
    constructor <;> norm_num

/-- What is told lies in the half that begins at the low number. -/
lemma Tells.bounds (h : Tells em x) : low em ≤ x ∧ x < low em + 1 / 2 := by
  rw [Tells] at h
  split at h
  · exact ⟨h.1.le, h.2⟩
  · constructor <;> linarith

/-- What is told is not below the mantissa. -/
lemma Tells.mantissa_le (h : Tells em x) : em.mantissa ≤ x := (low_bounds em).1.trans h.bounds.1

/-- What is told is below the next mantissa. -/
lemma Tells.lt_mantissa (h : Tells em x) : x < em.mantissa + 1 := by
  have := h.bounds.2
  have := (low_bounds em).2
  linarith

/-- Dropping a digit halves the number, and the round bit adds to what is below. -/
lemma low_shiftRightOne (em : ExtendedMantissa) :
    low em.shiftRightOne = low em / 2 - em.roundBit.toNat / 4 := by
  have split : (em.mantissa : ℚ) = 2 * (em.mantissa / 2 : ℕ) + (em.mantissa % 2 : ℕ) := by
    exact_mod_cast (Nat.div_add_mod em.mantissa 2).symm
  have bit : (em.mantissa % 2 != 0).toNat = em.mantissa % 2 := by
    rcases Nat.mod_two_eq_zero_or_one em.mantissa with even | odd
    · rw [even]
      rfl
    · rw [odd]
      rfl
  show ((em.mantissa / 2 : ℕ) : ℚ) + (em.mantissa % 2 != 0).toNat / 2 = _
  rw [bit, low, split]
  ring

/-- Dropping a digit halves what is told. -/
lemma Tells.shiftRightOne (h : Tells em x) : Tells em.shiftRightOne (x / 2) := by
  have shifted := low_shiftRightOne em
  have bounds := h.bounds
  rw [Tells] at h ⊢
  have sticky : em.shiftRightOne.stickyBit = (em.roundBit || em.stickyBit) := rfl
  rw [sticky, shifted]
  cases em.roundBit with
  | true =>
    rw [Bool.true_or, if_pos rfl, Bool.toNat_true]
    constructor <;> push_cast <;> linarith
  | false =>
    rw [Bool.false_or, Bool.toNat_false, Nat.cast_zero, zero_div, sub_zero]
    split at h
    · rename_i some
      rw [if_pos some]
      constructor <;> linarith
    · rename_i none
      rw [if_neg none, h]

/-- Dropping several digits divides what is told by as many twos. -/
lemma Tells.shiftRight (h : Tells em x) (n : ℕ) : Tells (em >>> n) (x / 2 ^ n) := by
  change Tells (n.repeat ExtendedMantissa.shiftRightOne em) _
  induction n with
  | zero => simpa [Nat.repeat] using h
  | succ n ih =>
    rw [Nat.repeat, pow_succ, ← div_div]
    exact ih.shiftRightOne

/-- Rounding keeps a mantissa or adds one to it. -/
lemma roundedMantissa_bounds (em : ExtendedMantissa) :
    em.mantissa ≤ em.roundedMantissa ∧ em.roundedMantissa ≤ em.mantissa + 1 := by
  obtain ⟨m, r, s⟩ := em
  cases r <;> cases s <;>
    simp only [ExtendedMantissa.roundedMantissa, ExtendedMantissa.accuracy, Accuracy.roundToNearestEven] <;> omega

/-- Without a round bit a mantissa is kept. -/
lemma roundedMantissa_of_false (h : em.roundBit = false) : em.roundedMantissa = em.mantissa := by
  obtain ⟨m, r, s⟩ := em
  subst h
  cases s <;> rfl

/-- Above the half a mantissa is rounded up. -/
lemma roundedMantissa_of_true (h : em.roundBit = true) (above : em.stickyBit = true) :
    em.roundedMantissa = em.mantissa + 1 := by
  obtain ⟨m, r, s⟩ := em
  subst h above
  rfl

/-- At the half a mantissa becomes the even one next to it. -/
lemma roundedMantissa_of_tie (h : em.roundBit = true) (none : em.stickyBit = false) :
    em.roundedMantissa = em.mantissa + em.mantissa % 2 := by
  obtain ⟨m, r, s⟩ := em
  subst h none
  rfl

/-- Rounding goes to the nearest whole number, and from a half to an even one. -/
lemma Tells.near (h : Tells em x) :
    ((em.roundedMantissa : ℚ) - 1 / 2 < x ∧ x < em.roundedMantissa + 1 / 2) ∨
    em.roundedMantissa % 2 = 0 ∧ (em.roundedMantissa : ℚ) - 1 / 2 ≤ x ∧ x ≤ em.roundedMantissa + 1 / 2 := by
  have bounds := h.bounds
  rw [Tells] at h
  rw [low] at bounds h
  cases half : em.roundBit with
  | false =>
    rw [half, Bool.toNat_false, Nat.cast_zero, zero_div, add_zero] at bounds
    rw [roundedMantissa_of_false half]
    exact .inl ⟨by linarith, bounds.2⟩
  | true =>
    rw [half, Bool.toNat_true, Nat.cast_one] at h
    cases above : em.stickyBit with
    | true =>
      rw [if_pos above] at h
      rw [roundedMantissa_of_true half above, Nat.cast_add, Nat.cast_one]
      exact .inl ⟨by linarith, by linarith⟩
    | false =>
      rw [above, if_neg Bool.false_ne_true] at h
      rw [roundedMantissa_of_tie half above, h]
      refine .inr ⟨by omega, ?_⟩
      rcases Nat.mod_two_eq_zero_or_one em.mantissa with even | odd
      · rw [even]
        constructor <;> push_cast <;> linarith
      · rw [odd]
        constructor <;> push_cast <;> linarith

/-- Of whole numbers nothing is rounded away. -/
lemma Tells.roundedMantissa_of_natCast {n : ℕ} (h : Tells em n) : em.roundedMantissa = n := by
  have le : em.mantissa ≤ n := by exact_mod_cast h.mantissa_le
  have lt : n < em.mantissa + 1 := by exact_mod_cast h.lt_mantissa
  obtain rfl : n = em.mantissa := by omega
  apply roundedMantissa_of_false
  cases half : em.roundBit with
  | false => rfl
  | true =>
    have below := h.bounds.1
    rw [low, half, Bool.toNat_true] at below
    norm_num at below

/-- What is less than half above a whole number is not rounded up beyond it. -/
lemma Tells.roundedMantissa_le_of_lt {n : ℕ} (h : Tells em x) (lt : x < n + 1 / 2) : em.roundedMantissa ≤ n := by
  have below : (em.mantissa : ℚ) < n + 1 := h.mantissa_le.trans_lt (lt.trans (by linarith))
  have floor : em.mantissa < n + 1 := by exact_mod_cast below
  have up := (roundedMantissa_bounds em).2
  rcases (Nat.lt_succ_iff.1 floor).lt_or_eq with less | same
  · omega
  · cases half : em.roundBit with
    | false => exact (roundedMantissa_of_false half).trans_le same.le
    | true =>
      have reach := h.bounds.1.trans_lt lt
      rw [low, half, same, Bool.toNat_true] at reach
      norm_num at reach

/-- A number that is not above one at the start of its half stands there too. -/
lemma Tells.stickyBit_of_le (h : Tells em x) (h' : Tells em' y) (le : x ≤ y) (same : low em = low em')
    (none : em'.stickyBit = false) : em.stickyBit = false := by
  cases some : em.stickyBit with
  | false => rfl
  | true =>
    rw [Tells, if_pos some] at h
    rw [Tells, none] at h'
    have exactly : y = low em' := h'
    rw [exactly, ← same] at le
    exact absurd h.1 (not_lt.2 le)

/-- Rounding keeps the order. -/
lemma Tells.roundedMantissa_mono (h : Tells em x) (h' : Tells em' y) (le : x ≤ y) :
    em.roundedMantissa ≤ em'.roundedMantissa := by
  have floors : em.mantissa ≤ em'.mantissa := by
    have : (em.mantissa : ℚ) < em'.mantissa + 1 := (h.mantissa_le.trans le).trans_lt h'.lt_mantissa
    have : em.mantissa < em'.mantissa + 1 := by exact_mod_cast this
    omega
  have up := roundedMantissa_bounds em
  have up' := roundedMantissa_bounds em'
  rcases floors.lt_or_eq with less | same
  · omega
  · cases half : em.roundBit with
    | false =>
      rw [roundedMantissa_of_false half]
      omega
    | true =>
      have reach := h.bounds.1.trans le
      rw [low, half, same] at reach
      cases half' : em'.roundBit with
      | false =>
        have bound := h'.bounds.2
        rw [low, half'] at bound
        exact absurd reach (not_le.2 (bound.trans_eq (by norm_num)))
      | true =>
        cases above' : em'.stickyBit with
        | true =>
          rw [roundedMantissa_of_true half' above']
          omega
        | false =>
          -- the greater number is the half, so the other is the half as well
          have lows : low em = low em' := by rw [low, low, half, half', same]
          have above := h.stickyBit_of_le h' le lows above'
          obtain ⟨m, r, s⟩ := em
          obtain ⟨m', r', s'⟩ := em'
          dsimp only at same half half' above above'
          subst same half half' above above'
          exact le_rfl

end Tells

/-- How many amounts there are from zero up to one with this mantissa and exponent. -/
def level (m : ℕ) (e : ℤ) : ℤ := m + (e + 1074) * 2 ^ 52

/-- The exponent to which an exact value is rounded. -/
def exponentOf (v : ℚ) : ℤ := max (Int.log 2 v - 52) (-1074)

/-- What is left of an exact value above zero when its digits are dropped up to the exponent to which it is
rounded. -/
structure Leaves (em : ExtendedMantissa) (v : ℚ) : Prop where
  pos : 0 < v
  tells : Tells em (v / 2 ^ exponentOf v)

section Leaves
variable {em em' : ExtendedMantissa} {v w : ℚ}

/-- A value above zero reaches the power of two that its logarithm names. -/
lemma two_pow_log_le (pos : 0 < v) : (2 : ℚ) ^ Int.log 2 v ≤ v := by
  exact_mod_cast Int.zpow_log_le_self (b := 2) (by decide) pos

/-- A value stays below the power of two after the one that its logarithm names. -/
lemma lt_two_pow_log (v : ℚ) : v < (2 : ℚ) ^ (Int.log 2 v + 1) := by
  exact_mod_cast Int.lt_zpow_succ_log_self (b := 2) (by decide) v

/-- The logarithm of a value between two neighbouring powers of two is that of the lesser one. -/
lemma log_eq {k : ℤ} (reach : (2 : ℚ) ^ k ≤ v) (below : v < (2 : ℚ) ^ (k + 1)) : Int.log 2 v = k := by
  have pos : 0 < v := (zpow_pos two_pos k).trans_le reach
  have least : k < Int.log 2 v + 1 := by
    rw [← zpow_lt_zpow_iff_right₀ (one_lt_two : (1 : ℚ) < 2)]
    exact reach.trans_lt (lt_two_pow_log v)
  have most : Int.log 2 v < k + 1 := by
    rw [← zpow_lt_zpow_iff_right₀ (one_lt_two : (1 : ℚ) < 2)]
    exact (two_pow_log_le pos).trans_lt below
  omega

/-- A greater value is not rounded to a lesser exponent. -/
lemma exponentOf_mono (pos : 0 < v) (le : v ≤ w) : exponentOf v ≤ exponentOf w :=
  max_le_max_right _ (sub_le_sub_right (Int.log_mono_right pos le) _)

/-- No more than 53 digits are left, or the next power of two. -/
lemma Leaves.roundedMantissa_le (h : Leaves em v) : em.roundedMantissa ≤ 2 ^ 53 := by
  have below : v / 2 ^ exponentOf v < (2 : ℚ) ^ (53 : ℤ) := by
    rw [div_lt_iff₀ (zpow_pos two_pos _), ← zpow_add₀ two_ne_zero]
    refine (lt_two_pow_log v).trans_le (zpow_le_zpow_right₀ one_le_two ?_)
    rw [exponentOf]
    omega
  have floor : (em.mantissa : ℚ) < 2 ^ 53 := h.tells.mantissa_le.trans_lt below
  have : em.mantissa < 2 ^ 53 := by exact_mod_cast floor
  have := (roundedMantissa_bounds em).2
  omega

/-- Above the least exponent all 53 digits are there. -/
lemma two_pow_le_div (pos : 0 < v) (above : -1074 < exponentOf v) : 2 ^ 52 ≤ v / 2 ^ exponentOf v := by
  rw [← zpow_ofNat, le_div_iff₀ (zpow_pos two_pos _), ← zpow_add₀ two_ne_zero]
  refine (zpow_le_zpow_right₀ one_le_two ?_).trans (two_pow_log_le pos)
  rw [exponentOf] at above ⊢
  omega

/-- Above the least exponent a rounded mantissa has its full length. -/
lemma Leaves.le_roundedMantissa (h : Leaves em v) (above : -1074 < exponentOf v) : 2 ^ 52 ≤ em.roundedMantissa := by
  have floor : (2 : ℚ) ^ 52 < em.mantissa + 1 := (two_pow_le_div h.pos above).trans_lt h.tells.lt_mantissa
  have : 2 ^ 52 < em.mantissa + 1 := by exact_mod_cast floor
  have := (roundedMantissa_bounds em).1
  omega

/-- A rounded mantissa has its full length, or else the least exponent. -/
lemma Leaves.full (h : Leaves em v) : 2 ^ 52 ≤ em.roundedMantissa ∨ exponentOf v = -1074 := by
  rcases (le_max_right _ _ : -1074 ≤ exponentOf v).lt_or_eq with above | same
  · exact .inl (h.le_roundedMantissa above)
  · exact .inr same.symm

/-- Rounding keeps the order of exact values. -/
lemma Leaves.level_mono (h : Leaves em v) (h' : Leaves em' w) (le : v ≤ w) :
    level em.roundedMantissa (exponentOf v) ≤ level em'.roundedMantissa (exponentOf w) := by
  rcases (exponentOf_mono h.pos le).lt_or_eq with less | same
  · have := h.roundedMantissa_le
    have least : -1074 ≤ exponentOf v := le_max_right _ _
    have := h'.le_roundedMantissa (by omega)
    rw [level, level]
    omega
  · have scaled : v / 2 ^ exponentOf v ≤ w / 2 ^ exponentOf w := by
      rw [same]
      exact div_le_div_of_nonneg_right le (zpow_pos two_pos _).le
    have := h.tells.roundedMantissa_mono h'.tells scaled
    rw [level, level, same]
    omega

end Leaves

/-- The exponent to which a number is rounded. -/
def target (m : ℕ) (e : ℤ) : ℤ := max ((m.log2 : ℤ) + e - 52) (-1074)

/-- A number has at least the digits that rounding keeps. -/
def IsLong (m : ℕ) (e : ℤ) : Prop := e ≤ target m e

/-- The exponent that is rounded to is the one that the format asks for. -/
lemma targetExponent_eq (m : ℕ) (e : ℤ) :
    Format.binary64.targetExponent (totalExponent m e) = target m e := by
  simp only [Format.targetExponent, totalExponent, Format.mantissaBits, Format.minExponent, target]
  norm_num
  ring_nf

/-- The exact value of mantissa and exponent. -/
def valueOf (m : ℕ) (e : ℤ) : ℚ := m * 2 ^ e

/-- A rounded mantissa as it is kept. One that was rounded up to the next power of two loses a digit. -/
def carried (s : Sign) (r : ℕ) (t : ℤ) : UnpackedFloat :=
  if h : r = 0 then .zero s
  else if r < 2 ^ 53 then .finite s r t (Nat.pos_of_ne_zero h)
  else .finite s (2 ^ 52) (t + 1) (by decide)

section Rounding
variable {m m' : ℕ} {e e' : ℤ} {v : ℚ}

/-- A mantissa above zero has a value above zero. -/
lemma valueOf_pos (pos : 0 < m) (e : ℤ) : 0 < valueOf m e := by
  have : (0 : ℚ) < m := by exact_mod_cast pos
  exact mul_pos this (zpow_pos two_pos e)

/-- A value reaches the power of two at its first digit. -/
lemma two_pow_log2_le (pos : 0 < m) (e : ℤ) : (2 : ℚ) ^ ((m.log2 : ℤ) + e) ≤ valueOf m e := by
  rw [valueOf, zpow_add₀ two_ne_zero, zpow_natCast]
  refine mul_le_mul_of_nonneg_right ?_ (zpow_pos two_pos e).le
  exact_mod_cast Nat.log2_self_le pos.ne'

/-- A value stays below the power of two before its first digit. -/
lemma valueOf_lt_two_pow (m : ℕ) (e : ℤ) : valueOf m e < (2 : ℚ) ^ ((m.log2 : ℤ) + 1 + e) := by
  rw [valueOf, zpow_add₀ two_ne_zero]
  refine mul_lt_mul_of_pos_right ?_ (zpow_pos two_pos e)
  exact_mod_cast Nat.lt_log2_self (n := m)

/-- The logarithm of a value is the place of its first digit. -/
lemma log_valueOf (pos : 0 < m) (e : ℤ) : Int.log 2 (valueOf m e) = m.log2 + e := by
  apply log_eq (two_pow_log2_le pos e)
  rw [add_right_comm]
  exact valueOf_lt_two_pow m e

/-- The exponent that a number is rounded to depends on its value alone. -/
lemma target_eq (pos : 0 < m) (e : ℤ) : target m e = exponentOf (valueOf m e) := by
  rw [target, exponentOf, log_valueOf pos]

/-- A mantissa that was found by dropping digits of a value, down to an exponent that is low enough, is rounded to
the same exponent as the value. -/
lemma target_eq_exponentOf {accuracy : Accuracy} (pos : 0 < v)
    (tells : Tells (.ofMantissaAndAccuracy m accuracy) (v / 2 ^ e)) (long : e ≤ exponentOf v) :
    target m e = exponentOf v := by
  have mantissa : (ExtendedMantissa.ofMantissaAndAccuracy m accuracy).mantissa = m := by
    cases accuracy with
    | exact => rfl
    | inexact half => cases half <;> rfl
  have floor := tells.mantissa_le
  have ceiling := tells.lt_mantissa
  rw [mantissa, le_div_iff₀ (zpow_pos two_pos e)] at floor
  rw [mantissa, div_lt_iff₀ (zpow_pos two_pos e)] at ceiling
  rcases Nat.eq_zero_or_pos m with rfl | digits
  · -- less than the first digit is below the least exponent
    have few : Int.log 2 v < e := by
      rw [← zpow_lt_zpow_iff_right₀ (one_lt_two : (1 : ℚ) < 2)]
      refine (two_pow_log_le pos).trans_lt (ceiling.trans_eq ?_)
      rw [Nat.cast_zero, zero_add, one_mul]
    rw [exponentOf] at long
    rw [target, exponentOf, Nat.log2_zero]
    omega
  · have log : Int.log 2 v = m.log2 + e := by
      apply log_eq ((two_pow_log2_le digits e).trans floor)
      have next : ((m : ℚ) + 1) ≤ 2 ^ ((m.log2 : ℤ) + 1) := by
        exact_mod_cast Nat.lt_log2_self (n := m)
      calc v < (m + 1) * 2 ^ e := ceiling
        _ ≤ 2 ^ ((m.log2 : ℤ) + 1) * 2 ^ e := mul_le_mul_of_nonneg_right next (zpow_pos two_pos e).le
        _ = 2 ^ ((m.log2 : ℤ) + e + 1) := by
          rw [← zpow_add₀ two_ne_zero]
          congr 1
          ring
    rw [target, exponentOf, log]

/-- Two bits and a mantissa that tell a value above zero at some exponent tell it at the exponent to which it is
rounded, provided that this is not below. -/
lemma leaves_shift {accuracy : Accuracy} (pos : 0 < v) (tells : Tells (.ofMantissaAndAccuracy m accuracy) (v / 2 ^ e))
    (long : e ≤ exponentOf v) : Leaves (shiftToTargetExponent .binary64 m e accuracy).1 v ∧
      (shiftToTargetExponent .binary64 m e accuracy).2 = exponentOf v := by
  have steps : e + (exponentOf v - e).toNat = exponentOf v := by omega
  rw [shiftToTargetExponent, targetExponent_eq, target_eq_exponentOf pos tells long, shiftToExponent]
  refine ⟨⟨pos, ?_⟩, steps⟩
  have shifted := tells.shiftRight (exponentOf v - e).toNat
  rwa [div_div, ← zpow_natCast, ← zpow_add₀ two_ne_zero, steps] at shifted

/-- Of a long number the digits up to the exponent to which it is rounded are left. -/
lemma leaves_shift_exact (pos : 0 < m) (long : IsLong m e) :
    Leaves (shiftToTargetExponent .binary64 m e .exact).1 (valueOf m e) ∧
      (shiftToTargetExponent .binary64 m e .exact).2 = exponentOf (valueOf m e) := by
  rw [IsLong, target_eq pos] at long
  apply leaves_shift (valueOf_pos pos e) _ long
  rw [valueOf, mul_div_cancel_right₀ _ (zpow_ne_zero e two_ne_zero)]
  exact tells_exact m

/-- The first digit of a greater value does not stand at a lesser place. -/
lemma log_le_log (pos : 0 < m) (pos' : 0 < m') (le : valueOf m e ≤ valueOf m' e') :
    (m.log2 : ℤ) + e ≤ m'.log2 + e' := by
  rw [← log_valueOf pos, ← log_valueOf pos']
  exact Int.log_mono_right (valueOf_pos pos e) le

/-- A number as it is kept has all digits that rounding keeps. -/
lemma IsCanonical.isLong (h : IsCanonical m e) : IsLong m e := by
  have least := h.le
  rw [IsLong, target]
  rcases h.full with full | last
  · have := (Nat.le_log2 (by omega)).2 full
    omega
  · omega

/-- A number as it is kept has the exponent to which its value is rounded. -/
lemma IsCanonical.exponentOf_eq (h : IsCanonical m e) (pos : 0 < m) : exponentOf (valueOf m e) = e := by
  have few := (Nat.log2_lt pos.ne').2 h.lt
  have least := h.le
  rw [← target_eq pos, target]
  rcases h.full with full | last
  · have := (Nat.le_log2 pos.ne').2 full
    omega
  · omega

/-- Of a value that can be kept nothing is rounded away. -/
lemma Leaves.roundedMantissa_of_canonical {em : ExtendedMantissa} (h : Leaves em (valueOf m e)) (pos : 0 < m)
    (canonical : IsCanonical m e) : em.roundedMantissa = m := by
  have told := h.tells
  rw [canonical.exponentOf_eq pos, valueOf, mul_div_cancel_right₀ _ (zpow_ne_zero e two_ne_zero)] at told
  exact told.roundedMantissa_of_natCast

/-- A mantissa of at most full length drops no digits. -/
lemma shift_of_lt {r : ℕ} {t : ℤ} (lt : r < 2 ^ 53) (least : -1074 ≤ t) :
    shiftToTargetExponent .binary64 r t .exact = (⟨r, false, false⟩, t) := by
  have log : r.log2 ≤ 52 := by
    rcases Nat.eq_zero_or_pos r with rfl | pos
    · decide
    · have := (Nat.log2_lt pos.ne').2 lt
      omega
  have none : (target r t - t).toNat = 0 := by
    rw [target]
    omega
  rw [shiftToTargetExponent, targetExponent_eq, shiftToExponent, none, Nat.cast_zero, add_zero]
  rfl

/-- A mantissa that was rounded up to the next power of two loses a digit. -/
lemma shift_carry {t : ℤ} (least : -1074 ≤ t) :
    shiftToTargetExponent .binary64 (2 ^ 53) t .exact = (⟨2 ^ 52, false, false⟩, t + 1) := by
  have one : (target (2 ^ 53) t - t).toNat = 1 := by
    rw [target, Nat.log2_two_pow]
    omega
  rw [shiftToTargetExponent, targetExponent_eq, shiftToExponent, one]
  rfl

/-- Rounding keeps what is left of the value. -/
lemma roundWithAccuracy_eq (s : Sign) {accuracy : Accuracy} {once : ExtendedMantissa × ℤ}
    (first : shiftToTargetExponent .binary64 m e accuracy = once) (left : Leaves once.1 v)
    (exponent : once.2 = exponentOf v) :
    roundWithAccuracy .binary64 s m e accuracy = carried s once.1.roundedMantissa (exponentOf v) := by
  have least : -1074 ≤ exponentOf v := le_max_right _ _
  unfold roundWithAccuracy
  rw [first]
  dsimp only
  rw [exponent, carried]
  rcases left.roundedMantissa_le.lt_or_eq with lt | carry
  · simp only [shift_of_lt lt least, if_pos lt]
  · rw [carry, shift_carry least]
    rfl

end Rounding

end StepMeters.Amount
