import StepMeters.Proofs.Amount.Order
import StepMeters.Proofs.Amount.Rounding

/-!
# Heights of amounts

Amounts that are not below zero can be numbered upwards from zero on: `Amount.height` is the number of such an
amount, with infinity at the end. Comparing amounts is comparing heights (`le_iff_height`). Rounding is then a
matter of whole numbers: `Amount.Rounds` says that an amount is the nearest one to an exact value, and greater
values have amounts that are at least as high (`Rounds.le`).
-/

namespace StepMeters.Amount

open Float.Model (UnpackedFloat Format)
open Float.Model.UnpackedFloat (Sign ExtendedMantissa roundWithAccuracy)

/-- The height of an unpacked number. What is below zero or undefined has none, which is written as `-1`. -/
def unpackedHeight : UnpackedFloat → ℤ
  | .zero _ => 0
  | .finite .positive m e _ => level m e
  | .infinity .positive => level (2 ^ 52) 972
  | _ => -1

/-- How many amounts lie between zero and an amount. -/
def height (x : Float) : ℤ := unpackedHeight x.toModel.unpack

section Canonical
variable {m m' : ℕ} {e e' : ℤ}

/-- A number as it is kept that is above zero has a level above zero. -/
lemma IsCanonical.level_pos (h : IsCanonical m e) (pos : 0 < m) : 0 < level m e := by
  have := h.le
  rw [level]
  omega

/-- A finite number as it is kept has a level below that of infinity. -/
lemma IsCanonical.level_lt_infinity (h : IsCanonical m e) (le : e ≤ 971) : level m e < level (2 ^ 52) 972 := by
  have := h.lt
  rw [level, level]
  omega

/-- Numbers as they are kept are ordered by exponent, then by mantissa. -/
lemma IsCanonical.level_le_iff (h : IsCanonical m e) (h' : IsCanonical m' e') :
    level m e ≤ level m' e' ↔ e < e' ∨ e = e' ∧ m ≤ m' := by
  obtain ⟨lt, least, full⟩ := h
  obtain ⟨lt', least', full'⟩ := h'
  rw [level, level]
  omega

/-- Numbers as they are kept compare by exponent and mantissa as they do by level. -/
lemma IsCanonical.isLE_iff (h : IsCanonical m e) (h' : IsCanonical m' e') :
    ((compare e e').then (compare m m')).isLE = true ↔ level m e ≤ level m' e' := by
  rw [h.level_le_iff h', Ordering.isLE_iff_ne_gt]
  rcases lt_trichotomy e e' with less | rfl | greater
  · rw [compare_lt_iff_lt.2 less]
    exact ⟨fun _ => .inl less, fun _ => nofun⟩
  · rw [compare_eq_iff_eq.2 rfl, Ordering.eq_then, compare_gt_iff_gt]
    omega
  · rw [compare_gt_iff_gt.2 greater]
    exact ⟨fun ne => absurd rfl ne, fun le => absurd le (by omega)⟩

/-- A number as it is kept has no greater value than one whose level is not less. -/
lemma IsCanonical.valueOf_le (h : IsCanonical m e) (h' : IsCanonical m' e') (le : level m e ≤ level m' e') :
    valueOf m e ≤ valueOf m' e' := by
  rw [valueOf, valueOf]
  rcases (h.level_le_iff h').1 le with less | ⟨rfl, digits⟩
  · have full : 2 ^ 52 ≤ m' := h'.full.resolve_right (by have := h.le; omega)
    calc (m : ℚ) * 2 ^ e ≤ 2 ^ 53 * 2 ^ e :=
          mul_le_mul_of_nonneg_right (by exact_mod_cast h.lt.le) (zpow_pos two_pos e).le
      _ = 2 ^ 52 * 2 ^ (e + 1) := by
          rw [zpow_add₀ two_ne_zero]
          ring
      _ ≤ m' * 2 ^ e' :=
          mul_le_mul (by exact_mod_cast full) (zpow_le_zpow_right₀ one_le_two less) (zpow_pos two_pos _).le
            (Nat.cast_nonneg m')
  · exact mul_le_mul_of_nonneg_right (by exact_mod_cast digits) (zpow_pos two_pos e).le

end Canonical

section Order
variable {x y : Float}

/-- What an amount that has a height is unpacked to. -/
inductive Unpacks (x : Float) : Prop where
  | zero (s : Sign) (h : x.toModel.unpack = .zero s) (height : height x = 0)
  | finite (m : ℕ) (e : ℤ) (pos : 0 < m) (h : x.toModel.unpack = .finite .positive m e pos)
      (height : height x = level m e) (canonical : IsCanonical m e) (bound : e ≤ 971)
  | infinity (h : x.toModel.unpack = .infinity .positive) (height : height x = level (2 ^ 52) 972)

/-- What has a height is unpacked to a zero, a finite number above zero or infinity. -/
lemma unpacks_of_nonneg (nonneg : 0 ≤ height x) : Unpacks x := by
  have unfold : height x = unpackedHeight x.toModel.unpack := rfl
  rw [unfold] at nonneg
  cases h : x.toModel.unpack with
  | notANumber =>
    rw [h] at nonneg
    exact absurd nonneg (by decide)
  | zero s => exact .zero s h (unfold.trans (congrArg unpackedHeight h))
  | infinity s =>
    cases s with
    | negative =>
      rw [h] at nonneg
      exact absurd nonneg (by decide)
    | positive => exact .infinity h (unfold.trans (congrArg unpackedHeight h))
  | finite s m e pos =>
    cases s with
    | negative =>
      rw [h] at nonneg
      exact absurd (show (0 : ℤ) ≤ -1 from nonneg) (by decide)
    | positive =>
      obtain ⟨canonical, bound⟩ := isCanonical_of_unpack h
      exact .finite m e pos h (unfold.trans (congrArg unpackedHeight h)) canonical bound

/-- Zero has the height zero. -/
lemma height_zero : height 0.0 = 0 := by decide

/-- Infinity stands above zero. -/
lemma infinity_pos : (0 : ℤ) < level (2 ^ 52) 972 := by decide

/-- Amounts are in the order of what they are unpacked to. -/
lemma le_iff_compare : x ≤ y ↔ ((x.toModel.unpack.compare y.toModel.unpack).any (·.isLE)) = true :=
  decide_eq_true_iff

/-- The amounts that have a height are those that are at least zero. -/
lemma zero_le_iff : 0.0 ≤ x ↔ 0 ≤ height x := by
  have zero : (0.0 : Float).toModel.unpack = .zero .positive := by rfl
  rw [le_iff_compare, zero, height]
  cases h : x.toModel.unpack with
  | notANumber => decide
  | zero s => exact ⟨fun _ => le_rfl, fun _ => rfl⟩
  | infinity s => cases s <;> decide
  | finite s m e pos =>
    cases s with
    | negative => exact ⟨nofun, fun le => absurd (show (0 : ℤ) ≤ -1 from le) (by decide)⟩
    | positive => exact ⟨fun _ => ((isCanonical_of_unpack h).1.level_pos pos).le, fun _ => rfl⟩

/-- Amounts that are at least zero are compared by their heights. -/
lemma le_iff_height (nonneg : 0 ≤ height x) : x ≤ y ↔ height x ≤ height y := by
  by_cases nonneg' : 0 ≤ height y
  · have top := infinity_pos
    rw [le_iff_compare]
    cases unpacks_of_nonneg nonneg with
    | zero s h height =>
      rw [h, height]
      cases unpacks_of_nonneg nonneg' with
      | zero t h' height' =>
        rw [h', height']
        exact ⟨fun _ => le_rfl, fun _ => rfl⟩
      | finite m' e' pos' h' height' canonical' bound' =>
        rw [h', height']
        exact ⟨fun _ => (canonical'.level_pos pos').le, fun _ => rfl⟩
      | infinity h' height' =>
        rw [h', height']
        exact ⟨fun _ => top.le, fun _ => rfl⟩
    | finite m e pos h height canonical bound =>
      rw [h, height]
      cases unpacks_of_nonneg nonneg' with
      | zero t h' height' =>
        rw [h', height']
        exact ⟨nofun, fun le => absurd (canonical.level_pos pos) (not_lt.2 le)⟩
      | finite m' e' pos' h' height' canonical' bound' =>
        rw [h', height']
        exact canonical.isLE_iff canonical'
      | infinity h' height' =>
        rw [h', height']
        exact ⟨fun _ => (canonical.level_lt_infinity bound).le, fun _ => rfl⟩
    | infinity h height =>
      rw [h, height]
      cases unpacks_of_nonneg nonneg' with
      | zero t h' height' =>
        rw [h', height']
        exact ⟨nofun, fun le => absurd top (not_lt.2 le)⟩
      | finite m' e' pos' h' height' canonical' bound' =>
        rw [h', height']
        exact ⟨nofun, fun le => absurd (canonical'.level_lt_infinity bound') (not_lt.2 le)⟩
      | infinity h' height' =>
        rw [h', height']
        exact ⟨fun _ => le_rfl, fun _ => rfl⟩
  · -- what is below zero or undefined has no height, and nothing at least zero is at most that
    exact ⟨fun le => absurd (zero_le_iff.1 (le_trans (zero_le_iff.2 nonneg) le)) nonneg',
      fun le => absurd (nonneg.trans le) nonneg'⟩

/-- Of two amounts that are at least zero the lesser one has the lesser height. -/
lemma height_lt_height (nonneg : 0.0 ≤ x) (lt : x < y) : height x < height y := by
  have above := zero_le_iff.1 nonneg
  have le := (le_iff_height above).1 (le_of_lt lt)
  refine le.lt_of_ne fun same => ?_
  have back : y ≤ x := (le_iff_height (above.trans le)).2 same.ge
  exact not_le_of_lt lt back

/-- An amount above zero that is less than another is a number. -/
lemma exists_finite_of_lt (pos : 0.0 < x) (lt : x < y) :
    ∃ m e, ∃ p : 0 < m, x.toModel.unpack = .finite .positive m e p := by
  have above := height_lt_height (le_refl isNaN_zero) pos
  have below := height_lt_height (le_of_lt pos) lt
  rw [height_zero] at above
  cases unpacks_of_nonneg above.le with
  | zero s h height => exact absurd height above.ne'
  | finite m e p h => exact ⟨m, e, p, h⟩
  | infinity h height =>
    -- nothing is higher than infinity
    rw [height] at below
    cases unpacks_of_nonneg (infinity_pos.trans below).le with
    | zero t h' height' => exact absurd infinity_pos (by omega)
    | finite m' e' p' h' height' canonical' bound' =>
      exact absurd (canonical'.level_lt_infinity bound') (by omega)
    | infinity h' height' => exact absurd below (by omega)

end Order

/-- An amount is the nearest one to an exact value above zero. -/
def IsNearest (x : Float) (v : ℚ) : Prop :=
  ∃ em, Leaves em v ∧
    x.toModel.unpack = (Float.Model.pack (carried .positive em.roundedMantissa (exponentOf v))).unpack

/-- An amount is the nearest one to an exact value above zero that has a mantissa and an exponent. -/
def Rounds (x : Float) (v : ℚ) : Prop :=
  ∃ m e, 0 < m ∧ IsLong m e ∧ valueOf m e = v ∧
    x.toModel.unpack = (Float.Model.pack (roundWithAccuracy .binary64 .positive m e .exact)).unpack

/-- Beyond the greatest exponent there is nothing but infinity. -/
lemma unpackedHeight_pack {m : ℕ} {e : ℤ} (pos : 0 < m) (h : IsCanonical m e) :
    unpackedHeight (Float.Model.pack (.finite .positive m e pos)).unpack = min (level m e) (level (2 ^ 52) 972) := by
  rcases le_or_gt e 971 with le | gt
  · rw [unpack_pack_finite .positive pos h le, min_eq_left (h.level_lt_infinity le).le]
    rfl
  · have full := h.full
    rw [unpack_pack_of_lt .positive pos gt, min_eq_right]
    · rfl
    · rw [level, level]
      omega

/-- A rounded mantissa has the height of its level, or that of infinity if it exceeds this. -/
lemma unpackedHeight_carried {em : ExtendedMantissa} {v : ℚ} (left : Leaves em v) :
    unpackedHeight (Float.Model.pack (carried .positive em.roundedMantissa (exponentOf v))).unpack =
      min (level em.roundedMantissa (exponentOf v)) (level (2 ^ 52) 972) := by
  have least : -1074 ≤ exponentOf v := le_max_right _ _
  have full := left.full
  rw [carried]
  split
  · rename_i none
    rw [none, full.resolve_left (by omega)]
    rfl
  · split
    · rename_i lt
      exact unpackedHeight_pack _ ⟨lt, least, full⟩
    · -- a carry to the next power of two leaves the level as it is
      have carry : em.roundedMantissa = 2 ^ 53 := by
        have := left.roundedMantissa_le
        omega
      rw [unpackedHeight_pack _ ⟨by decide, by omega, .inl le_rfl⟩, carry]
      congr 1
      rw [level, level]
      omega

section Nearest
variable {x y : Float} {v w : ℚ} {m m' : ℕ} {e e' : ℤ}

/-- The nearest amount to a value above zero has a height. -/
lemma IsNearest.height_nonneg (h : IsNearest x v) : 0 ≤ height x := by
  obtain ⟨em, left, unpacked⟩ := h
  have least : -1074 ≤ exponentOf v := le_max_right _ _
  rw [height, unpacked, unpackedHeight_carried left, level, level]
  omega

/-- Rounding keeps the order of the exact values. -/
lemma IsNearest.le (h : IsNearest x v) (h' : IsNearest y w) (le : v ≤ w) : x ≤ y := by
  rw [le_iff_height h.height_nonneg]
  obtain ⟨em, left, unpacked⟩ := h
  obtain ⟨em', left', unpacked'⟩ := h'
  rw [height, height, unpacked, unpacked', unpackedHeight_carried left, unpackedHeight_carried left']
  exact min_le_min_right _ (left.level_mono left' le)

/-- A value that can be kept is the nearest one to itself. -/
lemma IsNearest.unpack_eq (h : IsNearest x (valueOf m e)) (pos : 0 < m) (canonical : IsCanonical m e)
    (bound : e ≤ 971) : x.toModel.unpack = .finite .positive m e pos := by
  obtain ⟨em, left, unpacked⟩ := h
  have digits := canonical.lt
  rw [unpacked, left.roundedMantissa_of_canonical pos canonical, canonical.exponentOf_eq pos, carried,
    dif_neg pos.ne', if_pos digits]
  exact unpack_pack_finite .positive pos canonical bound

/-- A value with a mantissa and an exponent has a nearest amount. -/
lemma Rounds.isNearest (h : Rounds x v) : IsNearest x v := by
  obtain ⟨m, e, pos, long, rfl, unpacked⟩ := h
  obtain ⟨left, exponent⟩ := leaves_shift_exact pos long
  exact ⟨_, left, unpacked.trans (by rw [roundWithAccuracy_eq .positive rfl left exponent])⟩

/-- A rounded value above zero has a height. -/
lemma Rounds.height_nonneg (h : Rounds x v) : 0 ≤ height x := h.isNearest.height_nonneg

/-- Rounding keeps the order of values. -/
lemma Rounds.le (h : Rounds x v) (h' : Rounds y w) (le : v ≤ w) : x ≤ y := h.isNearest.le h'.isNearest le

/-- A value that can be kept as it is, is rounded to itself. -/
lemma Rounds.unpack_eq (h : Rounds x (valueOf m e)) (pos : 0 < m) (canonical : IsCanonical m e)
    (bound : e ≤ 971) : x.toModel.unpack = .finite .positive m e pos :=
  h.isNearest.unpack_eq pos canonical bound

/-- An amount is the nearest one to its own value. -/
lemma rounds_self {pos : 0 < m} (h : x.toModel.unpack = .finite .positive m e pos) : Rounds x (valueOf m e) := by
  obtain ⟨canonical, bound⟩ := isCanonical_of_unpack h
  obtain ⟨left, exponent⟩ := leaves_shift_exact pos canonical.isLong
  refine ⟨m, e, pos, canonical.isLong, rfl, ?_⟩
  rw [roundWithAccuracy_eq .positive rfl left exponent, left.roundedMantissa_of_canonical pos canonical,
    canonical.exponentOf_eq pos, carried, dif_neg pos.ne', if_pos canonical.lt,
    unpack_pack_finite .positive pos canonical bound, h]

/-- The product of two numbers is the nearest one to the product of their values. -/
lemma rounds_mul {pos : 0 < m} {pos' : 0 < m'} (h : x.toModel.unpack = .finite .positive m e pos)
    (h' : y.toModel.unpack = .finite .positive m' e' pos') : Rounds (x * y) (valueOf m e * valueOf m' e') := by
  obtain ⟨⟨-, least, full⟩, -⟩ := isCanonical_of_unpack h
  obtain ⟨⟨-, least', full'⟩, -⟩ := isCanonical_of_unpack h'
  have pos'' := Nat.mul_pos pos pos'
  refine ⟨m * m', e + e', pos'', ?_, ?_, ?_⟩
  · rw [IsLong, target]
    by_cases digits : 2 ^ 52 ≤ m * m'
    · have := (Nat.le_log2 pos''.ne').2 digits
      omega
    · -- if neither has all its digits, both have the least exponent
      have := Nat.le_mul_of_pos_right m pos'
      have := Nat.le_mul_of_pos_left m' pos
      omega
  · rw [valueOf, valueOf, valueOf, Nat.cast_mul, zpow_add₀ two_ne_zero]
    ring
  · rw [unpack_mul, h, h']
    rfl

end Nearest

end StepMeters.Amount
