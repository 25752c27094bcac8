import Mathlib.Data.Prod.Lex
import Mathlib.Tactic.Lemma
import StepMeters.Amount

/-!
# The order of amounts

Floating-point numbers are compared by class, exponent and mantissa. `Amount.place` collects the three in a
linear order, so that among defined amounts `<`, `≤` and `==` are those of the places (`lt_iff`, `le_iff`,
`beq_iff`) and obey the laws of an order. An amount is accepted if and only if it is at least zero.
-/

namespace StepMeters.Amount

open Float.Model (UnpackedFloat)

/-- The place of an unpacked number in the order: the class, then exponent and mantissa, both turned around
below zero. The place of an undefined number does not matter. -/
def unpackedPlace : UnpackedFloat → ℤ ×ₗ ℤ ×ₗ ℤ
  | .infinity .negative => toLex (-2, toLex (0, 0))
  | .finite .negative mantissa exponent _ => toLex (-1, toLex (-exponent, -mantissa))
  | .zero _ => toLex (0, toLex (0, 0))
  | .finite .positive mantissa exponent _ => toLex (1, toLex (exponent, mantissa))
  | .infinity .positive => toLex (2, toLex (0, 0))
  | .notANumber => toLex (3, toLex (0, 0))

/-- The place of an amount in the order. The two zeros share a place. -/
def place (x : Float) : ℤ ×ₗ ℤ ×ₗ ℤ := unpackedPlace x.toModel.unpack

/-- Places of one class are compared by exponent, then by mantissa. -/
lemma compare_toLex (k a b c d : ℤ) :
    compare (toLex (k, toLex (a, b))) (toLex (k, toLex (c, d))) = (compare a c).then (compare b d) := by
  change (compare k k).then ((compare a c).then (compare b d)) = _
  rw [compare_eq_iff_eq.2 (rfl : k = k)]
  rfl

/-- Turning both numbers around turns their comparison around. -/
lemma compare_neg (a b : ℤ) : compare (-a) (-b) = (compare a b).swap := by
  rw [Int.compare_swap]
  rcases lt_trichotomy a b with h | h | h
  · rw [compare_gt_iff_gt.2 h, compare_gt_iff_gt.2 (by omega)]
  · rw [compare_eq_iff_eq.2 h.symm, compare_eq_iff_eq.2 (by omega)]
  · rw [compare_lt_iff_lt.2 h, compare_lt_iff_lt.2 (by omega)]

/-- Natural numbers compare as the integers that they are. -/
lemma compare_natCast (m n : ℕ) : compare (m : ℤ) (n : ℤ) = compare m n := by
  rcases lt_trichotomy m n with h | h | h
  · rw [compare_lt_iff_lt.2 h, compare_lt_iff_lt.2 (by omega)]
  · rw [compare_eq_iff_eq.2 h, compare_eq_iff_eq.2 (by omega)]
  · rw [compare_gt_iff_gt.2 h, compare_gt_iff_gt.2 (by omega)]

/-- Defined numbers are compared by their places. -/
lemma compare_of_isNaN_eq_false {a b : UnpackedFloat} (ha : a.isNaN = false) (hb : b.isNaN = false) :
    a.compare b = some (compare (unpackedPlace a) (unpackedPlace b)) := by
  cases a with
  | notANumber => cases ha
  | infinity s =>
    cases b with
    | notANumber => cases hb
    | infinity t => cases s <;> cases t <;> rfl
    | zero t => cases s <;> rfl
    | finite t m e h => cases s <;> cases t <;> rfl
  | zero s =>
    cases b with
    | notANumber => cases hb
    | infinity t => cases t <;> rfl
    | zero t => rfl
    | finite t m e h => cases t <;> rfl
  | finite s m e h =>
    cases b with
    | notANumber => cases hb
    | infinity t => cases s <;> cases t <;> rfl
    | zero t => cases s <;> rfl
    | finite t m' e' h' =>
      cases s with
      | negative =>
        cases t with
        | negative =>
          -- below zero the comparison of the magnitudes is turned around, and so are the places
          show some ((compare e e').then (compare m m')).swap
            = some (compare (toLex (-1, toLex (-e, -(m : ℤ)))) (toLex (-1, toLex (-e', -(m' : ℤ)))))
          rw [compare_toLex, compare_neg, compare_neg, compare_natCast, Ordering.swap_then]
        | positive => rfl
      | positive =>
        cases t with
        | negative => rfl
        | positive =>
          show some ((compare e e').then (compare m m'))
            = some (compare (toLex (1, toLex (e, (m : ℤ)))) (toLex (1, toLex (e', (m' : ℤ)))))
          rw [compare_toLex, compare_natCast]

/-- An undefined number cannot be compared. -/
lemma compare_of_isNaN {a b : UnpackedFloat} (h : ¬(a.isNaN = false ∧ b.isNaN = false)) :
    a.compare b = none := by
  cases a with
  | notANumber => rfl
  | _ =>
    cases b with
    | notANumber => rfl
    | _ => exact absurd ⟨rfl, rfl⟩ h

section Order
variable {x y z : Float}

/-- Less means defined and of lesser place. -/
lemma lt_iff : x < y ↔ x.isNaN = false ∧ y.isNaN = false ∧ place x < place y := by
  have unfold : x < y ↔ (x.toModel.unpack.compare y.toModel.unpack == some .lt) = true :=
    decide_eq_true_iff
  rw [unfold]
  by_cases h : x.isNaN = false ∧ y.isNaN = false
  · rw [compare_of_isNaN_eq_false h.1 h.2, beq_iff_eq, Option.some_inj, compare_lt_iff_lt]
    exact ⟨fun less => ⟨h.1, h.2, less⟩, fun less => less.2.2⟩
  · rw [compare_of_isNaN h]
    exact ⟨nofun, fun less => absurd ⟨less.1, less.2.1⟩ h⟩

/-- An amount is at most another if both are defined and their places are in this order. -/
lemma le_iff : x ≤ y ↔ x.isNaN = false ∧ y.isNaN = false ∧ place x ≤ place y := by
  have unfold : x ≤ y ↔ ((x.toModel.unpack.compare y.toModel.unpack).any (·.isLE)) = true :=
    decide_eq_true_iff
  rw [unfold]
  by_cases h : x.isNaN = false ∧ y.isNaN = false
  · rw [compare_of_isNaN_eq_false h.1 h.2, Option.any_some, Ordering.isLE_iff_ne_gt,
      compare_gt_iff_gt, not_lt]
    exact ⟨fun less => ⟨h.1, h.2, less⟩, fun less => less.2.2⟩
  · rw [compare_of_isNaN h]
    exact ⟨nofun, fun less => absurd ⟨less.1, less.2.1⟩ h⟩

/-- Two amounts are equal if both are defined and share a place. -/
lemma beq_iff : (x == y) = true ↔ x.isNaN = false ∧ y.isNaN = false ∧ place x = place y := by
  have unfold : (x == y) = (x.toModel.unpack.compare y.toModel.unpack == some .eq) := rfl
  rw [unfold]
  by_cases h : x.isNaN = false ∧ y.isNaN = false
  · rw [compare_of_isNaN_eq_false h.1 h.2, beq_iff_eq, Option.some_inj, compare_eq_iff_eq]
    exact ⟨fun same => ⟨h.1, h.2, same⟩, fun same => same.2.2⟩
  · rw [compare_of_isNaN h]
    exact ⟨nofun, fun same => absurd ⟨same.1, same.2.1⟩ h⟩

/-- The order of amounts is transitive. -/
lemma le_trans (h : x ≤ y) (h' : y ≤ z) : x ≤ z := by
  rw [le_iff] at h h' ⊢
  exact ⟨h.1, h'.2.1, h.2.2.trans h'.2.2⟩

/-- Every defined amount is at most itself. -/
lemma le_refl (h : x.isNaN = false) : x ≤ x := le_iff.2 ⟨h, h, le_rfl⟩

/-- What is below an amount is at most it. -/
lemma le_of_lt (h : x < y) : x ≤ y := by
  rw [lt_iff] at h
  exact le_iff.2 ⟨h.1, h.2.1, h.2.2.le⟩

/-- Being below is transitive. -/
lemma lt_trans (h : x < y) (h' : y < z) : x < z := by
  rw [lt_iff] at h h' ⊢
  exact ⟨h.1, h'.2.1, h.2.2.trans h'.2.2⟩

/-- What is below an amount is below all that it is at most. -/
lemma lt_of_lt_of_le (h : x < y) (h' : y ≤ z) : x < z := by
  rw [lt_iff] at h
  rw [le_iff] at h'
  exact lt_iff.2 ⟨h.1, h'.2.1, h.2.2.trans_le h'.2.2⟩

/-- What is at most an amount is below all that it is below. -/
lemma lt_of_le_of_lt (h : x ≤ y) (h' : y < z) : x < z := by
  rw [le_iff] at h
  rw [lt_iff] at h'
  exact lt_iff.2 ⟨h.1, h'.2.1, h.2.2.trans_lt h'.2.2⟩

/-- An amount above another is not at most it. -/
lemma not_le_of_lt (h : x < y) : ¬y ≤ x := fun le => absurd (lt_iff.1 h).2.2 (not_lt.2 (le_iff.1 le).2.2)

/-- An amount that another is at most is not below that one. -/
lemma not_lt_of_le (h : x ≤ y) : ¬y < x := fun lt => not_le_of_lt lt h

/-- Of two defined amounts the one is below the other, or else not less. -/
lemma le_of_not_lt (hx : x.isNaN = false) (hy : y.isNaN = false) (h : ¬x < y) : y ≤ x := by
  refine le_iff.2 ⟨hy, hx, ?_⟩
  by_contra greater
  exact h (lt_iff.2 ⟨hx, hy, not_le.1 greater⟩)

/-- Amounts that are at most each other are equal. -/
lemma beq_of_le (h : x ≤ y) (h' : y ≤ x) : (x == y) = true := by
  rw [le_iff] at h h'
  exact beq_iff.2 ⟨h.1, h.2.1, le_antisymm h.2.2 h'.2.2⟩

/-- Equal amounts are at most each other. -/
lemma le_of_beq (h : (x == y) = true) : x ≤ y ∧ y ≤ x := by
  obtain ⟨hx, hy, same⟩ := beq_iff.1 h
  exact ⟨le_iff.2 ⟨hx, hy, same.le⟩, le_iff.2 ⟨hy, hx, same.ge⟩⟩

/-- Equality of amounts is transitive. -/
lemma beq_trans (h : (x == y) = true) (h' : (y == z) = true) : (x == z) = true := by
  obtain ⟨hx, -, same⟩ := beq_iff.1 h
  obtain ⟨-, hz, same'⟩ := beq_iff.1 h'
  exact beq_iff.2 ⟨hx, hz, same.trans same'⟩

/-- Amounts that are compared with success are defined. -/
lemma isNaN_of_le (h : x ≤ y) : x.isNaN = false ∧ y.isNaN = false := ⟨(le_iff.1 h).1, (le_iff.1 h).2.1⟩

/-- Zero is defined. -/
lemma isNaN_zero : (0.0 : Float).isNaN = false := by decide

/-- The accepted amounts are those that are at least zero. -/
lemma isAccepted_iff : isAccepted x = true ↔ 0.0 ≤ x := by
  simp only [isAccepted, Bool.not_eq_true', Bool.or_eq_false_iff, decide_eq_false_iff_not]
  refine ⟨fun ⟨defined, h⟩ => le_of_not_lt defined isNaN_zero h, fun h => ⟨(isNaN_of_le h).2, fun less => ?_⟩⟩
  rw [le_iff] at h
  rw [lt_iff] at less
  exact absurd less.2.2 (not_lt.2 h.2.2)

end Order

section Extremes
variable {x y z : Float}

/-- The larger amount is the first one if the second is at most it. -/
lemma greatest_of_le (h : y ≤ x) : greatest x y = x := by
  rw [greatest, (isNaN_of_le h).2, if_neg Bool.false_ne_true, if_neg (not_lt_of_le h)]

/-- The larger amount is the second one if the first is below it. -/
lemma greatest_of_lt (h : x < y) : greatest x y = y := by
  rw [greatest, (lt_iff.1 h).1, if_neg Bool.false_ne_true, if_pos h]

/-- The smaller amount is the first one if it is at most the second. -/
lemma least_of_le (h : x ≤ y) : least x y = x := by
  rw [least, (isNaN_of_le h).1, if_neg Bool.false_ne_true, if_neg (not_lt_of_le h)]

/-- The smaller amount is the second one if it is below the first. -/
lemma least_of_lt (h : y < x) : least x y = y := by
  rw [least, (lt_iff.1 h).2.1, if_neg Bool.false_ne_true, if_pos h]

/-- Defined amounts can be compared. -/
lemma le_or_lt (hx : x.isNaN = false) (hy : y.isNaN = false) : x ≤ y ∨ y < x := by
  by_cases h : y < x
  · exact .inr h
  · exact .inl (le_of_not_lt hy hx h)

/-- The smaller of two amounts is at least zero if each that is defined is. -/
lemma zero_le_least (hx : x.isNaN = false → 0.0 ≤ x) (hy : 0.0 ≤ y) : 0.0 ≤ least x y := by
  rw [least]
  split
  · exact hy
  · split
    · exact hy
    · rename_i defined _
      exact hx (Bool.eq_false_iff.2 defined)

/-- The larger of two amounts that are at least zero is at least zero. -/
lemma zero_le_greatest (hx : 0.0 ≤ x) (hy : 0.0 ≤ y) : 0.0 ≤ greatest x y := by
  rw [greatest]
  split
  · exact hy
  · split
    · exact hy
    · exact hx

/-- The larger one of zero and an amount that is at most zero equals zero. -/
lemma greatest_zero_beq_zero (h : x ≤ 0.0) : (greatest x 0.0 == 0.0) = true := by
  rcases le_or_lt isNaN_zero (isNaN_of_le h).1 with nonneg | neg
  · rw [greatest_of_le nonneg]
    exact beq_of_le h nonneg
  · rw [greatest_of_lt neg]
    decide

/-- The larger amount is at least the second one. -/
lemma le_greatest_right (hx : x.isNaN = false) (hy : y.isNaN = false) : y ≤ greatest x y := by
  rcases le_or_lt hy hx with le | lt
  · exact (greatest_of_le le).symm ▸ le
  · exact (greatest_of_lt lt).symm ▸ le_refl hy

/-- A greater first amount does not make the larger one of two less. -/
lemma greatest_mono (le : x ≤ y) (hz : z.isNaN = false) : greatest x z ≤ greatest y z := by
  rcases le_or_lt hz (isNaN_of_le le).1 with low | high
  · rw [greatest_of_le low, greatest_of_le (le_trans low le)]
    exact le
  · rw [greatest_of_lt high]
    exact le_greatest_right (isNaN_of_le le).2 hz

/-- The larger of two amounts stays below a bound of both. -/
lemma greatest_lt (hx : x < z) (hy : y < z) : greatest x y < z := by
  rcases le_or_lt (lt_iff.1 hy).1 (lt_iff.1 hx).1 with le | lt
  · rwa [greatest_of_le le]
  · rwa [greatest_of_lt lt]

/-- The smaller amount is at most the second one. -/
lemma least_le_right (hx : x.isNaN = false) (hy : y.isNaN = false) : least x y ≤ y := by
  rcases le_or_lt hx hy with le | lt
  · exact (least_of_le le).symm ▸ le
  · exact (least_of_lt lt).symm ▸ le_refl hy

/-- A greater first amount does not make the smaller one of two less. -/
lemma least_mono (le : x ≤ y) (hz : z.isNaN = false) : least x z ≤ least y z := by
  rcases le_or_lt (isNaN_of_le le).2 hz with low | high
  · rw [least_of_le low, least_of_le (le_trans le low)]
    exact le
  · rw [least_of_lt high]
    exact least_le_right (isNaN_of_le le).1 hz

end Extremes

/-- An amount is the greatest of some amounts, or zero if there are none above zero. -/
structure IsTop (top : Float) (amounts : List Float) : Prop where
  attained : top = 0.0 ∨ top ∈ amounts
  nonneg : 0.0 ≤ top
  bound : ∀ x ∈ amounts, x ≤ top

section IsTop
variable {top top' : Float} {xs ys : List Float}

/-- Zero is the top of no amounts. -/
lemma isTop_nil : IsTop 0.0 [] := ⟨.inl rfl, le_refl isNaN_zero, nofun⟩

/-- The order of the amounts does not matter. -/
lemma IsTop.congr (h : IsTop top xs) (same : ∀ x, x ∈ ys ↔ x ∈ xs) : IsTop top ys :=
  ⟨h.attained.imp_right (same top).2, h.nonneg, fun x hx => h.bound x ((same x).1 hx)⟩

/-- The greater of two tops is the top of all amounts together. -/
lemma IsTop.append (h : IsTop top xs) (h' : IsTop top' ys) :
    IsTop (if top < top' then top' else top) (xs ++ ys) := by
  split
  · rename_i less
    refine ⟨h'.attained.imp_right (List.mem_append_right xs), h'.nonneg, fun x hx => ?_⟩
    rcases List.mem_append.1 hx with hx | hx
    · exact le_trans (h.bound x hx) (le_of_lt less)
    · exact h'.bound x hx
  · rename_i less
    have le := le_of_not_lt (isNaN_of_le h.nonneg).2 (isNaN_of_le h'.nonneg).2 less
    refine ⟨h.attained.imp_right (List.mem_append_left ys), h.nonneg, fun x hx => ?_⟩
    rcases List.mem_append.1 hx with hx | hx
    · exact h.bound x hx
    · exact le_trans (h'.bound x hx) le

/-- An accepted amount is the top of itself. -/
lemma isTop_singleton {x : Float} (h : isAccepted x = true) : IsTop x [x] := by
  rw [isAccepted_iff] at h
  refine ⟨.inr (List.mem_singleton_self x), h, fun y hy => ?_⟩
  rw [List.mem_singleton.1 hy]
  exact le_refl (isNaN_of_le h).2

end IsTop

end StepMeters.Amount
