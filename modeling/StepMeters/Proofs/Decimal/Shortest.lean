import StepMeters.Decimal.Shortest
import StepMeters.Proofs.Amount.Height
import StepMeters.Proofs.Decimal.Positional

/-!
# The shortest decimal reads back

The shortest decimal of a binary number lies in the interval that rounds to this number (`around_shortest`). A grid
of seventeen digits is fine enough for that: its step is at most a part of `10 ^ 16` of the number, so one of the
two grid points next to the number is nearer to it than the ends of the interval are. The intervals of different
numbers do not overlap, and an end that two of them share belongs to the one with the even significand only
(`level_eq_of_around`).
-/

namespace StepMeters

namespace Surrounding

/-- A number is in the interval that rounds to the value. -/
def Around (s : Surrounding) (v : ℚ) : Prop :=
  if s.closed then (s.low : ℚ) / s.unit ≤ v ∧ v ≤ s.high / s.unit
  else (s.low : ℚ) / s.unit < v ∧ v < s.high / s.unit

section Around
variable {s : Surrounding} {v : ℚ} {n : ℕ}

/-- What is around a value is not beyond the ends of its interval. -/
lemma Around.bounds (h : s.Around v) : (s.low : ℚ) / s.unit ≤ v ∧ v ≤ s.high / s.unit := by
  rw [Around] at h
  split at h
  · exact h
  · exact ⟨h.1.le, h.2.le⟩

/-- Only a closed interval has its ends around the value. -/
lemma Around.closed_of_eq (h : s.Around v) (ends : (s.low : ℚ) / s.unit = v ∨ v = s.high / s.unit) :
    s.closed = true := by
  by_contra isOpen
  rw [Around, if_neg isOpen] at h
  rcases ends with e | e
  · exact h.1.ne e
  · exact h.2.ne e

/-- A whole number is found to round to the value just if it is around it. -/
lemma holds_iff (pos : 0 < s.unit) : s.holds n = true ↔ s.Around n := by
  have unit : (0 : ℚ) < s.unit := by exact_mod_cast pos
  rw [holds, Around, div_le_iff₀ unit, le_div_iff₀ unit, div_lt_iff₀ unit, lt_div_iff₀ unit]
  norm_cast
  split
  · rw [Bool.and_eq_true, decide_eq_true_iff, decide_eq_true_iff]
  · rw [Bool.and_eq_true, decide_eq_true_iff, decide_eq_true_iff]

/-- Shifting divides the fractions by a power of ten. -/
lemma natCast_div_shifted (s : Surrounding) (place : ℤ) (n : ℕ) :
    ((n * Nat.pow 10 (-place).toNat : ℕ) : ℚ) / (s.shifted place).unit = n / s.unit * 10 ^ (-place) := by
  have powers : (10 : ℚ) ^ (-place).toNat / 10 ^ place.toNat = 10 ^ (-place) := by
    rw [← zpow_natCast, ← zpow_natCast, ← zpow_sub₀ (by norm_num)]
    congr 1
    omega
  show ((n * 10 ^ (-place).toNat : ℕ) : ℚ) / (s.unit * 10 ^ place.toNat : ℕ) = _
  push_cast
  rw [mul_div_mul_comm, powers]

/-- Shifting keeps the unit above zero. -/
lemma unit_shifted_pos (pos : 0 < s.unit) (place : ℤ) : 0 < (s.shifted place).unit :=
  Nat.mul_pos pos (Nat.pow_pos (by decide))

/-- A number is around the shifted value just if its multiple is around the value. -/
lemma around_shifted (place : ℤ) : (s.shifted place).Around v ↔ s.Around (v * 10 ^ place) := by
  have pos : (0 : ℚ) < 10 ^ place := zpow_pos (by norm_num) _
  have low : ((s.shifted place).low : ℚ) / (s.shifted place).unit = s.low / s.unit / 10 ^ place := by
    rw [div_eq_mul_inv _ ((10 : ℚ) ^ place), ← zpow_neg]
    exact s.natCast_div_shifted place s.low
  have high : ((s.shifted place).high : ℚ) / (s.shifted place).unit = s.high / s.unit / 10 ^ place := by
    rw [div_eq_mul_inv _ ((10 : ℚ) ^ place), ← zpow_neg]
    exact s.natCast_div_shifted place s.high
  rw [Around, Around, low, high, div_le_iff₀ pos, le_div_iff₀ pos, div_lt_iff₀ pos, lt_div_iff₀ pos]
  rfl

/-- The nearest whole number rounds to the value. -/
lemma holds_of_nearest? (h : s.nearest? = some n) : s.holds n = true := by
  rw [nearest?] at h
  cases down : s.holds (s.value / s.unit) <;> cases up : s.holds (s.value / s.unit + 1) <;>
    rw [down, up] at h <;> cases h
  · exact up
  · exact down
  · split
    · exact down
    · exact up

/-- The ends of the interval are further from the value than a part of `2 * 10 ^ 16`. -/
structure IsWide (s : Surrounding) : Prop where
  low : 20000000000000000 * s.low < 19999999999999999 * s.value
  high : 20000000000000001 * s.value < 20000000000000000 * s.high

/-- Shifting keeps the ends as far from the value. -/
lemma IsWide.shifted (h : s.IsWide) (place : ℤ) : (s.shifted place).IsWide := by
  have pos : 0 < Nat.pow 10 (-place).toNat := Nat.pow_pos (by decide)
  constructor
  · show 20000000000000000 * (s.low * Nat.pow 10 (-place).toNat)
      < 19999999999999999 * (s.value * Nat.pow 10 (-place).toNat)
    rw [← Nat.mul_assoc, ← Nat.mul_assoc]
    exact Nat.mul_lt_mul_of_pos_right h.low pos
  · show 20000000000000001 * (s.value * Nat.pow 10 (-place).toNat)
      < 20000000000000000 * (s.high * Nat.pow 10 (-place).toNat)
    rw [← Nat.mul_assoc, ← Nat.mul_assoc]
    exact Nat.mul_lt_mul_of_pos_right h.high pos

/-- A whole number strictly between the ends rounds to the value. -/
lemma holds_of_lt (low : s.low < n * s.unit) (high : n * s.unit < s.high) : s.holds n = true := by
  rw [holds]
  split
  · exact Bool.and_eq_true_iff.2 ⟨decide_eq_true low.le, decide_eq_true high.le⟩
  · exact Bool.and_eq_true_iff.2 ⟨decide_eq_true low, decide_eq_true high⟩

/-- If one of the two whole numbers next to the value rounds to it, there is a nearest one. -/
lemma exists_nearest?_of_holds (near : s.holds (s.value / s.unit) = true ∨ s.holds (s.value / s.unit + 1) = true) :
    ∃ n, s.nearest? = some n := by
  rw [nearest?]
  cases down : s.holds (s.value / s.unit) <;> cases up : s.holds (s.value / s.unit + 1)
  · rw [down, up] at near
    exact absurd near (by decide)
  · exact ⟨_, rfl⟩
  · exact ⟨_, rfl⟩
  · exact ⟨_, rfl⟩

/-- On a grid with a step of at most a part of `10 ^ 16`, the nearer neighbour rounds to the value. -/
lemma exists_nearest? (pos : 0 < s.unit) (wide : s.IsWide) (fine : 10000000000000000 * s.unit ≤ s.value) :
    ∃ n, s.nearest? = some n := by
  have split := Nat.div_add_mod' s.value s.unit
  have rest := Nat.mod_lt s.value pos
  have next := Nat.add_one_mul (s.value / s.unit) s.unit
  obtain ⟨low, high⟩ := wide
  apply exists_nearest?_of_holds
  rcases Nat.lt_or_ge s.unit (2 * (s.value % s.unit)) with up | down
  · exact .inr (holds_of_lt (by omega) (by omega))
  · exact .inl (holds_of_lt (by omega) (by omega))

/-- A whole number that rounds to the value is found, or the other neighbour, if it is less than one away. -/
lemma exists_nearest?_of_near (pos : 0 < s.unit) (here : s.holds n = true)
    (below : (n : ℚ) - 1 < s.value / s.unit) (above : (s.value : ℚ) / s.unit < n + 1) : ∃ n, s.nearest? = some n := by
  have unit : (0 : ℚ) < s.unit := by exact_mod_cast pos
  rw [lt_div_iff₀ unit] at below
  rw [div_lt_iff₀ unit] at above
  have reach : n * s.unit < s.value + s.unit := by
    have : (n : ℚ) * s.unit < s.value + s.unit := by linarith
    exact_mod_cast this
  have next : s.value / s.unit < n + 1 := by
    rw [Nat.div_lt_iff_lt_mul pos]
    exact_mod_cast above
  have least : n ≤ s.value / s.unit + 1 := by
    rw [← Nat.add_div_right _ pos, Nat.le_div_iff_mul_le pos]
    exact reach.le
  apply exists_nearest?_of_holds
  rcases Nat.lt_or_ge (s.value / s.unit) n with up | down
  · obtain rfl : n = s.value / s.unit + 1 := by omega
    exact .inr here
  · obtain rfl : n = s.value / s.unit := by omega
    exact .inl here

/-- A number is below the power of ten of its digits. -/
lemma lt_ten_pow_digitCount (n : ℕ) : n < 10 ^ digitCount n :=
  (Nat.length_toDigits_le_iff (by decide) Nat.length_toDigits_pos).1 le_rfl

/-- A number above zero reaches the power of ten before its first digit. -/
lemma ten_pow_digitCount_le (pos : 0 < n) : 10 ^ (digitCount n - 1) ≤ n := by
  rcases Nat.eq_zero_or_pos (digitCount n - 1) with none | some
  · rw [none]
    exact pos
  · by_contra less
    have := (Nat.length_toDigits_le_iff (by decide) some).2 (Nat.lt_of_not_le less)
    rw [digitCount] at some this
    omega

/-- The value has its first digit right after the place that the magnitude tells. -/
lemma ten_pow_magnitude_le (value : 0 < s.value) (unit : 0 < s.unit) :
    (10 : ℚ) ^ (s.magnitude - 1) ≤ s.value / s.unit := by
  have unitPos : (0 : ℚ) < s.unit := by exact_mod_cast unit
  rw [le_div_iff₀ unitPos, magnitude]
  split
  · rename_i whole
    have quotient : 0 < s.value / s.unit := Nat.div_pos whole unit
    have count : 0 < digitCount (s.value / s.unit) := Nat.length_toDigits_pos
    have reach := (Nat.le_div_iff_mul_le unit).1 (ten_pow_digitCount_le quotient)
    have exponent : (digitCount (s.value / s.unit) : ℤ) - 1 = (digitCount (s.value / s.unit) - 1 : ℕ) := by omega
    rw [exponent, zpow_natCast]
    exact_mod_cast reach
  · have reach := (Nat.div_lt_iff_lt_mul value).1 (lt_ten_pow_digitCount ((s.unit - 1) / s.value))
    have exponent : (1 : ℤ) - digitCount ((s.unit - 1) / s.value) - 1 = -(digitCount ((s.unit - 1) / s.value) : ℕ) := by
      omega
    rw [exponent, zpow_neg, zpow_natCast, inv_mul_le_iff₀ (by positivity)]
    have le : s.unit ≤ 10 ^ digitCount ((s.unit - 1) / s.value) * s.value := by omega
    exact_mod_cast le

/-- A value is below the power of ten of its magnitude. -/
lemma lt_ten_pow_magnitude (value : 0 < s.value) (unit : 0 < s.unit) : (s.value : ℚ) / s.unit < 10 ^ s.magnitude := by
  have unitPos : (0 : ℚ) < s.unit := by exact_mod_cast unit
  rw [div_lt_iff₀ unitPos, magnitude]
  split
  · have reach := (Nat.div_lt_iff_lt_mul unit).1 (lt_ten_pow_digitCount (s.value / s.unit))
    rw [zpow_natCast]
    exact_mod_cast reach
  · have quotient : 0 < (s.unit - 1) / s.value := Nat.div_pos (by omega) value
    have count : 0 < digitCount ((s.unit - 1) / s.value) := Nat.length_toDigits_pos
    have reach := (Nat.le_div_iff_mul_le value).1 (ten_pow_digitCount_le quotient)
    have exponent : (1 : ℤ) - digitCount ((s.unit - 1) / s.value)
        = -(digitCount ((s.unit - 1) / s.value) - 1 : ℕ) := by
      omega
    rw [exponent, zpow_neg, zpow_natCast, lt_inv_mul_iff₀ (by positivity)]
    have lt : 10 ^ (digitCount ((s.unit - 1) / s.value) - 1) * s.value < s.unit := by omega
    exact_mod_cast lt

/-- On the finest grid a value has seventeen digits. -/
lemma shifted_magnitude_le (value : 0 < s.value) (unit : 0 < s.unit) :
    10000000000000000 * (s.shifted (s.magnitude - 17)).unit ≤ (s.shifted (s.magnitude - 17)).value := by
  have shiftedPos : (0 : ℚ) < (s.shifted (s.magnitude - 17)).unit := by
    exact_mod_cast unit_shifted_pos unit (s.magnitude - 17)
  have reach : (10000000000000000 : ℚ) ≤ (s.shifted (s.magnitude - 17)).value / (s.shifted (s.magnitude - 17)).unit :=
    calc (10000000000000000 : ℚ) = 10 ^ (s.magnitude - 1) * 10 ^ (-(s.magnitude - 17)) := by
          rw [← zpow_add₀ (by norm_num)]
          norm_num
      _ ≤ s.value / s.unit * 10 ^ (-(s.magnitude - 17)) :=
          mul_le_mul_of_nonneg_right (ten_pow_magnitude_le value unit) (zpow_pos (by norm_num) _).le
      _ = _ := (s.natCast_div_shifted (s.magnitude - 17) s.value).symm
  rw [le_div_iff₀ shiftedPos] at reach
  exact_mod_cast reach

end Around

end Surrounding

namespace Dyadic
open Surrounding (ofDyadic)
open Amount (IsCanonical level)

section Shortest
variable {d d' : Dyadic} {v : ℚ}

/-- The unit of a binary number is above zero. -/
lemma unit_ofDyadic_pos (d : Dyadic) : 0 < (ofDyadic d).unit := by
  show 0 < 1 <<< _
  rw [Nat.one_shiftLeft]
  exact Nat.two_pow_pos _

/-- A binary number above zero has a value above zero. -/
lemma value_ofDyadic_pos (pos : 0 < d.significand) : 0 < (ofDyadic d).value := by
  show 0 < 4 * d.significand * 1 <<< _
  rw [Nat.one_shiftLeft]
  positivity

/-- The fractions around a binary number are multiples of a quarter of its last digit. -/
lemma natCast_div_ofDyadic (d : Dyadic) (n : ℕ) :
    ((n * 1 <<< (d.exponent - 2).toNat : ℕ) : ℚ) / (ofDyadic d).unit = n * 2 ^ (d.exponent - 2) := by
  show ((n * 1 <<< (d.exponent - 2).toNat : ℕ) : ℚ) / (1 <<< (2 - d.exponent).toNat : ℕ) = _
  rw [Nat.one_shiftLeft, Nat.one_shiftLeft]
  push_cast
  rw [mul_div_assoc, ← zpow_natCast, ← zpow_natCast, ← zpow_sub₀ two_ne_zero]
  congr 2
  omega

/-- Binary numbers of up to 53 digits are far enough apart for seventeen decimal digits. -/
lemma isWide_ofDyadic (pos : 0 < d.significand) (lt : d.significand < 2 ^ 53) : (ofDyadic d).IsWide := by
  have factor : 0 < 1 <<< (d.exponent - 2).toNat := by
    rw [Nat.one_shiftLeft]
    exact Nat.two_pow_pos _
  constructor
  · show 20000000000000000 * ((4 * d.significand - if d.significand = 1 <<< 52 then 1 else 2) * _)
      < 19999999999999999 * (4 * d.significand * _)
    rw [← Nat.mul_assoc, ← Nat.mul_assoc]
    refine Nat.mul_lt_mul_of_pos_right ?_ factor
    split <;> omega
  · show 20000000000000001 * (4 * d.significand * _) < 20000000000000000 * ((4 * d.significand + 2) * _)
    rw [← Nat.mul_assoc 20000000000000001, ← Nat.mul_assoc 20000000000000000]
    refine Nat.mul_lt_mul_of_pos_right ?_ factor
    omega

/-- The shortest decimal is found on a grid on which one of the two neighbours of the number rounds to it, and no grid
of the seventeen that is coarser has such a neighbour. -/
lemma exists_shortest (pos : 0 < d.significand) (lt : d.significand < 2 ^ 53) :
    ((ofDyadic d).shifted d.shortest.exponent).nearest? = some d.shortest.digits ∧
    ∀ place, d.shortest.exponent < place → (ofDyadic d).magnitude - 17 ≤ place → place < (ofDyadic d).magnitude →
      ((ofDyadic d).shifted place).nearest? = none := by
  -- seventeen digits would do
  obtain ⟨n, last⟩ := Surrounding.exists_nearest? (Surrounding.unit_shifted_pos d.unit_ofDyadic_pos _)
    ((isWide_ofDyadic pos lt).shifted ((ofDyadic d).magnitude - 17))
    (Surrounding.shifted_magnitude_le (value_ofDyadic_pos pos) d.unit_ofDyadic_pos)
  rw [shortest]
  set grids := (List.range 17).map fun (n : ℕ) => (ofDyadic d).magnitude - 1 - (n : ℤ)
  have listed (place : ℤ) (low : (ofDyadic d).magnitude - 17 ≤ place) (high : place < (ofDyadic d).magnitude) :
      place ∈ grids :=
    List.mem_map.2 ⟨((ofDyadic d).magnitude - 1 - place).toNat, List.mem_range.2 (by omega), by omega⟩
  have falling : grids.Pairwise (· > ·) := List.pairwise_map.2 (List.pairwise_lt_range.imp fun less => by omega)
  cases found : grids.findSome? fun place => ((ofDyadic d).shifted place).nearest?.map (Decimal.mk · place) with
  | none =>
    have nothing := List.findSome?_eq_none_iff.1 found _ (listed _ le_rfl (by omega))
    rw [last] at nothing
    cases nothing
  | some decimal =>
    obtain ⟨before, place, after, split, here, none⟩ := List.findSome?_eq_some_iff.1 found
    obtain ⟨digits, nearest, rfl⟩ := Option.map_eq_some_iff.1 here
    refine ⟨nearest, fun coarser less low high => ?_⟩
    change place < coarser at less
    have mem := split ▸ listed coarser low high
    rw [split, List.pairwise_append, List.pairwise_cons] at falling
    rcases List.mem_append.1 mem with mem | mem
    · exact Option.map_eq_none_iff.1 (none coarser mem)
    · rcases List.mem_cons.1 mem with rfl | mem
      · exact absurd less (lt_irrefl _)
      · exact absurd (falling.2.1.1 coarser mem) (not_lt.2 less.le)

/-- The shortest decimal of a number rounds to it. -/
lemma around_shortest (pos : 0 < d.significand) (lt : d.significand < 2 ^ 53) :
    (ofDyadic d).Around d.shortest.value := by
  have holds := Surrounding.holds_of_nearest? (exists_shortest pos lt).1
  rwa [Surrounding.holds_iff (Surrounding.unit_shifted_pos d.unit_ofDyadic_pos _), Surrounding.around_shifted] at holds

/-- The upper end lies half a digit above a binary number. -/
lemma high_div_ofDyadic (d : Dyadic) :
    ((ofDyadic d).high : ℚ) / (ofDyadic d).unit = (4 * d.significand + 2 : ℕ) * 2 ^ (d.exponent - 2) :=
  d.natCast_div_ofDyadic (4 * d.significand + 2)

/-- The lower end lies half a digit below a binary number, or a quarter below a power of two. -/
lemma low_div_ofDyadic (d : Dyadic) : ((ofDyadic d).low : ℚ) / (ofDyadic d).unit
    = (4 * d.significand - (if d.significand = 2 ^ 52 then 1 else 2) : ℕ) * 2 ^ (d.exponent - 2) := by
  rw [← Nat.one_shiftLeft]
  exact d.natCast_div_ofDyadic _

/-- The interval of a number ends before that of a greater one begins, or the two share an end and one of the two
significands is odd. -/
lemma high_le_low (h : IsCanonical d.significand d.exponent) (h' : IsCanonical d'.significand d'.exponent)
    (less : level d.significand d.exponent < level d'.significand d'.exponent) :
    ((ofDyadic d).high : ℚ) / (ofDyadic d).unit ≤ (ofDyadic d').low / (ofDyadic d').unit ∧
    (((ofDyadic d).high : ℚ) / (ofDyadic d).unit = (ofDyadic d').low / (ofDyadic d').unit →
      d.significand % 2 = 1 ∨ d'.significand % 2 = 1) := by
  have pos : (0 : ℚ) < 2 ^ (d.exponent - 2) := zpow_pos two_pos _
  rw [high_div_ofDyadic, low_div_ofDyadic]
  set low := 4 * d'.significand - if d'.significand = 2 ^ 52 then 1 else 2 with lowEq
  rcases (h.level_le_iff h').1 less.le with below | ⟨same, digits⟩
  · -- with a greater exponent the step is at least twice as large
    have double : ((2 * low : ℕ) : ℚ) * 2 ^ (d.exponent - 2) ≤ low * 2 ^ (d'.exponent - 2) := by
      have step : (2 : ℚ) ^ (d.exponent - 2 + 1) ≤ 2 ^ (d'.exponent - 2) :=
        zpow_le_zpow_right₀ one_le_two (by omega)
      rw [zpow_add₀ two_ne_zero, zpow_one] at step
      push_cast
      nlinarith [(Nat.cast_nonneg low : (0 : ℚ) ≤ low)]
    have full : 2 ^ 52 ≤ d'.significand := h'.full.resolve_right (by have := h.le; omega)
    have bound := h.lt
    have reach : 4 * d.significand + 2 ≤ 2 * low := by
      rw [lowEq]
      split <;> omega
    refine ⟨le_trans (mul_le_mul_of_nonneg_right (by exact_mod_cast reach) pos.le) double, fun same => .inl ?_⟩
    have back : 2 * low ≤ 4 * d.significand + 2 := by
      exact_mod_cast le_of_mul_le_mul_right (double.trans_eq same.symm) pos
    rw [lowEq] at back
    split at back <;> omega
  · -- with one exponent the surroundings of neighbours meet in the middle between them
    rw [← same]
    have apart : d.significand ≠ d'.significand := by
      rintro e
      rw [e, same] at less
      exact less.ne rfl
    have reach : 4 * d.significand + 2 ≤ low := by
      rw [lowEq]
      split <;> omega
    refine ⟨mul_le_mul_of_nonneg_right (by exact_mod_cast reach) pos.le, fun ends => ?_⟩
    have e : 4 * d.significand + 2 = low := by exact_mod_cast mul_right_cancel₀ pos.ne' ends
    rw [lowEq] at e
    split at e <;> omega

/-- A real number rounds to one binary number only. -/
lemma level_eq_of_around (h : IsCanonical d.significand d.exponent) (h' : IsCanonical d'.significand d'.exponent)
    (here : (ofDyadic d).Around v) (here' : (ofDyadic d').Around v) :
    level d.significand d.exponent = level d'.significand d'.exponent := by
  wlog less : level d.significand d.exponent < level d'.significand d'.exponent generalizing d d'
  · rcases (not_lt.1 less).lt_or_eq with greater | same
    · exact (this h' h here' here greater).symm
    · exact same.symm
  obtain ⟨le, odd⟩ := high_le_low h h' less
  have same := le_antisymm le (here'.bounds.1.trans here.bounds.2)
  -- the number is the end that the two intervals share, so it would belong to both
  have even := here.closed_of_eq (.inr (le_antisymm here.bounds.2 (same ▸ here'.bounds.1)))
  have even' := here'.closed_of_eq (.inl (le_antisymm here'.bounds.1 (same ▸ here.bounds.2)))
  have closed : d.significand % 2 = 0 := of_decide_eq_true even
  have closed' : d'.significand % 2 = 0 := of_decide_eq_true even'
  have := odd same
  omega

end Shortest

end Dyadic

end StepMeters
