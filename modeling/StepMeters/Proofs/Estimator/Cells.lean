import Mathlib.Algebra.Ring.Nat
import Mathlib.Order.Bounds.Basic
import StepMeters.Estimator.Cell

/-!
# Sizes of cells

Numbers of one cell agree in their length and in the kept bits, the first of which is the leading one. So
`Cell.lowest` keeps the order and leaves the cell as it is, and as the kept bits are enough for the precision
in decimal digits, no number of a cell is further from another than the precision allows. Cells can also be numbered
through, first by length and then by the kept bits (`Cell.index`); this is the order of their lowest numbers
(`index_le_index_iff`).
-/

namespace StepMeters.Cell

section Length
variable {n k : Nat}

/-- A number is below the power of two of its length. -/
lemma lt_two_pow_bitLength (n : Nat) : n < 2 ^ bitLength n := by
  rw [bitLength]
  split
  · rename_i zero
    rw [zero]
    decide
  · exact Nat.lt_log2_self

/-- A number above zero reaches the power of two of its first bit. -/
lemma two_pow_bitLength_le (pos : n ≠ 0) : 2 ^ (bitLength n - 1) ≤ n := by
  rw [bitLength, if_neg pos, Nat.add_sub_cancel]
  exact Nat.log2_self_le pos

/-- The length of a number is told by the powers of two around it. -/
lemma bitLength_eq (reach : 2 ^ k ≤ n) (below : n < 2 ^ (k + 1)) : bitLength n = k + 1 := by
  have pos : n ≠ 0 := (Nat.lt_of_lt_of_le (Nat.two_pow_pos k) reach).ne'
  have least := (Nat.le_log2 pos).2 reach
  have most := (Nat.log2_lt pos).2 below
  rw [bitLength, if_neg pos]
  omega

/-- Greater numbers are not shorter. -/
lemma bitLength_mono {m : Nat} (le : m ≤ n) : bitLength m ≤ bitLength n := by
  by_cases zero : m = 0
  · rw [bitLength, if_pos zero]
    exact Nat.zero_le _
  · have pos : n ≠ 0 := by omega
    have reach : 2 ^ Nat.log2 m ≤ n := Nat.le_trans (Nat.log2_self_le zero) le
    have := (Nat.le_log2 pos).2 reach
    rw [bitLength, bitLength, if_neg zero, if_neg pos]
    omega

end Length

section Cell
variable (precision : Nat) {m n : Nat}

/-- The kept bits are enough for the precision. -/
lemma two_mul_pow_le : 2 * 10 ^ precision ≤ 2 ^ keptBits precision := by
  have below : 2 * 10 ^ precision - 1 < 2 ^ keptBits precision := Nat.lt_log2_self
  omega

/-- Some bits are kept. -/
lemma keptBits_pos : 0 < keptBits precision := Nat.succ_pos _

/-- The size of a cell is a power of two. -/
lemma size_eq (n : Nat) : size precision n = 2 ^ (bitLength n - keptBits precision) := by
  rw [size, Nat.shiftLeft_eq, Nat.one_mul]

/-- No cell is empty. -/
lemma size_pos (n : Nat) : 0 < size precision n := by
  rw [size_eq]
  exact Nat.two_pow_pos _

/-- A number is not below the least of its cell. -/
lemma lowest_le (n : Nat) : lowest precision n ≤ n := Nat.div_mul_le_self n _

/-- A number is below the end of its cell. -/
lemma lt_lowest_add_size (n : Nat) : n < lowest precision n + size precision n := by
  have split := Nat.div_add_mod' n (size precision n)
  have rest := Nat.mod_lt n (size_pos precision n)
  rw [lowest]
  omega

/-- The leading bit is kept. -/
lemma two_pow_le_lowest (pos : n ≠ 0) : 2 ^ (bitLength n - 1) ≤ lowest precision n := by
  have kept := keptBits_pos precision
  have some : 0 < bitLength n := by
    rw [bitLength, if_neg pos]
    omega
  have whole : 2 ^ (bitLength n - 1) =
      2 ^ (bitLength n - 1 - (bitLength n - keptBits precision)) * size precision n := by
    rw [size_eq, ← Nat.pow_add]
    congr 1
    omega
  rw [whole, lowest]
  apply Nat.mul_le_mul_right
  rw [Nat.le_div_iff_mul_le (size_pos precision n), ← whole]
  exact two_pow_bitLength_le pos

/-- A cell ends before the numbers get longer. -/
lemma lowest_add_size_le (n : Nat) : lowest precision n + size precision n ≤ 2 ^ bitLength n := by
  have whole : 2 ^ bitLength n = 2 ^ (bitLength n - (bitLength n - keptBits precision)) * size precision n := by
    rw [size_eq, ← Nat.pow_add]
    congr 1
    omega
  have below : n / size precision n < 2 ^ (bitLength n - (bitLength n - keptBits precision)) := by
    rw [Nat.div_lt_iff_lt_mul (size_pos precision n), ← whole]
    exact lt_two_pow_bitLength n
  calc lowest precision n + size precision n = (n / size precision n + 1) * size precision n := by
        rw [Nat.succ_mul, lowest]
    _ ≤ 2 ^ bitLength n := by
        rw [whole]
        exact Nat.mul_le_mul_right _ below

/-- Numbers of one cell have the same length. -/
lemma bitLength_of_cell (least : lowest precision n ≤ m) (below : m < lowest precision n + size precision n) :
    bitLength m = bitLength n := by
  have last := lowest_add_size_le precision n
  by_cases zero : n = 0
  · rw [zero] at last below ⊢
    rw [Nat.lt_one_iff.1 (Nat.lt_of_lt_of_le below last)]
  · have some : bitLength n = bitLength n - 1 + 1 := by
      rw [bitLength, if_neg zero]
      omega
    rw [some]
    apply bitLength_eq
    · exact Nat.le_trans (two_pow_le_lowest precision zero) least
    · rw [← some]
      exact Nat.lt_of_lt_of_le below last

/-- The least number of a cell has the length of the others. -/
lemma bitLength_lowest (n : Nat) : bitLength (lowest precision n) = bitLength n :=
  bitLength_of_cell precision (Nat.le_refl _) (Nat.lt_add_of_pos_right (size_pos precision n))

/-- Numbers of the same length have cells of the same size. -/
lemma size_congr (length : bitLength m = bitLength n) : size precision m = size precision n := by
  rw [size_eq, size_eq, length]

/-- Two numbers share a cell just if the one lies between the ends of the cell of the other. -/
lemma lowest_eq_iff : lowest precision m = lowest precision n ↔
    lowest precision n ≤ m ∧ m < lowest precision n + size precision n := by
  constructor
  · intro same
    have length : bitLength m = bitLength n := by
      rw [← bitLength_lowest precision m, same, bitLength_lowest]
    rw [← same, ← size_congr precision length]
    exact ⟨lowest_le precision m, lt_lowest_add_size precision m⟩
  · rintro ⟨least, below⟩
    rw [lowest, size_congr precision (bitLength_of_cell precision least below), lowest]
    congr 1
    apply Nat.div_eq_of_lt_le least
    rw [Nat.succ_mul]
    exact below

/-- The least number of a cell is in this cell. -/
lemma lowest_lowest (n : Nat) : lowest precision (lowest precision n) = lowest precision n :=
  (lowest_eq_iff precision).2 ⟨Nat.le_refl _, Nat.lt_add_of_pos_right (size_pos precision n)⟩

/-- Greater numbers are not in lower cells. -/
lemma lowest_mono (le : m ≤ n) : lowest precision m ≤ lowest precision n := by
  rcases Nat.lt_or_eq_of_le (bitLength_mono le) with longer | length
  · have pos : n ≠ 0 := by
      rintro rfl
      exact absurd longer (Nat.not_lt_zero _)
    calc lowest precision m ≤ m := lowest_le precision m
      _ ≤ 2 ^ bitLength m := (lt_two_pow_bitLength m).le
      _ ≤ 2 ^ (bitLength n - 1) := Nat.pow_le_pow_right Nat.two_pos (by omega)
      _ ≤ lowest precision n := two_pow_le_lowest precision pos
  · rw [lowest, lowest, size_congr precision length]
    exact Nat.mul_le_mul_right _ (Nat.div_le_div_right le)

/-- Next to its numbers a cell is as small as the precision asks for. -/
lemma size_sub_one_mul_le (n : Nat) : (size precision n - 1) * 10 ^ precision ≤ n := by
  by_cases short : bitLength n ≤ keptBits precision
  · rw [size_eq, Nat.sub_eq_zero_of_le short, Nat.pow_zero, Nat.sub_self, Nat.zero_mul]
    exact Nat.zero_le n
  · have pos : n ≠ 0 := by
      rintro rfl
      exact short (Nat.zero_le _)
    have double : 2 * (size precision n * 10 ^ precision) ≤ 2 * n := by
      calc 2 * (size precision n * 10 ^ precision)
          = size precision n * (2 * 10 ^ precision) := Nat.mul_left_comm ..
        _ ≤ size precision n * 2 ^ keptBits precision := Nat.mul_le_mul_left _ (two_mul_pow_le precision)
        _ = 2 * 2 ^ (bitLength n - 1) := by
            rw [size_eq, ← Nat.pow_add, Nat.mul_comm 2, ← Nat.pow_succ]
            congr 1
            omega
        _ ≤ 2 * n := Nat.mul_le_mul_left 2 (two_pow_bitLength_le pos)
    calc (size precision n - 1) * 10 ^ precision ≤ size precision n * 10 ^ precision :=
          Nat.mul_le_mul_right _ (Nat.sub_le _ 1)
      _ ≤ n := by omega

/-- The least number of a cell is as near to the others as the precision asks for. -/
lemma sub_lowest_mul_le (n : Nat) : (n - lowest precision n) * 10 ^ precision ≤ n := by
  have near := lt_lowest_add_size precision n
  exact Nat.le_trans (Nat.mul_le_mul_right _ (by omega)) (size_sub_one_mul_le precision n)

/-- Below the greatest number of all, the highest number of a cell is the last one that is less. -/
lemma highest_of_lt (h : n < top) :
    highest precision n = min (lowest precision n + size precision n) top - 1 := if_neg h.ne

/-- A number is not above the greatest of its cell. -/
lemma le_highest (h : n < top) : n ≤ highest precision n := by
  have near := lt_lowest_add_size precision n
  rw [highest_of_lt precision h]
  omega

/-- The greatest number of a cell is as near to the others as the precision asks for. -/
lemma highest_sub_mul_le (h : n < top) : (highest precision n - n) * 10 ^ precision ≤ n := by
  have least := lowest_le precision n
  have reach : highest precision n - n ≤ size precision n - 1 := by
    rw [highest_of_lt precision h]
    omega
  exact Nat.le_trans (Nat.mul_le_mul_right _ reach) (size_sub_one_mul_le precision n)

/-- Numbers of one cell have the same greatest number. -/
lemma highest_congr (h : n < top) (h' : m < top) (same : lowest precision m = lowest precision n) :
    highest precision m = highest precision n := by
  have length : bitLength m = bitLength n := by
    rw [← bitLength_lowest precision m, same, bitLength_lowest]
  rw [highest_of_lt precision h, highest_of_lt precision h', same, size_congr precision length]

/-- The highest number of a cell is the greatest one in it, leaving aside the greatest number of all. -/
lemma isGreatest_highest (h : n < top) :
    IsGreatest {m | m < top ∧ lowest precision m = lowest precision n} (highest precision n) := by
  have near := lt_lowest_add_size precision n
  have least := lowest_le precision n
  refine ⟨⟨?_, (lowest_eq_iff precision).2 ?_⟩, fun m ⟨less, same⟩ => ?_⟩
  · rw [highest_of_lt precision h]
    omega
  · rw [highest_of_lt precision h]
    omega
  · rw [← highest_congr precision h less same]
    exact le_highest precision less

/-- Greater numbers do not have cells that end lower. -/
lemma highest_mono (h : n < top) (le : m ≤ n) : highest precision m ≤ highest precision n := by
  have h' : m < top := Nat.lt_of_le_of_lt le h
  rcases Nat.lt_or_eq_of_le (lowest_mono precision le) with less | same
  · -- the highest number of the lower cell lies before the higher cell
    have last : highest precision m < n := by
      by_contra reached
      have cell := (isGreatest_highest precision h').1.2
      exact absurd (lowest_mono precision (Nat.not_lt.1 reached)) (by omega)
    exact Nat.le_trans last.le (le_highest precision h)
  · exact (highest_congr precision h h' same).le

/-- Only the greatest number of all is reported as high as that. -/
lemma highest_lt_top_iff : highest precision n < top ↔ n ≠ top := by
  have some : 0 < top := by decide
  rw [highest]
  split
  · rename_i last
    exact ⟨fun less => absurd less (Nat.lt_irrefl _), fun other => absurd last other⟩
  · rename_i other
    exact ⟨fun _ => other, fun _ => by omega⟩

end Cell

/-- The forgotten bits of a number. -/
def bucket (precision n : Nat) : Nat := bitLength n - keptBits precision

/-- The place of the cell of a number among all cells. Numbers that forget a bit have half as many cells as those
that forget none, since their leading bit is always set. -/
def index (precision n : Nat) : Nat :=
  let half := 2 ^ (keptBits precision - 1)
  (bucket precision n + 1) * half + n / 2 ^ bucket precision n - half

section Index
variable (precision : Nat) {m n : Nat}

/-- The size of a cell is the power of two of its bucket. -/
lemma size_eq_two_pow_bucket (n : Nat) : size precision n = 2 ^ bucket precision n := size_eq precision n

/-- The place of a cell is told by its bucket and the bits that are kept. -/
lemma index_eq (n : Nat) :
    index precision n = bucket precision n * 2 ^ (keptBits precision - 1) + n / size precision n := by
  rw [index, size_eq_two_pow_bucket, Nat.succ_mul, Nat.add_right_comm, Nat.add_sub_cancel]

/-- Numbers that forget more bits stand at later places. -/
lemma index_lt_of_bucket_lt (less : bucket precision m < bucket precision n) :
    index precision m < index precision n := by
  have kept := keptBits_pos precision
  have double : 2 ^ keptBits precision = 2 * 2 ^ (keptBits precision - 1) := Nat.pow_succ' ..
  have few : m / size precision m < 2 ^ keptBits precision := by
    rw [size_eq, Nat.div_lt_iff_lt_mul (Nat.two_pow_pos _), ← Nat.pow_add]
    exact Nat.lt_of_lt_of_le (lt_two_pow_bitLength m) (Nat.pow_le_pow_right Nat.two_pos (by omega))
  -- a number that forgets bits has its leading bit among the kept ones
  have some : n ≠ 0 := by
    rintro rfl
    exact absurd (Nat.zero_sub _ ▸ less : bucket precision m < 0) (Nat.not_lt_zero _)
  have full : 2 ^ (keptBits precision - 1) ≤ n / size precision n := by
    rw [bucket, bucket] at less
    rw [size_eq, Nat.le_div_iff_mul_le (Nat.two_pow_pos _), ← Nat.pow_add]
    refine Nat.le_trans (Nat.pow_le_pow_right Nat.two_pos ?_) (two_pow_bitLength_le some)
    omega
  have later : (bucket precision m + 1) * 2 ^ (keptBits precision - 1)
      ≤ bucket precision n * 2 ^ (keptBits precision - 1) := Nat.mul_le_mul_right _ less
  rw [Nat.succ_mul] at later
  rw [index_eq, index_eq]
  omega

/-- Cells of one bucket have the same size. -/
lemma size_eq_of_bucket_eq (same : bucket precision m = bucket precision n) :
    size precision m = size precision n := by
  rw [size_eq_two_pow_bucket, size_eq_two_pow_bucket, same]

/-- Cells are numbered in the order of their numbers. -/
lemma index_mono (le : m ≤ n) : index precision m ≤ index precision n := by
  have buckets : bucket precision m ≤ bucket precision n := Nat.sub_le_sub_right (bitLength_mono le) _
  rcases Nat.lt_or_eq_of_le buckets with less | same
  · exact (index_lt_of_bucket_lt precision less).le
  · rw [index_eq, index_eq, same, size_eq_of_bucket_eq precision same]
    exact Nat.add_le_add_left (Nat.div_le_div_right le) _

/-- The least number of a cell stands at the place of the cell. -/
lemma index_lowest (n : Nat) : index precision (lowest precision n) = index precision n := by
  have length := bitLength_lowest precision n
  rw [index_eq, index_eq, bucket, bucket, length, size_congr precision length, lowest,
    Nat.mul_div_cancel _ (size_pos precision n)]

/-- Different cells have different places. -/
lemma lowest_eq_of_index_eq (same : index precision m = index precision n) :
    lowest precision m = lowest precision n := by
  rcases Nat.lt_trichotomy (bucket precision m) (bucket precision n) with less | buckets | more
  · exact absurd same (index_lt_of_bucket_lt precision less).ne
  · rw [index_eq, index_eq, buckets] at same
    rw [lowest, lowest, Nat.add_left_cancel same, size_eq_of_bucket_eq precision buckets]
  · exact absurd same (index_lt_of_bucket_lt precision more).ne'

/-- The places of cells are in the order of their lowest numbers. -/
lemma index_le_index_iff : index precision m ≤ index precision n ↔ lowest precision m ≤ lowest precision n := by
  constructor
  · intro le
    by_contra greater
    have back := index_mono precision (Nat.not_le.1 greater).le
    rw [index_lowest, index_lowest] at back
    exact greater (lowest_eq_of_index_eq precision (Nat.le_antisymm le back)).le
  · intro le
    rw [← index_lowest precision m, ← index_lowest precision n]
    exact index_mono precision le

end Index

end StepMeters.Cell
