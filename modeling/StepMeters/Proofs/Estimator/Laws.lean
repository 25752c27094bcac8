import StepMeters.Proofs.Amount.Monotone
import StepMeters.Proofs.Estimator.Cells

/-!
# Laws of estimators

A window does not look into its estimators: it begins with empty ones, has them record numbers, merges them, and
asks for quantiles and counts. `Estimation.IsLawful` says what it relies on, for estimators of any make. All that is
said of percentiles and of estimated counts follows from these laws. A quantile is an end of the cell of the number
that has the asked rank among the sorted ones (`IsLawful.quantile_of_pos`, `IsLawful.quantile_of_zero`), a greater
part of the numbers has a quantile that is not less (`IsLawful.quantile_mono`), and merging all phases of a window
leaves out those with the greatest number of all (`IsLawful.mergeAll`). So two lawful makes give the same answers
about the same numbers (`IsLawful.same_answers`), and one of them keeps just the numbers (`isLawful_listed`).
-/

namespace StepMeters

/-- What can be done with estimators of some make. -/
structure Estimation (E : Type) where
  empty : E
  record : E → Nat → E
  merge : E → E → E
  /-- The number of recordings. -/
  total : E → Nat
  quantile : E → Float → Nat
  countUpTo : E → Nat → Nat

namespace Estimation

/-- The rank that a part of so many numbers in order ends at: the part is rounded up, and is one at least. -/
def rank (count : Nat) (q : Float) : Nat := max 1 (Amount.ceiling (q * Float.ofNat count)).toNat

/-- The laws of estimators that keep so many decimal digits of numbers. `keeps e numbers` says that an estimator has
recorded these numbers, in some order. -/
structure IsLawful {E : Type} (o : Estimation E) (precision : Nat) (keeps : E → List Nat → Prop) : Prop where
  empty : keeps o.empty []
  perm {e : E} {numbers others : List Nat} (kept : keeps e numbers) (same : numbers.Perm others) : keeps e others
  record {e : E} {numbers : List Nat} {n : Nat} (kept : keeps e numbers) (fits : n ≤ Cell.top) :
    keeps (o.record e n) (n :: numbers)
  /-- An estimator that has not recorded the greatest number of all can be merged into another. -/
  merge {e e' : E} {numbers others : List Nat} (kept : keeps e numbers) (kept' : keeps e' others)
    (fits : ∀ n ∈ others, n < Cell.top) : keeps (o.merge e e') (numbers ++ others)
  /-- One that has recorded it cannot, and leaves no trace. -/
  refuse {e e' : E} {others : List Nat} (kept' : keeps e' others) (fits : ∀ n ∈ others, n ≤ Cell.top)
    (top : Cell.top ∈ others) : o.merge e e' = e
  total {e : E} {numbers : List Nat} (kept : keeps e numbers) : o.total e = numbers.length
  quantile_nil {e : E} (kept : keeps e []) (q : Float) : o.quantile e q = 0
  /-- A quantile is the highest number of the cell of the number with its rank, and for a part of zero the lowest. -/
  quantile {e : E} {numbers : List Nat} (kept : keeps e numbers) (fits : ∀ n ∈ numbers, n < Cell.top) {q : Float}
    {n : Nat} (ranked : numbers.mergeSort[rank numbers.length q - 1]? = some n) :
    o.quantile e q = if q == 0.0 then Cell.lowest precision n else Cell.highest precision n
  /-- The count up to a number is that of the numbers whose cells stand at the place of its own cell or before. -/
  countUpTo {e : E} {numbers : List Nat} (kept : keeps e numbers) (n : Nat) :
    o.countUpTo e n = numbers.countP fun m => Cell.index precision m ≤ Cell.index precision n

section Sorted
variable {numbers others : List Nat} {i j n n' : Nat}

/-- Sorting puts numbers in order. -/
lemma pairwise_mergeSort (numbers : List Nat) : numbers.mergeSort.Pairwise (· ≤ ·) := by
  have transitive : ∀ a b c : Nat, decide (a ≤ b) = true → decide (b ≤ c) = true → decide (a ≤ c) = true :=
    fun a b c le le' => decide_eq_true (Nat.le_trans (of_decide_eq_true le) (of_decide_eq_true le'))
  have total : ∀ a b : Nat, (decide (a ≤ b) || decide (b ≤ a)) = true := fun a b => by
    simpa using Nat.le_total a b
  exact (List.pairwise_mergeSort transitive total numbers).imp of_decide_eq_true

/-- Numbers that are given in another order are sorted into the same list. -/
lemma mergeSort_eq_of_perm (same : numbers.Perm others) : numbers.mergeSort = others.mergeSort := by
  refine List.Perm.eq_of_pairwise (fun a b _ _ => Nat.le_antisymm) (pairwise_mergeSort numbers)
    (pairwise_mergeSort others) ?_
  exact (List.mergeSort_perm numbers _).trans (same.trans (List.mergeSort_perm others _).symm)

/-- Sorted numbers are in the order of their places. -/
lemma le_of_mergeSort (h : numbers.mergeSort[i]? = some n) (h' : numbers.mergeSort[j]? = some n') (le : i ≤ j) :
    n ≤ n' := by
  obtain ⟨inside, rfl⟩ := List.getElem?_eq_some_iff.1 h
  obtain ⟨inside', rfl⟩ := List.getElem?_eq_some_iff.1 h'
  rcases Nat.lt_or_eq_of_le le with less | rfl
  · exact List.pairwise_iff_getElem.1 (pairwise_mergeSort numbers) i j inside inside' less
  · exact Nat.le_refl _

/-- A rank that is not beyond the last of the numbers has a number. -/
lemma exists_ranked {q : Float} (inside : rank numbers.length q ≤ numbers.length) :
    ∃ n ∈ numbers, numbers.mergeSort[rank numbers.length q - 1]? = some n := by
  have pos : 0 < rank numbers.length q := Nat.le_max_left 1 _
  have bound : rank numbers.length q - 1 < numbers.mergeSort.length := by
    rw [List.length_mergeSort]
    omega
  exact ⟨_, (List.mergeSort_perm numbers _).mem_iff.1 (List.getElem_mem bound), List.getElem?_eq_getElem bound⟩

end Sorted

/-- A part of zero ends at the first number. -/
lemma rank_of_zero {q : Float} (zero : (q == 0.0) = true) (count : Nat) : rank count q = 1 := by
  rw [rank, Amount.ceiling_mul_of_zero zero, UInt64.toNat_zero, Nat.max_zero]

/-- Less than all of some numbers is not more than as many as there are. -/
lemma rank_le {count : Nat} (pos : 0 < count) {q : Float} (nonneg : 0.0 ≤ q) (lt : q < 1.0) :
    rank count q ≤ count := by
  rcases Amount.le_or_lt (Amount.isNaN_of_le nonneg).2 Amount.isNaN_zero with zero | more
  · rw [rank_of_zero (Amount.beq_of_le zero nonneg)]
    exact pos
  · exact Nat.max_le.2 ⟨pos, Amount.toNat_ceiling_mul_le more lt _⟩

/-- A greater part of some numbers does not end at a lesser rank. -/
lemma rank_mono {count : Nat} (pos : 0 < count) {q q' : Float} (nonneg : 0.0 ≤ q) (le : q ≤ q') :
    rank count q ≤ rank count q' :=
  max_le_max_left 1 (Amount.ceiling_mul_mono nonneg le (Amount.zero_lt_ofNat pos))

/-- An estimator of some numbers. -/
def recordAll {E : Type} (o : Estimation E) (numbers : List Nat) : E := numbers.foldl o.record o.empty

/-- The estimators of several lists of numbers together. -/
def mergeAll {E : Type} (o : Estimation E) (lists : List (List Nat)) : E :=
  lists.foldl (fun e numbers => o.merge e (o.recordAll numbers)) o.empty

namespace IsLawful

section Laws
variable {E : Type} {o : Estimation E} {precision : Nat} {keeps : E → List Nat → Prop} {e : E}
  {numbers : List Nat} {q q' : Float}

/-- Less than all of some numbers ends at one of them, and its quantile at an end of the cell of that number. -/
lemma exists_quantile (laws : o.IsLawful precision keeps) (kept : keeps e numbers) (some : numbers ≠ [])
    (fits : ∀ n ∈ numbers, n < Cell.top) (nonneg : 0.0 ≤ q) (lt : q < 1.0) :
    ∃ n ∈ numbers, numbers.mergeSort[rank numbers.length q - 1]? = .some n ∧
      o.quantile e q = if q == 0.0 then Cell.lowest precision n else Cell.highest precision n := by
  obtain ⟨n, mem, ranked⟩ := exists_ranked (rank_le (List.length_pos_iff.2 some) nonneg lt)
  exact ⟨n, mem, ranked, laws.quantile kept fits ranked⟩

/-- A part of the numbers ends at the number whose rank is that part of their count, or rather at the highest
number of its cell, which is not more than the precision away. -/
lemma quantile_of_pos (laws : o.IsLawful precision keeps) (kept : keeps e numbers) (some : numbers ≠ [])
    (fits : ∀ n ∈ numbers, n < Cell.top) (pos : 0.0 < q) (lt : q < 1.0) :
    ∃ n, numbers.mergeSort[rank numbers.length q - 1]? = .some n ∧
      o.quantile e q = Cell.highest precision n ∧ n ≤ Cell.highest precision n ∧
      (Cell.highest precision n - n) * 10 ^ precision ≤ n := by
  obtain ⟨n, mem, ranked, quantile⟩ := laws.exists_quantile kept some fits (Amount.le_of_lt pos) lt
  have other : ¬(q == 0.0) = true := fun zero => Amount.not_le_of_lt pos (Amount.le_of_beq zero).1
  rw [if_neg other] at quantile
  exact ⟨n, ranked, quantile, Cell.le_highest precision (fits n mem),
    Cell.highest_sub_mul_le precision (fits n mem)⟩

/-- Nothing of the numbers ends at the least of them, or rather at the lowest number of its cell. -/
lemma quantile_of_zero (laws : o.IsLawful precision keeps) (kept : keeps e numbers) (some : numbers ≠ [])
    (fits : ∀ n ∈ numbers, n < Cell.top) (zero : (q == 0.0) = true) :
    ∃ n, numbers.mergeSort[0]? = .some n ∧ o.quantile e q = Cell.lowest precision n ∧
      Cell.lowest precision n ≤ n ∧ (n - Cell.lowest precision n) * 10 ^ precision ≤ n := by
  have first := rank_of_zero zero numbers.length
  obtain ⟨n, -, ranked⟩ := exists_ranked (first.trans_le (List.length_pos_iff.2 some))
  have quantile := laws.quantile kept fits ranked
  rw [first] at ranked
  rw [if_pos zero] at quantile
  exact ⟨n, ranked, quantile, Cell.lowest_le precision n, Cell.sub_lowest_mul_le precision n⟩

/-- Quantiles of less than all stay below the greatest number of all, as the numbers do. -/
lemma quantile_lt_top (laws : o.IsLawful precision keeps) (kept : keeps e numbers)
    (fits : ∀ n ∈ numbers, n < Cell.top) (nonneg : 0.0 ≤ q) (lt : q < 1.0) : o.quantile e q < Cell.top := by
  by_cases none : numbers = []
  · subst none
    rw [laws.quantile_nil kept]
    decide
  · obtain ⟨n, mem, -, quantile⟩ := laws.exists_quantile kept none fits nonneg lt
    rw [quantile]
    split
    · exact Nat.lt_of_le_of_lt (Cell.lowest_le precision n) (fits n mem)
    · exact (Cell.highest_lt_top_iff precision).2 (fits n mem).ne

/-- The numbers up to the lesser part end no higher than those up to the greater one. The lowest number of a cell
stands for a part of zero only, and no part is less than that. -/
lemma quantile_mono (laws : o.IsLawful precision keeps) (kept : keeps e numbers)
    (fits : ∀ n ∈ numbers, n < Cell.top) (nonneg : 0.0 ≤ q) (le : q ≤ q') (lt : q' < 1.0) :
    o.quantile e q ≤ o.quantile e q' := by
  by_cases none : numbers = []
  · subst none
    rw [laws.quantile_nil kept, laws.quantile_nil kept]
  · have ranks := rank_mono (List.length_pos_iff.2 none) nonneg le
    obtain ⟨n, mem, ranked, quantile⟩ :=
      laws.exists_quantile kept none fits nonneg (Amount.lt_of_le_of_lt le lt)
    obtain ⟨n', mem', ranked', quantile'⟩ := laws.exists_quantile kept none fits (Amount.le_trans nonneg le) lt
    have order : n ≤ n' := le_of_mergeSort ranked ranked' (by omega)
    rw [quantile, quantile']
    by_cases zero : (q == 0.0) = true
    · rw [if_pos zero]
      split
      · exact Cell.lowest_mono precision order
      · calc Cell.lowest precision n ≤ n := Cell.lowest_le precision n
          _ ≤ n' := order
          _ ≤ Cell.highest precision n' := Cell.le_highest precision (fits n' mem')
    · have zero' : ¬(q' == 0.0) = true := fun nothing =>
        zero (Amount.beq_of_le (Amount.le_trans le (Amount.le_of_beq nothing).1) nonneg)
      rw [if_neg zero, if_neg zero']
      exact Cell.highest_mono precision (fits n' mem') order

/-- An estimator of some numbers has recorded them. -/
lemma recordAll (laws : o.IsLawful precision keeps) (fits : ∀ n ∈ numbers, n ≤ Cell.top) :
    keeps (o.recordAll numbers) numbers := by
  induction numbers using List.reverseRecOn with
  | nil => exact laws.empty
  | append_singleton numbers n ih =>
    rw [Estimation.recordAll, List.foldl_append]
    have before := ih fun m mem => fits m (List.mem_append_left _ mem)
    have after := laws.record before (fits n (by simp))
    exact laws.perm after (List.perm_append_singleton n numbers).symm

/-- Of several lists of numbers those with the greatest number of all are left out, and the others are merged. -/
lemma mergeAll (laws : o.IsLawful precision keeps) {lists : List (List Nat)}
    (fits : ∀ numbers ∈ lists, ∀ n ∈ numbers, n ≤ Cell.top) :
    keeps (o.mergeAll lists) (lists.flatMap fun numbers => if Cell.top ∈ numbers then [] else numbers) := by
  induction lists using List.reverseRecOn with
  | nil => exact laws.empty
  | append_singleton lists numbers ih =>
    have before := ih fun numbers' mem => fits numbers' (List.mem_append_left _ mem)
    have words := fits numbers (by simp)
    have last := laws.recordAll words
    rw [Estimation.mergeAll, List.foldl_append, List.flatMap_append, List.flatMap_singleton]
    show keeps (o.merge (o.mergeAll lists) (o.recordAll numbers)) _
    by_cases top : Cell.top ∈ numbers
    · rw [if_pos top, List.append_nil, laws.refuse last words top]
      exact before
    · rw [if_neg top]
      exact laws.merge before last fun n mem => Nat.lt_of_le_of_ne (words n mem) fun last => top (last ▸ mem)

/-- Two makes of estimators that obey the laws for the same digits give the same answers about the same numbers. -/
lemma same_answers {E' : Type} {o' : Estimation E'} {keeps' : E' → List Nat → Prop} {e' : E'}
    (laws : o.IsLawful precision keeps) (laws' : o'.IsLawful precision keeps') (kept : keeps e numbers)
    (kept' : keeps' e' numbers) :
    o.total e = o'.total e' ∧ (∀ n, o.countUpTo e n = o'.countUpTo e' n) ∧
      ((∀ n ∈ numbers, n < Cell.top) → ∀ q, 0.0 ≤ q → q < 1.0 → o.quantile e q = o'.quantile e' q) := by
  refine ⟨?_, fun n => ?_, fun fits q nonneg lt => ?_⟩
  · rw [laws.total kept, laws'.total kept']
  · rw [laws.countUpTo kept, laws'.countUpTo kept']
  · by_cases none : numbers = []
    · subst none
      rw [laws.quantile_nil kept, laws'.quantile_nil kept']
    · obtain ⟨n, -, ranked, quantile⟩ := laws.exists_quantile kept none fits nonneg lt
      rw [quantile, laws'.quantile kept' fits ranked]

end Laws

end IsLawful

/-- The plainest make keeps the numbers themselves. -/
def listed (precision : Nat) : Estimation (List Nat) where
  empty := []
  record numbers n := n :: numbers
  merge numbers others := if Cell.top ∈ others then numbers else numbers ++ others
  total := List.length
  quantile numbers q := numbers.mergeSort[rank numbers.length q - 1]?.elim 0 fun n =>
    if q == 0.0 then Cell.lowest precision n else Cell.highest precision n
  countUpTo numbers n := numbers.countP fun m => Cell.index precision m ≤ Cell.index precision n

/-- Lists of numbers obey the laws. -/
lemma isLawful_listed (precision : Nat) : (listed precision).IsLawful precision List.Perm where
  empty := .refl _
  perm kept same := kept.trans same
  record kept _ := kept.cons _
  merge kept kept' fits := by
    have none : Cell.top ∉ _ := fun mem => Nat.lt_irrefl _ (fits _ (kept'.mem_iff.1 mem))
    show List.Perm (if Cell.top ∈ _ then _ else _ ++ _) _
    rw [if_neg none]
    exact kept.append kept'
  refuse kept' _ top := if_pos (kept'.mem_iff.2 top)
  total kept := kept.length_eq
  quantile_nil kept q := by
    obtain rfl := kept.eq_nil
    show ([] : List Nat).mergeSort[_]?.elim 0 _ = 0
    rw [List.mergeSort_nil, List.getElem?_nil, Option.elim_none]
  quantile kept _ q n ranked := by
    rw [← mergeSort_eq_of_perm kept, ← kept.length_eq] at ranked
    show Option.elim _ 0 _ = _
    rw [ranked, Option.elim_some]
  countUpTo kept n := kept.countP_eq _

end Estimation

end StepMeters
