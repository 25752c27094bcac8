import StepMeters.Proofs.Estimator.Laws
import StepMeters.Proofs.Estimator.Spread

/-!
# Estimators that count cells

`Estimator.Keeps` says which numbers an estimator has recorded: its tally has counted their cells, and it knows
the greatest of them. Recording a number and merging estimators keep this, as long as the other estimator can
be merged, which it can unless it recorded the greatest number of all (`Keeps.isMergeable_iff`). The counts then
reach a rank at the cell of the number that has it among the sorted ones (`Keeps.quantile_eq`). So these estimators
are lawful (`isLawful`).
-/

namespace StepMeters.Estimator

/-- An estimator has recorded these numbers, in some order. -/
structure Keeps (precision : Nat) (e : Estimator) (numbers : List Nat) : Prop where
  increasing : e.counts.Increasing
  spread : e.counts.spread.Perm (numbers.map (Cell.lowest precision))
  attained : e.greatest = 0 ∨ e.greatest ∈ numbers
  bound : ∀ n ∈ numbers, n ≤ e.greatest

/-- An empty estimator has recorded nothing. -/
lemma keeps_empty (precision : Nat) : Keeps precision {} [] := ⟨.nil, .refl _, .inl rfl, nofun⟩

section Keeps
variable {precision : Nat} {e other : Estimator} {numbers others : List Nat}

/-- The order of the numbers does not matter. -/
lemma Keeps.congr (h : e.Keeps precision numbers) (perm : numbers.Perm others) : e.Keeps precision others :=
  ⟨h.increasing, h.spread.trans (perm.map _), h.attained.imp_right perm.mem_iff.1,
    fun n mem => h.bound n (perm.mem_iff.2 mem)⟩

/-- A recorded number comes to the others. -/
lemma Keeps.record (h : e.Keeps precision numbers) (n : Nat) :
    (e.record precision n).Keeps precision (n :: numbers) where
  increasing := h.increasing.add _ 1
  spread := (Tally.spread_add _ _).trans (h.spread.cons _)
  attained := by
    show max e.greatest n = 0 ∨ max e.greatest n ∈ n :: numbers
    rcases Nat.le_total e.greatest n with less | more
    · rw [Nat.max_eq_right less]
      exact .inr List.mem_cons_self
    · rw [Nat.max_eq_left more]
      exact h.attained.imp_right (List.mem_cons_of_mem n)
  bound := by
    intro m mem
    rcases List.mem_cons.1 mem with rfl | mem
    · exact Nat.le_max_right ..
    · exact Nat.le_trans (h.bound m mem) (Nat.le_max_left ..)

/-- Merging puts the numbers of both estimators together. -/
lemma Keeps.merge (h : e.Keeps precision numbers) (h' : other.Keeps precision others)
    (mergeable : other.isMergeable precision = true) :
    (e.merge precision other).Keeps precision (numbers ++ others) := by
  rw [Estimator.merge, if_pos mergeable]
  refine ⟨h.increasing.merge h'.increasing, ?_, ?_, ?_⟩
  · rw [List.map_append]
    exact (Tally.spread_merge ..).trans (h.spread.append h'.spread)
  · show max e.greatest other.greatest = 0 ∨ max e.greatest other.greatest ∈ numbers ++ others
    rcases Nat.le_total e.greatest other.greatest with less | more
    · rw [Nat.max_eq_right less]
      exact h'.attained.imp_right (List.mem_append_right numbers)
    · rw [Nat.max_eq_left more]
      exact h.attained.imp_right (List.mem_append_left others)
  · intro n mem
    rcases List.mem_append.1 mem with mem | mem
    · exact Nat.le_trans (h.bound n mem) (Nat.le_max_left ..)
    · exact Nat.le_trans (h'.bound n mem) (Nat.le_max_right ..)

/-- An estimator can be merged unless it recorded the greatest number of all. -/
lemma Keeps.isMergeable_iff (h : e.Keeps precision numbers) (fits : ∀ n ∈ numbers, n ≤ Cell.top) :
    e.isMergeable precision = true ↔ ∀ n ∈ numbers, n ≠ Cell.top := by
  rw [isMergeable, decide_eq_true_iff, Cell.highest_lt_top_iff]
  constructor
  · rintro less n mem rfl
    have reach := h.bound _ mem
    rcases h.attained with none | recorded
    · rw [none] at reach
      exact absurd reach (by decide)
    · exact less (Nat.le_antisymm (fits _ recorded) reach)
  · intro none last
    rcases h.attained with zero | recorded
    · rw [zero] at last
      exact absurd last (by decide)
    · exact none _ recorded last

/-- An estimator counts as many recordings as there are numbers. -/
lemma Keeps.total_eq (h : e.Keeps precision numbers) : e.total = numbers.length := by
  rw [total, ← Tally.length_spread, h.spread.length_eq, List.length_map]

/-- The counted cells in order are the cells of the numbers in order. -/
lemma Keeps.spread_eq (h : e.Keeps precision numbers) :
    e.counts.spread = numbers.mergeSort.map (Cell.lowest precision) := by
  refine List.Perm.eq_of_pairwise (fun a b _ _ => Nat.le_antisymm) h.increasing.pairwise_spread ?_ ?_
  · exact List.pairwise_map.2 ((Estimation.pairwise_mergeSort numbers).imp (Cell.lowest_mono precision))
  · exact h.spread.trans ((List.mergeSort_perm numbers _).symm.map _)

/-- The counts reach a rank at the cell of the number that has it. -/
lemma Keeps.reach?_eq (h : e.Keeps precision numbers) (q : Float) : e.counts.reach? (e.rank q)
    = numbers.mergeSort[Estimation.rank numbers.length q - 1]?.map (Cell.lowest precision) := by
  have same : e.rank q = Estimation.rank numbers.length q := by rw [rank, Estimation.rank, h.total_eq]
  have pos : 0 < Estimation.rank numbers.length q := Nat.le_max_left 1 _
  rw [same, Tally.reach?_eq pos, h.spread_eq, List.getElem?_map]

/-- A quantile is the end of a cell: that of the number with the asked rank. -/
lemma Keeps.quantile_eq (h : e.Keeps precision numbers) (fits : ∀ n ∈ numbers, n < Cell.top) {q : Float} {n : Nat}
    (ranked : numbers.mergeSort[Estimation.rank numbers.length q - 1]? = some n) :
    e.quantile precision q = if q == 0.0 then Cell.lowest precision n else Cell.highest precision n := by
  have less := fits n ((List.mergeSort_perm numbers _).mem_iff.1 (List.mem_of_getElem? ranked))
  have cell := Cell.lowest_lowest precision n
  have less' := Nat.lt_of_le_of_lt (Cell.lowest_le precision n) less
  rw [quantile, h.reach?_eq, ranked, Option.map_some]
  dsimp only
  rw [cell, Cell.highest_congr precision less less' cell]

/-- The count up to a number is that of the recorded numbers whose cells stand at its own place or before. -/
lemma Keeps.countUpTo_eq (h : e.Keeps precision numbers) (n : Nat) :
    e.countUpTo precision n = numbers.countP fun m => Cell.index precision m ≤ Cell.index precision n := by
  rw [countUpTo, Tally.upTo_eq, h.spread.countP_eq, List.countP_map]
  refine List.countP_congr fun m _ => ?_
  rw [Function.comp_apply, decide_eq_true_iff, decide_eq_true_iff]
  exact (Cell.index_le_index_iff precision).symm

end Keeps

/-- Estimators that count cells. -/
def estimation (precision : Nat) : Estimation Estimator where
  empty := {}
  record := record precision
  merge := merge precision
  total := total
  quantile := quantile precision
  countUpTo := countUpTo precision

/-- Estimators that count cells obey the laws. -/
lemma isLawful (precision : Nat) : (estimation precision).IsLawful precision (Keeps precision) where
  empty := keeps_empty precision
  perm kept same := kept.congr same
  record kept _ := kept.record _
  merge kept kept' fits :=
    kept.merge kept' ((kept'.isMergeable_iff fun n mem => (fits n mem).le).2 fun n mem => (fits n mem).ne)
  refuse kept' fits top := if_neg fun mergeable => (kept'.isMergeable_iff fits).1 mergeable _ top rfl
  total kept := kept.total_eq
  quantile_nil kept q := by
    show quantile _ _ q = 0
    rw [quantile, kept.reach?_eq, List.mergeSort_nil, List.getElem?_nil, Option.map_none]
  quantile kept fits _ _ ranked := kept.quantile_eq fits ranked
  countUpTo kept n := kept.countUpTo_eq n

end StepMeters.Estimator
