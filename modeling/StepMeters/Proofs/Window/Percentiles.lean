import StepMeters.Proofs.Window.Merging

/-!
# Percentiles of a window

A percentile is an order statistic of the recordings inside the window, up to the size of a cell of the
estimator and never above the greatest recording (`percentile_run`). All of it is about the whole numbers that
stand for the amounts; what stands for no part of the recordings, or for all of them, is answered apart.
-/

namespace StepMeters

namespace Amount

/-- The top of some amounts equals one of them, though it may be the other zero. -/
lemma IsTop.exists_beq {top : Float} {amounts : List Float} (h : IsTop top amounts) (some : amounts ≠ [])
    (accepted : ∀ x ∈ amounts, isAccepted x) : ∃ x ∈ amounts, (top == x) = true := by
  have defined := (isNaN_of_le h.nonneg).2
  rcases h.attained with zero | mem
  · obtain ⟨x, mem⟩ := List.exists_mem_of_ne_nil amounts some
    have least := isAccepted_iff.1 (accepted x mem)
    have most := h.bound x mem
    rw [zero] at most ⊢
    exact ⟨x, mem, beq_of_le least most⟩
  · exact ⟨top, mem, beq_iff.2 ⟨defined, defined, rfl⟩⟩

/-- What equals zero is below one. -/
lemma lt_one_of_beq_zero {part : Float} (h : (part == 0.0) = true) : part < 1.0 := by
  obtain ⟨defined, -, same⟩ := beq_iff.1 h
  have one := lt_iff.1 (show (0.0 : Float) < 1.0 by decide)
  exact lt_iff.2 ⟨defined, one.2.1, same ▸ one.2.2⟩

end Amount

namespace Window

section Percentile
variable {w : Window} {now : Nat} {part : Float}

/-- All of the recordings, or more, is answered by the greatest of them. -/
lemma percentile_of_one_le (some : (w.rotate now).count ≠ 0) (whole : 1.0 ≤ part) :
    (w.percentile now part).value = (w.rotate now).max := by
  have pos : 0.0 < part := Amount.lt_of_lt_of_le (by decide) whole
  rw [percentile, (Amount.le_iff.1 whole).2.1]
  show (w.rotate now).quantile _ (Amount.greatest part 0.0) = _
  rw [Amount.greatest_of_le (Amount.le_of_lt pos), quantile, if_neg some, if_pos whole]

/-- Less than all of the recordings of a run is answered by an estimate. -/
lemma percentile_run_of_lt_one {s : Distribution.Settings} {start : Nat} (created : ofSettings s start = .ok w)
    {past : List Visit} (some : ((w.run past).rotate now).count ≠ 0) (defined : part.isNaN = false)
    (lt : Amount.greatest part 0.0 < 1.0) : ((w.run past).percentile now part).value =
      Amount.least (Float.ofNat (((w.run past).rotate now).merged.quantile w.precision
        (Amount.greatest part 0.0)) / w.scale) ((w.run past).rotate now).max := by
  have like := (shows_windowed created past now).1
  rw [percentile, defined]
  show ((w.run past).rotate now).quantile _ (Amount.greatest part 0.0) = _
  rw [quantile, if_neg some, if_neg (Amount.not_le_of_lt lt), estimate, like.precision, like.scale]

end Percentile

/-- Percentiles of the recordings inside a window that is not empty, whatever ran before. A part of one or more
is answered by the greatest recording. As long as no recording scales to the greatest number of all and there
are no more than `2 ^ 53`, a lesser part is answered by the recording of the rank that this part of their number
is rounded up to: by the highest number of its cell, for a part of at most zero by the lowest, and never by more
than the greatest recording. Either end is no further away than the precision allows. -/
theorem percentile_run {s : Distribution.Settings} {start : Nat} {w : Window}
    (created : ofSettings s start = .ok w) {past : List Visit} {now : Nat}
    (some : windowed s start past now ≠ []) (part : Float) :
    let l := windowed s start past now
    let sorted := (l.map fun e => w.scaled e.amount).mergeSort
    let most := ((w.run past).rotate now).max
    let answer := ((w.run past).percentile now part).value
    (∃ e ∈ l, (most == e.amount) = true) ∧ (∀ e ∈ l, e.amount ≤ most) ∧ (1.0 ≤ part → answer = most) ∧
      (l.length ≤ 2 ^ 53 → (∀ e ∈ l, w.scaled e.amount ≠ Cell.top) →
        (0.0 < part → part < 1.0 →
          ∃ n, sorted[Max.max 1 (Amount.ceiling (part * Float.ofNat l.length)).toNat - 1]? = .some n ∧
            answer = Amount.least (Float.ofNat (Cell.highest w.precision n) / w.scale) most ∧
            n ≤ Cell.highest w.precision n ∧ (Cell.highest w.precision n - n) * 10 ^ w.precision ≤ n) ∧
        (part ≤ 0.0 →
          ∃ n, sorted[0]? = .some n ∧
            answer = Amount.least (Float.ofNat (Cell.lowest w.precision n) / w.scale) most ∧
            Cell.lowest w.precision n ≤ n ∧ (n - Cell.lowest w.precision n) * 10 ^ w.precision ≤ n)) := by
  intro l sorted most answer
  have shown := (shows_windowed created past now).2
  have count : ((w.run past).rotate now).count ≠ 0 := by
    rw [shown.count]
    exact (List.length_pos_iff.2 some).ne'
  refine ⟨?_, fun e he => shown.max.bound _ (List.mem_map_of_mem he), fun whole => ?_, fun _ none => ?_⟩
  · obtain ⟨x, mem, same⟩ := shown.max.exists_beq (mt List.map_eq_nil_iff.1 some)
      (List.forall_mem_map.2 isAccepted_of_mem_windowed)
    obtain ⟨e, he, rfl⟩ := List.mem_map.1 mem
    exact ⟨e, he, same⟩
  · exact percentile_of_one_le count whole
  · have laws := Estimator.isLawful w.precision
    have keeps := keeps_merged_run created past now
    -- no recording scales to the top, so no phase is missing from what is merged
    rw [mergeable_eq_self none] at keeps
    have numbers : (l.map fun e => w.scaled e.amount) ≠ [] := mt List.map_eq_nil_iff.1 some
    have fits : ∀ n ∈ l.map fun e => w.scaled e.amount, n < Cell.top :=
      List.forall_mem_map.2 fun e he => Nat.lt_of_le_of_ne (w.scaled_le_top _) (none e he)
    have length : l.length = (l.map fun e => w.scaled e.amount).length := (List.length_map _).symm
    rw [length]
    constructor
    · intro pos lt
      have asked := Amount.greatest_of_le (Amount.le_of_lt pos)
      obtain ⟨n, ranked, quantile, reach, near⟩ := laws.quantile_of_pos keeps numbers fits pos lt
      change ((w.run past).rotate now).merged.quantile w.precision part = _ at quantile
      refine ⟨n, ranked, ?_, reach, near⟩
      refine (percentile_run_of_lt_one created count (Amount.lt_iff.1 pos).2.1 (asked.symm ▸ lt)).trans ?_
      rw [asked, quantile]
    · intro nothing
      have zero := Amount.greatest_zero_beq_zero nothing
      obtain ⟨n, least, quantile, reach, near⟩ := laws.quantile_of_zero keeps numbers fits zero
      change ((w.run past).rotate now).merged.quantile w.precision (Amount.greatest part 0.0) = _ at quantile
      refine ⟨n, least, ?_, reach, near⟩
      refine (percentile_run_of_lt_one created count (Amount.le_iff.1 nothing).1
        (Amount.lt_one_of_beq_zero zero)).trans ?_
      rw [quantile]

/-- The median, the least and the greatest of three recordings in a window of the default settings. -/
theorem percentile_run_default :
    let w := new {} 0
    let past : List Visit := [⟨0, .record 5.0⟩, ⟨1, .record 2.0⟩, ⟨w.phaseNanos, .record 9.0⟩]
    let now := w.phaseNanos
    let l := windowed {} 0 past now
    let sorted := (l.map fun e => w.scaled e.amount).mergeSort
    ofSettings {} 0 = .ok w ∧ l ≠ [] ∧ l.length ≤ 2 ^ 53 ∧ (∀ e ∈ l, w.scaled e.amount ≠ Cell.top) ∧
      (∃ n, sorted[1]? = some n ∧ ((w.run past).percentile now 0.5).value
        = Amount.least (Float.ofNat (Cell.highest 1 n) / w.scale) ((w.run past).rotate now).max) ∧
      (∃ n, sorted[0]? = some n ∧ ((w.run past).percentile now 0.0).value
        = Amount.least (Float.ofNat (Cell.lowest 1 n) / w.scale) ((w.run past).rotate now).max) ∧
      ((w.run past).percentile now 1.0).value = ((w.run past).rotate now).max := by
  intro w past now l sorted
  have created : ofSettings {} 0 = .ok w := by rfl
  have length : l.length = 3 := by decide +kernel
  have some : l ≠ [] := List.length_pos_iff.1 (by omega)
  have few : l.length ≤ 2 ^ 53 := by omega
  have fits : ∀ e ∈ l, w.scaled e.amount ≠ Cell.top := by decide +kernel
  obtain ⟨-, -, -, part⟩ := percentile_run created some 0.5
  obtain ⟨-, -, -, least⟩ := percentile_run created some 0.0
  obtain ⟨-, -, all, -⟩ := percentile_run created some 1.0
  refine ⟨created, some, few, fits, ?_, ?_, all (by decide +kernel)⟩
  · obtain ⟨n, ranked, answer, -⟩ := (part few fits).1 (by decide +kernel) (by decide +kernel)
    have second : Max.max 1 (Amount.ceiling (0.5 * Float.ofNat l.length)).toNat - 1 = 1 := by
      rw [length]
      decide +kernel
    rw [second] at ranked
    exact ⟨n, ranked, answer⟩
  · obtain ⟨n, ranked, answer, -⟩ := (least few fits).2 (by decide +kernel)
    exact ⟨n, ranked, answer⟩

end Window

end StepMeters
