import StepMeters.Proofs.Window.Counts
import StepMeters.Proofs.Window.Ordering

/-!
# Estimated counts of a window

One who asks how many recordings do not exceed an amount that is no boundary gets an estimate: the recordings whose
cell stands at the place of the cell of the amount, or before. Recordings that do not exceed the amount are among
them, so nothing is missing from the estimate (`countAtMost_run`). This and what percentiles say rests on the laws of
estimators alone, whichever way these are made (`lawful_run`).
-/

namespace StepMeters.Window

/-- An amount that can be asked for and equals none of the boundaries that are configured. -/
def IsBetween (s : Distribution.Settings) (amount : Float) : Prop :=
  0.0 ≤ amount ∧ ∀ b, s.IsConfigured b → (b == amount) = false

/-- The recordings that an estimate for an amount counts. -/
def upToCell (w : Window) (l : Ledger) (amount : Float) : Nat :=
  l.countP fun e => Cell.index w.precision (w.scaled e.amount) ≤ Cell.index w.precision (w.scaled amount)

section Estimate
variable {s : Distribution.Settings} {start : Nat} {w : Window} (created : ofSettings s start = .ok w)
include created

/-- Away from the boundaries the recordings of the merged estimators are counted. -/
lemma value_countAtMost_of_isBetween (past : List Visit) (now : Nat) {x : Float} (between : IsBetween s x) :
    ((w.run past).countAtMost now x).value
      = Float.ofNat (w.upToCell (w.mergeable (windowed s start past now)) x) := by
  have like := (shows_windowed created past now).1
  obtain ⟨-, sound, -⟩ := Distribution.Settings.collects_boundaries (new_of_ofSettings created).1
  have none : ((w.run past).rotate now).boundaries.findIdx? (· == x) = none := by
    rw [boundaries_run created past now, List.findIdx?_eq_none_iff]
    exact fun b mem => between.2 b (sound b mem)
  rw [countAtMost, if_pos (Amount.isAccepted_iff.2 between.1)]
  dsimp only
  rw [none, like.precision, like.scaled, (keeps_merged_run created past now).countUpTo_eq, List.countP_map]
  rfl

/-- An estimate for a greater amount counts no fewer recordings. -/
lemma upToCell_mono (l : Ledger) {x y : Float} (nonneg : 0.0 ≤ x) (le : x ≤ y) : w.upToCell l x ≤ w.upToCell l y := by
  apply List.countP_mono_left
  intro e _ before
  rw [decide_eq_true_iff] at before ⊢
  exact Nat.le_trans before (Cell.index_mono _ (scaled_mono created nonneg le))

/-- What does not exceed an amount does not stand after it. -/
lemma atMost_le_upToCell {l : Ledger} (accepted : ∀ e ∈ l, Amount.isAccepted e.amount = true) (x : Float) :
    atMost l x ≤ w.upToCell l x := by
  apply List.countP_mono_left
  intro e mem below
  rw [decide_eq_true_iff] at below ⊢
  exact Cell.index_mono _ (scaled_mono created (Amount.isAccepted_iff.1 (accepted e mem)) below)

end Estimate

/-- Estimated counts never leave out a recording, whatever ran before, as long as no recording inside the window
scales to the greatest number of all. For an amount that is no boundary one is told exactly the number of the
recordings whose cell stands at the place of its own cell or before. These are at least the recordings that do not
exceed the amount, at most all of the window, and not fewer for a greater amount. -/
theorem countAtMost_run {s : Distribution.Settings} {start : Nat} {w : Window} (created : ofSettings s start = .ok w)
    (past : List Visit) (now : Nat) (fits : ∀ e ∈ windowed s start past now, w.scaled e.amount ≠ Cell.top) :
    let l := windowed s start past now
    let answer (amount : Float) := ((w.run past).countAtMost now amount).value
    (∀ x, IsBetween s x → answer x = Float.ofNat (w.upToCell l x) ∧ atMost l x ≤ w.upToCell l x ∧
        w.upToCell l x ≤ ((w.run past).rotate now).count) ∧
      ∀ x y, IsBetween s x → IsBetween s y → x ≤ y → w.upToCell l x ≤ w.upToCell l y ∧ answer x ≤ answer y := by
  intro l answer
  have exactly : ∀ x, IsBetween s x → answer x = Float.ofNat (w.upToCell l x) := by
    intro x between
    have counted := value_countAtMost_of_isBetween created past now between
    rwa [mergeable_eq_self fits] at counted
  refine ⟨fun x between => ⟨exactly x between, ?_, ?_⟩, fun x y between between' le => ?_⟩
  · exact atMost_le_upToCell created isAccepted_of_mem_windowed x
  · rw [(shows_windowed created past now).2.count]
    exact List.countP_le_length
  · have counts := upToCell_mono created l between.1 le
    rw [exactly x between, exactly y between']
    exact ⟨counts, Amount.ofNat_le_ofNat counts⟩

/-- Three recordings and an objective. At 4.1 the estimate counts the recordings of 4.0 and of 4.2, because the latter
shares a cell with the amount. -/
theorem countAtMost_run_objective :
    let s : Distribution.Settings := { objectives := [2.5] }
    let w := new s 0
    let past : List Visit := [⟨0, .record 4.0⟩, ⟨1, .record 4.2⟩, ⟨w.phaseNanos, .record 9.0⟩]
    let now := w.phaseNanos
    let l := windowed s 0 past now
    ofSettings s 0 = .ok w ∧ (∀ e ∈ l, w.scaled e.amount ≠ Cell.top) ∧
      IsBetween s 4.1 ∧ IsBetween s 8.0 ∧ atMost l 4.1 = 1 ∧
      ((w.run past).countAtMost now 4.1).value = 2.0 ∧
      ((w.run past).countAtMost now 4.1).value ≤ ((w.run past).countAtMost now 8.0).value := by
  intro s w past now l
  have created : ofSettings s 0 = .ok w := by
    have faultless : s.fault? = none := by decide +kernel
    rw [ofSettings, faultless]
  have fits : ∀ e ∈ l, w.scaled e.amount ≠ Cell.top := by decide +kernel
  have one : ∀ b, s.IsConfigured b → b = 2.5 := by
    rintro b (objective | ⟨histogram, -⟩)
    · exact List.mem_singleton.1 objective
    · cases histogram
  have between : IsBetween s 4.1 :=
    ⟨by decide +kernel, fun b configured => by rw [one b configured]; decide +kernel⟩
  have between' : IsBetween s 8.0 :=
    ⟨by decide +kernel, fun b configured => by rw [one b configured]; decide +kernel⟩
  obtain ⟨counts, order⟩ := countAtMost_run created past now fits
  obtain ⟨answer, -⟩ := counts 4.1 between
  refine ⟨created, fits, between, between', by decide +kernel, answer.trans ?_, ?_⟩
  · decide +kernel
  · exact (order 4.1 8.0 between between' (by decide +kernel)).2

/-- Estimates do not depend on how estimators are made. Take estimators of any make that obeys the laws for the digits
of a window, one for each phase with the numbers that the phase has recorded, and merge them as the window does it.
Whatever ran before, a percentile of less than all of some recordings is what they answer as a quantile, divided by
the scale and capped by the greatest recording, and the count up to an amount that is no boundary is their count. -/
theorem lawful_run {E : Type} {o : Estimation E} {keeps : E → List Nat → Prop} {s : Distribution.Settings}
    {start : Nat} {w : Window} (created : ofSettings s start = .ok w) (laws : o.IsLawful w.precision keeps)
    (past : List Visit) (now : Nat) :
    let seen := (w.run past).rotate now
    let merged := o.mergeAll (w.scaledAt (windowed s start past now) s.bufferLength)
    (∀ part : Float, seen.count ≠ 0 → part < 1.0 → ((w.run past).percentile now part).value =
        Amount.least (Float.ofNat (o.quantile merged (Amount.greatest part 0.0)) / w.scale) seen.max) ∧
      ∀ x, IsBetween s x → ((w.run past).countAtMost now x).value = Float.ofNat (o.countUpTo merged (w.scaled x)) := by
  intro seen merged
  have kept := keeps_mergeAll_run created laws past now
  refine ⟨fun part some lt => ?_, fun x between => ?_⟩
  · have defined := (Amount.lt_iff.1 lt).1
    have nonneg := Amount.le_greatest_right defined Amount.isNaN_zero
    have lt' := Amount.greatest_lt lt (show (0.0 : Float) < 1.0 by decide)
    have fits := w.scaled_lt_top_of_mem_mergeable (windowed s start past now)
    obtain ⟨-, -, quantiles⟩ :=
      laws.same_answers (Estimator.isLawful w.precision) kept (keeps_merged_run created past now)
    rw [percentile_run_of_lt_one created some defined lt', quantiles fits _ nonneg lt']
    rfl
  · rw [value_countAtMost_of_isBetween created past now between, laws.countUpTo kept, List.countP_map]
    rfl

/-- Plain lists of the numbers, for a window with an infinite amount in a phase after two others: what is merged are
the numbers of the two. -/
theorem lawful_run_listed :
    let w := new {} 0
    let past : List Visit := [⟨0, .record 5.0⟩, ⟨1, .record 2.0⟩, ⟨w.phaseNanos, .record (1.0 / 0.0)⟩]
    let now := w.phaseNanos
    let merged := (Estimation.listed 1).mergeAll (w.scaledAt (windowed {} 0 past now) 3)
    ofSettings {} 0 = .ok w ∧ merged = [2000, 5000] ∧
      ((w.run past).percentile now 0.5).value = Amount.least
        (Float.ofNat ((Estimation.listed 1).quantile merged 0.5) / w.scale) ((w.run past).rotate now).max ∧
      ((w.run past).countAtMost now 3.0).value = 1.0 := by
  intro w past now merged
  have created : ofSettings {} 0 = .ok w := by rfl
  have some : ((w.run past).rotate now).count ≠ 0 := by decide +kernel
  have none : ∀ b, ¬Distribution.Settings.IsConfigured {} b := by
    rintro b (objective | ⟨histogram, -⟩)
    · exact absurd objective List.not_mem_nil
    · cases histogram
  have between : IsBetween {} 3.0 := ⟨by decide, fun b configured => absurd configured (none b)⟩
  obtain ⟨percentiles, counts⟩ := lawful_run created (Estimation.isLawful_listed 1) past now
  refine ⟨created, by decide +kernel, ?_, (counts 3.0 between).trans (by decide +kernel)⟩
  exact percentiles 0.5 some (by decide)

end StepMeters.Window
