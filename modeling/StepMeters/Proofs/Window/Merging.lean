import StepMeters.Proofs.Estimator.Estimates
import StepMeters.Proofs.Window.History

/-!
# Merging the estimators of a window

Questions that are answered by estimates put the estimators of all phases together. An estimator that recorded
the greatest number of all cannot be added, and then everything its phase recorded is missing. So what is
merged are the recordings of the slots that hold no amount as large as that (`merged_run`): all recordings of
the window if there is no such amount, and otherwise fewer.
-/

namespace StepMeters

/-- Entries that are live together belong to the same slot if they stand at the same place of the ring. -/
lemma Entry.slice_eq_of_isLive {e e' : Entry} {slot length : Nat} (live : e.isLive slot length)
    (live' : e'.isLive slot length) (place : e.slice % length = e'.slice % length) : e.slice = e'.slice := by
  rw [isLive_iff] at live live'
  have distance := ring_distance live.1 live.2
  have distance' := ring_distance live'.1 live'.2
  rw [place] at distance
  omega

namespace Window

/-- The whole number for an amount can be recorded. -/
lemma scaled_le_top (w : Window) (amount : Float) : w.scaled amount ≤ Cell.top :=
  Nat.le_pred_of_lt (UInt64.toNat_lt_size _)

/-- The estimator of a phase has recorded the numbers that stand for the amounts of the phase. -/
lemma estimator_phaseOf (w : Window) (amounts : List Float) :
    (w.phaseOf amounts).estimator = (Estimator.estimation w.precision).recordAll (amounts.map w.scaled) := by
  induction amounts using List.reverseRecOn with
  | nil => rfl
  | append_singleton amounts amount ih =>
    rw [phaseOf_concat, List.map_append, Estimation.recordAll, List.foldl_append]
    exact congrArg (Estimator.record w.precision · (w.scaled amount)) ih

/-- The numbers that the phases of a ring have recorded for the entries of a ledger. -/
def scaledAt (w : Window) (l : Ledger) (length : Nat) : List (List Nat) :=
  (List.range length).map fun place => (l.atPlace length place).map w.scaled

/-- The entries of the slots that hold no amount recorded as the greatest number of all. -/
def mergeable (w : Window) (l : Ledger) : Ledger :=
  l.filter fun e => ∀ e' ∈ l, e'.slice = e.slice → w.scaled e'.amount ≠ Cell.top

section Merging
variable {w : Window} {l : Ledger} {slot length : Nat}

/-- The mergeable entries at a place are all entries there, or none. -/
lemma atPlace_mergeable (live : ∀ e ∈ l, e.isLive slot length) (place : Nat) :
    (w.mergeable l).atPlace length place =
      if ∀ x ∈ l.atPlace length place, w.scaled x ≠ Cell.top then l.atPlace length place else [] := by
  -- recordings that are still visible share a place only if they share a slot
  have same : ∀ e ∈ l, e.slice % length = place →
      ((∀ e' ∈ l, e'.slice = e.slice → w.scaled e'.amount ≠ Cell.top) ↔
        ∀ x ∈ l.atPlace length place, w.scaled x ≠ Cell.top) := by
    intro e he here
    constructor
    · intro none x hx
      obtain ⟨e', he', rfl⟩ := List.mem_map.1 hx
      obtain ⟨mem, place'⟩ := List.mem_filter.1 he'
      have together : e'.slice % length = e.slice % length := (of_decide_eq_true place').trans here.symm
      exact none e' mem (Entry.slice_eq_of_isLive (live e' mem) (live e he) together)
    · intro none e' he' slice
      refine none e'.amount (List.mem_map_of_mem (List.mem_filter.2 ⟨he', decide_eq_true ?_⟩))
      rw [slice, here]
  rw [mergeable, Ledger.atPlace, List.filter_filter]
  split
  · rename_i all
    rw [Ledger.atPlace]
    congr 1
    apply List.filter_congr
    intro e he
    rw [Bool.eq_iff_iff, Bool.and_eq_true, decide_eq_true_iff, decide_eq_true_iff]
    exact ⟨And.left, fun here => ⟨here, (same e he here).2 all⟩⟩
  · rename_i some
    rw [List.map_eq_nil_iff, List.filter_eq_nil_iff]
    intro e he
    rw [Bool.and_eq_true, decide_eq_true_iff, decide_eq_true_iff]
    exact fun both => some ((same e he both.1).1 both.2)

/-- What a window merges are the estimators of the numbers at all places. -/
lemma Shows.merged_eq (h : w.Shows length l) :
    w.merged = (Estimator.estimation w.precision).mergeAll (w.scaledAt l length) := by
  rw [merged, h.phases, scaledAt, Estimation.mergeAll, List.foldl_map, List.foldl_map]
  congr 1
  funext e place
  rw [estimator_phaseOf]
  rfl

/-- Estimators of any lawful make, merged as a window does it, have recorded the mergeable entries. -/
lemma keeps_mergeAll {E : Type} {o : Estimation E} {keeps : E → List Nat → Prop}
    (laws : o.IsLawful w.precision keeps) (pos : 0 < length) (live : ∀ e ∈ l, e.isLive slot length) :
    keeps (o.mergeAll (w.scaledAt l length)) ((w.mergeable l).map fun e => w.scaled e.amount) := by
  have fits : ∀ numbers ∈ w.scaledAt l length, ∀ n ∈ numbers, n ≤ Cell.top := by
    rw [scaledAt, List.forall_mem_map]
    exact fun place _ => List.forall_mem_map.2 fun x _ => w.scaled_le_top x
  -- the numbers at a place are left out just if the entries there are
  have places : ∀ place, (if Cell.top ∈ (l.atPlace length place).map w.scaled then []
      else (l.atPlace length place).map w.scaled) = ((w.mergeable l).atPlace length place).map w.scaled := by
    intro place
    rw [atPlace_mergeable live]
    by_cases top : Cell.top ∈ (l.atPlace length place).map w.scaled
    · obtain ⟨x, mem, scaled⟩ := List.mem_map.1 top
      rw [if_pos top, if_neg fun none => none x mem scaled, List.map_nil]
    · rw [if_neg top, if_pos fun x mem scaled => top (List.mem_map.2 ⟨x, mem, scaled⟩)]
  refine laws.perm (laws.mergeAll fits) ?_
  have perm := ((w.mergeable l).flatMap_atPlace_perm pos).map w.scaled
  rw [List.map_flatMap, List.map_map] at perm
  rw [scaledAt, List.flatMap_map]
  simp only [places]
  exact perm

/-- Mergeable entries stand below the greatest number of all. -/
lemma scaled_lt_top_of_mem_mergeable (w : Window) (l : Ledger) :
    ∀ n ∈ (w.mergeable l).map fun e => w.scaled e.amount, n < Cell.top := by
  refine List.forall_mem_map.2 fun e he => ?_
  obtain ⟨mem, none⟩ := List.mem_filter.1 he
  exact Nat.lt_of_le_of_ne (w.scaled_le_top _) ((of_decide_eq_true none) e mem rfl)

/-- Without the greatest number of all every entry is mergeable. -/
lemma mergeable_eq_self (none : ∀ e ∈ l, w.scaled e.amount ≠ Cell.top) : w.mergeable l = l :=
  List.filter_eq_self.2 fun _ _ => decide_eq_true fun e' he' _ => none e' he'

/-- All entries are mergeable just if none stands for the greatest number of all. -/
lemma length_mergeable_eq_iff : (w.mergeable l).length = l.length ↔ ∀ e ∈ l, w.scaled e.amount ≠ Cell.top := by
  rw [mergeable, List.length_filter_eq_length_iff]
  simp only [decide_eq_true_iff]
  exact ⟨fun all e he => all e he e he rfl, fun all e _ e' he' _ => all e' he'⟩

end Merging

/-- Whatever ran before, estimators of any lawful make have recorded the mergeable entries inside the window when
they are merged as the window does it. -/
lemma keeps_mergeAll_run {s : Distribution.Settings} {start : Nat} {w : Window} (created : ofSettings s start = .ok w)
    {E : Type} {o : Estimation E} {keeps : E → List Nat → Prop} (laws : o.IsLawful w.precision keeps)
    (past : List Visit) (now : Nat) : keeps (o.mergeAll (w.scaledAt (windowed s start past now) s.bufferLength))
      ((w.mergeable (windowed s start past now)).map fun e => w.scaled e.amount) :=
  have valid := Distribution.Settings.fault?_eq_none_iff.1 (new_of_ofSettings created).1
  keeps_mergeAll laws valid.bufferLength_pos fun _ he => (List.mem_filter.1 he).2

/-- Whatever ran before, the merged estimator has recorded the mergeable entries inside the window. -/
lemma keeps_merged_run {s : Distribution.Settings} {start : Nat} {w : Window} (created : ofSettings s start = .ok w)
    (past : List Visit) (now : Nat) :
    ((w.run past).rotate now).merged.Keeps w.precision
      ((w.mergeable (windowed s start past now)).map fun e => w.scaled e.amount) := by
  obtain ⟨like, shown⟩ := shows_windowed created past now
  rw [shown.merged_eq, scaledAt, like.precision, like.scaled, ← scaledAt]
  exact keeps_mergeAll_run created (Estimator.isLawful w.precision) past now

/-- Whatever runs before, the merged estimator has recorded exactly the recordings inside the window whose slots
hold no amount recorded as the greatest number of all, each of them once. So it counts as many as the window if
and only if there is no such amount inside the window. -/
theorem merged_run {s : Distribution.Settings} {start : Nat} {w : Window} (created : ofSettings s start = .ok w)
    (past : List Visit) (now : Nat) :
    let seen := (w.run past).rotate now
    let l := windowed s start past now
    seen.count = l.length ∧
      seen.merged.Keeps w.precision ((w.mergeable l).map fun e => w.scaled e.amount) ∧
      seen.merged.total = (w.mergeable l).length ∧
      (seen.merged.total = seen.count ↔ ∀ e ∈ l, w.scaled e.amount ≠ Cell.top) := by
  intro seen l
  have count : seen.count = l.length := (shows_windowed created past now).2.count
  have keeps := keeps_merged_run created past now
  have total : seen.merged.total = (w.mergeable l).length := keeps.total_eq.trans (List.length_map ..)
  refine ⟨count, keeps, total, ?_⟩
  rw [total, count]
  exact length_mergeable_eq_iff

/-- An infinite amount in the phase after one of five. -/
theorem merged_run_default :
    let w := new {} 0
    let past : List Visit := [⟨0, .record 5.0⟩, ⟨w.phaseNanos, .record (1.0 / 0.0)⟩]
    let seen := (w.run past).rotate w.phaseNanos
    ofSettings {} 0 = .ok w ∧ seen.count = 2 ∧ seen.merged.total = 1 ∧ seen.merged.total ≠ seen.count := by
  intro w past seen
  have created : ofSettings {} 0 = .ok w := by rfl
  obtain ⟨count, -, total, -⟩ := merged_run created past w.phaseNanos
  have two : seen.count = 2 := count.trans (by decide +kernel)
  have one : seen.merged.total = 1 := total.trans (by decide +kernel)
  exact ⟨created, two, one, by omega⟩

/-- An infinite amount in the same phase as one of five: both are missing from the merged estimator. -/
theorem merged_misses :
    let w := new {} 0
    let seen := (w.run [⟨0, .record 5.0⟩, ⟨0, .record (1.0 / 0.0)⟩]).rotate 0
    ofSettings {} 0 = .ok w ∧ seen.count = 2 ∧ seen.merged.total = 0 ∧ seen.merged.total ≠ seen.count := by
  intro w seen
  have created : ofSettings {} 0 = .ok w := by rfl
  have two : seen.count = 2 := by decide +kernel
  have none : seen.merged.total = 0 := by decide +kernel
  exact ⟨created, two, none, by omega⟩

end Window

end StepMeters
