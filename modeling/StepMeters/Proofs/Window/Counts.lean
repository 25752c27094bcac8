import StepMeters.Proofs.Amount.Whole
import StepMeters.Proofs.Distribution.Boundaries
import StepMeters.Proofs.Window.History

/-!
# Counts at the boundaries of a window

An amount is filed under the first boundary that it does not exceed, so the recordings filed up to a boundary
are those that do not exceed it (`exists_boundaryOf?_iff`). Counting them over the phases therefore gives, for every
boundary that was configured, exactly the recordings inside the window at or below it, whichever way one asks
(`boundaryCounts_run`).
-/

namespace StepMeters

/-- One number more is added at the end. -/
lemma Phase.sumFirst_succ (n : Nat) (xs : List Nat) : sumFirst (n + 1) xs = sumFirst n xs + xs.getD n 0 := by
  induction xs generalizing n with
  | nil => cases n <;> rfl
  | cons x rest ih =>
    cases n with
    | zero => simp [sumFirst]
    | succ n =>
      rw [sumFirst, ih, sumFirst, Nat.add_assoc]
      rfl

namespace Window

section Counts
variable {w : Window} {l : Ledger} {length : Nat}

/-- What is filed under the first boundaries of all phases is what the window shows under them. -/
lemma Shows.sum_sumFirst (h : w.Shows length l) (n : Nat) :
    (w.phases.map fun p => Phase.sumFirst n p.filed).sum
      = l.countP fun e => ∃ i < n, w.boundaryOf? e.amount = some i := by
  induction n with
  | zero =>
    simp [Phase.sumFirst]
  | succ n ih =>
    -- an amount is filed under one boundary only, so it is not counted twice
    have split : ∀ e : Entry, (if ∃ i < n + 1, w.boundaryOf? e.amount = some i then 1 else 0)
        = (if ∃ i < n, w.boundaryOf? e.amount = some i then 1 else 0)
          + if w.boundaryOf? e.amount = some n then 1 else 0 := by
      intro e
      simp only [Nat.exists_lt_succ_right]
      by_cases last : w.boundaryOf? e.amount = some n
      · have before : ¬∃ i < n, w.boundaryOf? e.amount = some i := by
          rintro ⟨i, less, here⟩
          rw [last] at here
          exact less.ne (Option.some.inj here).symm
        rw [if_pos (.inr last), if_neg before, if_pos last]
      · simp [last]
    simp only [Phase.sumFirst_succ, List.sum_map_add, ih, h.filed]
    rw [← sum_map_ite, ← sum_map_ite, ← sum_map_ite, ← List.sum_map_add]
    simp only [split]

/-- Amounts up to a boundary are filed under it or an earlier one. -/
lemma exists_boundaryOf?_iff (increasing : w.boundaries.Pairwise (· < ·))
    (defined : ∀ b ∈ w.boundaries, b.isNaN = false) {x : Float} (known : x.isNaN = false) {i : Nat}
    (inside : i < w.boundaries.length) :
    (∃ j < i + 1, w.boundaryOf? x = some j) ↔ x ≤ w.boundaries[i] := by
  constructor
  · rintro ⟨j, le, found⟩
    obtain ⟨inside', above, -⟩ := List.findIdx?_eq_some_iff_getElem.1 found
    have reach : x ≤ w.boundaries[j] :=
      Amount.le_of_not_lt (defined _ (List.getElem_mem inside')) known (by simpa using above)
    rcases Nat.lt_succ_iff_lt_or_eq.1 le with less | rfl
    · exact Amount.le_trans reach (Amount.le_of_lt (List.pairwise_iff_getElem.1 increasing j i inside' inside less))
    · exact reach
  · intro reach
    have here : (!(w.boundaries[i] < x : Bool)) = true := by simpa using Amount.not_lt_of_le reach
    cases found : w.boundaryOf? x with
    | none => exact absurd here (by simpa using List.findIdx?_eq_none_iff.1 found _ (List.getElem_mem inside))
    | some j =>
      obtain ⟨inside', -, first⟩ := List.findIdx?_eq_some_iff_getElem.1 found
      refine ⟨j, ?_, rfl⟩
      by_contra later
      exact absurd here (by simpa using first i (by omega))

/-- What a window that shows some entries has filed up to a boundary are the entries up to it. -/
lemma Shows.filedUpTo_eq (h : w.Shows length l) (increasing : w.boundaries.Pairwise (· < ·))
    (defined : ∀ b ∈ w.boundaries, b.isNaN = false) (known : ∀ e ∈ l, e.amount.isNaN = false) {i : Nat}
    (inside : i < w.boundaries.length) : w.filedUpTo i = l.countP fun e => e.amount ≤ w.boundaries[i] := by
  have sum := h.sum_sumFirst (i + 1)
  rw [List.sum_eq_foldr, List.foldr_map] at sum
  refine sum.trans (List.countP_congr fun e he => ?_)
  rw [decide_eq_true_iff, decide_eq_true_iff]
  exact exists_boundaryOf?_iff increasing defined (known e he) inside

/-- The number of recordings up to a boundary is found under any amount equal to it. -/
lemma value_countAtMost {now : Nat} {b : Float} (accepted : Amount.isAccepted b = true)
    (listed : ∃ b' ∈ (w.rotate now).boundaries, (b' == b) = true) :
    ∃ i, ∃ inside : i < (w.rotate now).boundaries.length, ((w.rotate now).boundaries[i] == b) = true ∧
      (w.countAtMost now b).value = Float.ofNat ((w.rotate now).filedUpTo i) := by
  rw [countAtMost, if_pos accepted]
  dsimp only
  cases found : (w.rotate now).boundaries.findIdx? (· == b) with
  | none =>
    obtain ⟨b', mem, same⟩ := listed
    rw [List.findIdx?_eq_none_iff.1 found b' mem] at same
    cases same
  | some i =>
    obtain ⟨inside, same, -⟩ := List.findIdx?_eq_some_iff_getElem.1 found
    exact ⟨i, inside, same, rfl⟩

end Counts

/-- The recordings that do not exceed an amount. -/
def atMost (l : Ledger) (amount : Float) : Nat := l.countP fun e => e.amount ≤ amount

/-- More recordings do not exceed a greater amount. -/
lemma atMost_mono {l : Ledger} {x y : Float} (le : x ≤ y) : atMost l x ≤ atMost l y := by
  apply List.countP_mono_left
  intro e _ below
  rw [decide_eq_true_iff] at below ⊢
  exact Amount.le_trans below le

/-- Equal amounts are not exceeded by the same recordings. -/
lemma atMost_congr {l : Ledger} {x y : Float} (same : (x == y) = true) : atMost l x = atMost l y :=
  Nat.le_antisymm (atMost_mono (Amount.le_of_beq same).1) (atMost_mono (Amount.le_of_beq same).2)

section Run
variable {s : Distribution.Settings} {start : Nat} {w : Window}

/-- What is filed up to a boundary are the recordings that do not exceed it, whatever ran before. -/
lemma filedUpTo_run (created : ofSettings s start = .ok w) (past : List Visit) (now : Nat) {i : Nat}
    (inside : i < s.boundaries.length) :
    ((w.run past).rotate now).filedUpTo i = atMost (windowed s start past now) s.boundaries[i] := by
  have shown := (shows_windowed created past now).2
  have boundaries := boundaries_run created past now
  have faultless := (new_of_ofSettings created).1
  obtain ⟨increasing, sound, -⟩ := Distribution.Settings.collects_boundaries faultless
  have known : ∀ e ∈ windowed s start past now, e.amount.isNaN = false := fun e he =>
    (Amount.isNaN_of_le (Amount.isAccepted_iff.1 (isAccepted_of_mem_windowed e he))).2
  have defined : ∀ b ∈ s.boundaries, b.isNaN = false := fun b mem =>
    (Amount.lt_iff.1 ((sound b mem).pos faultless)).2.1
  simp only [← boundaries] at increasing defined inside ⊢
  exact shown.filedUpTo_eq increasing defined known inside

/-- The published counts are those of the recordings that do not exceed the boundaries. -/
lemma value_boundaryCounts_run (created : ofSettings s start = .ok w) (past : List Visit) (now : Nat) :
    ((w.run past).boundaryCounts now).value =
      s.boundaries.map fun b => ⟨b, Float.ofNat (atMost (windowed s start past now) b)⟩ := by
  show List.mapIdx _ _ = _
  rw [boundaries_run created past now]
  refine List.ext_getElem (by simp) fun i inside inside' => ?_
  rw [List.getElem_mapIdx, List.getElem_map, filedUpTo_run created past now (by simpa using inside')]

/-- The boundary counts of a window, whatever ran before. The boundaries are those that the settings ask for, in
increasing order; each comes with the number of recordings inside the window that do not exceed it, and this is
also what one is told who asks for such an amount. So the counts never decrease along the list, and none exceeds
the number of all recordings. -/
theorem boundaryCounts_run (created : ofSettings s start = .ok w) (past : List Visit) (now : Nat) :
    let l := windowed s start past now
    let listed := ((w.run past).boundaryCounts now).value
    (listed.map BoundaryCount.boundary).Pairwise (· < ·) ∧
      (∀ entry ∈ listed, s.IsConfigured entry.boundary ∧ entry.count = Float.ofNat (atMost l entry.boundary)) ∧
      (∀ b, s.IsConfigured b →
        (∃ entry ∈ listed, (entry.boundary == b) = true ∧ entry.count = Float.ofNat (atMost l b)) ∧
          ((w.run past).countAtMost now b).value = Float.ofNat (atMost l b)) ∧
      (listed.map BoundaryCount.count).Pairwise (· ≤ ·) ∧
      ∀ entry ∈ listed, entry.count ≤ Float.ofNat ((w.run past).rotate now).count := by
  intro l listed
  obtain ⟨like, shown⟩ := shows_windowed created past now
  obtain ⟨faultless, new⟩ := new_of_ofSettings created
  obtain ⟨increasing, sound, found⟩ := Distribution.Settings.collects_boundaries faultless
  -- everything about the list follows from this equation and from what is known of the boundaries
  have list : listed = s.boundaries.map fun b => ⟨b, Float.ofNat (atMost l b)⟩ :=
    value_boundaryCounts_run created past now
  rw [list]
  refine ⟨?_, fun entry mem => ?_, fun b configured => ⟨?_, ?_⟩, ?_, fun entry mem => ?_⟩
  · rw [List.map_map]
    exact List.pairwise_map.2 increasing
  · obtain ⟨b, configured, rfl⟩ := List.mem_map.1 mem
    exact ⟨sound b configured, rfl⟩
  · obtain ⟨b', mem, same⟩ := found b configured
    exact ⟨_, List.mem_map_of_mem mem, same, congrArg Float.ofNat (atMost_congr same)⟩
  · have boundaries : ((w.run past).rotate now).boundaries = s.boundaries := by
      rw [like.boundaries, ← new]
      rfl
    have accepted := Amount.isAccepted_iff.2 (Amount.le_of_lt (configured.pos faultless))
    obtain ⟨i, inside, same, value⟩ := value_countAtMost accepted (boundaries ▸ found b configured)
    simp only [boundaries] at inside same
    rw [value, filedUpTo_run created past now inside, atMost_congr same]
  · rw [List.map_map]
    exact List.pairwise_map.2 (increasing.imp fun less => Amount.ofNat_le_ofNat (atMost_mono (Amount.le_of_lt less)))
  · obtain ⟨b, -, rfl⟩ := List.mem_map.1 mem
    rw [shown.count]
    exact Amount.ofNat_le_ofNat List.countP_le_length

/-- Three recordings and two objectives, one of which is also generated. -/
theorem boundaryCounts_run_objectives :
    let s : Distribution.Settings := { objectives := [4.0, 2.5], histogram := true, maximum := 4.0 }
    let w := new s 0
    let past : List Visit := [⟨0, .record 2.5⟩, ⟨1, .record 4.0⟩, ⟨w.phaseNanos, .record 9.0⟩]
    let now := w.phaseNanos
    ofSettings s 0 = .ok w ∧ s.IsConfigured 2.5 ∧ s.IsConfigured 4.0 ∧
      ((w.run past).countAtMost now 2.5).value = 1.0 ∧ ((w.run past).countAtMost now 4.0).value = 2.0 := by
  intro s w past now
  have faultless : s.fault? = none := by decide +kernel
  have created : ofSettings s 0 = .ok w := by rw [ofSettings, faultless]
  have objective : s.IsConfigured 2.5 := .inl (.tail _ (.head _))
  have objective' : s.IsConfigured 4.0 := .inl (.head _)
  obtain ⟨-, -, counts, -⟩ := boundaryCounts_run created past now
  refine ⟨created, objective, objective', (counts _ objective).2.trans ?_, (counts _ objective').2.trans ?_⟩
  · decide +kernel
  · decide +kernel

end Run

end Window

end StepMeters
