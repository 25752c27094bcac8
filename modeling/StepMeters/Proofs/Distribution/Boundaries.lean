import Mathlib.Data.List.Forall2
import Mathlib.Data.List.Sort
import StepMeters.Distribution.Boundaries
import StepMeters.Proofs.Amount.Order
import StepMeters.Proofs.Distribution.Validation

/-!
# Which boundaries are counted

The boundaries of a distribution are collected one by one into an increasing list, in which amounts that are
equal stand once (`Collects`). So the boundaries of settings are what was configured, be it an objective or a
generated boundary in the expected range (`Settings.collects_boundaries`). In settings that are accepted each of
them is above zero.
-/

namespace StepMeters.Distribution

/-- An increasing list has collected the given boundaries: each of them equals one in the list, and there are no
others. -/
structure Collects (boundaries given : List Float) : Prop where
  increasing : boundaries.Pairwise (· < ·)
  sound : ∀ b ∈ boundaries, b ∈ given
  found : ∀ b ∈ given, ∃ b' ∈ boundaries, (b' == b) = true

section Insert
variable {b x : Float} {bs given : List Float}

/-- Inserting a boundary brings in nothing else. -/
lemma of_mem_insertBoundary (h : x ∈ insertBoundary b bs) : x = b ∨ x ∈ bs := by
  induction bs with
  | nil => exact .inl (List.mem_singleton.1 h)
  | cons first rest ih =>
    rw [insertBoundary] at h
    split at h
    · exact List.mem_cons.1 h
    · split at h
      · rcases List.mem_cons.1 h with rfl | h
        · exact .inr List.mem_cons_self
        · exact (ih h).imp_right (List.mem_cons_of_mem first)
      · exact .inr h

/-- Inserting a boundary drops none. -/
lemma mem_insertBoundary_of_mem (h : x ∈ bs) : x ∈ insertBoundary b bs := by
  induction bs with
  | nil => nomatch h
  | cons first rest ih =>
    rw [insertBoundary]
    split
    · exact List.mem_cons_of_mem b h
    · split
      · rcases List.mem_cons.1 h with rfl | h
        · exact List.mem_cons_self
        · exact List.mem_cons_of_mem first (ih h)
      · exact h

/-- A boundary is left out only if there is an equal one. -/
lemma exists_beq_insertBoundary (defined : b.isNaN = false) (all : ∀ x ∈ bs, x.isNaN = false) :
    ∃ x ∈ insertBoundary b bs, (x == b) = true := by
  have self : (b == b) = true := Amount.beq_iff.2 ⟨defined, defined, rfl⟩
  induction bs with
  | nil => exact ⟨b, List.mem_singleton_self b, self⟩
  | cons first rest ih =>
    obtain ⟨here, later⟩ := List.forall_mem_cons.1 all
    rw [insertBoundary]
    split
    · exact ⟨b, List.mem_cons_self, self⟩
    · split
      · obtain ⟨x, mem, same⟩ := ih later
        exact ⟨x, List.mem_cons_of_mem first mem, same⟩
      · rename_i less greater
        exact ⟨first, List.mem_cons_self,
          Amount.beq_of_le (Amount.le_of_not_lt defined here less) (Amount.le_of_not_lt here defined greater)⟩

/-- Inserting a boundary keeps the boundaries increasing. -/
lemma pairwise_insertBoundary (h : bs.Pairwise (· < ·)) : (insertBoundary b bs).Pairwise (· < ·) := by
  induction bs with
  | nil => exact List.pairwise_singleton ..
  | cons first rest ih =>
    obtain ⟨least, increasing⟩ := List.pairwise_cons.1 h
    rw [insertBoundary]
    split
    · rename_i less
      exact List.pairwise_cons.2
        ⟨List.forall_mem_cons.2 ⟨less, fun x mem => Amount.lt_trans less (least x mem)⟩, h⟩
    · split
      · rename_i greater
        refine List.pairwise_cons.2 ⟨fun x mem => ?_, ih increasing⟩
        rcases of_mem_insertBoundary mem with rfl | mem
        · exact greater
        · exact least x mem
      · exact h

/-- One more defined boundary is collected with those before. -/
lemma Collects.insert (h : Collects bs given) (all : ∀ x ∈ given, x.isNaN = false) (defined : b.isNaN = false) :
    Collects (insertBoundary b bs) (given ++ [b]) where
  increasing := pairwise_insertBoundary h.increasing
  sound := by
    intro x mem
    rcases of_mem_insertBoundary mem with rfl | mem
    · exact List.mem_append_right given (List.mem_singleton_self x)
    · exact List.mem_append_left [b] (h.sound x mem)
  found := by
    intro x mem
    rcases List.mem_append.1 mem with mem | mem
    · obtain ⟨x', mem', same⟩ := h.found x mem
      exact ⟨x', mem_insertBoundary_of_mem mem', same⟩
    · rw [List.mem_singleton.1 mem]
      exact exists_beq_insertBoundary defined fun y hy => all y (h.sound y hy)

/-- More defined boundaries are collected with those before. -/
lemma Collects.foldl {more : List Float} (h : Collects bs given) (all : ∀ x ∈ given ++ more, x.isNaN = false) :
    Collects (more.foldl (fun bs b => insertBoundary b bs) bs) (given ++ more) := by
  induction more generalizing bs given with
  | nil => rwa [List.append_nil]
  | cons b rest ih =>
    rw [List.append_cons] at all ⊢
    obtain ⟨before, here⟩ := List.forall_mem_append.1 (List.forall_mem_append.1 all).1
    exact ih (h.insert before (here b (List.mem_singleton_self b))) all

/-- Inserting all given boundaries one after the other collects them. -/
lemma collects_foldl (given : List Float) (all : ∀ x ∈ given, x.isNaN = false) :
    Collects (given.foldl (fun bs b => insertBoundary b bs) []) given := by
  have none : Collects [] [] := ⟨.nil, nofun, nofun⟩
  exact none.foldl all

/-- Increasing lists that are equal to the same numbers are equal one by one. -/
lemma forall₂_beq_of_increasing {bs' : List Float} (increasing : bs.Pairwise (· < ·))
    (increasing' : bs'.Pairwise (· < ·)) (defined : ∀ b ∈ bs, b.isNaN = false)
    (defined' : ∀ b ∈ bs', b.isNaN = false)
    (same : ∀ x, (∃ b ∈ bs, (b == x) = true) ↔ ∃ b ∈ bs', (b == x) = true) :
    List.Forall₂ (fun b b' => (b == b') = true) bs bs' := by
  have places {xs : List Float} (h : xs.Pairwise (· < ·)) : (xs.map Amount.place).Pairwise (· < ·) :=
    List.pairwise_map.2 (h.imp fun less => (Amount.lt_iff.1 less).2.2)
  -- equal numbers share a place, so the places are the same set, and they are in order
  have within {xs ys : List Float} (known : ∀ b ∈ xs, b.isNaN = false)
      (h : ∀ x, (∃ b ∈ xs, (b == x) = true) → ∃ b ∈ ys, (b == x) = true) :
      xs.map Amount.place ⊆ ys.map Amount.place := by
    intro place at'
    obtain ⟨b, mem, rfl⟩ := List.mem_map.1 at'
    obtain ⟨b', mem', equal⟩ := h b ⟨b, mem, Amount.beq_iff.2 ⟨known b mem, known b mem, rfl⟩⟩
    exact List.mem_map.2 ⟨b', mem', (Amount.beq_iff.1 equal).2.2⟩
  have equal : bs.map Amount.place = bs'.map Amount.place :=
    List.Subset.antisymm_of_pairwise (places increasing) (places increasing')
      (within defined fun x => (same x).1) (within defined' fun x => (same x).2)
  refine List.forall₂_iff_get.2 ⟨by simpa using congrArg List.length equal, fun i inside inside' => ?_⟩
  have here := List.getElem_of_eq equal (by simpa using inside)
  rw [List.getElem_map, List.getElem_map] at here
  exact Amount.beq_iff.2 ⟨defined _ (List.get_mem ..), defined' _ (List.get_mem ..), here⟩

end Insert

namespace Settings
variable {s : Settings} {b : Float}

/-- The boundaries that settings ask for: the objectives, and with the histogram the generated boundaries in the
expected range. -/
def IsConfigured (s : Settings) (b : Float) : Prop :=
  b ∈ s.objectives ∨ s.histogram = true ∧ b ∈ generated ∧ s.minimum ≤ b ∧ b ≤ s.maximum

/-- What passes the check is above zero. -/
lemma pos_of_isAboveZero (h : isAboveZero b = true) : 0.0 < b := by
  simp only [isAboveZero, Bool.not_eq_true', Bool.or_eq_false_iff, decide_eq_false_iff_not] at h
  by_contra low
  exact h.2 (Amount.le_of_not_lt Amount.isNaN_zero h.1 low)

/-- An accepted minimum is above zero. -/
lemma minimum_pos (accepted : s.fault? = none) : 0.0 < s.minimum :=
  pos_of_isAboveZero (fault?_eq_none_iff.1 accepted).minimum

/-- The boundaries of accepted settings are above zero. -/
lemma IsConfigured.pos (h : s.IsConfigured b) (accepted : s.fault? = none) : 0.0 < b := by
  rcases h with objective | ⟨-, -, least, -⟩
  · exact pos_of_isAboveZero ((fault?_eq_none_iff.1 accepted).objectives b objective)
  · exact Amount.lt_of_lt_of_le (minimum_pos accepted) least

/-- The boundaries of settings, accepted or not, are those that the settings ask for and that are defined. -/
lemma collects_configured (s : Settings) :
    s.boundaries.Pairwise (· < ·) ∧ (∀ b ∈ s.boundaries, s.IsConfigured b ∧ b.isNaN = false) ∧
      ∀ b, s.IsConfigured b → b.isNaN = false → ∃ b' ∈ s.boundaries, (b' == b) = true := by
  have collects := collects_foldl ((s.objectives ++ if s.histogram then
    generated.filter fun b => s.minimum ≤ b && b ≤ s.maximum else []).filter fun b => !b.isNaN)
    fun b mem => by simpa using (List.mem_filter.1 mem).2
  have range : ∀ b, (s.minimum ≤ b && b ≤ s.maximum) = true ↔ s.minimum ≤ b ∧ b ≤ s.maximum := fun b => by
    rw [Bool.and_eq_true, decide_eq_true_iff, decide_eq_true_iff]
  refine ⟨collects.increasing, fun b mem => ?_, fun b configured defined => collects.found b ?_⟩
  · obtain ⟨mem, defined⟩ := List.mem_filter.1 (collects.sound b mem)
    refine ⟨(List.mem_append.1 mem).imp_right fun mem => ?_, by simpa using defined⟩
    split at mem
    · rename_i histogram
      obtain ⟨mem, inside⟩ := List.mem_filter.1 mem
      exact ⟨histogram, mem, (range b).1 inside⟩
    · nomatch mem
  · refine List.mem_filter.2 ⟨List.mem_append.2 (configured.imp_right ?_), by rw [defined]; rfl⟩
    rintro ⟨histogram, mem, inside⟩
    rw [if_pos histogram]
    exact List.mem_filter.2 ⟨mem, (range b).2 inside⟩

/-- The boundaries of accepted settings are those that the settings ask for. -/
lemma collects_boundaries (accepted : s.fault? = none) :
    s.boundaries.Pairwise (· < ·) ∧ (∀ b ∈ s.boundaries, s.IsConfigured b) ∧
      ∀ b, s.IsConfigured b → ∃ b' ∈ s.boundaries, (b' == b) = true := by
  obtain ⟨increasing, sound, found⟩ := s.collects_configured
  exact ⟨increasing, fun b mem => (sound b mem).1,
    fun b configured => found b configured (Amount.lt_iff.1 (configured.pos accepted)).2.1⟩

/-- What is equal to a boundary is equal to an objective or, with the histogram, to a generated boundary in the
expected range. An undefined objective is equal to nothing. -/
lemma exists_beq_boundaries_iff (s : Settings) (x : Float) :
    (∃ b ∈ s.boundaries, (b == x) = true) ↔
      (∃ b ∈ s.objectives, (b == x) = true) ∨
        s.histogram = true ∧ ∃ b ∈ generated, s.minimum ≤ b ∧ b ≤ s.maximum ∧ (b == x) = true := by
  obtain ⟨-, sound, found⟩ := s.collects_configured
  have listed (b : Float) (configured : s.IsConfigured b) (equal : (b == x) = true) :
      ∃ b ∈ s.boundaries, (b == x) = true := by
    obtain ⟨b', mem, same⟩ := found b configured (Amount.beq_iff.1 equal).1
    exact ⟨b', mem, Amount.beq_trans same equal⟩
  constructor
  · rintro ⟨b, mem, equal⟩
    rcases (sound b mem).1 with objective | ⟨histogram, mem, least, greatest⟩
    · exact .inl ⟨b, objective, equal⟩
    · exact .inr ⟨histogram, b, mem, least, greatest, equal⟩
  · rintro (⟨b, objective, equal⟩ | ⟨histogram, b, mem, least, greatest, equal⟩)
    · exact listed b (.inl objective) equal
    · exact listed b (.inr ⟨histogram, mem, least, greatest⟩) equal

/-- The boundaries of any settings, accepted or not, are a sorted set. They increase strictly and none is undefined.
A number is equal to one of them if and only if it is equal to an objective (which an undefined objective is not) or,
with the histogram, to a generated boundary in the expected range. So neither the order nor the repetition of the
objectives matters: objectives that are the same set of numbers give the same boundaries, one by one. -/
theorem boundaries_sorted (s : Settings) :
    s.boundaries.Pairwise (· < ·) ∧ (∀ b ∈ s.boundaries, b.isNaN = false) ∧
      (∀ x, (∃ b ∈ s.boundaries, (b == x) = true) ↔
        (∃ b ∈ s.objectives, (b == x) = true) ∨
          s.histogram = true ∧ ∃ b ∈ generated, s.minimum ≤ b ∧ b ≤ s.maximum ∧ (b == x) = true) ∧
      ∀ objectives, (∀ x, (∃ b ∈ objectives, (b == x) = true) ↔ ∃ b ∈ s.objectives, (b == x) = true) →
        List.Forall₂ (fun b b' => (b == b') = true) { s with objectives }.boundaries s.boundaries := by
  obtain ⟨increasing, sound, -⟩ := s.collects_configured
  refine ⟨increasing, fun b mem => (sound b mem).2, s.exists_beq_boundaries_iff, fun objectives same => ?_⟩
  obtain ⟨increasing', sound', -⟩ := { s with objectives }.collects_configured
  refine forall₂_beq_of_increasing increasing' increasing (fun b mem => (sound' b mem).2)
    (fun b mem => (sound b mem).2) fun x => ?_
  rw [exists_beq_boundaries_iff, exists_beq_boundaries_iff]
  exact or_congr_left (same x)

/-- Objectives out of order, repeated and undefined, with generated boundaries on both sides of them. -/
theorem boundaries_sorted_repeated :
    let s : Settings := { histogram := true, maximum := 4.0, objectives := [2.5, 4.0] }
    let objectives : List Float := [4.0, 2.5, 0.0 / 0.0, 4.0]
    (∀ x, (∃ b ∈ objectives, (b == x) = true) ↔ ∃ b ∈ s.objectives, (b == x) = true) ∧
      List.Forall₂ (fun b b' => (b == b') = true) { s with objectives }.boundaries [1.0, 2.0, 2.5, 3.0, 4.0] := by
  intro s objectives
  have same : ∀ x, (∃ b ∈ objectives, (b == x) = true) ↔ ∃ b ∈ s.objectives, (b == x) = true := by
    intro x
    have undefined : ¬((0.0 / 0.0 : Float) == x) = true := fun equal =>
      absurd (Amount.beq_iff.1 equal).1 (by decide)
    simp only [s, objectives, List.mem_cons, List.not_mem_nil, or_false, exists_eq_or_imp, exists_eq_left, undefined]
    generalize ((4.0 : Float) == x) = four, ((2.5 : Float) == x) = half
    tauto
  have listed : s.boundaries = [1.0, 2.0, 2.5, 3.0, 4.0] := by decide +kernel
  obtain ⟨-, -, -, independent⟩ := boundaries_sorted s
  exact ⟨same, listed ▸ independent objectives same⟩

end Settings

end StepMeters.Distribution
