import Mathlib.Tactic.Lemma
import StepMeters.Estimator.Basic

/-!
# What a tally has counted

A tally stands for the numbers it has counted, each as often as it was counted: its `Tally.spread`. Counting
adds one number to them and merging puts two such lists together, up to their order. As long as the numbers of
a tally are increasing its spread is sorted, so the first number at which the counts reach a target is the
target-th of the sorted numbers (`reach?_eq`). The counts up to a number are those of the spread (`upTo_eq`).
-/

namespace StepMeters.Tally

/-- The counted numbers, each as often as it was counted. -/
def spread (t : Tally) : List Nat := t.flatMap fun entry => List.replicate entry.2 entry.1

/-- The first number comes as often as it was counted, and then the others. -/
@[simp] lemma spread_cons (k c : Nat) (t : Tally) : spread ((k, c) :: t) = List.replicate c k ++ spread t := rfl

/-- There are as many counted numbers as the total says. -/
lemma length_spread (t : Tally) : t.spread.length = t.total := by
  induction t with
  | nil => rfl
  | cons entry rest ih => rw [spread_cons, List.length_append, List.length_replicate, total_cons, ih]

/-- What was counted is a number of the tally. -/
lemma mem_keys_of_mem_spread {t : Tally} {n : Nat} (h : n ∈ t.spread) : ∃ entry ∈ t, entry.1 = n := by
  obtain ⟨entry, mem, counted⟩ := List.mem_flatMap.1 h
  exact ⟨entry, mem, (List.eq_of_mem_replicate counted).symm⟩

/-- Counting a number once adds it to the counted ones. -/
lemma spread_add (key : Nat) (t : Tally) : (t.add key 1).spread.Perm (key :: t.spread) := by
  induction t with
  | nil => exact .refl _
  | cons entry rest ih =>
    obtain ⟨k, c⟩ := entry
    rw [add]
    split
    · exact .refl _
    · split
      · exact (ih.append_left _).trans List.perm_middle
      · have same : k = key := by omega
        rw [same, spread_cons, spread_cons, List.replicate_succ, List.cons_append]

/-- Merging puts the counted numbers of both tallies together. -/
lemma spread_merge (a b : Tally) : (merge a b).spread.Perm (a.spread ++ b.spread) := by
  fun_induction merge a b with
  | case1 b => exact .refl _
  | case2 a =>
    show a.spread.Perm (a.spread ++ [])
    rw [List.append_nil]
  | case3 k c as l d bs less ih =>
    rw [spread_cons, spread_cons k, List.append_assoc]
    exact ih.append_left _
  | case4 k c as l d bs _ less ih =>
    rw [spread_cons, spread_cons l]
    exact (ih.append_left _).trans (List.perm_append_comm_assoc ..)
  | case5 k c as l d bs less greater ih =>
    have same : k = l := by omega
    rw [spread_cons, spread_cons, spread_cons, same, ← List.replicate_append_replicate, List.append_assoc,
      List.append_assoc]
    exact ((ih.append_left _).trans (List.perm_append_comm_assoc ..)).append_left _

/-- The numbers of a tally are in increasing order. -/
def Increasing (t : Tally) : Prop := t.Pairwise fun entry entry' => entry.1 < entry'.1

section Increasing
variable {k c bound : Nat} {t a b : Tally}

/-- Counting a number above a bound keeps all numbers above it. -/
lemma lt_add (h : ∀ entry ∈ t, bound < entry.1) (key : bound < k) :
    ∀ entry ∈ t.add k c, bound < entry.1 := by
  intro entry mem
  induction t with
  | nil =>
    obtain rfl := List.mem_singleton.1 mem
    exact key
  | cons first rest ih =>
    obtain ⟨here, later⟩ := List.forall_mem_cons.1 h
    rw [add] at mem
    split at mem
    · rcases List.mem_cons.1 mem with rfl | mem
      · exact key
      · exact h entry mem
    · split at mem
      · rcases List.mem_cons.1 mem with rfl | mem
        · exact here
        · exact ih later mem
      · rcases List.mem_cons.1 mem with rfl | mem
        · exact here
        · exact later entry mem

/-- Counting a number keeps the numbers increasing. -/
lemma Increasing.add (h : t.Increasing) (k c : Nat) : (t.add k c).Increasing := by
  induction t with
  | nil => exact List.pairwise_singleton ..
  | cons entry rest ih =>
    obtain ⟨first, increasing⟩ := List.pairwise_cons.1 h
    rw [Tally.add]
    split
    · rename_i less
      refine List.pairwise_cons.2 ⟨List.forall_mem_cons.2 ⟨less, fun entry' mem => ?_⟩, h⟩
      exact Nat.lt_trans less (first entry' mem)
    · split
      · rename_i greater
        exact List.pairwise_cons.2 ⟨lt_add first greater, ih increasing⟩
      · exact List.pairwise_cons.2 ⟨first, increasing⟩

/-- Merging tallies above a bound keeps all numbers above it. -/
lemma lt_merge (h : ∀ entry ∈ a, bound < entry.1) (h' : ∀ entry ∈ b, bound < entry.1) :
    ∀ entry ∈ merge a b, bound < entry.1 := by
  fun_induction merge a b with
  | case1 b => exact h'
  | case2 a => exact h
  | case3 k c as l d bs less ih =>
    obtain ⟨here, later⟩ := List.forall_mem_cons.1 h
    exact List.forall_mem_cons.2 ⟨here, ih later h'⟩
  | case4 k c as l d bs _ less ih =>
    obtain ⟨here, later⟩ := List.forall_mem_cons.1 h'
    exact List.forall_mem_cons.2 ⟨here, ih h later⟩
  | case5 k c as l d bs less greater ih =>
    obtain ⟨here, later⟩ := List.forall_mem_cons.1 h
    exact List.forall_mem_cons.2 ⟨here, ih later (List.forall_mem_cons.1 h').2⟩

/-- Merging keeps the numbers increasing. -/
lemma Increasing.merge (h : a.Increasing) (h' : b.Increasing) : (a.merge b).Increasing := by
  fun_induction Tally.merge a b with
  | case1 b => exact h'
  | case2 a => exact h
  | case3 k c as l d bs less ih =>
    obtain ⟨first, increasing⟩ := List.pairwise_cons.1 h
    obtain ⟨first', increasing'⟩ := List.pairwise_cons.1 h'
    refine List.pairwise_cons.2 ⟨lt_merge first ?_, ih increasing h'⟩
    exact List.forall_mem_cons.2 ⟨less, fun entry mem => Nat.lt_trans less (first' entry mem)⟩
  | case4 k c as l d bs _ less ih =>
    obtain ⟨first, increasing⟩ := List.pairwise_cons.1 h
    obtain ⟨first', increasing'⟩ := List.pairwise_cons.1 h'
    refine List.pairwise_cons.2 ⟨lt_merge ?_ first', ih h increasing'⟩
    exact List.forall_mem_cons.2 ⟨less, fun entry mem => Nat.lt_trans less (first entry mem)⟩
  | case5 k c as l d bs less greater ih =>
    have same : k = l := by omega
    obtain ⟨first, increasing⟩ := List.pairwise_cons.1 h
    obtain ⟨first', increasing'⟩ := List.pairwise_cons.1 h'
    exact List.pairwise_cons.2 ⟨lt_merge first (same ▸ first'), ih increasing increasing'⟩

/-- The numbers counted by an increasing tally come out in order. -/
lemma Increasing.pairwise_spread (h : t.Increasing) : t.spread.Pairwise (· ≤ ·) := by
  induction t with
  | nil => exact .nil
  | cons entry rest ih =>
    obtain ⟨first, increasing⟩ := List.pairwise_cons.1 h
    refine List.pairwise_append.2 ⟨List.pairwise_replicate.2 (.inr (Nat.le_refl _)), ih increasing, ?_⟩
    intro n counted n' counted'
    obtain ⟨entry', mem, rfl⟩ := mem_keys_of_mem_spread counted'
    rw [List.eq_of_mem_replicate counted]
    exact Nat.le_of_lt (first entry' mem)

end Increasing

/-- The counts reach a target at the number that stands there among all counted ones. -/
lemma reach?_eq {target : Nat} (pos : 0 < target) (t : Tally) : t.reach? target = t.spread[target - 1]? := by
  induction t generalizing target with
  | nil => rfl
  | cons entry rest ih =>
    rw [reach?, spread_cons]
    split
    · rename_i here
      rw [List.getElem?_append_left (by rw [List.length_replicate]; omega), List.getElem?_replicate, if_pos (by omega)]
    · rename_i later
      rw [List.getElem?_append_right (by rw [List.length_replicate]; omega), List.length_replicate, ih (by omega)]
      congr 1
      omega

/-- The counts up to a number are those of the counted numbers that are not greater. -/
lemma upTo_eq (t : Tally) (key : Nat) : t.upTo key = t.spread.countP fun n => n ≤ key := by
  induction t with
  | nil => rfl
  | cons entry rest ih =>
    obtain ⟨k, c⟩ := entry
    rw [spread_cons, List.countP_append, ← ih, List.countP_replicate, upTo, upTo, List.filter_cons]
    split
    · rfl
    · exact (Nat.zero_add _).symm

end StepMeters.Tally
