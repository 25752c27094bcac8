import Mathlib.Algebra.BigOperators.Group.List.Basic
import Mathlib.Algebra.Ring.Nat
import Mathlib.Data.List.Induction
import StepMeters.Proofs.Amount.Order
import StepMeters.Proofs.Window.Rotation
import StepMeters.Window.Query

/-!
# Contents of windows

`Window.Shows` says what a window shows if its phases share out the live entries of a ledger, each of them in
one phase: how many they are, the greatest of them, how many are filed under each boundary, and how many are
counted in each cell of the estimators. Whatever adds up over recordings adds up over the ring
(`Holds.sum_phases`), so a window that holds a ledger shows its live entries (`Holds.shows`).
-/

namespace StepMeters

namespace Tally

/-- How often a number was counted. -/
def countOf (key : Nat) (t : Tally) : Nat := total (t.filter fun entry => entry.1 = key)

/-- Counting a number adds to its own count only. -/
lemma countOf_add (key count other : Nat) (t : Tally) :
    (t.add key count).countOf other = t.countOf other + if key = other then count else 0 := by
  induction t with
  | nil => by_cases h : key = other <;> simp [add, countOf, total, h]
  | cons entry rest ih =>
    obtain ⟨k, c⟩ := entry
    simp only [countOf] at ih
    simp only [add, countOf]
    split
    · by_cases h : key = other <;> by_cases h' : k = other <;> simp [h, h', Nat.add_comm]
    · split
      · by_cases h' : k = other <;> simp [h', ih, Nat.add_assoc]
      · rename_i less greater
        have same : k = key := by omega
        subst same
        by_cases h : k = other
        · simp only [h, decide_true, List.filter_cons_of_pos, total_cons, if_true]
          omega
        · simp [h]

end Tally

namespace Ledger

/-- An entry stands at one of the places of a ring. -/
lemma flatMap_place_perm {length place : Nat} (h : place < length) (amount : Float) :
    ((List.range length).flatMap fun i => if place = i then [amount] else []) = [amount] := by
  induction length with
  | zero => omega
  | succ n ih =>
    rw [List.range_succ, List.flatMap_append, List.flatMap_singleton]
    rcases Nat.lt_succ_iff_lt_or_eq.1 h with inside | last
    · rw [ih inside, if_neg (by omega), List.append_nil]
    · have none : ((List.range n).flatMap fun i => if place = i then [amount] else []) = [] := by
        rw [List.flatMap_eq_nil_iff]
        intro i hi
        rw [if_neg]
        have := List.mem_range.1 hi
        omega
      rw [none, if_pos last, List.nil_append]

/-- The places of a ring share the entries out among them. -/
lemma flatMap_atPlace_perm (l : Ledger) {length : Nat} (h : 0 < length) :
    ((List.range length).flatMap (l.atPlace length)).Perm (l.map Entry.amount) := by
  induction l with
  | nil => simp [atPlace]
  | cons e rest ih =>
    have split : (fun place => atPlace (e :: rest) length place) = fun place =>
        (if e.slice % length = place then [e.amount] else []) ++ atPlace rest length place := by
      funext place
      by_cases here : e.slice % length = place <;> simp [atPlace, here]
    have e' := flatMap_place_perm (Nat.mod_lt e.slice h) e.amount
    show ((List.range length).flatMap fun place => atPlace (e :: rest) length place).Perm _
    rw [split]
    refine (List.flatMap_append_perm _ _ _).symm.trans ?_
    rw [e']
    exact ih.cons e.amount

end Ledger

namespace Window

/-- Nothing is filed in an empty phase. -/
lemma getD_filed_empty (boundaries boundary : Nat) : (Phase.empty boundaries).filed.getD boundary 0 = 0 := by
  rw [Phase.empty, List.getD_eq_getElem?_getD, List.getElem?_replicate]
  split <;> rfl

/-- A recording is filed under its own boundary only. -/
lemma getD_filed_recorded (w : Window) {p : Phase} (length : p.filed.length = w.boundaries.length) (x : Float)
    (boundary : Nat) : (w.recorded p x).filed.getD boundary 0
      = p.filed.getD boundary 0 + if w.boundaryOf? x = some boundary then 1 else 0 := by
  simp only [recorded, Phase.record, List.getD_eq_getElem?_getD]
  cases e : w.boundaryOf? x with
  | none => rfl
  | some i =>
    have inside : i < p.filed.length := length ▸ boundaryOf?_lt e
    rw [Option.elim_some, List.getElem?_modify]
    by_cases same : i = boundary
    · subst same
      rw [if_pos rfl, List.getElem?_eq_getElem inside]
      simp
    · rw [if_neg (by simpa using same)]
      simp [same]

/-- Every phase has a counter for each boundary. -/
lemma length_filed_phaseOf (w : Window) (amounts : List Float) :
    (w.phaseOf amounts).filed.length = w.boundaries.length := by
  induction amounts using List.reverseRecOn with
  | nil => exact List.length_replicate
  | append_singleton amounts amount ih => rw [phaseOf_concat, recorded, Phase.length_filed_record, ih]

/-- What each recording adds to, adds up over the recordings of a phase. -/
lemma sum_phaseOf (w : Window) {f : Phase → Nat} {g : Float → Nat}
    (empty : f (Phase.empty w.boundaries.length) = 0)
    (add : ∀ p x, p.filed.length = w.boundaries.length → f (w.recorded p x) = f p + g x)
    (amounts : List Float) : f (w.phaseOf amounts) = (amounts.map g).sum := by
  induction amounts using List.reverseRecOn with
  | nil => exact empty
  | append_singleton amounts amount ih =>
    rw [phaseOf_concat, add _ _ (w.length_filed_phaseOf amounts), ih]
    simp

/-- The greatest amount of a phase. -/
lemma isTop_phaseOf (w : Window) {amounts : List Float} (h : ∀ x ∈ amounts, Amount.isAccepted x) :
    Amount.IsTop (w.phaseOf amounts).max amounts := by
  induction amounts using List.reverseRecOn with
  | nil => exact Amount.isTop_nil
  | append_singleton amounts amount ih =>
    rw [phaseOf_concat]
    exact (ih fun x hx => h x (List.mem_append_left _ hx)).append
      (Amount.isTop_singleton (h amount (by simp)))

/-- The window shows these entries, each of them once. -/
structure Shows (w : Window) (length : Nat) (entries : Ledger) : Prop where
  /-- The phases share the entries out, each by its place. -/
  phases : w.phases = (List.range length).map fun place => w.phaseOf (entries.atPlace length place)
  count : w.count = entries.length
  max : Amount.IsTop w.max (entries.map Entry.amount)
  filed : ∀ boundary, (w.phases.map fun p => p.filed.getD boundary 0).sum
    = entries.countP fun e => w.boundaryOf? e.amount = some boundary
  estimated : ∀ cell, (w.phases.map fun p => p.estimator.counts.countOf cell).sum
    = entries.countP fun e => Cell.lowest w.precision (w.scaled e.amount) = cell

/-- Ones for those with a property add up to their number. -/
lemma sum_map_ite {α : Type} (p : α → Prop) [DecidablePred p] (xs : List α) :
    (xs.map fun x => if p x then 1 else 0).sum = xs.countP p := by
  induction xs with
  | nil => rfl
  | cons x rest ih =>
    rw [List.map_cons, List.sum_cons, ih, List.countP_cons, Nat.add_comm]
    by_cases h : p x <;> simp [h]

section Holds
variable {w : Window} {slots : Slots} {slot : Nat} {l : Ledger}

/-- The ring holds at each place the live amounts that belong there. -/
lemma Holds.phases_eq (h : w.Holds slots slot l) :
    w.phases = (List.range slots.length).map fun place =>
      w.phaseOf ((l.live slot slots.length).atPlace slots.length place) := by
  apply List.ext_getElem
  · rw [List.length_map, List.length_range, h.length]
  · intro place inside _
    rw [h.phases place inside, List.getElem_map, List.getElem_range]

/-- What each recording adds to, adds up over the live entries. -/
lemma Holds.sum_phases (h : w.Holds slots slot l) {f : Phase → Nat} {g : Float → Nat}
    (empty : f (Phase.empty w.boundaries.length) = 0)
    (add : ∀ p x, p.filed.length = w.boundaries.length → f (w.recorded p x) = f p + g x) :
    (w.phases.map f).sum = ((l.live slot slots.length).map fun e => g e.amount).sum := by
  have perm := ((l.live slot slots.length).flatMap_atPlace_perm h.length_pos).map g
  calc (w.phases.map f).sum
      = ((List.range slots.length).map fun place =>
          (((l.live slot slots.length).atPlace slots.length place).map g).sum).sum := by
        rw [h.phases_eq, List.map_map]
        congr 1
        apply List.map_congr_left
        intro place _
        exact w.sum_phaseOf empty add _
    _ = (((List.range slots.length).flatMap
          ((l.live slot slots.length).atPlace slots.length)).map g).sum := by
        rw [List.map_flatMap, List.flatMap, List.sum_flatten, List.map_map]
        rfl
    _ = ((l.live slot slots.length).map fun e => g e.amount).sum := by
        rw [perm.sum_nat, List.map_map]
        rfl

/-- The greatest of the phases is the greatest of their amounts. -/
lemma isTop_foldl (w : Window) (amountsAt : Nat → List Float)
    (accepted : ∀ place, ∀ x ∈ amountsAt place, Amount.isAccepted x) (places : List Nat) {top : Float}
    {xs : List Float} (h : Amount.IsTop top xs) :
    Amount.IsTop ((places.map fun place => w.phaseOf (amountsAt place)).foldl
      (fun m p => Amount.greatest m p.max) top) (xs ++ places.flatMap amountsAt) := by
  induction places generalizing top xs with
  | nil => simpa using h
  | cons place rest ih =>
    -- no amount here is undefined, so the greatest is taken by comparison
    have greatest : Amount.greatest top (w.phaseOf (amountsAt place)).max
        = if top < (w.phaseOf (amountsAt place)).max then (w.phaseOf (amountsAt place)).max else top := by
      rw [Amount.greatest, (Amount.isNaN_of_le h.nonneg).2]
      rfl
    have next := ih (h.append (w.isTop_phaseOf (accepted place)))
    rw [← greatest, List.append_assoc] at next
    exact next

/-- A window that holds a ledger of accepted amounts shows its live entries. -/
lemma Holds.shows (h : w.Holds slots slot l) (accepted : ∀ e ∈ l, Amount.isAccepted e.amount) :
    w.Shows slots.length (l.live slot slots.length) := by
  refine ⟨h.phases_eq, ?_, ?_, fun boundary => ?_, fun cell => ?_⟩
  · have sum := h.sum_phases (f := Phase.count) (g := fun _ => 1) rfl fun _ _ _ => rfl
    rw [Window.count, ← List.foldr_map (g := (· + ·)), ← List.sum_eq_foldr, sum, List.map_const',
      List.sum_const_nat, Nat.mul_one]
  · have perm := (l.live slot slots.length).flatMap_atPlace_perm h.length_pos
    have top := w.isTop_foldl ((l.live slot slots.length).atPlace slots.length) ?_
      (List.range slots.length) Amount.isTop_nil
    · rw [← h.phases_eq, List.nil_append] at top
      exact top.congr fun x => perm.mem_iff.symm
    · intro place x hx
      obtain ⟨e, he, rfl⟩ := List.mem_map.1 hx
      exact accepted e (List.mem_of_mem_filter (List.mem_of_mem_filter he))
  · rw [← sum_map_ite]
    refine h.sum_phases (g := fun x => if w.boundaryOf? x = some boundary then 1 else 0) ?_ ?_
    · exact getD_filed_empty w.boundaries.length boundary
    · exact fun p x length => w.getD_filed_recorded length x boundary
  · rw [← sum_map_ite]
    refine h.sum_phases (g := fun x => if Cell.lowest w.precision (w.scaled x) = cell then 1 else 0) rfl ?_
    intro p x _
    exact Tally.countOf_add _ 1 cell _

end Holds

end Window

end StepMeters
