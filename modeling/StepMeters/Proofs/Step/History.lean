import StepMeters.Proofs.Ledger

/-!
# Histories of accumulators

An accumulator has room for two values only, and moves on whenever an operation happens to look at the
clock. Its history is nevertheless kept exactly. `Accumulator.Keeps` is the invariant that links the two
values to a ledger of all amounts: the live value is the aggregate of the step in force, the shown one that
of the step before. Every operation preserves it (`Keeps.roll`, `Keeps.add`, `Keeps.record`), so a poll at
the end of any run answers for the step before the one in force (`poll_run`).
-/

namespace StepMeters.Accumulator

/-- An accumulator keeps the books of a ledger of steps. -/
structure Keeps (a : Accumulator) (g : Aggregation) (stepMillis : Nat) (l : Ledger) : Prop where
  aggregation : a.aggregation = g
  stepMillis : a.stepMillis = stepMillis
  isOpen : a.closed = false
  notAhead : ∀ e ∈ l, e.slice ≤ a.step
  live : a.live = g.aggregate (l.amountsIn a.step)
  shown : a.shown = g.aggregate (l.amountsBefore a.step)

section Keeps
variable {a : Accumulator} {g : Aggregation} {stepMillis : Nat} {l : Ledger}

/-- A new accumulator keeps the books of no amounts. -/
lemma keeps_new (g : Aggregation) (stepMillis wall : Nat) :
    (new g stepMillis wall).Keeps g stepMillis [] where
  aggregation := rfl
  stepMillis := rfl
  isOpen := rfl
  notAhead := nofun
  live := rfl
  shown := rfl

/-- A roll leaves an accumulator in the later of its step and that of the clock. -/
lemma Keeps.step_roll (k : a.Keeps g stepMillis l) (wall : Nat) :
    (a.roll wall).step = max a.step (wall / stepMillis) := by
  rw [Accumulator.step_roll k.isOpen, k.stepMillis]

/-- A roll that leaves a gap shows zero, and so does the ledger, for nothing was entered in between. -/
lemma Keeps.roll (k : a.Keeps g stepMillis l) (wall : Nat) : (a.roll wall).Keeps g stepMillis l := by
  by_cases h : wall / a.stepMillis ≤ a.step
  · rw [roll_of_le h]
    exact k
  · have later : a.step < wall / a.stepMillis := by omega
    have e : a.roll wall = { a with
        step := wall / a.stepMillis
        live := 0.0
        shown := if a.step + 1 < wall / a.stepMillis then 0.0 else a.live } := by
      simp [Accumulator.roll, k.isOpen, h]
    rw [e]
    refine ⟨k.aggregation, k.stepMillis, k.isOpen, ?_, ?_, ?_⟩
    · intro x hx
      have := k.notAhead x hx
      dsimp only
      omega
    · -- nothing was entered for the new step yet
      have none : l.amountsIn (wall / a.stepMillis) = [] := by
        apply Ledger.amountsIn_of_lt
        intro x hx
        have := k.notAhead x hx
        omega
      rw [none]
      rfl
    · dsimp only
      split
      · -- a gap: the step before the new one had no operation, so nothing was entered for it
        have none : l.amountsBefore (wall / a.stepMillis) = [] := by
          apply Ledger.amountsBefore_of_lt
          intro x hx
          have := k.notAhead x hx
          omega
        rw [none]
        rfl
      · have next : wall / a.stepMillis = a.step + 1 := by omega
        rw [next, Ledger.amountsBefore_succ]
        exact k.live

/-- An amount is entered for the step in force, whatever the clock shows. -/
lemma Keeps.add (k : a.Keeps g stepMillis l) (amount : Float) :
    (a.add amount).Keeps g stepMillis (l ++ [⟨a.step, amount⟩]) := by
  refine ⟨k.aggregation, k.stepMillis, k.isOpen, ?_, ?_, ?_⟩
  · intro e he
    rcases List.mem_append.1 he with h | h
    · exact k.notAhead e h
    · exact Nat.le_of_eq (congrArg Entry.slice (List.mem_singleton.1 h))
  · show a.aggregation.combine a.live amount = _
    rw [k.aggregation, k.live, ← Aggregation.aggregate_concat, ← Ledger.amountsIn_concat_self]
    rfl
  · show a.shown = g.aggregate (Ledger.amountsBefore _ a.step)
    rw [Ledger.amountsBefore_concat_of_ne l (Nat.succ_ne_self _)]
    exact k.shown

/-- A recorded amount is entered for the step in force after the clock was looked at. -/
lemma Keeps.record (k : a.Keeps g stepMillis l) (wall : Nat) (amount : Float) :
    (a.record wall amount).Keeps g stepMillis
      (l ++ [⟨max a.step (wall / stepMillis), amount⟩]) := by
  rw [← k.step_roll]
  exact (k.roll wall).add amount

/-- A poll shows the step before the one in force. -/
lemma Keeps.poll (k : a.Keeps g stepMillis l) (wall : Nat) :
    a.poll wall = g.aggregate (l.amountsBefore (max a.step (wall / stepMillis))) := by
  rw [← k.step_roll]
  exact (k.roll wall).shown

end Keeps

/-- What can happen to an accumulator that is not closed. -/
inductive Action where
  | record (wall : Nat) (amount : Float)
  /-- An amount is added without a look at the clock. -/
  | add (amount : Float)
  | roll (wall : Nat)
  | poll (wall : Nat)

namespace Action

/-- The step in force after an action: no action goes back. -/
def stepAfter (stepMillis step : Nat) : Action → Nat
  | record wall _ => max step (wall / stepMillis)
  | add _ => step
  | roll wall => max step (wall / stepMillis)
  | poll wall => max step (wall / stepMillis)

/-- The amount that an action adds, if it adds one. -/
def amount? : Action → Option Float
  | record _ amount => some amount
  | add amount => some amount
  | roll _ => none
  | poll _ => none

end Action

/-- The accumulator after an action. A poll leaves what a roll leaves. -/
def apply (a : Accumulator) : Action → Accumulator
  | .record wall amount => a.record wall amount
  | .add amount => a.add amount
  | .roll wall => a.roll wall
  | .poll wall => a.roll wall

/-- The accumulator after a run of actions. -/
def run (a : Accumulator) (actions : List Action) : Accumulator := actions.foldl apply a

/-- The step in force after a run: the greatest of a first step and of all steps seen since. -/
def stepAfter (stepMillis step : Nat) (actions : List Action) : Nat :=
  actions.foldl (fun step action => action.stepAfter stepMillis step) step

/-- All amounts added in a run, each entered for the step in force after its own action. -/
def entries (stepMillis step : Nat) : List Action → Ledger
  | [] => []
  | action :: rest =>
    let step' := action.stepAfter stepMillis step
    (action.amount?.map (Entry.mk step')).toList ++ entries stepMillis step' rest

section Run
variable {a : Accumulator} {g : Aggregation} {stepMillis : Nat} {l : Ledger}

/-- An action leaves an accumulator in the step that comes into force. -/
lemma Keeps.step_apply (k : a.Keeps g stepMillis l) (action : Action) :
    (a.apply action).step = action.stepAfter stepMillis a.step := by
  cases action with
  | record wall amount => exact k.step_roll wall
  | add amount => rfl
  | roll wall => exact k.step_roll wall
  | poll wall => exact k.step_roll wall

/-- An action keeps the books, and enters what it adds. -/
lemma Keeps.apply (k : a.Keeps g stepMillis l) (action : Action) :
    (a.apply action).Keeps g stepMillis
      (l ++ (action.amount?.map (Entry.mk (action.stepAfter stepMillis a.step))).toList) := by
  cases action with
  | record wall amount => exact k.record wall amount
  | add amount => exact k.add amount
  | roll wall =>
    rw [Action.amount?, Option.map_none, Option.toList_none, List.append_nil]
    exact k.roll wall
  | poll wall =>
    rw [Action.amount?, Option.map_none, Option.toList_none, List.append_nil]
    exact k.roll wall

/-- A run keeps the books, and ends in the step in force. -/
lemma Keeps.run (k : a.Keeps g stepMillis l) (actions : List Action) :
    (a.run actions).Keeps g stepMillis (l ++ entries stepMillis a.step actions) ∧
      (a.run actions).step = Accumulator.stepAfter stepMillis a.step actions := by
  induction actions generalizing a l with
  | nil => exact ⟨by simpa [entries, Accumulator.run] using k, rfl⟩
  | cons action rest ih =>
    have step := k.step_apply action
    obtain ⟨keeps, last⟩ := ih (k.apply action)
    rw [step] at keeps last
    refine ⟨?_, last⟩
    rw [List.append_assoc] at keeps
    exact keeps

end Run

/-- A poll after any run answers with the aggregate, in order, of exactly those amounts that were entered for
the step before the one in force. An entry has one step, so an amount is shown while one step is in force and
at no other time; if the poll finds that a whole step has passed, it answers zero. -/
theorem poll_run (g : Aggregation) (stepMillis start : Nat) (past : List Action) (wall : Nat) :
    let before := stepAfter stepMillis (start / stepMillis) past
    let now := max before (wall / stepMillis)
    let answer := ((new g stepMillis start).run past).poll wall
    answer = g.aggregate ((entries stepMillis (start / stepMillis) past).amountsBefore now) ∧
      (before + 1 < now → answer = 0.0) := by
  intro before now answer
  obtain ⟨keeps, last⟩ := (keeps_new g stepMillis start).run past
  change ((new g stepMillis start).run past).step = before at last
  rw [List.nil_append] at keeps
  change ((new g stepMillis start).run past).Keeps g stepMillis
    (entries stepMillis (start / stepMillis) past) at keeps
  have shows : answer
      = g.aggregate ((entries stepMillis (start / stepMillis) past).amountsBefore now) := by
    have h := keeps.poll wall
    rw [last] at h
    exact h
  refine ⟨shows, fun gap => ?_⟩
  have none : (entries stepMillis (start / stepMillis) past).amountsBefore now = [] := by
    apply Ledger.amountsBefore_of_lt
    intro e he
    have := keeps.notAhead e he
    omega
  rw [shows, none]
  rfl

/-- Amounts of two steps under a clock that goes back in between. What is asked for in the step after them is their
sum in order, or the greatest of them; after a gap it is zero. -/
theorem poll_run_mixed :
    let first : List Action := [.record 10 0.1, .record 59999 0.2, .poll 20, .add 0.3]
    let second : List Action := first ++ [.record 60000 5.0, .record 7 2.5, .roll 119999, .add (0.0 / 0.0)]
    ((new .sum 60000 5).run first).poll 60000 = 0.0 + 0.1 + 0.2 + 0.3 ∧
      ((new .max 60000 5).run first).poll 60000 = 0.3 ∧ ((new .max 60000 5).run second).poll 120000 = 5.0 ∧
      ((new .sum 60000 5).run first).poll 120000 = 0.0 := by
  intro first second
  obtain ⟨sum, -⟩ := poll_run .sum 60000 5 first 60000
  obtain ⟨greatest, -⟩ := poll_run .max 60000 5 first 60000
  obtain ⟨greatest', -⟩ := poll_run .max 60000 5 second 120000
  obtain ⟨-, gap⟩ := poll_run .sum 60000 5 first 120000
  rw [Aggregation.aggregate_sum] at sum
  rw [Aggregation.aggregate_max] at greatest greatest'
  exact ⟨sum.trans (by decide +kernel), greatest.trans (by decide +kernel), greatest'.trans (by decide +kernel),
    gap (by decide)⟩

end StepMeters.Accumulator
