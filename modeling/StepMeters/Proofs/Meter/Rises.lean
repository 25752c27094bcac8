import StepMeters.Proofs.Meter.Parts

/-!
# Rises of an observed amount

A function counter looks at its object whenever it is read or moves on, and only then moves to the step of the
clock: what the object has risen by belongs to the step that was in force before (`observations`). A fall counts
for nothing, but the next rise begins from there; an object that is gone or shows an undefined number is passed
over (`Ledger.rises`). So a reading shows the rises of the step before the one in force, each of them once,
however often the counter was read (`rises_run`).
-/

namespace StepMeters

/-- The amount that an object shows, if it is there and the amount is defined. -/
def Moment.amount? (m : Moment) (source : Source) : Option Float :=
  ((m.sighting? source).map Sighting.amount).filter (!·.isNaN)

/-- The step in force after some looks at the clock: none goes back. -/
def stepAfter (stepMillis step : Nat) (looks : List Moment) : Nat :=
  looks.foldl (fun step m => max step (m.wall / stepMillis)) step

/-- All amounts that an object shows at some looks, each with the step in force before the look. -/
def observations (source : Source) (stepMillis step : Nat) : List Moment → Ledger
  | [] => []
  | m :: rest =>
    ((m.amount? source).map (Entry.mk step)).toList
      ++ observations source stepMillis (max step (m.wall / stepMillis)) rest

/-- How far the amounts of a ledger rise, the first of them from a given amount on. -/
def Ledger.rises (last : Float) : Ledger → Ledger
  | [] => []
  | e :: rest => (if 0.0 < e.amount - last then [⟨e.slice, e.amount - last⟩] else []) ++ rises e.amount rest

namespace Accumulator

/-- Adding a rise does not move an accumulator on. -/
lemma step_addRise (a : Accumulator) (rise : Float) (convert : Float → Float) :
    (a.addRise rise convert).step = a.step := by
  rw [addRise]
  split <;> rfl

/-- A rise is entered for the step that the accumulator is in. -/
lemma Keeps.addRise {a : Accumulator} {g : Aggregation} {stepMillis : Nat} {l : Ledger}
    (k : a.Keeps g stepMillis l) (rise : Float) (convert : Float → Float) :
    (a.addRise rise convert).Keeps g stepMillis
      (l ++ if 0.0 < rise then [⟨a.step, convert rise⟩] else []) := by
  rw [Accumulator.addRise]
  split
  · exact k.add (convert rise)
  · rw [List.append_nil]
    exact k

end Accumulator

namespace FunctionCounter

/-- The counter after some looks. -/
def run (c : FunctionCounter) (looks : List Moment) : FunctionCounter := looks.foldl roll c

section Keeps
variable {c : FunctionCounter} {stepMillis : Nat} {l : Ledger}

/-- A function counter remembers the amount it saw last, and adds how far it rose. -/
lemma pull_eq (c : FunctionCounter) (m : Moment) :
    c.pull m = match m.amount? c.source with
      | none => c
      | some x => { c with last := x, value := c.value.addRise (x - c.last) id } := by
  rw [pull, Moment.amount?]
  cases m.sighting? c.source with
  | none => rfl
  | some seen =>
    rw [Option.map_some, Option.filter_some]
    dsimp only
    cases seen.amount.isNaN <;> rfl

/-- A rise is entered for the step that the counter is in when it looks; only then it moves on. -/
lemma keeps_run (k : c.value.Keeps .sum stepMillis l) (looks : List Moment) :
    (c.run looks).value.Keeps .sum stepMillis
        (l ++ (observations c.source stepMillis c.value.step looks).rises c.last) ∧
      (c.run looks).value.step = stepAfter stepMillis c.value.step looks := by
  induction looks generalizing c l with
  | nil => exact ⟨(List.append_nil l).symm ▸ k, rfl⟩
  | cons m rest ih =>
    have pulled := c.pull_eq m
    rw [observations]
    cases shown : m.amount? c.source with
    | none =>
      rw [shown] at pulled
      have e : c.roll m = { c with value := c.value.roll m.wall } := by rw [roll, pulled]
      have next := ih (c := c.roll m) (l := l) (by rw [e]; exact k.roll m.wall)
      rw [e] at next
      dsimp only at next
      rw [k.step_roll] at next
      rw [← e] at next
      exact next
    | some x =>
      rw [shown] at pulled
      have e : c.roll m
          = { c with last := x, value := (c.value.addRise (x - c.last) id).roll m.wall } := by
        rw [roll, pulled]
      -- the rise is added before the counter moves on, so it is entered for the step before the look
      have added := k.addRise (x - c.last) id
      have next := ih (c := c.roll m) (by rw [e]; exact added.roll m.wall)
      rw [e] at next
      dsimp only at next
      rw [added.step_roll, Accumulator.step_addRise, List.append_assoc] at next
      rw [← e] at next
      exact next

end Keeps

end FunctionCounter

namespace Instrument

/-- Whether an action looks at the object of a function counter: those that read the count or move it on. -/
def Action.isPull : Action → Bool
  | .read .count _ => true
  | .roll => true
  | _ => false

/-- The moments of all looks at the object in a run of visits. -/
def pulls (visits : List Visit) : List Moment := (visits.filter (·.action.isPull)).map Visit.moment

/-- Nothing else changes a function counter. -/
lemma run_functionCounter (c : FunctionCounter) (visits : List Visit) :
    (functionCounter c).run visits = functionCounter (c.run (pulls visits)) := by
  induction visits generalizing c with
  | nil => rfl
  | cons visit rest ih =>
    obtain ⟨m, action⟩ := visit
    cases action with
    | read s unit => cases s <;> exact ih _
    | _ => exact ih _

/-- Each reading of a function counter shows, in order, exactly the rises of its object that were seen before the
counter left the step before the one in force. A rise has one step, so no reading in another step shows it. -/
theorem rises_run (source : Source) (c : Configuration) (birth : Moment) :
    ∃ i, (Blueprint.functionCounter source).build c birth = .ok i ∧
      ∀ (past : List Visit) (m : Moment) (unit : Option TimeUnit),
        let looks := pulls past ++ [m]
        let start := birth.wall / c.step.stepMillis
        let rises := (observations source c.step.stepMillis start looks).rises 0.0
        let now := stepAfter c.step.stepMillis start looks
        let answer := ((i.run past).read? m .count unit).map Outcome.value
        answer = some (Aggregation.sum.aggregate (rises.amountsBefore now)) ∧
          ((∀ e ∈ rises, e.slice + 1 ≠ now) → answer = some 0.0) := by
  let new : FunctionCounter := { source, value := .new .sum c.step.stepMillis birth.wall }
  refine ⟨functionCounter new, rfl, fun past m unit => ?_⟩
  intro looks start rises now answer
  obtain ⟨keeps, last⟩ := FunctionCounter.keeps_run (c := new)
    (Accumulator.keeps_new .sum c.step.stepMillis birth.wall) looks
  rw [List.nil_append] at keeps
  have shows : answer = some (Aggregation.sum.aggregate (rises.amountsBefore now)) := by
    -- the reading is one more look at the object
    have final : answer = some (new.run looks).value.shown := by
      show ((run _ past).read? m .count unit).map _ = _
      rw [run_functionCounter, FunctionCounter.run, FunctionCounter.run, List.foldl_append]
      rfl
    rw [final, keeps.shown, last]
    rfl
  refine ⟨shows, fun none => ?_⟩
  rw [shows, Ledger.amountsBefore_of_ne none]
  rfl

/-- An object that shows three, nothing that is defined, one and a half, and four in the first step, is gone when the
next one begins, and comes back with six and six and a half. The last rise is seen by the reading itself, before it
leaves the second step. -/
theorem rises_run_falling :
    let at' (wall : Nat) (amount : Option Float) : Moment :=
      { wall, monotonic := 0, sighting? := fun _ => amount.map fun amount => { amount } }
    let first : List Visit := [⟨at' 1 (some 3.0), .read .count none⟩, ⟨at' 2 (some (0.0 / 0.0)), .roll⟩,
      ⟨at' 3 (some 1.5), .read .count none⟩, ⟨at' 4 (some 4.0), .roll⟩]
    let second : List Visit := first ++ [⟨at' 60000 none, .roll⟩, ⟨at' 60001 (some 6.0), .read .count none⟩]
    ∃ i, (Blueprint.functionCounter 0).build {} (at' 0 none) = .ok i ∧
      ((i.run first).read? (at' 60000 none) .count none).map Outcome.value = some (0.0 + 3.0 + 2.5) ∧
      ((i.run second).read? (at' 120000 (some 6.5)) .count none).map Outcome.value = some (0.0 + 2.0 + 0.5) := by
  intro at' first second
  obtain ⟨i, built, run⟩ := rises_run 0 {} (at' 0 none)
  obtain ⟨answer, -⟩ := run first (at' 60000 none) none
  obtain ⟨answer', -⟩ := run second (at' 120000 (some 6.5)) none
  rw [Aggregation.aggregate_sum] at answer answer'
  exact ⟨i, built, answer.trans (by decide +kernel), answer'.trans (by decide +kernel)⟩

end Instrument

end StepMeters
