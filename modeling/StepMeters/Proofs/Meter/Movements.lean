import StepMeters.Proofs.Meter.Keeping
import StepMeters.Proofs.Meter.Rises

/-!
# Movements of a function timer

A function timer looks at its object as a whole, but its count and its total move on by themselves. As long as
the timer is rolled before anything is read in a new step, as a publish cycle does it, both are always in the same
step, and what they show are the movements of the object that were seen in one and the same step
(`movements_run`). A count that is read first in a new step leaves the total behind, and what they show parts.
-/

namespace StepMeters

/-- How far amount and time of an object have moved at a look, and the step that the timer was in. -/
structure Movement where
  slice : Nat
  amount : Float
  time : Float

namespace Movement

/-- What a movement adds, if it rises: the rise, as it is filed. -/
def risen? (rise : Movement → Float) (convert : Float → Float) (v : Movement) : Option Entry :=
  if 0.0 < rise v then some ⟨v.slice, convert (rise v)⟩ else none

/-- What a movement adds to the count. -/
def counted? : Movement → Option Entry := risen? amount id

/-- What a movement adds to the total. -/
def timed? (unit : TimeUnit) : Movement → Option Entry := risen? time unit.toNanos

section Entries
variable {rise : Movement → Float} {convert : Float → Float}

/-- One more movement adds its rise at the end. -/
lemma filterMap_risen? (l : List Movement) (v : Movement) : (l ++ [v]).filterMap (risen? rise convert)
    = l.filterMap (risen? rise convert) ++ if 0.0 < rise v then [⟨v.slice, convert (rise v)⟩] else [] := by
  rw [List.filterMap_append]
  congr 1
  rw [List.filterMap_cons, risen?]
  split <;> simp_all

/-- A rise is filed in the step of its movement. -/
lemma slice_risen? {v : Movement} {e : Entry} (h : risen? rise convert v = some e) : e.slice = v.slice := by
  rw [risen?] at h
  split at h
  · cases h
    rfl
  · cases h

/-- What movements of one step add is what they add for this step. -/
lemma amountsBefore_filterMap (l : List Movement) (now : Nat) :
    Ledger.amountsBefore (l.filterMap (risen? rise convert)) now
      = (l.filter fun v => v.slice + 1 = now).filterMap fun v => (risen? rise convert v).map Entry.amount := by
  induction l with
  | nil => rfl
  | cons v rest ih =>
    rw [List.filterMap_cons, List.filter_cons]
    cases e : risen? rise convert v with
    | none =>
      dsimp only
      rw [ih]
      split
      · rw [List.filterMap_cons, e]
        rfl
      · rfl
    | some entry =>
      show Ledger.amountsBefore (entry :: rest.filterMap (risen? rise convert)) now = _
      rw [Ledger.amountsBefore, List.filter_cons, slice_risen? e]
      by_cases here : v.slice + 1 = now
      · rw [if_pos (decide_eq_true here), if_pos (decide_eq_true here), List.filterMap_cons, e, ← ih]
        rfl
      · rw [if_neg (by simpa using here), if_neg (by simpa using here), ← ih]
        rfl

end Entries

end Movement

namespace FunctionTimer

/-- What a look at the object shows, if it is there and its numbers are defined. -/
def movement? (t : FunctionTimer) (step : Nat) (m : Moment) : Option Movement :=
  ((m.sighting? t.source).filter fun seen => !(seen.amount.isNaN || seen.time.isNaN)).map fun seen =>
    ⟨step, seen.amount - t.lastCount, seen.time - t.lastTotal⟩

/-- Count and total are in the same step, and have the same movements behind them. -/
structure Together (t : FunctionTimer) (unit : TimeUnit) (stepMillis step : Nat) (l : List Movement) : Prop where
  sourceUnit : t.sourceUnit = unit
  counts : t.counts.Keeps .sum stepMillis (l.filterMap Movement.counted?)
  totals : t.totals.Keeps .sum stepMillis (l.filterMap (Movement.timed? unit))
  countStep : t.counts.step = step
  totalStep : t.totals.step = step

section Together
variable {t : FunctionTimer} {unit : TimeUnit} {stepMillis step : Nat} {l : List Movement} {m : Moment}

/-- A look enters the movement for the step that both are in. -/
lemma Together.pull (h : t.Together unit stepMillis step l) (m : Moment) :
    (t.pull m).Together unit stepMillis step (l ++ (t.movement? step m).toList) := by
  rw [FunctionTimer.pull, movement?]
  cases m.sighting? t.source with
  | none => simpa using h
  | some seen =>
    rw [Option.filter_some]
    dsimp only
    cases seen.amount.isNaN || seen.time.isNaN with
    | true => simpa using h
    | false =>
      obtain ⟨rfl, counts, totals, countStep, totalStep⟩ := h
      have counts' := counts.addRise (seen.amount - t.lastCount) id
      have totals' := totals.addRise (seen.time - t.lastTotal) t.sourceUnit.toNanos
      rw [countStep] at counts'
      rw [totalStep] at totals'
      rw [if_neg Bool.false_ne_true, Bool.not_false, if_pos rfl, Option.map_some, Option.toList_some]
      refine ⟨rfl, ?_, ?_, (Accumulator.step_addRise ..).trans countStep,
        (Accumulator.step_addRise ..).trans totalStep⟩
      · rw [Movement.counted?, Movement.filterMap_risen?]
        exact counts'
      · rw [Movement.timed?, Movement.filterMap_risen?]
        exact totals'

/-- Both move on to the same step. -/
lemma Together.roll (h : t.Together unit stepMillis step l) (m : Moment) :
    (t.roll m).Together unit stepMillis (max step (m.wall / stepMillis))
      (l ++ (t.movement? step m).toList) := by
  have pulled := h.pull m
  refine ⟨pulled.sourceUnit, pulled.counts.roll m.wall, pulled.totals.roll m.wall, ?_, ?_⟩
  · rw [← pulled.countStep]
    exact pulled.counts.step_roll m.wall
  · rw [← pulled.totalStep]
    exact pulled.totals.step_roll m.wall

/-- A look at the count alone changes no step, if the timer is in that of the clock already. -/
lemma Together.afterCount (h : t.Together unit stepMillis step l) (led : m.wall / stepMillis ≤ step) :
    (t.afterCount m).Together unit stepMillis step (l ++ (t.movement? step m).toList) := by
  have pulled := h.pull m
  refine ⟨pulled.sourceUnit, pulled.counts.roll m.wall, pulled.totals, ?_, pulled.totalStep⟩
  have step := pulled.counts.step_roll m.wall
  rw [pulled.countStep, Nat.max_eq_left led] at step
  exact step

/-- Reading the total keeps count and total together, unless it is the first look in a new step. -/
lemma Together.afterTotalTime (h : t.Together unit stepMillis step l) (led : m.wall / stepMillis ≤ step) :
    (t.afterTotalTime m).Together unit stepMillis step (l ++ (t.movement? step m).toList) := by
  have pulled := h.pull m
  refine ⟨pulled.sourceUnit, pulled.counts, pulled.totals.roll m.wall, pulled.countStep, ?_⟩
  have step := pulled.totals.step_roll m.wall
  rw [pulled.totalStep, Nat.max_eq_left led] at step
  exact step

end Together

/-- The timer after a visit. -/
def after (t : FunctionTimer) (visit : Instrument.Visit) : FunctionTimer :=
  match visit.action with
  | .read .count _ => t.afterCount visit.moment
  | .read .totalTime _ => t.afterTotalTime visit.moment
  | .read .mean _ => t.afterMean visit.moment
  | .roll => t.roll visit.moment
  | _ => t

/-- What is seen in a visit. A mean may look twice. -/
def sees (t : FunctionTimer) (step : Nat) (visit : Instrument.Visit) : List Movement :=
  let first := (t.movement? step visit.moment).toList
  match visit.action with
  | .read .count _ => first
  | .read .totalTime _ => first
  | .read .mean _ =>
    if t.count visit.moment == 0.0 then first
    else first ++ ((t.afterCount visit.moment).movement? step visit.moment).toList
  | .roll => first
  | _ => []

/-- The step that a timer is in after a visit, if rolls alone move it on. -/
def rolled (stepMillis step : Nat) (visit : Instrument.Visit) : Nat :=
  match visit.action with
  | .roll => max step (visit.moment.wall / stepMillis)
  | _ => step

/-- Whether a timer is rolled in each step before anything else is done with it in this step. -/
def isLed (stepMillis step : Nat) : List Instrument.Visit → Bool
  | [] => true
  | visit :: rest =>
    let step' := rolled stepMillis step visit
    decide (visit.moment.wall / stepMillis ≤ step') && isLed stepMillis step' rest

/-- All that is seen in a run of visits, by a timer that is rolled first in each step. -/
def movements (t : FunctionTimer) (stepMillis step : Nat) : List Instrument.Visit → List Movement
  | [] => []
  | visit :: rest =>
    t.sees step visit ++ (t.after visit).movements stepMillis (rolled stepMillis step visit) rest

section Together
variable {t : FunctionTimer} {unit : TimeUnit} {stepMillis step : Nat} {l : List Movement}

/-- A visit keeps count and total together, unless it is the first one in a new step and no roll. -/
lemma Together.after (h : t.Together unit stepMillis step l) (visit : Instrument.Visit)
    (led : visit.moment.wall / stepMillis ≤ rolled stepMillis step visit) :
    (t.after visit).Together unit stepMillis (rolled stepMillis step visit) (l ++ t.sees step visit) := by
  obtain ⟨m, action⟩ := visit
  have same : t.Together unit stepMillis step (l ++ []) := by
    rw [List.append_nil]
    exact h
  cases action with
  | roll => exact h.roll m
  | read s base =>
    cases s with
    | count => exact h.afterCount led
    | totalTime => exact h.afterTotalTime led
    | mean =>
      rw [FunctionTimer.after, sees]
      dsimp only
      rw [afterMean]
      split
      · exact h.afterCount led
      · rw [← List.append_assoc]
        exact (h.afterCount led).afterTotalTime led
    | _ => exact same
  | _ => exact same

/-- Count and total stay together in all runs in which each step begins with a roll. -/
lemma Together.run (h : t.Together unit stepMillis step l) (visits : List Instrument.Visit)
    (led : isLed stepMillis step visits) :
    (visits.foldl FunctionTimer.after t).Together unit stepMillis (visits.foldl (rolled stepMillis) step)
      (l ++ t.movements stepMillis step visits) := by
  induction visits generalizing t step l with
  | nil =>
    rw [movements, List.append_nil]
    exact h
  | cons visit rest ih =>
    rw [isLed, Bool.and_eq_true, decide_eq_true_eq] at led
    rw [movements, ← List.append_assoc]
    exact ih (h.after visit led.1) led.2

end Together

end FunctionTimer

namespace Instrument

/-- Nothing else than these visits changes a function timer. -/
lemma run_functionTimer (t : FunctionTimer) (visits : List Visit) :
    (functionTimer t).run visits = functionTimer (visits.foldl FunctionTimer.after t) := by
  induction visits generalizing t with
  | nil => rfl
  | cons visit rest ih =>
    obtain ⟨m, action⟩ := visit
    cases action with
    | read s unit => cases s <;> exact ih _
    | _ => exact ih _

/-- A function timer that is rolled first in each step: its count and its total are what the amounts and the times
of one and the same movements add up to, those that were seen in the step before. -/
theorem movements_run (source : Source) (unit : TimeUnit) (c : Configuration) (birth : Moment) :
    ∃ t, (Blueprint.functionTimer source unit).build c birth = .ok (functionTimer t) ∧
      ∀ (past : List Visit) (m : Moment) (base : Option TimeUnit),
        let stepMillis := c.step.stepMillis
        let start := birth.wall / stepMillis
        let now := past.foldl (FunctionTimer.rolled stepMillis) start
        let seen := (t.movements stepMillis start past).filter fun v => v.slice + 1 = now
        FunctionTimer.isLed stepMillis start past → m.wall / stepMillis ≤ now →
          (((functionTimer t).run past).read? m .count base).map Outcome.value
            = some (Aggregation.sum.aggregate (seen.filterMap fun v => v.counted?.map Entry.amount)) ∧
          (((functionTimer t).run past).read? m .totalTime base).map Outcome.value
            = some ((base.getD c.baseUnit).ofNanos
                (Aggregation.sum.aggregate (seen.filterMap fun v => (v.timed? unit).map Entry.amount))) := by
  let new : FunctionTimer :=
    { source, sourceUnit := unit, unit := c.baseUnit
      counts := .new .sum c.step.stepMillis birth.wall
      totals := .new .sum c.step.stepMillis birth.wall }
  refine ⟨new, rfl, fun past m base => ?_⟩
  intro stepMillis start now seen led current
  have fresh : new.Together unit stepMillis start [] :=
    ⟨rfl, Accumulator.keeps_new .sum stepMillis birth.wall, Accumulator.keeps_new .sum stepMillis birth.wall, rfl,
      rfl⟩
  let t := past.foldl FunctionTimer.after new
  have before : t.Together unit stepMillis now (new.movements stepMillis start past) := fresh.run past led
  have together := before.pull m
  -- what is seen now belongs to the step that is not complete yet
  have late : (new.movements stepMillis start past ++ (t.movement? now m).toList).filter
      (fun v => v.slice + 1 = now) = seen := by
    have none : (t.movement? now m).toList.filter (fun v => v.slice + 1 = now) = [] := by
      rw [FunctionTimer.movement?]
      cases (m.sighting? t.source).filter _ <;> simp
    rw [List.filter_append, none, List.append_nil]
  have count := together.counts.poll m.wall
  rw [together.countStep, Nat.max_eq_left current, Movement.counted?, Movement.amountsBefore_filterMap,
    late] at count
  have total := together.totals.poll m.wall
  rw [together.totalStep, Nat.max_eq_left current, Movement.timed?, Movement.amountsBefore_filterMap,
    late] at total
  have publishes : t.unit = c.baseUnit := by
    have unit := (functionTimer new).unit?_run past
    rw [run_functionTimer] at unit
    exact Option.some.inj unit
  rw [run_functionTimer]
  refine ⟨congrArg some count, ?_⟩
  rw [← publishes]
  exact congrArg (fun nanos => some ((base.getD t.unit).ofNanos nanos)) total

/-- A timer that publish cycles roll before it is read: its object moves by one and two, twice by nothing, and by two
and by half a second. -/
theorem movements_run_rolled :
    let at' (wall : Nat) (amount time : Float) : Moment :=
      { wall, monotonic := 0, sighting? := fun _ => some { amount, time } }
    let past : List Visit := [⟨at' 5 1.0 2.0, .read .count none⟩, ⟨at' 60000 1.0 2.0, .roll⟩,
      ⟨at' 60001 1.0 2.0, .read .totalTime none⟩, ⟨at' 60002 3.0 2.5, .read .mean none⟩, ⟨at' 120000 3.0 2.5, .roll⟩]
    ∃ t, (Blueprint.functionTimer 0 .seconds).build {} (at' 0 0.0 0.0) = .ok (functionTimer t) ∧
      FunctionTimer.isLed 60000 0 past ∧
      (((functionTimer t).run past).read? (at' 120001 3.0 2.5) .count none).map Outcome.value = some 2.0 ∧
      (((functionTimer t).run past).read? (at' 120001 3.0 2.5) .totalTime (some .seconds)).map Outcome.value
        = some 0.5 := by
  intro at' past
  obtain ⟨t, built, run⟩ := movements_run 0 .seconds {} (at' 0 0.0 0.0)
  obtain ⟨count, -⟩ := run past (at' 120001 3.0 2.5) none (by decide +kernel) (by decide +kernel)
  obtain ⟨-, total⟩ := run past (at' 120001 3.0 2.5) (some .seconds) (by decide +kernel) (by decide +kernel)
  refine ⟨t, built, by decide +kernel, count.trans ?_, total.trans ?_⟩
  · cases built
    decide +kernel
  · cases built
    decide +kernel

/-- A count that is read first in a new step shows what its total does not: three seconds of the object have gone
by since, but only one is counted. -/
example :
    let at' (wall : Nat) (amount time : Float) : Moment :=
      { wall, monotonic := 0, sighting? := fun _ => some { amount, time } }
    let past : List Visit := [⟨at' 5 1.0 1.0, .read .count none⟩, ⟨at' 60000 1.0 1.0, .read .count none⟩,
      ⟨at' 60001 3.0 3.0, .read .count none⟩]
    (((Blueprint.functionTimer 0 .seconds).build {} (at' 0 0.0 0.0)).toOption.map fun i =>
      [((i.run past).read? (at' 60002 3.0 3.0) .count none).map Outcome.value,
        ((i.run past).read? (at' 60002 3.0 3.0) .totalTime (some .seconds)).map Outcome.value])
      = some [some 1.0, some 3.0] := by
  decide +kernel

end Instrument

end StepMeters
