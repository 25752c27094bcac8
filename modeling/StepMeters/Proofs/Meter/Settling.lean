import StepMeters.Proofs.Meter.Freezing

/-!
# Settled readings

A reading of a meter polls the parts that it is made of, its sources (`Kind.sources`), and is what they show
afterwards (`Instrument.value_read`). A part that has been polled has reached the step of the clock, or is closed
(`Instrument.reached_read`); from then on it shows the same until it sees the clock in a later step, whatever is
added to it in between (`Accumulator.Reached.shown_run`). So a second reading of the same statistic gives the
value of the first (`Instrument.value_read_run`).
-/

namespace StepMeters

namespace Accumulator

/-- The wall time that an action looks at. -/
def Action.wall? : Action → Option Nat
  | record wall _ => some wall
  | add _ => none
  | roll wall => some wall
  | poll wall => some wall

/-- The wall times that an accumulator sees during some actions. A closed one does not look at the clock. -/
def seen (a : Accumulator) (actions : List Action) : List Nat :=
  if a.closed then [] else actions.filterMap Action.wall?

/-- An accumulator is in a step or in a later one, or closed. -/
def Reached (a : Accumulator) (step : Nat) : Prop := a.closed = true ∨ step ≤ a.step

section Reached
variable {a : Accumulator} {step wall : Nat} {action : Action}

/-- Moving on does not close an accumulator. -/
@[simp] lemma closed_roll (a : Accumulator) (wall : Nat) : (a.roll wall).closed = a.closed := by
  rw [roll]
  split <;> rfl

/-- No action closes an accumulator. -/
lemma closed_apply (a : Accumulator) (action : Action) : (a.apply action).closed = a.closed := by
  cases action with
  | add amount => rfl
  | _ => exact closed_roll a _

/-- No action changes the length of the steps. -/
lemma stepMillis_apply (a : Accumulator) (action : Action) : (a.apply action).stepMillis = a.stepMillis := by
  cases action with
  | add amount => rfl
  | _ => exact stepMillis_roll a _

/-- No run changes the length of the steps. -/
lemma stepMillis_run (a : Accumulator) (actions : List Action) : (a.run actions).stepMillis = a.stepMillis := by
  induction actions generalizing a with
  | nil => rfl
  | cons action rest ih => exact (ih _).trans (a.stepMillis_apply action)

/-- No run closes an accumulator. -/
lemma closed_run (a : Accumulator) (actions : List Action) : (a.run actions).closed = a.closed := by
  induction actions generalizing a with
  | nil => rfl
  | cons action rest ih => exact (ih _).trans (a.closed_apply action)

/-- What is seen in a run is seen in its parts. -/
lemma seen_append (a : Accumulator) (actions actions' : List Action) :
    a.seen (actions ++ actions') = a.seen actions ++ (a.run actions).seen actions' := by
  rw [seen, seen, seen, closed_run]
  split
  · rfl
  · exact List.filterMap_append

/-- An accumulator that looks at the clock reaches its step. -/
lemma reached_roll (a : Accumulator) (wall : Nat) : (a.roll wall).Reached (wall / a.stepMillis) := by
  cases shut : a.closed with
  | true => exact .inl ((closed_roll a wall).trans shut)
  | false =>
    refine .inr ?_
    rw [step_roll shut]
    exact Nat.le_max_right _ _

/-- Moving on never goes back to an earlier step. -/
lemma Reached.roll (h : a.Reached step) (wall : Nat) : (a.roll wall).Reached step := by
  cases shut : a.closed with
  | true => exact .inl ((closed_roll a wall).trans shut)
  | false =>
    rcases h with closed | le
    · rw [shut] at closed
      cases closed
    · refine .inr ?_
      rw [step_roll shut]
      exact Nat.le_trans le (Nat.le_max_left _ _)

/-- No action goes back to an earlier step. -/
lemma Reached.apply (h : a.Reached step) (action : Action) : (a.apply action).Reached step := by
  cases action with
  | add amount => exact h
  | _ => exact h.roll _

/-- No run goes back to an earlier step. -/
lemma Reached.run (h : a.Reached step) (actions : List Action) : (a.run actions).Reached step := by
  induction actions generalizing a with
  | nil => exact h
  | cons action rest ih => exact ih (h.apply action)

/-- Once an accumulator was polled it has reached the step of the clock. -/
lemma reached_run {actions : List Action} (polled : .poll wall ∈ actions) (a : Accumulator) :
    (a.run actions).Reached (wall / a.stepMillis) := by
  obtain ⟨before, after, rfl⟩ := List.append_of_mem polled
  have here := reached_roll (a.run before) wall
  rw [stepMillis_run] at here
  rw [run_append]
  exact here.run after

/-- A clock in no later step moves nothing. -/
lemma Reached.roll_eq (h : a.Reached step) (early : a.closed = false → wall / a.stepMillis ≤ step) :
    a.roll wall = a := by
  cases shut : a.closed with
  | true => exact roll_of_closed shut wall
  | false =>
    rcases h with closed | le
    · rw [shut] at closed
      cases closed
    · exact roll_of_le (Nat.le_trans (early shut) le)

/-- What an accumulator shows stays the same as long as it sees the clock in no later step. -/
lemma Reached.shown_run (h : a.Reached step) {actions : List Action}
    (early : ∀ wall ∈ a.seen actions, wall / a.stepMillis ≤ step) : (a.run actions).shown = a.shown := by
  induction actions generalizing a with
  | nil => rfl
  | cons action rest ih =>
    have stays : ∀ wall, action.wall? = some wall → a.roll wall = a := by
      intro wall looks
      refine h.roll_eq fun opened => early wall ?_
      rw [seen, opened]
      exact List.mem_filterMap.2 ⟨action, List.mem_cons_self, looks⟩
    have shown : (a.apply action).shown = a.shown := by
      cases action with
      | add amount => rfl
      | record wall amount =>
        show (a.roll wall).shown = a.shown
        rw [stays wall rfl]
      | _ => exact congrArg Accumulator.shown (stays _ rfl)
    refine (ih (h.apply action) fun wall sees => ?_).trans shown
    rw [stepMillis_apply]
    refine early wall ?_
    rw [← List.singleton_append, seen_append]
    exact List.mem_append_right _ sees

end Reached

end Accumulator

namespace Kind

/-- Whether a count means that there is nothing to take the mean of. -/
def isNothing (k : Kind) (count : Float) : Bool :=
  match k with
  | functionTimer => count == 0.0
  | _ => count.toUInt64.toNat = 0

/-- Timers and summaries have nothing to take the mean of if their whole count is zero. -/
lemma isNothing_iff {k : Kind} (whole : k ≠ .functionTimer) (count : Float) :
    k.isNothing count = true ↔ count.toUInt64.toNat = 0 := by
  cases k with
  | functionTimer => exact absurd rfl whole
  | _ => exact decide_eq_true_iff

/-- The parts that a statistic of a kind of meter is made of, if the parts show certain values. A mean needs the
total only if there is a count. -/
def sources (k : Kind) (s : Statistic) (shown : Part → Float) : List Part :=
  match s with
  | .count => [.count]
  | .total => [.total]
  | .totalTime => [.total]
  | .max => [.max]
  | .mean => if k.isNothing (shown .count) then [.count] else [.count, .total]
  | _ => []

/-- A statistic depends on its sources only. -/
lemma reading?_congr {k : Kind} {s : Statistic} {shown shown' : Part → Float}
    (same : ∀ part ∈ k.sources s shown, shown' part = shown part) (scale : Float → Float) :
    k.reading? shown' scale s = k.reading? shown scale s := by
  have one {part : Part} (only : k.sources s shown = [part]) : shown' part = shown part :=
    same part (only ▸ List.mem_singleton_self part)
  cases s with
  | count =>
    have count := one rfl
    cases k <;> simp only [reading?, count]
  | total =>
    have total := one rfl
    cases k <;> simp only [reading?, total]
  | totalTime =>
    have total := one rfl
    cases k <;> simp only [reading?, total]
  | max =>
    have max := one rfl
    cases k <;> simp only [reading?, max]
  | mean =>
    have count : shown' .count = shown .count := by
      refine same .count ?_
      rw [sources]
      split <;> exact List.mem_cons_self
    cases nothing : k.isNothing (shown .count) with
    | true =>
      -- without a count the mean is zero, whatever the total
      cases k <;> simp_all [isNothing, reading?, meanOf]
    | false =>
      have total : shown' .total = shown .total := by
        refine same .total ?_
        rw [sources, nothing]
        exact List.mem_cons_of_mem _ List.mem_cons_self
      cases k <;> simp only [reading?, count, total]
  | _ => cases k <;> rfl

end Kind

namespace StepStatistics

/-- A mean moves the count on. -/
lemma counts_afterMean (s : StepStatistics) (wall : Nat) : (s.afterMean wall).counts = s.counts.roll wall := by
  rw [afterMean]
  split <;> rfl

/-- A mean moves the total on if there is a count. -/
lemma totals_afterMean {s : StepStatistics} {wall : Nat} (some : s.count wall ≠ 0) :
    (s.afterMean wall).totals = s.totals.roll wall := by
  rw [afterMean, if_neg some]
  rfl

/-- A mean is that of what is shown afterwards. -/
lemma meanOf_afterMean (s : StepStatistics) (wall : Nat) (scale : Float → Float) :
    meanOf (s.count wall) (scale (s.total wall))
      = meanOf (s.afterMean wall).counts.shown.toUInt64.toNat (scale (s.afterMean wall).totals.shown) := by
  rw [counts_afterMean]
  show meanOf (s.count wall) _ = meanOf (s.count wall) _
  by_cases none : s.count wall = 0
  · rw [none, meanOf, meanOf, if_pos rfl, if_pos rfl]
  · rw [totals_afterMean none]
    rfl

end StepStatistics

/-- A rise is not shown before its step is over. -/
lemma Accumulator.shown_addRise (a : Accumulator) (rise : Float) (convert : Float → Float) :
    (a.addRise rise convert).shown = a.shown := by
  rw [addRise]
  split <;> rfl

namespace FunctionTimer

/-- A look at the object does not change the count that is shown. -/
lemma shown_counts_pull (t : FunctionTimer) (m : Moment) : (t.pull m).counts.shown = t.counts.shown := by
  rw [pull]
  split
  · rfl
  · split
    · rfl
    · exact Accumulator.shown_addRise ..

/-- The count that a mean divides by is the one that would be read. -/
lemma shown_counts_afterMean (t : FunctionTimer) (m : Moment) : (t.afterMean m).counts.shown = t.count m := by
  rw [afterMean]
  split
  · rfl
  · exact (t.afterCount m).shown_counts_pull m

/-- The mean is read off what the parts show once both were looked at. -/
lemma mean_eq (t : FunctionTimer) (m : Moment) (unit : TimeUnit) :
    t.mean m unit = if (t.afterMean m).counts.shown == 0.0 then 0.0
      else unit.ofNanos (t.afterMean m).totals.shown / (t.afterMean m).counts.shown := by
  rw [mean, shown_counts_afterMean, afterMean]
  split <;> rfl

end FunctionTimer

namespace Instrument

/-- What a part of a meter shows. -/
def shown (i : Instrument) (part : Part) : Float := (i.part? part).elim 0.0 Accumulator.shown

/-- The wall times that the parts of a meter see during a visit. -/
def sees (i : Instrument) (visit : Visit) : List Nat :=
  [Part.count, .total, .max].flatMap fun part =>
    (i.part? part).elim [] fun a => a.seen (i.work visit part)

/-- The wall times that the parts of a meter see during a run. -/
def seen (i : Instrument) : List Visit → List Nat
  | [] => []
  | visit :: rest => i.sees visit ++ (i.apply visit).seen rest

section Read
variable {i : Instrument} {m : Moment} {s : Statistic} {unit : Option TimeUnit} {part : Part}

/-- A reading is what the parts show afterwards. -/
lemma value_read (i : Instrument) (m : Moment) (s : Statistic) (unit : Option TimeUnit) :
    (i.read? m s unit).map Outcome.value = i.reading? (i.apply ⟨m, .read s unit⟩).shown s unit := by
  cases i with
  | timer t =>
    cases s with
    | mean => exact congrArg some (t.nanos.steps.meanOf_afterMean m.wall (unit.getD t.unit).ofNanos)
    | _ => rfl
  | summary d =>
    cases s with
    | mean => exact congrArg some (d.steps.meanOf_afterMean m.wall id)
    | _ => rfl
  | functionTimer t =>
    cases s with
    | mean => exact congrArg some (t.mean_eq m (unit.getD t.unit))
    | _ => rfl
  | _ => cases s <;> rfl

/-- A look at a part polls this part. -/
lemma poll_mem_polled {part' : Part} (here : part = part') (wall : Nat) :
    .poll wall ∈ part.polled wall part' := by
  rw [Part.polled, if_pos here]
  exact List.mem_singleton_self _

/-- A mean polls the total only if there is a count. -/
lemma poll_mem_mean {nothing : Bool} {p : Prop} [Decidable p] (iff : nothing = true ↔ p) {wall : Nat}
    {counts totals : List Accumulator.Action} (count : part = .count → .poll wall ∈ counts)
    (total : part = .total → .poll wall ∈ totals)
    (mem : part ∈ if nothing = true then [Part.count] else [.count, .total]) :
    .poll wall ∈ counts ++ if p then [] else totals := by
  split at mem
  · exact List.mem_append_left _ (count (List.mem_singleton.1 mem))
  · rename_i some
    rw [iff] at some
    rw [if_neg some]
    rcases List.mem_cons.1 mem with here | here
    · exact List.mem_append_left _ (count here)
    · exact List.mem_append_right _ (total (List.mem_singleton.1 here))

/-- A reading polls its sources. -/
lemma poll_mem_looked (has : (i.read? m s unit).isSome)
    (mem : part ∈ i.kind.sources s (i.apply ⟨m, .read s unit⟩).shown) :
    .poll m.wall ∈ i.looked m s part := by
  have polled {part' : Part} (here : part = part') := poll_mem_polled here m.wall
  cases i with
  | counter value =>
    cases s with
    | count => exact polled (List.mem_singleton.1 mem)
    | _ => cases has
  | gauge g => cases s <;> cases has
  -- whether the mean needs the total is decided by the count that this very reading shows
  | timer t =>
    cases s with
    | count => exact polled (List.mem_singleton.1 mem)
    | totalTime => exact polled (List.mem_singleton.1 mem)
    | max => exact polled (List.mem_singleton.1 mem)
    | mean =>
      have count : ((timer t).apply ⟨m, .read .mean unit⟩).shown .count = t.nanos.steps.counts.poll m.wall :=
        congrArg Accumulator.shown (t.nanos.steps.counts_afterMean m.wall)
      rw [Kind.sources, count] at mem
      exact poll_mem_mean (Kind.isNothing_iff (k := .timer) nofun _) polled polled mem
    | _ => cases has
  | summary d =>
    cases s with
    | count => exact polled (List.mem_singleton.1 mem)
    | total => exact polled (List.mem_singleton.1 mem)
    | max => exact polled (List.mem_singleton.1 mem)
    | mean =>
      have count : ((summary d).apply ⟨m, .read .mean unit⟩).shown .count = d.steps.counts.poll m.wall :=
        congrArg Accumulator.shown (d.steps.counts_afterMean m.wall)
      rw [Kind.sources, count] at mem
      exact poll_mem_mean (Kind.isNothing_iff (k := .summary) nofun _) polled polled mem
    | _ => cases has
  | functionCounter c =>
    cases s with
    | count => exact List.mem_append_right _ (polled (List.mem_singleton.1 mem))
    | _ => cases has
  | functionTimer t =>
    have looked {t' : FunctionTimer} {part' : Part} (here : part = part') :
        .poll m.wall ∈ t'.looked m part' part := List.mem_append_right _ (polled here)
    cases s with
    | count => exact looked (List.mem_singleton.1 mem)
    | totalTime => exact looked (List.mem_singleton.1 mem)
    | mean =>
      have count : ((functionTimer t).apply ⟨m, .read .mean unit⟩).shown .count = t.count m :=
        t.shown_counts_afterMean m
      rw [Kind.sources, count] at mem
      exact poll_mem_mean Iff.rfl looked looked mem
    | _ => cases has

/-- The parts that a reading is made of have reached the step of the clock. -/
lemma reached_read (has : (i.read? m s unit).isSome)
    (mem : part ∈ i.kind.sources s (i.apply ⟨m, .read s unit⟩).shown) {a : Accumulator}
    (there : (i.apply ⟨m, .read s unit⟩).part? part = some a) : a.Reached (m.wall / a.stepMillis) := by
  rw [part?_apply, Option.map_eq_some_iff] at there
  obtain ⟨before, -, rfl⟩ := there
  rw [Accumulator.stepMillis_run]
  exact Accumulator.reached_run (poll_mem_looked has mem) before

/-- What a part sees in a run, the meter sees. -/
lemma seen_works {a : Accumulator} (there : i.part? part = some a) (visits : List Visit) :
    ∀ wall ∈ a.seen (i.works part visits), wall ∈ i.seen visits := by
  induction visits generalizing i a with
  | nil =>
    intro wall mem
    rw [works, Accumulator.seen, List.filterMap_nil, ite_self] at mem
    cases mem
  | cons visit rest ih =>
    intro wall mem
    rw [works, Accumulator.seen_append] at mem
    rcases List.mem_append.1 mem with now | later
    · refine List.mem_append_left _ (List.mem_flatMap.2 ⟨part, ?_, ?_⟩)
      · cases part <;> decide
      · rw [there]
        exact now
    · refine List.mem_append_right _ (ih ?_ wall later)
      rw [part?_apply, there]
      rfl

/-- Whether a kind of meter has a statistic does not depend on what its parts show. -/
lemma isSome_reading? (k : Kind) (s : Statistic) (shown shown' : Part → Float) (scale : Float → Float) :
    (k.reading? shown scale s).isSome = (k.reading? shown' scale s).isSome := by
  cases k <;> cases s <;> simp only [Kind.reading?, Option.isSome_some]

/-- A second reading gives the value of the first, as long as no part of the meter sees the clock in a later
step. -/
lemma value_read_run {stepMillis : Nat} (steps : ∀ part a, i.part? part = some a → a.stepMillis = stepMillis)
    (m m' : Moment) (s : Statistic) (unit : Option TimeUnit) (visits : List Visit)
    (early : ∀ wall ∈ (i.apply ⟨m, .read s unit⟩).seen (visits ++ [⟨m', .read s unit⟩]),
      wall / stepMillis ≤ m.wall / stepMillis) :
    (((i.apply ⟨m, .read s unit⟩).run visits).read? m' s unit).map Outcome.value
      = (i.read? m s unit).map Outcome.value := by
  let first := i.apply ⟨m, .read s unit⟩
  let second := first.run (visits ++ [⟨m', .read s unit⟩])
  have value : ((first.run visits).read? m' s unit).map Outcome.value = i.reading? second.shown s unit := by
    rw [value_read, reading?_run]
    show (i.run [⟨m, .read s unit⟩]).reading? _ s unit = _
    rw [reading?_run]
    have same : second = (first.run visits).apply ⟨m', .read s unit⟩ := List.foldl_append
    rw [same]
  rw [value, value_read]
  cases has : i.read? m s unit with
  | none =>
    -- the meter does not have the statistic
    have none : i.reading? first.shown s unit = none := by
      rw [← value_read, has]
      rfl
    rw [none, ← Option.not_isSome_iff_eq_none, reading?, isSome_reading? i.kind s second.shown first.shown]
    rw [reading?] at none
    rw [none]
    exact Bool.false_ne_true
  | some outcome =>
    refine Kind.reading?_congr (fun part mem => ?_) _
    rw [shown, shown, part?_run]
    cases there : first.part? part with
    | none => rfl
    | some a =>
      have reached := reached_read (by rw [has]; rfl) mem there
      have same : a.stepMillis = stepMillis := by
        rw [part?_apply, Option.map_eq_some_iff] at there
        obtain ⟨before, there, rfl⟩ := there
        rw [Accumulator.stepMillis_run]
        exact steps part before there
      rw [same] at reached
      refine reached.shown_run fun wall mem => ?_
      rw [same]
      exact early wall (seen_works there _ wall mem)

end Read

end Instrument

end StepMeters
