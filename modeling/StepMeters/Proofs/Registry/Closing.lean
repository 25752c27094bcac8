import Mathlib.Data.List.Induction
import StepMeters.Proofs.Amount.Order
import StepMeters.Proofs.Registry.Freezing

/-!
# Closing a registry

The last cycle closes all meters before it reads them. What it publishes of a meter are the accepted recordings
of the step in which the registry closes (`close_run`). Recordings since the last cycle are therefore lost if
they were made in an earlier step: the step before was complete, but it was never read, and closing puts the
live value in its place (`close_loses`).
-/

namespace StepMeters

/-- The running maximum is the greatest amount. -/
lemma Amount.isTop_aggregate {amounts : List Float} (h : ∀ x ∈ amounts, isAccepted x) :
    IsTop (Aggregation.max.aggregate amounts) amounts := by
  induction amounts using List.reverseRecOn with
  | nil => exact isTop_nil
  | append_singleton amounts amount ih =>
    rw [Aggregation.aggregate_concat]
    exact (ih fun x hx => h x (List.mem_append_left _ hx)).append (isTop_singleton (h amount (by simp)))

/-- The amounts of a slice make up a whole ledger if and only if all entries belong to it. -/
lemma Ledger.amountsIn_eq_map_iff (l : Ledger) (slice : Nat) :
    l.amountsIn slice = l.map Entry.amount ↔ ∀ e ∈ l, e.slice = slice := by
  constructor
  · intro whole e he
    have count := congrArg List.length whole
    rw [amountsIn, List.length_map, List.length_map, List.length_filter_eq_length_iff] at count
    exact of_decide_eq_true (count e he)
  · intro all
    rw [amountsIn, List.filter_eq_self.2 fun e he => decide_eq_true (all e he)]

namespace Registry

/-- The time of the last publish cycle, or else of the creation, and the recordings of a meter since then. -/
structure Since where
  cycle : Nat
  fresh : Ledger

/-- The recordings since the last cycle, after one more visit. -/
def Since.after (ref : MeterRef) (r : Registry) (s : Since) (visit : Visit) : Since :=
  if visit.isCycle r then ⟨visit.moment.wall, []⟩
  else { s with fresh := s.fresh ++ (visit.entered? ref r).toList }

/-- The recordings since the last cycle, after a run of visits. -/
def since (ref : MeterRef) (r : Registry) (s : Since) : List Visit → Since
  | [] => s
  | visit :: rest => since ref (r.apply visit) (s.after ref r visit) rest

/-- The recordings since the last cycle are the latest of a ledger, from the step of the cycle on. -/
structure Since.Fits (s : Since) (stepMillis wall : Nat) (l : Ledger) : Prop where
  latest : ∃ old, l = old ++ s.fresh
  begun : s.cycle ≤ wall
  bounds : ∀ e ∈ s.fresh, s.cycle / stepMillis ≤ e.slice ∧ e.slice ≤ wall / stepMillis

section Closing
variable {r : Registry} {c : Configuration} {p : Publisher} {ref : MeterRef} {meter : Meter} {k : Recorder}
  {wall : Nat} {l : Ledger} {m : Moment}

/-- An entry is an accepted amount in the step of its own clock. -/
lemma of_mem_entered? {visit : Visit} {e : Entry} (h : e ∈ visit.entered? ref r) :
    e.slice = visit.moment.wall / r.config.step.stepMillis ∧ Amount.isAccepted e.amount = true := by
  obtain ⟨m, action⟩ := visit
  cases action with
  | record place recording =>
    rw [Visit.entered?] at h
    dsimp only at h
    split at h
    · obtain ⟨k, _, entered⟩ := Option.bind_eq_some_iff.1 h
      rw [Recorder.entered?, Option.map_eq_some_iff] at entered
      obtain ⟨amount, accepted, rfl⟩ := entered
      exact ⟨rfl, (Option.filter_eq_some_iff.1 accepted).2⟩
    · cases h
  | _ => cases h

/-- One more visit adds what it records to the latest recordings, and a cycle begins anew. -/
lemma Since.Fits.after {s : Since} (h : s.Fits r.config.step.stepMillis wall l) (visit : Visit)
    (le : wall ≤ visit.moment.wall) :
    (s.after ref r visit).Fits r.config.step.stepMillis visit.moment.wall
      (l ++ (visit.entered? ref r).toList) := by
  obtain ⟨old, split⟩ := h.latest
  rw [Since.after]
  by_cases cycle : visit.isCycle r
  · -- a cycle begins the list anew
    rw [if_pos cycle]
    exact ⟨⟨_, (List.append_nil _).symm⟩, Nat.le_refl _, nofun⟩
  · rw [if_neg cycle]
    refine ⟨⟨old, by rw [split, List.append_assoc]⟩, Nat.le_trans h.begun le, fun e he => ?_⟩
    have later := Nat.div_le_div_right (c := r.config.step.stepMillis) le
    have begun := Nat.div_le_div_right (c := r.config.step.stepMillis) (Nat.le_trans h.begun le)
    rcases List.mem_append.1 he with he | he
    · have := h.bounds e he
      dsimp only
      omega
    · rw [(of_mem_entered? (Option.mem_toList.1 he)).1]
      exact ⟨begun, Nat.le_refl _⟩

/-- The recordings since the last cycle are the latest of the whole ledger after a run, too. -/
lemma Follows.since {now : Nat} (h : r.Follows c ref wall l) {s : Since} (fits : s.Fits c.step.stepMillis wall l)
    (visits : List Visit) (order : (wall :: visits.map (·.moment.wall) ++ [now]).Pairwise (· ≤ ·)) :
    (Registry.since ref r s visits).Fits c.step.stepMillis now (l ++ entries ref r visits) := by
  induction visits generalizing r wall l s with
  | nil =>
    have le : wall ≤ now := by simpa using order
    rw [entries, List.append_nil]
    refine ⟨fits.latest, Nat.le_trans fits.begun le, fun e he => ?_⟩
    have := fits.bounds e he
    exact ⟨this.1, Nat.le_trans this.2 (Nat.div_le_div_right le)⟩
  | cons visit rest ih =>
    rw [List.map_cons, List.cons_append, List.pairwise_cons] at order
    have le := order.1 visit.moment.wall (by simp)
    have next : (s.after ref r visit).Fits c.step.stepMillis visit.moment.wall
        (l ++ (visit.entered? ref r).toList) := by
      rw [← h.config] at fits ⊢
      exact fits.after visit le
    have kept := ih (h.apply visit le) next order.2
    rw [List.append_assoc] at kept
    exact kept

/-- Only accepted amounts are entered. -/
lemma isAccepted_of_mem_entries {visits : List Visit} :
    ∀ e ∈ entries ref r visits, Amount.isAccepted e.amount := by
  induction visits generalizing r with
  | nil => nofun
  | cons visit rest ih =>
    intro e he
    rcases List.mem_append.1 he with he | he
    · exact (of_mem_entered? (Option.mem_toList.1 he)).2
    · exact ih e he

/-- The last publication reports the recordings of the step in which the registry closes. -/
lemma Follows.close (h : r.Follows c ref wall l) (le : wall ≤ m.wall) (enabled : c.enabled = true)
    (there : r.meters[ref]? = some meter) (takes : meter.instrument.recorder? = some k) :
    ∃ publication, (r.close m).value = some publication ∧ publication.reports[ref]?
      = some { kind := k.kind, id := meter.id,
               measurements := k.measurements (l.amountsIn (m.wall / c.step.stepMillis)) } := by
  have kind := Instrument.kind_of_recorder? takes
  have stepped : meter.kind ≠ .gauge := by
    rw [Meter.kind, kind]
    intro gauge
    cases k <;> cases gauge
  have publishes : r.config.enabled = true := by rw [h.config, enabled]
  have final := ((h.present meter k there takes).close le).frozen
  obtain ⟨publication, published, report⟩ := reports_close h.isOpen publishes there stepped final
  refine ⟨publication, published, report.trans ?_⟩
  rw [Instrument.measurements_shown takes, Meter.kind, kind]

/-- What the last publication reports of a meter are, exactly and in order, its accepted recordings in the step
in which the registry closes. None of those since the last cycle is left out if and only if all of them were
made in this step; so it is if the cycle was. -/
theorem close_run {r : Registry} (created : ofConfiguration c p = .ok r) (enabled : c.enabled = true)
    (birth : Nat) (past : List Visit)
    (order : (birth :: past.map (·.moment.wall) ++ [m.wall]).Pairwise (· ≤ ·))
    (there : (r.run past).meters[ref]? = some meter) (takes : meter.instrument.recorder? = some k) :
    let last := m.wall / c.step.stepMillis
    let amounts := (entries ref r past).amountsIn last
    let s := since ref r ⟨birth, []⟩ past
    (∃ publication, ((r.run past).close m).value = some publication ∧ publication.reports[ref]?
      = some { kind := k.kind, id := meter.id, measurements := k.measurements amounts }) ∧
    Amount.IsTop (Aggregation.max.aggregate amounts) amounts ∧
    (∃ old, entries ref r past = old ++ s.fresh ∧ amounts = old.amountsIn last ++ s.fresh.amountsIn last) ∧
    (∀ e ∈ s.fresh, s.cycle / c.step.stepMillis ≤ e.slice ∧ e.slice ≤ last) ∧
    (s.fresh.amountsIn last = s.fresh.map Entry.amount ↔ ∀ e ∈ s.fresh, e.slice = last) ∧
    (last = s.cycle / c.step.stepMillis → s.fresh.amountsIn last = s.fresh.map Entry.amount) := by
  intro last amounts s
  have fresh : r.Follows c ref birth [] := by
    obtain ⟨-, rfl⟩ := eq_of_ofConfiguration created
    exact ⟨rfl, rfl, fun _ => rfl, fun _ _ none => by cases none⟩
  -- nothing has been recorded at the creation, so the empty list is the latest part of the empty ledger
  have fits : (⟨birth, []⟩ : Since).Fits c.step.stepMillis birth [] :=
    ⟨⟨[], rfl⟩, Nat.le_refl _, fun _ none => absurd none List.not_mem_nil⟩
  have follows := fresh.run past order
  obtain ⟨⟨old, split⟩, _, bounds⟩ := fresh.since fits past order
  rw [List.nil_append] at follows split
  have whole := s.fresh.amountsIn_eq_map_iff last
  refine ⟨follows.close (Nat.le_refl _) enabled there takes, Amount.isTop_aggregate fun x hx => ?_,
    ⟨old, split, ?_⟩, bounds, whole, fun same => ?_⟩
  · obtain ⟨e, he, rfl⟩ := List.mem_map.1 hx
    exact isAccepted_of_mem_entries e (List.mem_filter.1 he).1
  · show (entries ref r past).amountsIn last = _
    rw [split, Ledger.amountsIn_append]
  · rw [whole]
    intro e he
    have between : s.cycle / c.step.stepMillis ≤ e.slice ∧ e.slice ≤ last := bounds e he
    omega

/-- A counter whose recording is published: the registry closes in the step after the last cycle, but the
recording was made in this step too. -/
theorem close_run_counter :
    let at' (wall : Nat) : Moment := { wall, monotonic := 0 }
    let r : Registry := { config := {}, publisher := .hook [] }
    let past : List Visit := [⟨at' 0, .register { name := "c" } .counter⟩, ⟨at' 5, .publish⟩,
      ⟨at' 60000, .record 0 (.amount 1.0)⟩]
    let s := since 0 r ⟨0, []⟩ past
    ∃ publication, ((r.run past).close (at' 60001)).value = some publication ∧
      s.fresh.amountsIn 1 = s.fresh.map Entry.amount ∧
      publication.reports[0]?.map Report.measurements = some (Recorder.measurements .counter [1.0]) := by
  intro at' r past s
  have created : ofConfiguration {} (.hook []) = .ok r := by rfl
  have there : (r.run past).meters[0]? = some _ := rfl
  obtain ⟨⟨publication, published, report⟩, -, -, -, whole, -⟩ :=
    close_run (m := at' 60001) created rfl 0 past (by decide) there rfl
  have last : (at' 60001).wall / ({} : Configuration).step.stepMillis = 1 := by decide
  rw [last] at whole report
  have amounts : (entries 0 r past).amountsIn 1 = [1.0] := by decide +kernel
  refine ⟨publication, published, whole.2 (by decide +kernel), ?_⟩
  rw [report, amounts, Option.map_some]

/-- A counter whose recording is lost: it was made after the last cycle, which was in the same step, but the
registry closes in the step after. -/
theorem close_loses :
    let at' (wall : Nat) : Moment := { wall, monotonic := 0 }
    let r : Registry := { config := {}, publisher := .hook [] }
    let past : List Visit := [⟨at' 0, .register { name := "c" } .counter⟩, ⟨at' 5, .publish⟩,
      ⟨at' 10, .record 0 (.amount 1.0)⟩]
    let s := since 0 r ⟨0, []⟩ past
    ofConfiguration {} (.hook []) = .ok r ∧ s.cycle = 5 ∧ s.fresh = [⟨0, 1.0⟩] ∧
      ((r.run past).close (at' 60000)).value.map (·.reports.map Report.measurements)
        = some [[⟨.count, 0.0⟩]] := by
  refine ⟨?_, ?_, ?_, ?_⟩
  · rfl
  · rfl
  · rfl
  · rfl

end Closing

end Registry

end StepMeters
