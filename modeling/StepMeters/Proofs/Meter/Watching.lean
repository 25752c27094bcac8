import StepMeters.Proofs.Meter.Keeping

/-!
# Windows of meters

Whatever is done with a timer or summary comes down to a few visits of its window (`Instrument.watched`): an amount
is recorded, a question is asked, or nothing happens at all. So a run of a meter is a run of its window
(`Instrument.window?_run`), and closing a meter leaves the window alone.
-/

namespace StepMeters

/-- An amount of some unit as a meter keeps it. Timers keep nanoseconds. -/
def Recorder.kept (k : Recorder) (unit : Option TimeUnit) (amount : Float) : Float :=
  match k with
  | timer base => (unit.getD base).toNanos amount
  | _ => amount

/-- What a visit of a meter does with its window. -/
def Recorder.watched (k : Recorder) (visit : Instrument.Visit) : List Window.Visit :=
  let reading := visit.moment.monotonic
  match visit.action with
  | .record recording => ((k.amountOf? visit.moment recording).map fun x => ⟨reading, .record x⟩).toList
  | .percentile _ part => [⟨reading, .percentile part⟩]
  | .countAtMost unit amount => [⟨reading, .countAtMost (k.kept unit amount)⟩]
  | .snapshot => [⟨reading, .percentileValues⟩, ⟨reading, .boundaryCounts⟩]
  | _ => []

namespace Instrument

/-- The window of an instrument, if it has one. -/
def window? : Instrument → Option Window
  | timer t => some t.nanos.window
  | summary d => some d.window
  | _ => none

/-- What some visits of a meter do with its window. -/
def watched (i : Instrument) (visits : List Visit) : List Window.Visit :=
  i.recorder?.elim [] fun k => visits.flatMap k.watched

section Watched
variable {i : Instrument} {m : Moment}

/-- A visit does not change which recordings a meter takes. -/
lemma recorder?_apply (i : Instrument) (visit : Visit) : (i.apply visit).recorder? = i.recorder? := by
  obtain ⟨m, action⟩ := visit
  cases action with
  | record recording => exact i.recorder?_record m recording
  | _ =>
    refine (looked_apply m i _ ?_).recorder?_eq
    nofun

/-- A run of visits does not change which recordings a meter takes. -/
lemma recorder?_run (i : Instrument) (visits : List Visit) : (i.run visits).recorder? = i.recorder? := by
  induction visits generalizing i with
  | nil => rfl
  | cons visit rest ih => exact (ih _).trans (i.recorder?_apply visit)

/-- Closing does not change which recordings a meter takes. -/
lemma recorder?_close (i : Instrument) (m : Moment) : (i.close m).recorder? = i.recorder? := by
  cases i <;> rfl

/-- Closing a meter leaves its window alone. -/
lemma window?_close (i : Instrument) (m : Moment) : (i.close m).window? = i.window? := by
  cases i <;> rfl

/-- A recording is filed in the window at its monotonic reading. -/
lemma window_record (d : Distribution) (m : Moment) (x : Float) :
    (d.record m x).state.window = d.window.apply ⟨m.monotonic, .record x⟩ := by
  rw [Distribution.record]
  split
  · rfl
  · rename_i refused
    show d.window = (d.window.record m.monotonic x).state
    rw [Window.record, if_neg refused]

/-- A visit does with the window of a meter what `watched` says. -/
lemma window?_apply (i : Instrument) (visit : Visit) :
    (i.apply visit).window? = i.window?.map (·.run (i.watched [visit])) := by
  obtain ⟨m, action⟩ := visit
  cases i with
  | timer t =>
    cases action with
    | record recording =>
      cases recording with
      | amount x => rfl
      | duration d => exact congrArg some (window_record t.nanos m _)
      | time unit x => exact congrArg some (window_record t.nanos m _)
      | since start => exact congrArg some (window_record t.nanos m _)
    | read s unit => cases s <;> rfl
    | _ => rfl
  | summary d =>
    cases action with
    | record recording =>
      cases recording with
      | amount x => exact congrArg some (window_record d m x)
      | _ => rfl
    | read s unit => cases s <;> rfl
    | _ => rfl
  | _ =>
    cases action with
    | record recording => cases recording <;> rfl
    | read s unit => cases s <;> rfl
    | _ => rfl

/-- What a run does with a window is what its parts do with it. -/
lemma watched_append (i : Instrument) (visits visits' : List Visit) :
    i.watched (visits ++ visits') = i.watched visits ++ i.watched visits' := by
  rw [watched, watched, watched]
  cases i.recorder? with
  | none => rfl
  | some k => exact List.flatMap_append

/-- A run of a meter is a run of its window. -/
lemma window?_run (i : Instrument) (visits : List Visit) :
    (i.run visits).window? = i.window?.map (·.run (i.watched visits)) := by
  induction visits generalizing i with
  | nil =>
    have none : i.watched [] = [] := by
      rw [watched]
      cases i.recorder? <;> rfl
    rw [none]
    exact Option.map_id'.symm
  | cons visit rest ih =>
    have same : (i.apply visit).watched rest = i.watched rest := by
      rw [watched, watched, recorder?_apply]
    show ((i.apply visit).run rest).window? = i.window?.map (·.run (i.watched ([visit] ++ rest)))
    rw [ih, window?_apply, Option.map_map, same, i.watched_append [visit] rest]
    congr 1
    funext w
    exact List.foldl_append.symm

end Watched

end Instrument

end StepMeters
