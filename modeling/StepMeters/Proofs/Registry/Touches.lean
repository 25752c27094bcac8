import StepMeters.Proofs.Meter.History
import StepMeters.Registry.Publishing

/-!
# Touches

Readings, reports and publish cycles reach the meters of a registry in many ways, gauges even those of other
meters. Each of them comes down to touches: visits of single meters, one after the other, that change nothing
else in the registry (`state_read`, `state_reports`, `state_publish`). So what happens to one meter are the
touches at its place (`getElem?_touchAll`).
-/

namespace StepMeters

/-- The gauge that an instrument is, if it is one. -/
def Instrument.gauge? : Instrument → Option Gauge
  | gauge g => some g
  | _ => none

namespace Registry

/-- A visit of the meter at a place. -/
structure Touch where
  ref : MeterRef
  action : Instrument.Action

/-- The meters after a touch. -/
def touch (m : Moment) (meters : List Meter) (t : Touch) : List Meter :=
  meters.modify t.ref fun meter => { meter with instrument := meter.instrument.apply ⟨m, t.action⟩ }

/-- The meters after some touches, one after the other. -/
def touchAll (m : Moment) (meters : List Meter) (touches : List Touch) : List Meter :=
  touches.foldl (touch m) meters

/-- The registry after some touches of its meters. -/
def touched (r : Registry) (m : Moment) (touches : List Touch) : Registry :=
  { r with meters := touchAll m r.meters touches }

/-- The visits that touches bring to a place. -/
def visitsAt (ref : MeterRef) (m : Moment) (touches : List Touch) : List Instrument.Visit :=
  (touches.filter fun t => t.ref = ref).map fun t => ⟨m, t.action⟩

/-- A gauge that comes with a distribution looks at the meter that it came with. -/
def gaugeTouches : Gauge → List Touch
  | .observed _ => []
  | .percentile owner part => [⟨owner, .percentile none part⟩]
  | .countAtMost owner boundary => [⟨owner, .countAtMost (some .nanoseconds) boundary⟩]

/-- Reading the value of a gauge may touch its owner; any other statistic is read off the meter itself. -/
def readTouches (meters : List Meter) (ref : MeterRef) (unit : Option TimeUnit) (s : Statistic) : List Touch :=
  match meters[ref]?.bind fun meter => meter.instrument.gauge?, s with
  | some gauge, .value => gaugeTouches gauge
  | _, s => [⟨ref, .read s unit⟩]

/-- A report reads all statistics that a meter publishes. -/
def reportTouches (meters : List Meter) (ref : MeterRef) : List Touch :=
  (meters[ref]?.elim [] fun meter => meter.instrument.statistics).flatMap (readTouches meters ref none)

/-- In a publish cycle all meters move on, and then all of them are read. -/
def cycleTouches (meters : List Meter) : List Touch :=
  ((List.range meters.length).map fun ref => ⟨ref, .roll⟩)
    ++ (List.range meters.length).flatMap (reportTouches meters)

section Visit
variable {α : Type} (r : Registry) (ref : MeterRef) (work? : Instrument → Option (Outcome Instrument α))

/-- Work at a place changes the instrument at this place only. -/
lemma getElem?_visit (place : MeterRef) :
    (r.visit ref work?).state.meters[place]? = r.meters[place]?.map fun meter =>
      if ref = place then { meter with instrument := meter.instrument.after (work? meter.instrument) }
      else meter := by
  rw [visit]
  cases there : r.meters[ref]? with
  | none =>
    cases e : r.meters[place]? with
    | none => simpa using e
    | some meter =>
      -- there is no meter where the work would be done, so this one is elsewhere
      have elsewhere : ref ≠ place := by
        rintro rfl
        rw [there] at e
        cases e
      simpa [elsewhere] using e
  | some meter =>
    rw [Option.bind_some]
    cases work : work? meter.instrument with
    | none =>
      by_cases here : ref = place
      · subst here
        rw [there, Option.map_some, if_pos rfl, work]
        rfl
      · simp [here]
    | some outcome =>
      show (r.meters.modify ref _)[place]? = _
      rw [List.getElem?_modify]
      by_cases here : ref = place
      · subst here
        rw [there, Option.map_some, if_pos rfl, work, Option.map_eq_map, Option.map_some, if_pos rfl]
        rfl
      · simp [here]

/-- A visit of a meter keeps the configuration. -/
lemma config_visit : (r.visit ref work?).state.config = r.config := by
  rw [visit]
  split <;> rfl

/-- A visit of a meter neither opens nor closes the registry. -/
lemma closed_visit : (r.visit ref work?).state.closed = r.closed := by
  rw [visit]
  split <;> rfl

/-- A visit of a meter keeps the number of meters. -/
lemma length_visit : (r.visit ref work?).state.meters.length = r.meters.length := by
  rw [visit]
  split
  · rfl
  · exact length_meters_put ..

end Visit

section Touches
variable {m : Moment} {meters : List Meter} {touches : List Touch}

/-- Touches are made one after the other. -/
lemma touchAll_append (m : Moment) (meters : List Meter) (touches touches' : List Touch) :
    touchAll m meters (touches ++ touches') = touchAll m (touchAll m meters touches) touches' :=
  List.foldl_append

/-- Two rounds of touches are one. -/
lemma touched_touched (r : Registry) (m : Moment) (touches touches' : List Touch) :
    (r.touched m touches).touched m touches' = r.touched m (touches ++ touches') :=
  congrArg (Registry.mk _ _ · _ _) (touchAll_append m r.meters touches touches').symm

/-- A touch brings a visit to its own place only. -/
lemma visitsAt_cons (ref : MeterRef) (m : Moment) (t : Touch) (rest : List Touch) :
    visitsAt ref m (t :: rest)
      = if t.ref = ref then ⟨m, t.action⟩ :: visitsAt ref m rest else visitsAt ref m rest := by
  rw [visitsAt, List.filter_cons]
  by_cases here : t.ref = ref
  · rw [if_pos (decide_eq_true here), if_pos here]
    rfl
  · rw [if_neg (by simpa using here), if_neg here]
    rfl

/-- A meter sees the touches at its own place only. -/
lemma getElem?_touchAll (m : Moment) (meters : List Meter) (touches : List Touch) (ref : MeterRef) :
    (touchAll m meters touches)[ref]? = meters[ref]?.map fun meter =>
      { meter with instrument := meter.instrument.run (visitsAt ref m touches) } := by
  induction touches generalizing meters with
  | nil => exact Option.map_id'.symm
  | cons t rest ih =>
    show (touchAll m (touch m meters t) rest)[ref]? = _
    rw [ih, touch, List.getElem?_modify, Option.map_eq_map, Option.map_map, visitsAt_cons]
    by_cases here : t.ref = ref
    · rw [if_pos here]
      simp only [Function.comp_def, if_pos here]
      rfl
    · rw [if_neg here]
      simp only [Function.comp_def, if_neg here]

/-- A touched meter has gone through the visits that the touches bring to its place. -/
lemma getElem?_touched {r : Registry} {ref : MeterRef} {meter : Meter} (there : r.meters[ref]? = some meter)
    (m : Moment) (touches : List Touch) : (r.touched m touches).meters[ref]?
      = some { meter with instrument := meter.instrument.run (visitsAt ref m touches) } := by
  show (touchAll m r.meters touches)[ref]? = _
  rw [getElem?_touchAll, there]
  rfl

/-- Touches keep the number of meters. -/
lemma length_touchAll (m : Moment) (meters : List Meter) (touches : List Touch) :
    (touchAll m meters touches).length = meters.length := by
  induction touches generalizing meters with
  | nil => rfl
  | cons t rest ih => exact (ih _).trans (List.length_modify ..)

end Touches

end Registry

namespace Instrument

/-- A run goes through its visits one after the other. -/
lemma run_append (i : Instrument) (visits visits' : List Visit) :
    i.run (visits ++ visits') = (i.run visits).run visits' :=
  List.foldl_append

/-- A visit does not change which gauge an instrument is. -/
lemma gauge?_apply (i : Instrument) (visit : Visit) : (i.apply visit).gauge? = i.gauge? := by
  obtain ⟨m, action⟩ := visit
  cases action with
  | record recording => cases i <;> cases recording <;> rfl
  | read s unit => cases i <;> cases s <;> rfl
  | _ => cases i <;> rfl

/-- A visit does not change which statistics an instrument publishes. -/
lemma statistics_apply (i : Instrument) (visit : Visit) : (i.apply visit).statistics = i.statistics := by
  obtain ⟨m, action⟩ := visit
  cases action with
  | record recording => cases i <;> cases recording <;> rfl
  | read s unit => cases i <;> cases s <;> rfl
  | _ => cases i <;> rfl

/-- A run of visits does not change which gauge an instrument is. -/
lemma gauge?_run (i : Instrument) (visits : List Visit) : (i.run visits).gauge? = i.gauge? := by
  induction visits generalizing i with
  | nil => rfl
  | cons visit rest ih => exact (ih _).trans (i.gauge?_apply visit)

/-- A run of visits does not change which statistics an instrument publishes. -/
lemma statistics_run (i : Instrument) (visits : List Visit) :
    (i.run visits).statistics = i.statistics := by
  induction visits generalizing i with
  | nil => rfl
  | cons visit rest ih => exact (ih _).trans (i.statistics_apply visit)

end Instrument

namespace Registry

section Reading
variable {m : Moment}

/-- Which touches a reading makes depends on what no touch changes. -/
lemma readTouches_touchAll (m : Moment) (meters : List Meter) (touches : List Touch) (ref : MeterRef)
    (unit : Option TimeUnit) (s : Statistic) :
    readTouches (touchAll m meters touches) ref unit s = readTouches meters ref unit s := by
  have gauge : ((touchAll m meters touches)[ref]?.bind fun meter => meter.instrument.gauge?)
      = meters[ref]?.bind fun meter => meter.instrument.gauge? := by
    rw [getElem?_touchAll, Option.bind_map]
    congr 1
    funext meter
    exact meter.instrument.gauge?_run _
  unfold readTouches
  rw [gauge]

/-- What a report touches does not depend on earlier touches. -/
lemma reportTouches_touchAll (m : Moment) (meters : List Meter) (touches : List Touch) (ref : MeterRef) :
    reportTouches (touchAll m meters touches) ref = reportTouches meters ref := by
  have reads : readTouches (touchAll m meters touches) ref none = readTouches meters ref none := by
    funext s
    exact readTouches_touchAll m meters touches ref none s
  rw [reportTouches, reportTouches, reads, getElem?_touchAll]
  cases meters[ref]? with
  | none => rfl
  | some meter =>
    rw [Option.map_some, Option.elim_some, Option.elim_some, Instrument.statistics_run]

/-- Work at one place is a touch, if it is a visit of the instrument there. -/
lemma state_visit {α : Type} {work? : Instrument → Option (Outcome Instrument α)}
    {action : Instrument.Action}
    (work : ∀ i : Instrument, i.after (work? i) = i.apply ⟨m, action⟩) (r : Registry) (ref : MeterRef) :
    (r.visit ref work?).state = r.touched m [⟨ref, action⟩] := by
  have frame : (r.visit ref work?).state = { r with meters := (r.visit ref work?).state.meters } := by
    rw [visit]
    split <;> rfl
  rw [frame, touched]
  congr 1
  apply List.ext_getElem?
  intro place
  rw [getElem?_visit, getElem?_touchAll, visitsAt_cons]
  congr 1
  funext meter
  by_cases here : ref = place
  · rw [if_pos here, if_pos here, work]
    rfl
  · rw [if_neg here, if_neg here]
    rfl

/-- A percentile touches the meter it is asked of. -/
lemma state_percentile (r : Registry) (m : Moment) (ref : MeterRef) (unit : Option TimeUnit) (part : Float) :
    (r.percentile m ref unit part).state = r.touched m [⟨ref, .percentile unit part⟩] :=
  state_visit (fun _ => rfl) r ref

/-- A count up to a boundary touches the meter it is asked of. -/
lemma state_countAtMost (r : Registry) (m : Moment) (ref : MeterRef) (unit : Option TimeUnit)
    (amount : Float) : (r.countAtMost m ref unit amount).state = r.touched m [⟨ref, .countAtMost unit amount⟩] :=
  state_visit (fun _ => rfl) r ref

/-- A snapshot touches the meter it is asked of. -/
lemma state_snapshot (r : Registry) (m : Moment) (ref : MeterRef) :
    (r.snapshot m ref).state = r.touched m [⟨ref, .snapshot⟩] :=
  state_visit (fun _ => rfl) r ref

/-- A recording touches the meter it goes to. -/
lemma state_record (r : Registry) (m : Moment) (ref : MeterRef) (recording : Recording) :
    (r.record m ref recording).state = r.touched m [⟨ref, .record recording⟩] :=
  state_visit (fun _ => rfl) r ref

/-- A gauge touches its owner, if it has one. -/
lemma state_readGauge (r : Registry) (m : Moment) (gauge : Gauge) :
    (r.readGauge m gauge).state = r.touched m (gaugeTouches gauge) := by
  cases gauge with
  | observed source => rfl
  | percentile owner part => exact state_percentile r m owner none part
  | countAtMost owner boundary => exact state_countAtMost r m owner (some .nanoseconds) boundary

/-- Reading a statistic touches the meter, or the owner of the gauge. -/
lemma state_read (r : Registry) (m : Moment) (ref : MeterRef) (unit : Option TimeUnit) (s : Statistic) :
    (r.read m ref unit s).state = r.touched m (readTouches r.meters ref unit s) := by
  unfold read readTouches
  cases there : r.meters[ref]? with
  | none => exact state_visit (fun _ => rfl) r ref
  | some meter =>
    obtain ⟨id, i⟩ := meter
    cases i with
    | gauge gauge =>
      cases s with
      | value => exact state_readGauge r m gauge
      | _ => exact state_visit (fun _ => rfl) r ref
    | _ => exact state_visit (fun _ => rfl) r ref

/-- Reading statistics makes the touches of each, one after the other. -/
lemma state_readAll (r : Registry) (m : Moment) (ref : MeterRef) (unit : Option TimeUnit)
    (statistics : List Statistic) :
    (r.readAll m ref unit statistics).state
      = r.touched m (statistics.flatMap (readTouches r.meters ref unit)) := by
  induction statistics generalizing r with
  | nil => rfl
  | cons s rest ih =>
    show ((r.read m ref unit s).state.readAll m ref unit rest).state = _
    rw [ih, state_read]
    have same : readTouches (r.touched m (readTouches r.meters ref unit s)).meters ref unit
        = readTouches r.meters ref unit := by
      funext s'
      exact readTouches_touchAll ..
    rw [same, touched_touched, List.flatMap_cons]

/-- A report makes the touches of all statistics of the meter. -/
lemma state_report (r : Registry) (m : Moment) (ref : MeterRef) :
    (r.report m ref).state = r.touched m (reportTouches r.meters ref) := by
  rw [report, reportTouches]
  cases r.meters[ref]? with
  | none => rfl
  | some meter => exact state_readAll r m ref none _

/-- Reports make the touches of each, one after the other. -/
lemma state_reports (r : Registry) (m : Moment) (refs : List MeterRef) (remarks : Report → List Event) :
    (r.reports m refs remarks).state = r.touched m (refs.flatMap (reportTouches r.meters)) := by
  induction refs generalizing r with
  | nil => rfl
  | cons ref rest ih =>
    show ((r.report m ref).state.reports m rest remarks).state = _
    rw [ih, state_report]
    have same : reportTouches (r.touched m (reportTouches r.meters ref)).meters
        = reportTouches r.meters := by
      funext ref'
      exact reportTouches_touchAll ..
    rw [same, touched_touched, List.flatMap_cons]

/-- Touches of all meters in turn bring one visit to each. -/
lemma visitsAt_range {n : Nat} {ref : MeterRef} (inside : ref < n) (m : Moment) (action : Instrument.Action) :
    visitsAt ref m ((List.range n).map fun ref => ⟨ref, action⟩) = [⟨m, action⟩] := by
  have here : (List.range n).filter (fun place => place = ref) = [ref] := by
    rw [List.filter_eq, List.count_range, if_pos inside]
    rfl
  rw [visitsAt, List.filter_map]
  show (((List.range n).filter fun place => place = ref).map _).map _ = _
  rw [here]
  rfl

/-- Moving all meters on touches each of them once, in their order. -/
lemma rollAll_eq (r : Registry) (m : Moment) :
    r.rollAll m = r.touched m ((List.range r.meters.length).map fun ref => ⟨ref, .roll⟩) := by
  refine congrArg (Registry.mk _ _ · _ _) (List.ext_getElem? fun ref => ?_)
  rw [getElem?_touchAll, List.getElem?_map]
  cases there : r.meters[ref]? with
  | none => rfl
  | some meter =>
    rw [visitsAt_range (List.getElem?_eq_some_iff.1 there).1]
    rfl

/-- The publisher receives what is published, and goes on from there. -/
lemma state_deliver (r : Registry) (m : Moment) :
    (r.deliver m).state = { r.touched m (r.places.flatMap (reportTouches r.meters)) with
      publisher := (r.publisher.receive (r.deliver m).value).state } := by
  rw [← state_reports r m r.places r.publisher.remarks]
  show Registry.mk _ ((r.reports m r.places r.publisher.remarks).state.publisher.receive _).state _ _ _ = _
  rw [state_reports]
  rfl

/-- In a publish cycle all meters are touched, and the publisher receives what was read. -/
lemma state_cycle (r : Registry) (m : Moment) :
    ((r.rollAll m).deliver m).state = { r.touched m (cycleTouches r.meters) with
      publisher := (r.publisher.receive ((r.rollAll m).deliver m).value).state } := by
  have touches : ((r.rollAll m).places.flatMap (reportTouches (r.rollAll m).meters))
      = (List.range r.meters.length).flatMap (reportTouches r.meters) := by
    have places : (r.rollAll m).places = List.range r.meters.length :=
      congrArg List.range (List.length_map _)
    have same : reportTouches (r.rollAll m).meters = reportTouches r.meters := by
      funext ref
      rw [rollAll_eq]
      exact reportTouches_touchAll ..
    rw [places, same]
  rw [state_deliver, touches, rollAll_eq, touched_touched]
  rfl

end Reading

section Publishing
variable {r : Registry} {m : Moment}

/-- A closed registry publishes nothing. -/
lemma publish_of_closed (h : r.closed = true) (m : Moment) : r.publish m = ⟨none, r, [.publishSkipped]⟩ := by
  rw [publish, h]
  rfl

/-- An open registry moves all meters on, and then delivers. -/
lemma publish_of_open (h : r.closed = false) (m : Moment) :
    r.publish m = ((r.rollAll m).deliver m).map some := by
  rw [publish, h]
  rfl

/-- A closed registry is not closed again. -/
lemma close_of_closed (h : r.closed = true) (m : Moment) : r.close m = ⟨none, r, []⟩ := by
  rw [close, h]
  rfl

/-- A stop ends the schedule, and nothing else. -/
lemma state_stop (r : Registry) : r.stop.state = { r with running := false } := by
  obtain ⟨config, publisher, meters, closed, running⟩ := r
  cases running <;> rfl

/-- The last cycle of a registry: all meters close before they are read. -/
lemma close_of_enabled (h : r.closed = false) (enabled : r.config.enabled = true) (m : Moment) :
    let last := (closeAll { r with closed := true } m).deliver m
    (r.close m).value = some last.value ∧ (r.close m).state = { last.state with running := false } := by
  rw [close, h]
  dsimp only
  rw [if_pos enabled]
  exact ⟨rfl, state_stop _⟩

/-- A registry that publishes nothing on its own closes without a cycle. -/
lemma close_of_disabled (h : r.closed = false) (disabled : r.config.enabled = false) (m : Moment) :
    (r.close m).value = none ∧ (r.close m).state = { r with closed := true, running := false } := by
  have off : ¬r.config.enabled = true := by
    rw [disabled]
    exact Bool.false_ne_true
  rw [close, h]
  dsimp only
  rw [if_neg off]
  exact ⟨rfl, state_stop _⟩

end Publishing

end Registry

end StepMeters
