import StepMeters.Proofs.Registry.Lifecycle

/-!
# Publishers that fail

A publish cycle calls the publisher when all meters have moved on. The publisher reads them, and how its call ends goes
into the log and nowhere else. So a request does the same whatever the endings of the calls to come are: it answers the
same, hands over the same and leaves the same registry (`Takes`). Only what it writes into the log is open in the
places where the publisher is called, and there each ending has its own line (`written`). From single requests
(`exists_course_request`) this carries over to runs of any length (`exists_course`), and so to any two runs
(`isolation_run`).
-/

namespace StepMeters

/-- The lines that a call about so many meters leaves in the log, by how it ends. -/
def Ending.lines (meters : Nat) : Ending → List String
  | .delivered => []
  | .failed cause => ["WARN failed to publish metrics: " ++ cause.message]
  | .panicked => ["ERROR publisher panicked while publishing " ++ toString meters ++ " meters"]

/-- The events of a call show as the lines of its ending. -/
lemma Ending.map_shown_log (meters : Nat) (ending : Ending) :
    (ending.log meters).map Event.shown = ending.lines meters := by
  cases ending with
  | delivered => rfl
  | failed cause =>
    show ["WARN" ++ " " ++ ("failed to publish metrics: " ++ cause.message)] = _
    rw [← String.append_assoc]
    rfl
  | panicked =>
    show ["ERROR" ++ " " ++ ("publisher panicked while publishing " ++ toString meters ++ " meters")] = _
    rw [← String.append_assoc, ← String.append_assoc]
    rfl

/-- A call of a program ends as the program says next, and after the program it delivers. -/
lemma Publisher.receive_hook (endings : List Ending) (publication : Publication) :
    (hook endings).receive publication = ⟨endings.headD .delivered, hook endings.tail, []⟩ := by
  cases endings <;> rfl

/-- Work within a part of a state composes as the work itself does. -/
lemma Outcome.within_andThen {σ τ α β : Type} {f : σ → τ} {o : Outcome σ α} {next : α → τ → Outcome τ β}
    {next' : α → σ → Outcome σ β} (commutes : ∀ a s, next a (f s) = (next' a s).within f) :
    (o.within f).andThen next = (o.andThen next').within f := by
  unfold andThen within
  rw [commutes]
  rfl

namespace Registry

/-- What a request answers. Those that publish answer nothing, nor does a stop. -/
inductive Answer where
  | registered (result : Except RegistrationError MeterRef)
  | recorded (found : Option Unit)
  | amount (value : Option Float)
  | snapshot (value : Option Snapshot)
  | report (value : Option Report)
  | started (result : Except StartError Unit)
  | done

/-- A request with its answer and what it writes into the log. -/
def answer (r : Registry) : Request → Outcome Registry Answer
  | .visit ⟨m, .register id b⟩ =>
    match r.register m id b with
    | .ok outcome => outcome.map fun ref => .registered (.ok ref)
    | .error fault => ⟨.registered (.error fault), r, []⟩
  | .visit ⟨m, .record ref recording⟩ => (r.record m ref recording).map .recorded
  | .visit ⟨m, .read ref unit s⟩ => (r.read m ref unit s).map .amount
  | .visit ⟨m, .percentile ref unit part⟩ => (r.percentile m ref unit part).map .amount
  | .visit ⟨m, .countAtMost ref unit amount⟩ => (r.countAtMost m ref unit amount).map .amount
  | .visit ⟨m, .snapshot ref⟩ => (r.snapshot m ref).map .snapshot
  | .visit ⟨m, .report ref⟩ => (r.report m ref).map .report
  | .visit ⟨m, .publish⟩ => (r.publish m).map fun _ => .done
  | .visit ⟨m, .tick⟩ => (r.tick m).map fun _ => .done
  | .visit ⟨_, .start spawn⟩ => (r.start spawn).map .started
  | .visit ⟨_, .stop⟩ => r.stop.map fun _ => .done
  | .close m => (r.close m).map fun _ => .done

/-- The answers of some requests, in order. -/
def answers (r : Registry) : List Request → List Answer
  | [] => []
  | request :: rest => (r.answer request).value :: answers (r.handle request) rest

/-- All lines that some requests write into the log. -/
def lines (r : Registry) : List Request → List String
  | [] => []
  | request :: rest => (r.answer request).log.map Event.shown ++ lines (r.handle request) rest

/-- Answering a request does with the registry what handling it does. -/
lemma state_answer (r : Registry) (request : Request) : (r.answer request).state = r.handle request := by
  cases request with
  | close m => rfl
  | visit visit =>
    obtain ⟨m, action⟩ := visit
    cases action with
    | register id b =>
      rw [answer, handle, apply]
      dsimp only
      cases r.register m id b <;> rfl
    | _ => rfl

/-- The registry with a program as its publisher whose next calls end so. -/
def under (r : Registry) (endings : List Ending) : Registry := { r with publisher := .hook endings }

/-- A part of what is written into a log: a line, or what is left there by a call of the publisher about so many
meters. -/
inductive LogPart where
  | line (text : String)
  | call (meters : Nat)

/-- The number of meters that a call is about, if the part is one. -/
def LogPart.call? : LogPart → Option Nat
  | line _ => none
  | call meters => some meters

/-- The lines of a log whose calls of the publisher end so. After these all calls deliver. -/
def written : List Ending → List LogPart → List String
  | _, [] => []
  | endings, .line text :: rest => text :: written endings rest
  | endings, .call meters :: rest => (endings.headD .delivered).lines meters ++ written endings.tail rest

section Written
variable {endings : List Ending} {parts parts' : List LogPart}

/-- What is written for two logs is written for the first, and then for the second with the endings that are left.
-/
lemma written_append (endings : List Ending) (parts parts' : List LogPart) :
    written endings (parts ++ parts')
      = written endings parts ++ written (endings.drop (parts.filterMap LogPart.call?).length) parts' := by
  induction parts generalizing endings with
  | nil => rfl
  | cons part rest ih =>
    cases part with
    | line text => exact congrArg (text :: ·) (ih endings)
    | call meters =>
      show _ ++ written endings.tail (rest ++ parts') = _
      rw [ih, List.drop_tail, ← List.append_assoc]
      rfl

/-- A log without calls. -/
def said (log : List Event) : List LogPart := log.map fun event => .line event.shown

/-- A log without calls has none. -/
lemma filterMap_said (log : List Event) : (said log).filterMap LogPart.call? = [] := by
  rw [said, List.filterMap_map]
  exact List.filterMap_none log

/-- A log without calls is written as it is. -/
lemma written_said (endings : List Ending) (log : List Event) : written endings (said log) = log.map Event.shown := by
  induction log with
  | nil => rfl
  | cons event rest ih => exact congrArg (event.shown :: ·) ih

end Written

section Under
variable (r : Registry) (endings : List Ending) (m : Moment)

/-- The meters do not depend on the publisher. -/
lemma meters_under : (r.under endings).meters = r.meters := rfl

/-- A visit of a meter does not depend on the publisher. -/
lemma visit_under {α : Type} (ref : MeterRef) (work? : Instrument → Option (Outcome Instrument α)) :
    (r.under endings).visit ref work? = (r.visit ref work?).within (under · endings) := by
  rw [visit, visit, meters_under]
  cases r.meters[ref]?.bind fun meter => work? meter.instrument <;> rfl

/-- A gauge reads the same under any publisher. -/
lemma readGauge_under (gauge : Gauge) :
    (r.under endings).readGauge m gauge = (r.readGauge m gauge).within (under · endings) := by
  cases gauge with
  | observed source => rfl
  | percentile owner part =>
    rw [readGauge, percentile, visit_under]
    rfl
  | countAtMost owner boundary =>
    rw [readGauge, countAtMost, visit_under]
    rfl

/-- A statistic reads the same under any publisher. -/
lemma read_under (ref : MeterRef) (unit : Option TimeUnit) (s : Statistic) :
    (r.under endings).read m ref unit s = (r.read m ref unit s).within (under · endings) := by
  unfold read
  rw [meters_under]
  split
  · exact congrArg (Outcome.map some) (r.readGauge_under endings m _)
  · exact r.visit_under endings ref _

/-- Statistics read the same under any publisher. -/
lemma readAll_under (ref : MeterRef) (unit : Option TimeUnit) (statistics : List Statistic) :
    (r.under endings).readAll m ref unit statistics
      = (r.readAll m ref unit statistics).within (under · endings) := by
  induction statistics generalizing r with
  | nil => rfl
  | cons s rest ih =>
    rw [readAll, read_under]
    exact Outcome.within_andThen fun value r' => congrArg (Outcome.map _) (ih r')

/-- A meter reports the same under any publisher. -/
lemma report_under (ref : MeterRef) :
    (r.under endings).report m ref = (r.report m ref).within (under · endings) := by
  rw [report, report, meters_under]
  cases r.meters[ref]? with
  | none => rfl
  | some meter => exact congrArg (Outcome.map _) (r.readAll_under endings m ref none _)

/-- Meters report the same under any publisher. -/
lemma reports_under (refs : List MeterRef) (remarks : Report → List Event) :
    (r.under endings).reports m refs remarks = (r.reports m refs remarks).within (under · endings) := by
  induction refs generalizing r with
  | nil => rfl
  | cons ref rest ih =>
    rw [reports, report_under]
    refine Outcome.within_andThen fun report r' => ?_
    rw [ih r']
    rfl

/-- A registration comes to the same under any publisher. -/
lemma register_under (id : Identity) (b : Blueprint) :
    (r.under endings).register m id b = (r.register m id b).map (Outcome.within (under · endings)) := by
  rw [register, register]
  dsimp only
  have found : (r.under endings).find? (b.identify (r.under endings).config id) = r.find? (b.identify r.config id) :=
    rfl
  have built : b.build (r.under endings).config m = b.build r.config m := rfl
  rw [found, built]
  cases r.find? (b.identify r.config id) with
  | some place =>
    by_cases kind : r.meters[place].kind = b.kind
    · dsimp only
      rw [if_pos kind]
      exact if_pos kind
    · dsimp only
      rw [if_neg kind]
      exact if_neg kind
  | none => cases b.build r.config m <;> rfl

/-- A start comes to the same under any publisher. -/
lemma start_under (spawn : Spawn) :
    (r.under endings).start spawn = (r.start spawn).within (under · endings) := by
  unfold start
  show (if (!r.config.enabled) = true then _ else if r.closed = true then _ else _) = _
  split
  · rfl
  · split
    · rfl
    · cases spawn <;> rfl

/-- A stop comes to the same under any publisher. -/
lemma stop_under : (r.under endings).stop = r.stop.within (under · endings) := by
  rw [stop, stop]
  show (if r.running = true then _ else _) = _
  cases r.running <;> rfl

/-- Only the call at the end of a cycle concerns the publisher. -/
lemma deliver_under : (r.under endings).deliver m =
    let read := r.reports m r.places
    ⟨{ timestamp := m.wall, reports := read.value }, read.state.under endings.tail,
      .publishing r.meters.length :: read.log ++ (endings.headD .delivered).log r.meters.length⟩ := by
  have read : (r.under endings).reports m (r.under endings).places (r.under endings).publisher.remarks
      = (r.reports m r.places).within (under · endings) :=
    r.reports_under endings m r.places fun _ => []
  rw [deliver, read]
  show Outcome.mk _ (Registry.mk _ ((Publisher.hook endings).receive _).state _ _ _)
    (_ :: _ ++ ((Publisher.hook endings).receive _).log ++ ((Publisher.hook endings).receive _).value.log _) = _
  rw [Publisher.receive_hook, List.append_nil]
  rfl

/-- Every registered meter is reported. -/
lemma length_reports {refs : List MeterRef} (there : ∀ ref ∈ refs, ref < r.meters.length)
    {remarks : Report → List Event} : (r.reports m refs remarks).value.length = refs.length := by
  induction refs generalizing r with
  | nil => rfl
  | cons ref rest ih =>
    have inside := there ref List.mem_cons_self
    have one : (r.report m ref).value.toList.length = 1 := by
      rw [report, List.getElem?_eq_getElem inside]
      rfl
    have still : ∀ ref' ∈ rest, ref' < (r.report m ref).state.meters.length := by
      intro ref' mem
      rw [state_report, touched, length_touchAll]
      exact there ref' (List.mem_cons_of_mem _ mem)
    show ((r.report m ref).value.toList ++ ((r.report m ref).state.reports m rest remarks).value).length = _
    rw [List.length_append, one, ih _ still, List.length_cons, Nat.add_comm]

end Under

/-- What becomes of a run of requests. -/
structure Course where
  after : Registry
  answers : List Answer
  publications : List Publication
  log : List LogPart

/-- A run of requests takes a course, however the calls of the publisher will end. -/
structure Takes (r : Registry) (requests : List Request) (course : Course) : Prop where
  calls : course.log.filterMap LogPart.call? = course.publications.map (·.reports.length)
  answers : ∀ endings, answers (r.under endings) requests = course.answers
  publications : ∀ endings, publications (r.under endings) requests = course.publications
  after : ∀ endings,
    (r.under endings).serve requests = course.after.under (endings.drop course.publications.length)
  log : ∀ endings, lines (r.under endings) requests = written endings course.log

section Course
variable {r : Registry} {m : Moment} {request : Request} {rest : List Request} {course course' : Course}

/-- The course of a request that does not call the publisher. -/
lemma takes_of_silent {o : Outcome Registry Answer}
    (answer : ∀ endings, (r.under endings).answer request = o.within (under · endings))
    (silent : ∀ endings, request.publication? (r.under endings) = none) :
    r.Takes [request] ⟨o.state, [o.value], [], said o.log⟩ where
  calls := filterMap_said o.log
  answers endings := by
    rw [answers, answer]
    rfl
  publications endings := by
    rw [publications, silent]
    rfl
  after endings := by
    show (r.under endings).handle request = _
    rw [← state_answer, answer]
    rfl
  log endings := by
    rw [lines, answer, written_said]
    exact List.append_nil _

/-- The course of a request that calls the publisher once. -/
lemma takes_of_call (publication : Publication) (after : Registry) (before later : List Event)
    (answer : ∀ endings, (r.under endings).answer request = ⟨.done, after.under endings.tail,
      before ++ (endings.headD .delivered).log publication.reports.length ++ later⟩)
    (called : ∀ endings, request.publication? (r.under endings) = some publication) :
    r.Takes [request] ⟨after, [.done], [publication],
      said before ++ .call publication.reports.length :: said later⟩ where
  calls := by
    rw [List.filterMap_append, List.filterMap_cons, filterMap_said, filterMap_said]
    rfl
  answers endings := by
    rw [answers, answer]
    rfl
  publications endings := by
    rw [publications, called]
    rfl
  after endings := by
    show (r.under endings).handle request = _
    rw [← state_answer, answer, List.length_singleton, List.drop_one]
  log endings := by
    have log : lines (r.under endings) [request] = ((r.under endings).answer request).log.map Event.shown :=
      List.append_nil _
    rw [log, answer, written_append, filterMap_said, written_said, List.map_append, List.map_append,
      Ending.map_shown_log, List.append_assoc]
    show _ = _ ++ (_ ++ written endings.tail (said later))
    rw [written_said]
    rfl

/-- The first request of a course leaves its registry, and takes one ending for each publication. -/
lemma Takes.handle (first : r.Takes [request] course) (endings : List Ending) :
    (r.under endings).handle request = course.after.under (endings.drop course.publications.length) :=
  first.after endings

/-- Runs one after the other. -/
lemma Takes.cons (first : r.Takes [request] course) (next : course.after.Takes rest course') :
    r.Takes (request :: rest) ⟨course'.after, course.answers ++ course'.answers,
      course.publications ++ course'.publications, course.log ++ course'.log⟩ where
  calls := by
    rw [List.filterMap_append, first.calls, next.calls, List.map_append]
  answers endings := by
    rw [Registry.answers, first.handle, next.answers, ← first.answers endings]
    rfl
  publications endings := by
    rw [Registry.publications, first.handle, next.publications, ← first.publications endings,
      Registry.publications, Registry.publications, List.append_nil]
  after endings := by
    show ((r.under endings).handle request).serve rest = _
    rw [first.handle, next.after, List.drop_drop, List.length_append]
  log endings := by
    rw [written_append, first.calls, List.length_map, ← next.log, ← first.log, lines, lines, lines, first.handle,
      List.append_nil]

/-- A cycle of the meters, and a call of the publisher at its end. -/
lemma exists_deliver (r : Registry) (m : Moment) :
    ∃ (publication : Publication) (after : Registry) (before : List Event), ∀ endings,
      (r.under endings).deliver m = ⟨publication, after.under endings.tail,
        before ++ (endings.headD .delivered).log publication.reports.length⟩ := by
  let read := r.reports m r.places
  have all : read.value.length = r.meters.length :=
    (length_reports r m fun ref mem => List.mem_range.1 mem).trans List.length_range
  refine ⟨{ timestamp := m.wall, reports := read.value }, read.state,
    .publishing r.meters.length :: read.log, fun endings => ?_⟩
  rw [deliver_under]
  dsimp only
  rw [all]

/-- A request that publishes, on its own or as the schedule does. -/
lemma exists_course_publish
    (answer : ∀ endings, (r.under endings).answer request = ((r.under endings).publish m).map fun _ => .done)
    (called : ∀ endings, request.publication? (r.under endings) = ((r.under endings).publish m).value) :
    ∃ course, r.Takes [request] course := by
  cases closed : r.closed with
  | true =>
    have skipped endings := publish_of_closed (r := r.under endings) closed m
    refine ⟨_, takes_of_silent (o := ⟨.done, r, [.publishSkipped]⟩) (fun endings => ?_) fun endings => ?_⟩
    · rw [answer, skipped]
      rfl
    · rw [called, skipped]
  | false =>
    obtain ⟨publication, after, before, delivered⟩ := exists_deliver (r.rollAll m) m
    have cycle endings : (r.under endings).publish m = (((r.rollAll m).under endings).deliver m).map some :=
      publish_of_open (r := r.under endings) closed m
    refine ⟨_, takes_of_call publication after before [] (fun endings => ?_) fun endings => ?_⟩
    · rw [answer, cycle, delivered, List.append_nil]
      rfl
    · rw [called, cycle, delivered]
      rfl

/-- A tick takes a course, however the call it may make ends. -/
lemma exists_course_tick (r : Registry) (m : Moment) : ∃ course, r.Takes [.visit ⟨m, .tick⟩] course := by
  cases running : r.running with
  | true =>
    have cycle endings : (r.under endings).tick m = (r.under endings).publish m := by
      rw [tick]
      exact if_pos running
    exact exists_course_publish (fun endings => congrArg (Outcome.map fun _ => Answer.done) (cycle endings))
      fun endings => congrArg Outcome.value (cycle endings)
  | false =>
    have silent endings : (r.under endings).tick m = ⟨none, r.under endings, []⟩ := by
      rw [tick]
      exact if_neg (ne_true_of_eq_false running)
    refine ⟨_, takes_of_silent (o := ⟨.done, r, []⟩) (fun endings => ?_) fun endings => ?_⟩
    · exact congrArg (Outcome.map fun _ => Answer.done) (silent endings)
    · exact congrArg Outcome.value (silent endings)

/-- The last cycle comes before the end of the schedule. -/
lemma exists_course_close (r : Registry) (m : Moment) : ∃ course, r.Takes [.close m] course := by
  cases closed : r.closed with
  | true =>
    have silent endings := close_of_closed (r := r.under endings) closed m
    refine ⟨_, takes_of_silent (o := ⟨.done, r, []⟩) (fun endings => ?_) fun endings => ?_⟩
    · exact congrArg (Outcome.map fun _ => Answer.done) (silent endings)
    · exact congrArg Outcome.value (silent endings)
  | false =>
    cases enabled : r.config.enabled with
    | true =>
      -- the registry is marked as closed and its meters are final before the publisher is called
      obtain ⟨publication, after, before, delivered⟩ := exists_deliver (closeAll { r with closed := true } m) m
      have last endings : (r.under endings).close m = ⟨some publication, after.stop.state.under endings.tail,
          before ++ (endings.headD .delivered).log publication.reports.length ++ after.stop.log⟩ := by
        have cycle : (r.under endings).close m
            = (((under (closeAll { r with closed := true } m) endings).deliver m).map some).andThen
                fun publication r' => r'.stop.map fun _ => publication := by
          rw [close]
          exact (if_neg (ne_true_of_eq_false closed)).trans (congrArg (Outcome.andThen · _) (if_pos enabled))
        rw [cycle, delivered]
        show Outcome.mk _ (after.under endings.tail).stop.state (_ ++ (after.under endings.tail).stop.log) = _
        rw [stop_under]
        rfl
      refine ⟨_, takes_of_call publication after.stop.state before after.stop.log (fun endings => ?_)
        fun endings => ?_⟩
      · exact congrArg (Outcome.map fun _ => Answer.done) (last endings)
      · exact congrArg Outcome.value (last endings)
    | false =>
      let closing : Registry := { r with closed := true }
      have silent endings : (r.under endings).close m = (closing.stop.within (under · endings)).map fun _ => none := by
        rw [← stop_under, close]
        exact (if_neg (ne_true_of_eq_false closed)).trans
          (congrArg (Outcome.andThen · _) (if_neg (ne_true_of_eq_false enabled)))
      refine ⟨_, takes_of_silent (o := closing.stop.map fun _ => .done) (fun endings => ?_) fun endings => ?_⟩
      · exact congrArg (Outcome.map fun _ => Answer.done) (silent endings)
      · exact congrArg Outcome.value (silent endings)

/-- Every request takes a course of its own. -/
lemma exists_course_request (r : Registry) (request : Request) : ∃ course, r.Takes [request] course := by
  -- what touches meters only does not see the publisher
  have looks {α : Type} {o : Registry → Outcome Registry α} (f : α → Answer)
      (answer : ∀ r' : Registry, r'.answer request = (o r').map f)
      (blind : ∀ endings, o (r.under endings) = (o r).within (under · endings))
      (silent : ∀ r', request.publication? r' = none) : ∃ course, r.Takes [request] course := by
    refine ⟨_, takes_of_silent (o := (o r).map f) (fun endings => ?_) fun endings => silent _⟩
    rw [answer, blind]
    rfl
  cases request with
  | close m => exact r.exists_course_close m
  | visit visit =>
    obtain ⟨m, action⟩ := visit
    cases action with
    | register id b =>
      refine ⟨_, takes_of_silent (o := r.answer (.visit ⟨m, .register id b⟩)) (fun endings => ?_) fun _ => rfl⟩
      rw [answer, answer, register_under]
      cases r.register m id b <;> rfl
    | record ref recording =>
      exact looks .recorded (fun _ => rfl) (fun endings => r.visit_under endings ref _) fun _ => rfl
    | read ref unit s =>
      exact looks .amount (fun _ => rfl) (fun endings => r.read_under endings m ref unit s) fun _ => rfl
    | percentile ref unit part =>
      exact looks .amount (fun _ => rfl) (fun endings => r.visit_under endings ref _) fun _ => rfl
    | countAtMost ref unit x =>
      exact looks .amount (fun _ => rfl) (fun endings => r.visit_under endings ref _) fun _ => rfl
    | snapshot ref =>
      exact looks .snapshot (fun _ => rfl) (fun endings => r.visit_under endings ref _) fun _ => rfl
    | report ref =>
      exact looks .report (fun _ => rfl) (fun endings => r.report_under endings m ref) fun _ => rfl
    | publish => exact exists_course_publish (fun _ => rfl) fun _ => rfl
    | tick => exact r.exists_course_tick m
    | start spawn => exact looks .started (fun _ => rfl) (r.start_under · spawn) fun _ => rfl
    | stop => exact looks (fun _ => .done) (fun _ => rfl) r.stop_under fun _ => rfl

/-- All requests take a course, however the calls of the publisher end. -/
lemma exists_course (r : Registry) (requests : List Request) : ∃ course, r.Takes requests course := by
  induction requests generalizing r with
  | nil => exact ⟨⟨r, [], [], []⟩, rfl, fun _ => rfl, fun _ => rfl, fun _ => rfl, fun _ => rfl⟩
  | cons request rest ih =>
    obtain ⟨course, first⟩ := r.exists_course_request request
    obtain ⟨course', next⟩ := ih course.after
    exact ⟨_, first.cons next⟩

/-- How the calls of a publisher end concerns nobody but the log. Two runs of the same requests, on registries of one
configuration whose publishers may fail or panic at different calls, give the same answers, hand the same publications
over and leave the same registry but for the publisher. Their logs are the same but for the lines that the calls leave:
there is one call for each publication, and each leaves a line of its own if it fails or panics, and none if it
delivers. -/
theorem isolation_run {r₀ r₀' : Registry} {c : Configuration} {endings endings' : List Ending}
    (created : ofConfiguration c (.hook endings) = .ok r₀) (created' : ofConfiguration c (.hook endings') = .ok r₀')
    (requests : List Request) :
    answers r₀' requests = answers r₀ requests ∧
    publications r₀' requests = publications r₀ requests ∧
    (∃ publisher, r₀'.serve requests = { r₀.serve requests with publisher }) ∧
    ∃ log : List LogPart,
      log.filterMap LogPart.call? = (publications r₀ requests).map (·.reports.length) ∧
      lines r₀ requests = written endings log ∧ lines r₀' requests = written endings' log := by
  obtain ⟨course, takes⟩ := exists_course { config := c, publisher := .hook [] } requests
  have new {endings : List Ending} {r : Registry} (created : ofConfiguration c (.hook endings) = .ok r) :
      r = under { config := c, publisher := .hook [] } endings := (eq_of_ofConfiguration created).2
  obtain rfl := new created
  obtain rfl := new created'
  refine ⟨?_, ?_, ⟨.hook (endings'.drop course.publications.length), ?_⟩, course.log, ?_, ?_, ?_⟩
  · rw [takes.answers, takes.answers]
  · rw [takes.publications, takes.publications]
  · rw [takes.after, takes.after]
    rfl
  · rw [takes.calls, takes.publications]
  · exact takes.log endings
  · exact takes.log endings'

/-- A publisher that panics, fails and panics again, beside one that always delivers. -/
theorem isolation_run_failing :
    let at' (wall : Nat) : Moment := { wall, monotonic := 0 }
    let endings : List Ending := [.panicked, .failed (.io "full"), .panicked]
    let r₀ : Registry := { config := {}, publisher := .hook endings }
    let r₀' : Registry := { config := {}, publisher := .hook [] }
    let requests : List Request := [.visit ⟨at' 0, .register { name := "jobs" } .counter⟩, .visit ⟨at' 1, .publish⟩,
      .visit ⟨at' 2, .record 0 (.amount 1)⟩, .visit ⟨at' 60002, .publish⟩, .close (at' 60003),
      .visit ⟨at' 60004, .publish⟩]
    ofConfiguration {} (.hook endings) = .ok r₀ ∧ ofConfiguration {} (.hook []) = .ok r₀' ∧
      answers r₀' requests = answers r₀ requests ∧ publications r₀' requests = publications r₀ requests ∧
      lines r₀ requests = ["DEBUG registered counter jobs", "DEBUG publishing 1 meters",
        "ERROR publisher panicked while publishing 1 meters", "DEBUG publishing 1 meters",
        "WARN failed to publish metrics: i/o error while publishing: full", "DEBUG publishing 1 meters",
        "ERROR publisher panicked while publishing 1 meters", "DEBUG registry is closed, skipping publish"] ∧
      lines r₀' requests = ["DEBUG registered counter jobs", "DEBUG publishing 1 meters",
        "DEBUG publishing 1 meters", "DEBUG publishing 1 meters", "DEBUG registry is closed, skipping publish"] := by
  intro at' endings r₀ r₀' requests
  have created : ofConfiguration {} (.hook endings) = .ok r₀ := by rfl
  have created' : ofConfiguration {} (.hook []) = .ok r₀' := by rfl
  obtain ⟨answers, publications, -, -⟩ := isolation_run created created' requests
  exact ⟨created, created', answers, publications, by decide +kernel, by decide +kernel⟩

end Course

end Registry

end StepMeters
