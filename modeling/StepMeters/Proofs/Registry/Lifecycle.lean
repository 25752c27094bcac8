import StepMeters.Proofs.Registry.Identities

/-!
# The life of a registry

A registry is closed by the first request to close, and never opens again. It publishes by schedule if it may do
so at all, is not closed, and a start has come since the last stop; a start that the machine has no thread for is
a stop. The publisher is called by each publish cycle and by each cycle of the schedule as long as the registry is
open, and once more when it closes; how its calls end changes none of this. So all that can be said of the state of
a registry in this respect can be read off the requests made to it (`lifecycle_run`).
-/

namespace StepMeters

/-- A publisher after it received some publications. -/
def Publisher.afterAll (p : Publisher) (publications : List Publication) : Publisher :=
  publications.foldl (fun p publication => (p.receive publication).state) p

namespace Registry

namespace Request

/-- Whether a request is to close. -/
def isClose : Request → Bool
  | close _ => true
  | visit _ => false

/-- Whether a request begins or ends publishing by schedule. A start without a thread ends it. -/
def turns? : Request → Option Bool
  | visit ⟨_, .start spawn⟩ => some (spawn = .spawned)
  | visit ⟨_, .stop⟩ => some false
  | _ => none

/-- What a request hands to the publisher, if it calls it. -/
def publication? (r : Registry) : Request → Option Publication
  | visit ⟨m, .publish⟩ => (r.publish m).value
  | visit ⟨m, .tick⟩ => (r.tick m).value
  | close m => (r.close m).value
  | _ => none

end Request

/-- Whether some request was to close. -/
def hasClosed (requests : List Request) : Bool := requests.any Request.isClose

/-- Whether a start has come since the last stop, and since the last start without a thread. -/
def hasStarted (requests : List Request) : Bool :=
  requests.foldl (fun started request => request.turns?.getD started) false

/-- Whether the schedule goes on after some requests. -/
def isScheduled (c : Configuration) (requests : List Request) : Bool :=
  c.enabled && !hasClosed requests && hasStarted requests

/-- How often a request calls the publisher, after some requests before it. A tick is a cycle of the schedule. -/
def Request.calls (c : Configuration) (before : List Request) : Request → Nat
  | visit ⟨_, .publish⟩ => if hasClosed before then 0 else 1
  | visit ⟨_, .tick⟩ => if isScheduled c before then 1 else 0
  | close _ => if !hasClosed before && c.enabled then 1 else 0
  | _ => 0

/-- All that some requests hand to the publisher, in order. -/
def publications (r : Registry) : List Request → List Publication
  | [] => []
  | request :: rest => (request.publication? r).toList ++ publications (r.handle request) rest

section Requests
variable {requests : List Request} {request : Request}

/-- After one more request the registry has closed if it had before, or if the request closes it. -/
lemma hasClosed_concat : hasClosed (requests ++ [request]) = (hasClosed requests || request.isClose) := by
  simp [hasClosed]

/-- One more request decides whether the schedule was started, or leaves it as it was. -/
lemma hasStarted_concat :
    hasStarted (requests ++ [request]) = request.turns?.getD (hasStarted requests) := by
  rw [hasStarted, List.foldl_append]
  rfl

/-- The publications of two runs are those of the first, and then those of the second. -/
lemma publications_append (r : Registry) (requests requests' : List Request) :
    publications r (requests ++ requests')
      = publications r requests ++ publications (r.serve requests) requests' := by
  induction requests generalizing r with
  | nil => rfl
  | cons request rest ih =>
    rw [List.cons_append, publications, publications, ih, List.append_assoc]
    rfl

end Requests

/-- Nothing calls the publisher once there was a close. -/
lemma calls_of_hasClosed {c : Configuration} {before : List Request} (h : hasClosed before = true)
    (request : Request) : request.calls c before = 0 := by
  cases request with
  | close m => simp [Request.calls, h]
  | visit visit =>
    obtain ⟨m, action⟩ := visit
    cases action <;> simp [Request.calls, isScheduled, h]

/-- The marks of a registry are those that the requests made to it call for. -/
structure Stands (r : Registry) (c : Configuration) (past : List Request) : Prop where
  config : r.config = c
  closed : r.closed = hasClosed past
  running : r.running = isScheduled c past

/-- What a request does to the marks and to the publisher is what it should after the requests before it. -/
structure Serves (r : Registry) (c : Configuration) (past : List Request) (request : Request) : Prop where
  stands : (r.handle request).Stands c (past ++ [request])
  publisher : (r.handle request).publisher = r.publisher.afterAll (request.publication? r).toList
  calls : (request.publication? r).toList.length = request.calls c past

section Stands
variable {r : Registry} {c : Configuration} {p : Publisher} {past : List Request} {request : Request}

/-- A request that neither closes nor concerns the schedule leaves the marks as they are. -/
lemma Stands.concat (h : r.Stands c past) (open' : request.isClose = false) (turns : request.turns? = none)
    (meters : List Meter) (publisher : Publisher) :
    Stands { r with meters, publisher } c (past ++ [request]) := by
  refine ⟨h.config, h.closed.trans ?_, h.running.trans ?_⟩
  · rw [hasClosed_concat, open', Bool.or_false]
  · rw [isScheduled, isScheduled, hasClosed_concat, hasStarted_concat, open', Bool.or_false, turns]
    rfl

/-- Most requests change meters only, and do not call the publisher. -/
lemma Stands.serves_of_silent (h : r.Stands c past) {meters : List Meter}
    (e : r.handle request = { r with meters }) (silent : request.publication? r = none)
    (uncalled : request.calls c past = 0) (open' : request.isClose = false)
    (turns : request.turns? = none) : r.Serves c past request where
  stands := by
    rw [e]
    exact h.concat open' turns meters r.publisher
  publisher := by
    rw [e, silent]
    rfl
  calls := by
    rw [silent, uncalled]
    rfl

/-- A publish cycle of an open registry calls the publisher once. -/
lemma Stands.serves_of_cycle (h : r.Stands c past) {m : Moment}
    (e : r.handle request = ((r.rollAll m).deliver m).state)
    (said : request.publication? r = some ((r.rollAll m).deliver m).value)
    (called : request.calls c past = 1) (open' : request.isClose = false)
    (turns : request.turns? = none) : r.Serves c past request where
  stands := by
    rw [e, state_cycle]
    exact h.concat open' turns _ _
  publisher := by
    rw [e, state_cycle, said]
    rfl
  calls := by
    rw [said, called]
    rfl

/-- A publish cycle serves as the requests before it call for. -/
lemma Stands.serves_publish (h : r.Stands c past) (m : Moment) : r.Serves c past (.visit ⟨m, .publish⟩) := by
  have closed := h.closed
  cases e : hasClosed past with
  | true =>
    rw [e] at closed
    have silent := publish_of_closed closed m
    have same : (r.publish m).state = { r with meters := r.meters } := congrArg Outcome.state silent
    exact h.serves_of_silent same (congrArg Outcome.value silent) (if_pos e) rfl rfl
  | false =>
    rw [e] at closed
    have cycle := publish_of_open closed m
    exact h.serves_of_cycle (congrArg Outcome.state cycle) (congrArg Outcome.value cycle)
      (if_neg (by rw [e]; exact Bool.false_ne_true)) rfl rfl

/-- A schedule that goes on is that of an open registry. -/
lemma Stands.serves_tick (h : r.Stands c past) (m : Moment) : r.Serves c past (.visit ⟨m, .tick⟩) := by
  have running := h.running
  cases e : isScheduled c past with
  | true =>
    rw [e] at running
    have closed : r.closed = false := by
      rw [isScheduled, Bool.and_eq_true, Bool.and_eq_true, Bool.not_eq_true'] at e
      rw [h.closed, e.1.2]
    have cycle : r.tick m = ((r.rollAll m).deliver m).map some := by
      rw [tick, running, ← publish_of_open closed]
      rfl
    exact h.serves_of_cycle (congrArg Outcome.state cycle) (congrArg Outcome.value cycle) (if_pos e) rfl rfl
  | false =>
    rw [e] at running
    have silent : r.tick m = ⟨none, r, []⟩ := by
      rw [tick, running]
      rfl
    have same : (r.tick m).state = { r with meters := r.meters } := congrArg Outcome.state silent
    exact h.serves_of_silent same (congrArg Outcome.value silent) (if_neg (by rw [e]; exact Bool.false_ne_true)) rfl rfl

/-- A request that concerns the schedule alone. -/
lemma Stands.serves_of_turn (h : r.Stands c past) {turn : Bool}
    (e : r.handle request = { r with running := c.enabled && !hasClosed past && turn })
    (silent : request.publication? r = none) (uncalled : request.calls c past = 0)
    (open' : request.isClose = false) (turns : request.turns? = some turn) : r.Serves c past request where
  stands := by
    have closed : hasClosed (past ++ [request]) = hasClosed past := by
      rw [hasClosed_concat, open', Bool.or_false]
    have started : hasStarted (past ++ [request]) = turn := by
      rw [hasStarted_concat, turns]
      rfl
    rw [e]
    refine ⟨h.config, h.closed.trans closed.symm, ?_⟩
    rw [isScheduled, closed, started]
  publisher := by
    rw [e, silent]
    rfl
  calls := by
    rw [silent, uncalled]
    rfl

/-- A start leaves the schedule of a registry that may have one as the machine answers. -/
lemma Stands.serves_start (h : r.Stands c past) (m : Moment) (spawn : Spawn) :
    r.Serves c past (.visit ⟨m, .start spawn⟩) := by
  have started : (r.start spawn).state
      = { r with running := c.enabled && !hasClosed past && decide (spawn = .spawned) } := by
    obtain ⟨config, publisher, meters, closed, running⟩ := r
    obtain ⟨rfl, rfl, on⟩ := h
    change running = isScheduled config past at on
    unfold start
    rw [on, isScheduled]
    dsimp only
    -- a registry that may not start is not running
    cases config.enabled with
    | false => rfl
    | true => cases hasClosed past <;> cases spawn <;> rfl
  exact h.serves_of_turn started rfl rfl rfl rfl

/-- A stop serves as the requests before it call for. -/
lemma Stands.serves_stop (h : r.Stands c past) (m : Moment) : r.Serves c past (.visit ⟨m, .stop⟩) := by
  have stopped : r.stop.state = { r with running := c.enabled && !hasClosed past && false } := by
    rw [state_stop, Bool.and_false]
  exact h.serves_of_turn stopped rfl rfl rfl rfl

/-- A request to close leaves a closed registry without a schedule, whether or not it was closed before. -/
lemma serves_of_close {r' : Registry} {said : Option Publication} {m : Moment}
    (handled : (r.close m).state = r') (value : (r.close m).value = said) (config : r'.config = c)
    (closed : r'.closed = true) (running : r'.running = false)
    (publisher : r'.publisher = r.publisher.afterAll said.toList)
    (calls : said.toList.length = Request.calls c past (.close m)) : r.Serves c past (.close m) := by
  change r.handle (.close m) = r' at handled
  change Request.publication? r (.close m) = said at value
  rw [← handled] at config closed running publisher
  rw [← value] at publisher calls
  have has : hasClosed (past ++ [.close m]) = true := by
    rw [hasClosed_concat]
    exact Bool.or_true _
  refine ⟨⟨config, closed.trans has.symm, running.trans ?_⟩, publisher, calls⟩
  rw [isScheduled, has, Bool.not_true, Bool.and_false, Bool.false_and]

/-- Only the first request to close can call the publisher. -/
lemma Stands.serves_close (h : r.Stands c past) (m : Moment) : r.Serves c past (.close m) := by
  obtain ⟨rfl, closed, running⟩ := h
  have calls : Request.calls r.config past (.close m) = if !r.closed && r.config.enabled then 1 else 0 := by
    rw [closed]
    rfl
  cases shut : r.closed with
  | true =>
    have silent := close_of_closed shut m
    have off : r.running = false := by
      rw [running, isScheduled, ← closed, shut, Bool.not_true, Bool.and_false, Bool.false_and]
    rw [shut] at calls
    exact serves_of_close (congrArg Outcome.state silent) (congrArg Outcome.value silent) rfl shut off rfl
      calls.symm
  | false =>
    cases enabled : r.config.enabled with
    | true =>
      obtain ⟨value, state⟩ := close_of_enabled shut enabled m
      rw [state_deliver] at state
      rw [shut, enabled] at calls
      exact serves_of_close state value rfl rfl rfl rfl calls.symm
    | false =>
      obtain ⟨value, state⟩ := close_of_disabled shut enabled m
      rw [shut, enabled] at calls
      exact serves_of_close state value rfl rfl rfl rfl calls.symm

/-- Each request leaves the marks that it calls for, and calls the publisher as often as it should. -/
lemma Stands.serves (h : r.Stands c past) (request : Request) : r.Serves c past request := by
  cases request with
  | close m => exact h.serves_close m
  | visit visit =>
    obtain ⟨m, action⟩ := visit
    cases action with
    | register id b =>
      have added : ∃ meters, r.apply ⟨m, .register id b⟩ = { r with meters } := by
        rw [Registry.apply]
        dsimp only
        split
        · rename_i registered
          obtain ⟨added, e⟩ := register_append registered
          exact ⟨_, e⟩
        · exact ⟨r.meters, rfl⟩
      obtain ⟨meters, e⟩ := added
      exact h.serves_of_silent e rfl rfl rfl rfl
    | record ref recording => exact h.serves_of_silent (r.state_record m ref recording) rfl rfl rfl rfl
    | read ref unit s => exact h.serves_of_silent (r.state_read m ref unit s) rfl rfl rfl rfl
    | percentile ref unit part => exact h.serves_of_silent (r.state_percentile m ref unit part) rfl rfl rfl rfl
    | countAtMost ref unit x => exact h.serves_of_silent (r.state_countAtMost m ref unit x) rfl rfl rfl rfl
    | snapshot ref => exact h.serves_of_silent (r.state_snapshot m ref) rfl rfl rfl rfl
    | report ref => exact h.serves_of_silent (r.state_report m ref) rfl rfl rfl rfl
    | publish => exact h.serves_publish m
    | tick => exact h.serves_tick m
    | start spawn => exact h.serves_start m spawn
    | stop => exact h.serves_stop m

/-- After any requests the marks are those called for, and the publisher has received all publications. -/
lemma Stands.serve {before : List Request} (h : r.Stands c before) (requests : List Request) :
    (r.serve requests).Stands c (before ++ requests) ∧
      (r.serve requests).publisher = r.publisher.afterAll (publications r requests) := by
  induction requests generalizing r before with
  | nil => exact ⟨(List.append_nil before).symm ▸ h, rfl⟩
  | cons request rest ih =>
    have served := h.serves request
    obtain ⟨stands, publisher⟩ := ih served.stands
    rw [List.append_assoc] at stands
    refine ⟨stands, publisher.trans ?_⟩
    rw [served.publisher, publications, Publisher.afterAll, Publisher.afterAll, Publisher.afterAll,
      List.foldl_append]

/-- A registry that has closed hands over nothing more. -/
lemma Stands.publications_of_closed {before : List Request} (h : r.Stands c before)
    (closed : hasClosed before = true) (requests : List Request) : publications r requests = [] := by
  induction requests generalizing r before with
  | nil => rfl
  | cons request rest ih =>
    have served := h.serves request
    have still : hasClosed (before ++ [request]) = true := by
      rw [hasClosed_concat, closed, Bool.true_or]
    have none := served.calls
    rw [calls_of_hasClosed closed, List.length_eq_zero_iff] at none
    rw [publications, none, ih served.stands still]
    rfl

/-- A new registry stands as it should before any request, with the publisher that it was given. -/
lemma stands_of_ofConfiguration (created : ofConfiguration c p = .ok r) : r.Stands c [] ∧ r.publisher = p := by
  obtain ⟨-, rfl⟩ := eq_of_ofConfiguration created
  exact ⟨⟨rfl, rfl, (Bool.and_false _).symm⟩, rfl⟩

/-- Whatever is asked of a registry, however the calls of its publisher end and whether or not the machine has
threads for it, it is closed if and only if some request was to close, and it publishes by schedule if and only if
it may do so, is not closed, and a start has come since the last stop or start without a thread. The publisher has
received certain publications in order; each further request adds to them as often as it should call the publisher.
Once the registry is closed, it stays so and adds nothing. -/
theorem lifecycle_run {r₀ : Registry} (created : ofConfiguration c p = .ok r₀) (past : List Request) :
    let r := r₀.serve past
    let received := publications r₀ past
    r.closed = hasClosed past ∧
    r.running = (c.enabled && !hasClosed past && hasStarted past) ∧
    r.publisher = p.afterAll received ∧
    (∀ next, ∃ new, publications r₀ (past ++ [next]) = received ++ new ∧ new.length = next.calls c past) ∧
    (r.closed = true → ∀ later, (r.serve later).closed = true ∧ publications r₀ (past ++ later) = received) := by
  intro r received
  obtain ⟨new, rfl⟩ := stands_of_ofConfiguration created
  obtain ⟨stands, publisher⟩ := new.serve past
  rw [List.nil_append] at stands
  refine ⟨stands.closed, stands.running, publisher, fun next => ?_, fun closed later => ⟨?_, ?_⟩⟩
  · refine ⟨(next.publication? r).toList, ?_, (stands.serves next).calls⟩
    rw [publications_append, publications, publications, List.append_nil]
  · rw [(stands.serve later).1.closed, hasClosed, List.any_append, ← hasClosed, ← stands.closed, closed]
    rfl
  · rw [publications_append, stands.publications_of_closed (stands.closed ▸ closed), List.append_nil]

/-- A publisher that first panics and then fails: it is called by a publish cycle, by a tick of the schedule and
when the registry closes, but not by a tick after a start without a thread or after a stop, and by nothing after
that. -/
theorem lifecycle_run_failing :
    let at' (wall : Nat) : Moment := { wall, monotonic := 0 }
    let p : Publisher := .hook [.panicked, .failed (.other "full"), .delivered, .panicked]
    let r₀ : Registry := { config := {}, publisher := p }
    let past : List Request := [.visit ⟨at' 0, .start .spawned⟩, .visit ⟨at' 1, .publish⟩,
      .visit ⟨at' 60001, .tick⟩, .visit ⟨at' 60002, .start (.refused "no threads")⟩, .visit ⟨at' 60003, .tick⟩,
      .visit ⟨at' 60004, .start .spawned⟩, .visit ⟨at' 60005, .stop⟩, .visit ⟨at' 120001, .tick⟩,
      .close (at' 120002)]
    let later : List Request := [.visit ⟨at' 120003, .start .spawned⟩, .visit ⟨at' 120004, .publish⟩,
      .close (at' 120005)]
    let r := r₀.serve past
    ofConfiguration {} p = .ok r₀ ∧ r.closed = true ∧ r.running = false ∧ r.publisher = .hook [.panicked] ∧
      (publications r₀ (past ++ later)).map Publication.timestamp = [1, 60001, 120002] := by
  intro at' p r₀ past later r
  have created : ofConfiguration {} p = .ok r₀ := by rfl
  obtain ⟨closed, running, publisher, -, stays⟩ := lifecycle_run created past
  have closed : r.closed = true := closed.trans (by rfl)
  refine ⟨created, closed, running.trans (by decide +kernel), publisher.trans ?_, ?_⟩
  · decide +kernel
  · rw [(stays closed later).2]
    decide +kernel

end Stands

end Registry

end StepMeters
