import StepMeters.Identity.Basic
import StepMeters.Meter.Kind
import StepMeters.Publishing.Error

/-!
# Events

Whatever an operation has to report beside its answer is an event. Events have a level and a text; a log
shows the events of its own level and of the more severe ones.
-/

namespace StepMeters

/-- How much an event matters. -/
inductive Level where
  | error
  | warn
  | info
  | debug
  | trace
deriving DecidableEq, Repr

namespace Level

/-- The levels in order, the most severe first. -/
def rank : Level → Nat
  | .error => 0
  | .warn => 1
  | .info => 2
  | .debug => 3
  | .trace => 4

/-- The name of a level. -/
def name : Level → String
  | .error => "ERROR"
  | .warn => "WARN"
  | .info => "INFO"
  | .debug => "DEBUG"
  | .trace => "TRACE"

/-- A log of one level shows events of another if they are at least as severe. -/
def shows (log event : Level) : Bool := event.rank ≤ log.rank

end Level

/-- What an operation can report. -/
inductive Event where
  /-- A meter was created. -/
  | registered (kind : Kind) (id : Identity)
  /-- A window moved on by more than one phase at once. -/
  | caughtUp (elapsed cleared phases : Nat)
  /-- The recordings of a phase could not be added to the others. -/
  | mergeFailed
  /-- A publish cycle begins. -/
  | publishing (meters : Nat)
  /-- The publisher answered with an error. -/
  | publishFailed (cause : PublishError)
  /-- The publisher did not return. -/
  | publisherPanicked (meters : Nat)
  /-- Nothing is published any more. -/
  | publishSkipped
  /-- The schedule does not start, for nothing is to be published. -/
  | startDisabled
  /-- The schedule does not start, for the registry is closed. -/
  | startClosed
  /-- The schedule does not start, for there is no thread for it. -/
  | spawnFailed (cause : String)
  /-- The schedule ends. -/
  | stopping
  /-- A line that a publisher writes. -/
  | line (level : Level) (text : String)
deriving DecidableEq, Repr

namespace Event

/-- The level of an event. -/
def level : Event → Level
  | publishFailed _ => .warn
  | startClosed => .warn
  | publisherPanicked _ => .error
  | spawnFailed _ => .error
  | line level _ => level
  | _ => .debug

/-- The text of an event. -/
def text : Event → String
  | registered kind id => "registered " ++ kind.text ++ " " ++ id.text
  | caughtUp elapsed cleared phases =>
    "histogram caught up " ++ toString elapsed ++ " phases, cleared " ++ toString cleared ++ " of "
      ++ toString phases
  | mergeFailed => "failed to merge histogram phase: OtherAddendValueExceedsRange"
  | publishing meters => "publishing " ++ toString meters ++ " meters"
  | publishFailed cause => "failed to publish metrics: " ++ cause.message
  | publisherPanicked meters =>
    "publisher panicked while publishing " ++ toString meters ++ " meters"
  | publishSkipped => "registry is closed, skipping publish"
  | startDisabled => "publishing is disabled, not starting publisher thread"
  | startClosed => "registry is closed, not starting publisher thread"
  | spawnFailed cause => "failed to spawn publisher thread: " ++ cause
  | stopping => "stopping publisher thread"
  | line _ text => text

/-- The line of an event in a log. -/
def shown (event : Event) : String := event.level.name ++ " " ++ event.text

end Event

/-- What an operation on a state answers, the state it leaves, and what it reports. -/
structure Outcome (σ α : Type) where
  value : α
  state : σ
  log : List Event := []

namespace Outcome

/-- Changes the answer. -/
def map {σ α β : Type} (f : α → β) (o : Outcome σ α) : Outcome σ β := ⟨f o.value, o.state, o.log⟩

/-- Puts the state where it belongs in a larger one. -/
def within {σ τ α : Type} (put : σ → τ) (o : Outcome σ α) : Outcome τ α :=
  ⟨o.value, put o.state, o.log⟩

/-- Goes on with an operation that sees the answer and the state. -/
def andThen {σ α β : Type} (o : Outcome σ α) (next : α → σ → Outcome σ β) : Outcome σ β :=
  let following := next o.value o.state
  ⟨following.value, following.state, o.log ++ following.log⟩

end Outcome

end StepMeters
