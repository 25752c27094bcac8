import StepMeters.Distribution.Boundaries
import StepMeters.Distribution.Validation
import StepMeters.Event
import StepMeters.Window.Phase

/-!
# Sliding windows

A window holds the recordings of roughly the last expiry. The expiry is split into phases that form a ring.
Recordings go to the current phase. Whenever the current phase is older than its share of the expiry, the
ring moves on, and each phase it moves onto is cleared; after a pause the ring stands where it would stand
had it moved on time. The total of the amounts in a window is left out, as no answer shows it.
-/

namespace StepMeters

/-- The recordings of roughly the last expiry. -/
structure Window where
  /-- The percentiles to publish. -/
  percentiles : List Float
  /-- The boundaries to count, in increasing order. -/
  boundaries : List Float
  /-- The decimal digits that the estimators keep. -/
  precision : Nat
  /-- The whole numbers of the estimators that make an amount of one. -/
  scale : Float
  /-- The length of a phase in nanoseconds. -/
  phaseNanos : Nat
  /-- The ring. -/
  phases : List Phase
  /-- The place of the current phase in the ring. -/
  current : Nat
  /-- The monotonic time at which the current phase began. -/
  lastRotation : Nat

namespace Window

/-- An empty window that begins at a monotonic time. Amounts are kept to thousandths, or to thousandths of
the least expected amount if that is below one. -/
def new (s : Distribution.Settings) (now : Nat) : Window :=
  { percentiles := s.percentiles
    boundaries := s.boundaries
    precision := s.precision
    scale := 1000.0 / Amount.least s.minimum 1.0
    phaseNanos := max (s.expiry.cappedNanos / s.bufferLength) 1
    phases := List.replicate s.bufferLength (Phase.empty s.boundaries.length)
    current := 0
    lastRotation := now }

/-- The empty window of settings, unless they are at fault. -/
def ofSettings (s : Distribution.Settings) (now : Nat) : Except ConfigError Window :=
  match s.fault? with
  | none => .ok (new s now)
  | some fault => .error fault

/-- The phases that have ended by a monotonic time. A time before the current phase ends none. -/
def elapsed (w : Window) (now : Nat) : Nat := (now - w.lastRotation) / w.phaseNanos

/-- The ring without the recordings in the `count` phases after the current one. -/
def cleared (w : Window) (count : Nat) : List Phase :=
  w.phases.mapIdx fun i p =>
    if (i + w.phases.length - (w.current + 1)) % w.phases.length < count then
      Phase.empty w.boundaries.length
    else p

/-- Moves the ring to where it stands at a monotonic time. -/
def rotate (w : Window) (now : Nat) : Window :=
  let steps := w.elapsed now
  if steps = 0 then w
  else
    { w with
      phases := w.cleared (min steps w.phases.length)
      current := (w.current + steps) % w.phases.length
      lastRotation := w.lastRotation + steps * w.phaseNanos }

/-- What a rotation reports: that more than one phase has ended. -/
def rotationLog (w : Window) (now : Nat) : List Event :=
  let steps := w.elapsed now
  if 1 < steps then [.caughtUp steps (min steps w.phases.length) w.phases.length] else []

/-- The whole number that stands for an amount in the estimators. -/
def scaled (w : Window) (amount : Float) : Nat := (Amount.rounded (amount * w.scale)).toNat

/-- The place of the first boundary that an amount does not exceed. Amounts above the last boundary have
none. -/
def boundaryOf? (w : Window) (amount : Float) : Option Nat :=
  w.boundaries.findIdx? fun b => !(b < amount)

/-- Records an accepted amount in the current phase. -/
def file (w : Window) (amount : Float) : Window :=
  { w with
    phases := w.phases.modify w.current fun p =>
      p.record w.precision amount (w.boundaryOf? amount) (w.scaled amount) }

/-- Records an amount at a monotonic time. Amounts that are not accepted leave no trace. -/
def record (w : Window) (now : Nat) (amount : Float) : Outcome Window Unit :=
  if Amount.isAccepted amount then ⟨(), (w.rotate now).file amount, w.rotationLog now⟩
  else ⟨(), w, []⟩

/-- Clearing phases keeps the ring as long as it is. -/
@[simp] theorem length_cleared (w : Window) (count : Nat) :
    (w.cleared count).length = w.phases.length := by
  simp [cleared]

/-- A rotation keeps the ring as long as it is. -/
@[simp] theorem length_phases_rotate (w : Window) (now : Nat) :
    (w.rotate now).phases.length = w.phases.length := by
  simp only [rotate]
  split <;> simp

/-- A rotation changes no boundary. -/
@[simp] theorem boundaries_rotate (w : Window) (now : Nat) : (w.rotate now).boundaries = w.boundaries := by
  simp only [rotate]
  split <;> rfl

/-- A rotation does not change how long phases take. -/
@[simp] theorem phaseNanos_rotate (w : Window) (now : Nat) : (w.rotate now).phaseNanos = w.phaseNanos := by
  simp only [rotate]
  split <;> rfl

/-- The boundary of an amount is one of the boundaries. -/
theorem boundaryOf?_lt {w : Window} {amount : Float} {i : Nat} (h : w.boundaryOf? amount = some i) :
    i < w.boundaries.length := by
  exact (List.findIdx?_eq_some_iff_getElem.1 h).1

/-- The current phase stays in the ring. -/
theorem current_rotate_lt {w : Window} (h : w.current < w.phases.length) (now : Nat) :
    (w.rotate now).current < (w.rotate now).phases.length := by
  rw [length_phases_rotate]
  simp only [rotate]
  split
  · exact h
  · exact Nat.mod_lt _ (by omega)

end Window

end StepMeters
