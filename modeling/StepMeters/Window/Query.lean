import StepMeters.Window.Basic

/-!
# Questions to a window

Before a question is answered the ring moves to the monotonic time of the question.
-/

namespace StepMeters

/-- A percentile with the amount that it stands for. -/
structure Percentile where
  part : Float
  amount : Float

/-- A boundary with the number of recordings that do not exceed it. -/
structure BoundaryCount where
  boundary : Float
  count : Float

namespace Window

/-- The number of recordings. -/
def count (w : Window) : Nat := w.phases.foldr (fun p soFar => p.count + soFar) 0

/-- The greatest recording, or zero. -/
def max (w : Window) : Float := w.phases.foldl (fun m p => Amount.greatest m p.max) 0.0

/-- The estimators of all phases together. -/
def merged (w : Window) : Estimator :=
  w.phases.foldl (fun e p => e.merge w.precision p.estimator) {}

/-- What putting the estimators together reports: each of them that cannot be added. -/
def mergeLog (w : Window) : List Event :=
  (w.phases.filter fun p => !p.estimator.isMergeable w.precision).map fun _ => .mergeFailed

/-- The amount that a part of the recordings does not exceed, as an estimator tells it, but not more than
the greatest recording. -/
def estimate (w : Window) (e : Estimator) (part : Float) : Float :=
  Amount.least (Float.ofNat (e.quantile w.precision part) / w.scale) w.max

/-- The amount that a part of the recordings does not exceed. -/
def quantile (w : Window) (e : Estimator) (part : Float) : Float :=
  if w.count = 0 then 0.0
  else if 1.0 ≤ part then w.max
  else w.estimate e part

/-- The amount that a part of the recordings does not exceed; parts below zero ask for the least. -/
def percentile (w : Window) (now : Nat) (part : Float) : Outcome Window Float :=
  if part.isNaN then ⟨0.0, w, []⟩
  else
    let w' := w.rotate now
    let isEstimate := w'.count ≠ 0 && part < 1.0
    { value := w'.quantile w'.merged (Amount.greatest part 0.0)
      state := w'
      log := w.rotationLog now ++ if isEstimate then w'.mergeLog else [] }

/-- The number of recordings that are filed under a boundary or an earlier one. -/
def filedUpTo (w : Window) (boundary : Nat) : Nat :=
  w.phases.foldr (fun p soFar => p.filedUpTo boundary + soFar) 0

/-- The number of recordings that do not exceed an amount: exact for a boundary, otherwise estimated. -/
def countAtMost (w : Window) (now : Nat) (amount : Float) : Outcome Window Float :=
  if Amount.isAccepted amount then
    let w' := w.rotate now
    match w'.boundaries.findIdx? (· == amount) with
    | some boundary => ⟨Float.ofNat (w'.filedUpTo boundary), w', w.rotationLog now⟩
    | none =>
      { value := Float.ofNat (w'.merged.countUpTo w'.precision (w'.scaled amount))
        state := w'
        log := w.rotationLog now ++ w'.mergeLog }
  else ⟨0.0, w, []⟩

/-- The amounts of all percentiles to publish, from one look at the recordings. -/
def percentileValues (w : Window) (now : Nat) : Outcome Window (List Percentile) :=
  if w.percentiles.isEmpty then ⟨[], w, []⟩
  else
    let w' := w.rotate now
    let e := w'.merged
    { value := w'.percentiles.map fun part => ⟨part, w'.quantile e part⟩
      state := w'
      log := w.rotationLog now ++ w'.mergeLog }

/-- The number of recordings at or below each boundary. -/
def boundaryCounts (w : Window) (now : Nat) : Outcome Window (List BoundaryCount) :=
  let w' := w.rotate now
  { value := w'.boundaries.mapIdx fun i b => ⟨b, Float.ofNat (w'.filedUpTo i)⟩
    state := w'
    log := w.rotationLog now }

end Window

end StepMeters
