import StepMeters.Proofs.Window.History

/-!
# Windows that catch up

How far a ring moves depends only on the time since it began to move: moving to one time and from there to a later
one ends where moving to the later time at once does (`Window.rotate_rotate`). So it makes no difference to a window
whether it was looked at in between (`Window.rotate_run_of_looks`), nor to the answers that it gives.
-/

namespace StepMeters.Window
variable {w : Window} {now later : Nat}

/-- A window whose ring has moved on by some phases. -/
def moved (w : Window) (steps : Nat) : Window :=
  if steps = 0 then w
  else
    { w with
      phases := w.cleared (min steps w.phases.length)
      current := (w.current + steps) % w.phases.length
      lastRotation := w.lastRotation + steps * w.phaseNanos }

/-- A rotation moves the ring on by the phases that have ended. -/
lemma rotate_eq_moved (w : Window) (now : Nat) : w.rotate now = w.moved (w.elapsed now) := rfl

/-- Moving on by some phases clears as many, goes to the last of them and lets it begin on time. -/
lemma moved_of_ne (w : Window) {steps : Nat} (some : steps ≠ 0) : w.moved steps = { w with
    phases := w.cleared (min steps w.phases.length)
    current := (w.current + steps) % w.phases.length
    lastRotation := w.lastRotation + steps * w.phaseNanos } :=
  if_neg some

/-- Moving on keeps the ring as long as it is. -/
@[simp] lemma length_phases_moved (w : Window) (steps : Nat) :
    (w.moved steps).phases.length = w.phases.length := by
  rw [moved]
  split
  · rfl
  · exact w.length_cleared _

/-- How far a place of a ring is ahead of the one after the current. -/
lemma ring_ahead {place current length : Nat} (inside : place < length) (currentInside : current < length) :
    (place + length - (current + 1)) % length
      = if current < place then place - (current + 1) else place + length - (current + 1) := by
  split
  · rw [Nat.mod_eq_sub_mod (by omega), Nat.mod_eq_of_lt (by omega)]
    omega
  · exact Nat.mod_eq_of_lt (by omega)

/-- What is ahead of the current place is as much nearer as the ring has moved, until it is reached. -/
lemma ring_ahead_add {place current length : Nat} (inside : place < length) (currentInside : current < length)
    {steps : Nat} (short : steps ≤ (place + length - (current + 1)) % length) :
    (place + length - ((current + steps) % length + 1)) % length
      = (place + length - (current + 1)) % length - steps := by
  have bound : (place + length - (current + 1)) % length < length := Nat.mod_lt _ (by omega)
  have next : (current + steps) % length
      = if current + steps < length then current + steps else current + steps - length := by
    split
    · exact Nat.mod_eq_of_lt (by assumption)
    · rw [Nat.mod_eq_sub_mod (by omega), Nat.mod_eq_of_lt (by omega)]
  rw [ring_ahead inside (Nat.mod_lt _ (by omega)), next]
  rw [ring_ahead inside currentInside] at short ⊢
  split at short <;> split <;> split <;> omega

/-- A ring that moves twice clears the phases that it would clear if it moved at once. -/
lemma cleared_cleared (ring : w.current < w.phases.length) {first second : Nat} (some : first ≠ 0) :
    (w.moved first).cleared (min second w.phases.length) = w.cleared (min (first + second) w.phases.length) := by
  apply List.ext_getElem
  · rw [length_cleared, length_cleared, length_phases_moved]
  · intro place bound bound'
    have inside : place < w.phases.length := by rwa [length_cleared] at bound'
    have reach : (place + w.phases.length - (w.current + 1)) % w.phases.length < w.phases.length :=
      Nat.mod_lt _ (by omega)
    have reach' : (place + w.phases.length - ((w.current + first) % w.phases.length + 1)) % w.phases.length
        < w.phases.length := Nat.mod_lt _ (by omega)
    have nearer : first ≤ (place + w.phases.length - (w.current + 1)) % w.phases.length → _ :=
      ring_ahead_add inside ring
    simp only [cleared, List.getElem_mapIdx, length_phases_moved]
    simp only [w.moved_of_ne some, cleared, List.getElem_mapIdx, Nat.lt_min, reach, reach', and_true]
    generalize (place + w.phases.length - (w.current + 1)) % w.phases.length = ahead at nearer ⊢
    rcases Nat.lt_or_ge ahead first with passed | kept
    · -- the first move has cleared the phase already
      rw [if_pos passed, if_pos (Nat.lt_add_right second passed), ite_self]
    · rw [nearer kept, if_neg (Nat.not_lt.2 kept)]
      congr 1
      rw [eq_iff_iff]
      omega

/-- A ring that moves twice ends where it ends if it moves at once. -/
lemma moved_moved (ring : w.current < w.phases.length) (first second : Nat) :
    (w.moved first).moved second = w.moved (first + second) := by
  by_cases none : first = 0
  · rw [none, Nat.zero_add]
    rfl
  by_cases last : second = 0
  · rw [last]
    rfl
  rw [moved_of_ne _ last, length_phases_moved, cleared_cleared ring none, w.moved_of_ne none,
    w.moved_of_ne (by omega)]
  simp only [Nat.mod_add_mod, Nat.add_assoc, Nat.add_mul]

/-- More phases have ended by a later time. -/
lemma elapsed_mono (w : Window) (le : now ≤ later) : w.elapsed now ≤ w.elapsed later :=
  Nat.div_le_div_right (Nat.sub_le_sub_right le _)

/-- What is left to elapse after a rotation. -/
lemma elapsed_rotate (w : Window) (now later : Nat) :
    (w.rotate now).elapsed later = w.elapsed later - w.elapsed now := by
  unfold rotate
  dsimp only
  split
  · omega
  · rw [elapsed, Nat.sub_add_eq, Nat.mul_comm, Nat.sub_mul_div]
    rfl

/-- Moving to one time and then to a later one is moving to the later one. -/
lemma rotate_rotate (ring : w.current < w.phases.length) (le : now ≤ later) :
    (w.rotate now).rotate later = w.rotate later := by
  have most := w.elapsed_mono le
  rw [rotate_eq_moved _ later, elapsed_rotate, rotate_eq_moved w now, moved_moved ring,
    Nat.add_sub_cancel' most]
  rfl

/-- Moving twice to the same time is moving once. -/
@[simp] lemma rotate_rotate_self (w : Window) (now : Nat) : (w.rotate now).rotate now = w.rotate now := by
  rw [rotate_eq_moved, elapsed_rotate, Nat.sub_self]
  rfl

/-- A visit that records nothing moves the ring at most. -/
lemma rotate_apply_of_look (w : Window) {visit : Visit} (look : visit.action.amount? = none) :
    (w.apply visit).rotate visit.reading = w.rotate visit.reading := by
  rw [apply_eq, look]
  dsimp only
  split
  · exact w.rotate_rotate_self visit.reading
  · rfl

/-- After looks at one time a window stands where a single look would have taken it. -/
lemma rotate_run_of_looks (w : Window) {visits : List Visit}
    (looks : ∀ visit ∈ visits, visit.reading = now ∧ visit.action.amount? = none) :
    (w.run visits).rotate now = w.rotate now := by
  induction visits generalizing w with
  | nil => rfl
  | cons visit rest ih =>
    obtain ⟨rfl, look⟩ := looks visit List.mem_cons_self
    refine (ih _ fun v mem => looks v (List.mem_cons_of_mem _ mem)).trans ?_
    exact w.rotate_apply_of_look look

/-- Whether the ring has moved before a visit makes no difference after it. -/
lemma rotate_apply_rotate (w : Window) (visit : Visit) :
    ((w.rotate visit.reading).apply visit).rotate visit.reading = (w.apply visit).rotate visit.reading := by
  rw [apply_eq, apply_eq, rotate_rotate_self]
  cases visit.action.amount? with
  | some amount => rfl
  | none =>
    rw [(w.isLike_rotate visit.reading).percentiles]
    dsimp only
    split
    · rfl
    · exact w.rotate_rotate_self visit.reading

/-- A percentile does not depend on whether the window has already moved to its time. -/
lemma value_percentile_rotate (w : Window) (now : Nat) (part : Float) :
    ((w.rotate now).percentile now part).value = (w.percentile now part).value := by
  unfold percentile
  rw [rotate_rotate_self]
  split <;> rfl

/-- A count does not depend on whether the window has already moved to its time. -/
lemma value_countAtMost_rotate (w : Window) (now : Nat) (amount : Float) :
    ((w.rotate now).countAtMost now amount).value = (w.countAtMost now amount).value := by
  unfold countAtMost
  rw [rotate_rotate_self]
  split
  · dsimp only
    split <;> rfl
  · rfl

/-- Published percentiles do not depend on whether the window has already moved to their time. -/
lemma value_percentileValues_rotate (w : Window) (now : Nat) :
    ((w.rotate now).percentileValues now).value = (w.percentileValues now).value := by
  unfold percentileValues
  rw [rotate_rotate_self, (w.isLike_rotate now).percentiles]
  split <;> rfl

/-- Published boundary counts do not depend on whether the window has already moved to their time. -/
lemma value_boundaryCounts_rotate (w : Window) (now : Nat) :
    ((w.rotate now).boundaryCounts now).value = (w.boundaryCounts now).value := by
  unfold boundaryCounts
  rw [rotate_rotate_self]

/-- Asking for the percentiles first makes no difference to the boundaries. -/
lemma value_boundaryCounts_percentileValues (w : Window) (now : Nat) :
    ((w.percentileValues now).state.boundaryCounts now).value = (w.boundaryCounts now).value := by
  have same : (w.percentileValues now).state.rotate now = w.rotate now :=
    w.rotate_apply_of_look (show (Visit.mk now .percentileValues).action.amount? = none from rfl)
  rw [← value_boundaryCounts_rotate, same, value_boundaryCounts_rotate]

end StepMeters.Window
