import StepMeters.Proofs.Window.Ordering

/-!
# Safety of windows

A window reckons in words of 64 bits, and keeps its phases and the counters of its boundaries at places of lists.
`Window.IsSafe` says what it relies on when the clock shows some time: no divisor is zero, no place is outside its
list, and nothing is reckoned that does not fit into a word. None of this is checked when a window is used. It
follows from the settings being accepted, whatever was done with the window since, and also if the clock goes back
(`isSafe_run`). The reason is that a phase takes a millisecond at least and that phases are numbered by 32 bits,
so the phases that can ever elapse leave room for the place of the current one.
-/

namespace StepMeters.Window

/-- The window of settings if estimators come from elsewhere and may be refused. They are asked for by the least
number that is told apart from zero, the greatest number, and the digits to keep. -/
def ofSettingsBy (offers : Nat → Nat → Nat → Bool) (s : Distribution.Settings) (now : Nat) :
    Except ConfigError Window :=
  match s.fault? with
  | none =>
    if offers 1 (UInt64.size - 1) s.precision then .ok (new s now)
    else .error (.precisionOutOfRange s.precision)
  | some fault => .error fault

/-- What the operations of a window rely on when the clock shows `now`. -/
structure IsSafe (w : Window) (now : Nat) : Prop where
  /-- The time since the last rotation is divided by the length of a phase. -/
  phaseNanos : 0 < w.phaseNanos
  /-- Places are brought back into the ring by its length. -/
  length : 0 < w.phases.length
  /-- An estimate is divided by the scale. -/
  scale : 0.0 < w.scale
  /-- The place to which the ring moves is a word, before it is brought back into the ring. -/
  place : w.current + w.elapsed now < UInt64.size
  /-- The time to which the ring moves is a word. -/
  time : w.lastRotation + w.elapsed now * w.phaseNanos < UInt64.size
  /-- The current phase is one of the ring, before a rotation and after it. -/
  current : w.current < w.phases.length
  rotated : (w.rotate now).current < (w.rotate now).phases.length
  /-- Every phase has a counter for each boundary, so all of them may be listed. -/
  counters : ∀ p ∈ (w.rotate now).phases, p.filed.length = w.boundaries.length
  /-- There is a counter at the place under which an amount is filed. -/
  filed : ∀ amount place, (w.rotate now).boundaryOf? amount = some place → place < w.boundaries.length
  /-- There is a counter at the place of a boundary that is asked for. -/
  found : ∀ amount place, (w.rotate now).boundaries.findIdx? (· == amount) = some place →
    place < w.boundaries.length

/-- A rotation does not move the ring ahead of the clock. -/
lemma lastRotation_add_le_max (w : Window) (now : Nat) :
    w.lastRotation + w.elapsed now * w.phaseNanos ≤ Max.max w.lastRotation now := by
  have whole : w.elapsed now * w.phaseNanos ≤ now - w.lastRotation := Nat.div_mul_le_self _ _
  omega

/-- Phases of some least length end at most as often as this fits the time. -/
lemma elapsed_le (w : Window) {least : Nat} (pos : 0 < least) (h : least ≤ w.phaseNanos) (now : Nat) :
    w.elapsed now ≤ now / least :=
  (Nat.div_le_div_left h pos).trans (Nat.div_le_div_right (Nat.sub_le now _))

section Holds
variable {w : Window} {slots : Slots} {slot seen : Nat} {l : Ledger}

/-- The current phase is one of the ring. -/
lemma Holds.current_lt (h : w.Holds slots slot l) : w.current < w.phases.length := by
  rw [h.current, h.length]
  exact Nat.mod_lt _ h.length_pos

/-- Every phase of the ring has a counter for each boundary. -/
lemma Holds.length_filed (h : w.Holds slots slot l) : ∀ p ∈ w.phases, p.filed.length = w.boundaries.length := by
  rw [h.phases_eq]
  intro p mem
  obtain ⟨place, -, rfl⟩ := List.mem_map.1 mem
  exact w.length_filed_phaseOf _

/-- The last rotation is not later than the latest reading that a window has seen. -/
lemma Holds.lastRotation_le (h : w.Holds slots (slots.slotAt seen) l) (started : slots.origin ≤ seen) :
    w.lastRotation ≤ seen := by
  have whole : slots.slotAt seen * slots.nanos ≤ seen - slots.origin := Nat.div_mul_le_self _ _
  rw [h.lastRotation]
  omega

/-- A window that holds a ledger is safe to use at all times that are words. -/
lemma Holds.isSafe (h : w.Holds slots (slots.slotAt seen) l) (scale : 0.0 < w.scale)
    (long : 1000000 ≤ w.phaseNanos) (few : slots.length < UInt32.size) (started : slots.origin ≤ seen)
    (seen_lt : seen < UInt64.size) {now : Nat} (now_lt : now < UInt64.size) : w.IsSafe now := by
  have rotated := h.rotate now
  have boundaries := w.boundaries_rotate now
  have current := h.length ▸ h.current_lt
  have elapsed := w.elapsed_le (by decide) long now
  have time := w.lastRotation_add_le_max now
  have last := h.lastRotation_le started
  refine
    { phaseNanos := Nat.lt_of_lt_of_le (by decide) long
      length := h.length.symm ▸ h.length_pos
      scale, place := ?_, time := ?_
      current := h.current_lt
      rotated := rotated.current_lt
      counters := boundaries ▸ rotated.length_filed
      filed := fun amount place here => boundaries ▸ boundaryOf?_lt here
      found := fun amount place here => boundaries ▸ (List.findIdx?_eq_some_iff_getElem.1 here).1 }
  · simp only [UInt32.size, UInt64.size] at few now_lt ⊢
    omega
  · omega

end Holds

/-- The latest reading is not before the first one. -/
lemma le_latest (percentiles : List Float) (seen : Nat) (visits : List Visit) :
    seen ≤ latest percentiles seen visits := by
  induction visits generalizing seen with
  | nil => exact Nat.le_refl seen
  | cons visit rest ih =>
    refine Nat.le_trans ?_ (ih (visit.latest percentiles seen))
    rw [Visit.latest]
    split
    · exact Nat.le_max_left _ _
    · exact Nat.le_refl seen

/-- Amounts are kept to parts of the lesser of one and an accepted minimum, which is above zero. -/
lemma zero_lt_least_one {minimum : Float} (pos : 0.0 < minimum) : 0.0 < Amount.least minimum 1.0 := by
  have one : (0.0 : Float) < 1.0 := by decide
  rcases Amount.le_or_lt (Amount.lt_iff.1 pos).2.1 (Amount.lt_iff.1 one).2.1 with small | large
  · rwa [Amount.least_of_le small]
  · rwa [Amount.least_of_lt large]

/-- Settings that are accepted make every later operation safe. The window is created, by divisors that are not zero,
if only there are estimators for up to five digits; its phases take a millisecond at least and together not more
than the expiry. After any run of visits, whatever the clock has shown, the last rotation is not later than the
latest reading seen, and whatever is done next is safe. -/
theorem isSafe_run {offers : Nat → Nat → Nat → Bool}
    (serves : ∀ least greatest digits, 0 < least → 2 * least ≤ greatest → greatest < UInt64.size → digits ≤ 5 →
      offers least greatest digits = true)
    {s : Distribution.Settings} (accepted : s.fault? = none) {start : Nat} (start_lt : start < UInt64.size) :
    ∃ w, ofSettingsBy offers s start = .ok w ∧ ofSettings s start = .ok w ∧
      0 < s.bufferLength ∧ 0.0 < Amount.least s.minimum 1.0 ∧
      1000000 ≤ w.phaseNanos ∧ w.phaseNanos * s.bufferLength ≤ s.expiry.nanos ∧
      ∀ past : List Visit, (∀ visit ∈ past, visit.reading < UInt64.size) →
        (w.run past).lastRotation ≤ latest s.percentiles start past ∧
          ∀ now < UInt64.size, (w.run past).IsSafe now := by
  have valid := Distribution.Settings.fault?_eq_none_iff.1 accepted
  have created : ofSettings s start = .ok (new s start) := by rw [ofSettings, accepted]
  have offered := serves 1 (UInt64.size - 1) s.precision (by decide) (by decide) (by decide) valid.precision
  have long := (phaseNanos_new accepted start).2
  have whole := length_mul_phaseNanos_le accepted start
  rw [Nat.mul_comm] at whole
  refine ⟨new s start, ?_, created, valid.bufferLength_pos,
    zero_lt_least_one (Distribution.Settings.minimum_pos accepted), long, whole, fun past words => ?_⟩
  · rw [ofSettingsBy, accepted]
    exact if_pos offered
  · obtain ⟨holds, like⟩ := holds_run created past
    have started := le_latest s.percentiles start past
    -- the latest reading is one of those that were made, or the first one
    have latest_lt : latest s.percentiles start past < UInt64.size :=
      Nat.lt_of_le_pred (by decide) (latest_le (Nat.le_pred_of_lt start_lt) fun visit mem =>
        Nat.le_pred_of_lt (words visit mem))
    refine ⟨holds.lastRotation_le started, fun now now_lt => ?_⟩
    exact holds.isSafe (like.scale ▸ zero_lt_scale created) (holds.nanos ▸ long) valid.bufferLength_lt started
      latest_lt now_lt

/-- An expiry of more nanoseconds than a word can count, and a clock that shows the greatest word and then goes back.
The last rotation stays as far ahead as the clock has been. -/
theorem isSafe_run_extremes :
    let offers (least greatest digits : Nat) : Bool := 0 < least && 2 * least ≤ greatest && digits ≤ 5
    let s : Distribution.Settings := { objectives := [2.0], expiry := .ofSeconds UInt64.size }
    let top := UInt64.size - 1
    let past : List Visit := [⟨top, .record 2.0⟩, ⟨3, .record 1.0⟩]
    let w := new s 7
    s.fault? = none ∧ top < s.expiry.nanos ∧ (∀ visit ∈ past, visit.reading < UInt64.size) ∧
      ofSettingsBy offers s 7 = .ok w ∧ w.phaseNanos * 3 ≤ s.expiry.nanos ∧
      (w.run past).current = 2 ∧ (w.run past).lastRotation = 7 + 2 * (top / 3) ∧
      (w.run past).lastRotation ≤ top ∧ (w.run past).IsSafe 3 ∧ (w.run past).IsSafe top := by
  intro offers s top past w
  have accepted : s.fault? = none := by decide +kernel
  have words : ∀ visit ∈ past, visit.reading < UInt64.size := by decide
  have serves (least greatest digits : Nat) (pos : 0 < least) (wide : 2 * least ≤ greatest)
      (_ : greatest < UInt64.size) (few : digits ≤ 5) : offers least greatest digits = true := by
    simp [offers, pos, wide, few]
  obtain ⟨_, made, created, -, -, -, whole, run⟩ := isSafe_run serves accepted (show 7 < UInt64.size by decide)
  obtain ⟨-, rfl⟩ := new_of_ofSettings created
  obtain ⟨last, safe⟩ := run past words
  exact ⟨accepted, by decide, words, made, whole, by decide +kernel, by decide +kernel,
    last.trans (by decide +kernel), safe 3 (by decide), safe top (by decide)⟩

end StepMeters.Window
