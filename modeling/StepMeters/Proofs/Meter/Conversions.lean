import StepMeters.Proofs.Meter.Gauges
import StepMeters.Proofs.Window.Estimating

/-!
# Boundaries in the unit of a timer

A timer lists its boundaries in its base unit, and takes questions in this unit. What it lists for a boundary is
divided by the unit and rounded, and what is asked for is multiplied by the unit and rounded again. Both together may
miss the boundary (`Instrument.conversions_misses`); then an estimate answers, as for any other amount. Boundaries
that are whole numbers of the unit are met again, and so are all boundaries of a timer of nanoseconds
(`Instrument.conversions_run`).
-/

namespace StepMeters

namespace TimeUnit

/-- The nanoseconds in one unit, as a whole number. -/
def wholeNanos : TimeUnit → ℕ
  | .nanoseconds => 1
  | .microseconds => 1000
  | .milliseconds => 1000000
  | .seconds => 1000000000
  | .minutes => 60000000000
  | .hours => 3600000000000
  | .days => 86400000000000

/-- The factor of a unit is a whole number of nanoseconds, and exactly represented. -/
lemma hasValue_nanos (unit : TimeUnit) : Amount.HasValue unit.nanos unit.wholeNanos := by
  apply Amount.hasValue_literal
  · cases unit <;> rfl
  · cases unit <;> decide

/-- No unit is without length. -/
lemma wholeNanos_pos (unit : TimeUnit) : 0 < unit.wholeNanos := by
  cases unit <;> decide

section Conversion
variable {unit : TimeUnit} {b : Float}

/-- If nothing is rounded away from a quotient, the amount itself is met again. -/
lemma toNanos_ofNanos_beq {v w : ℚ} (value : Amount.HasValue b v) (exactly : Amount.HasValue (unit.ofNanos b) w)
    (same : w * unit.wholeNanos = v) : (unit.toNanos (unit.ofNanos b) == b) = true := by
  have product := Amount.approximates_mul exactly unit.hasValue_nanos
  rw [same] at product
  exact (product.hasValue value).beq value

/-- Infinity stays what it is. -/
lemma toNanos_ofNanos_beq_of_infinity (infinite : b.toModel.unpack = .infinity .positive) :
    (unit.toNanos (unit.ofNanos b) == b) = true := by
  have positive : (0 : ℚ) < unit.wholeNanos := by exact_mod_cast unit.wholeNanos_pos
  have quotient : (unit.ofNanos b).toModel.unpack = .infinity .positive :=
    Amount.unpack_div_infinity infinite (unit.hasValue_nanos.isNumber positive)
  have product : (unit.toNanos (unit.ofNanos b)).toModel.unpack = .infinity .positive :=
    Amount.unpack_mul_infinity (Amount.pos_of_infinity quotient) (unit.hasValue_nanos.zero_lt positive)
      (.inl quotient)
  exact Amount.beq_of_le (Amount.le_infinity (Amount.zero_le_infinity product) infinite)
    (Amount.le_infinity (Amount.zero_le_infinity infinite) product)

/-- One nanosecond is no conversion. -/
lemma nanoseconds_toNanos_ofNanos_beq (nonneg : 0.0 ≤ b) :
    (nanoseconds.toNanos (nanoseconds.ofNanos b) == b) = true := by
  rcases Amount.exists_value_or_infinity nonneg with ⟨v, value⟩ | infinite
  · have one : ((nanoseconds.wholeNanos : ℕ) : ℚ) = 1 := Nat.cast_one
    have quotient := Amount.approximates_div value nanoseconds.hasValue_nanos (one ▸ one_pos)
    rw [one, div_one] at quotient
    exact toNanos_ofNanos_beq value (quotient.hasValue value) (by rw [one, mul_one])
  · exact toNanos_ofNanos_beq_of_infinity infinite

/-- Whole numbers of a unit that no rounding touches are met again. -/
lemma whole_toNanos_ofNanos_beq {k : ℕ} (few : k * unit.wholeNanos ≤ 2 ^ 53)
    (whole : (b == Float.ofNat (k * unit.wholeNanos)) = true) : (unit.toNanos (unit.ofNanos b) == b) = true := by
  have length : (0 : ℚ) < unit.wholeNanos := by exact_mod_cast unit.wholeNanos_pos
  have value : Amount.HasValue b ((k * unit.wholeNanos : ℕ) : ℚ) := (Amount.hasValue_ofNat few).of_beq whole
  have quotient := Amount.approximates_div value unit.hasValue_nanos length
  rw [Nat.cast_mul, mul_div_cancel_right₀ _ length.ne'] at quotient
  have units : k ≤ 2 ^ 53 := (Nat.le_mul_of_pos_right k unit.wholeNanos_pos).trans few
  exact toNanos_ofNanos_beq value (quotient.hasValue (Amount.hasValue_ofNat units)) (Nat.cast_mul ..).symm

end Conversion

end TimeUnit

namespace Instrument

/-- What a timer answers in its base unit for what it lists for a boundary, whatever was done with it before. The
snapshot lists the boundary in the base unit, with the number of the recordings inside the window that do not exceed
it. Whoever asks for the listed amount is told the exact number for the boundary that the amount meets again when it
is converted to nanoseconds, and otherwise an estimate. The boundary itself is met if the unit is a nanosecond, and
if the boundary is a whole number of units up to `2 ^ 53` nanoseconds. -/
theorem conversions_run {options : Distribution.Options} {c : Configuration} {start : Moment} {i : Instrument}
    (built : (Blueprint.timer options).build c start = .ok i) (visits : List Visit) (m : Moment) {n : Nat}
    {b : Float} (listed : (options.layeredOver c.distribution).settings.boundaries[n]? = some b) :
    let s := (options.layeredOver c.distribution).settings
    let w := Window.new s start.monotonic
    let recordings := Window.windowed s start.monotonic (i.watched visits) m.monotonic
    let shown := c.baseUnit.ofNanos b
    let asked := c.baseUnit.toNanos shown
    let answer := ((i.run visits).countAtMost? m none shown).map Outcome.value
    (∃ snapshot, ((i.run visits).snapshot? m).map Outcome.value = some snapshot ∧
      snapshot.boundaries[n]? = some ⟨shown, Float.ofNat (Window.atMost recordings b)⟩) ∧
    (∀ b' ∈ s.boundaries, (asked == b') = true → answer = some (Float.ofNat (Window.atMost recordings b'))) ∧
    (Window.IsBetween s asked →
      answer = some (Float.ofNat (w.upToCell (w.mergeable recordings) asked))) ∧
    (c.baseUnit = .nanoseconds → (asked == b) = true) ∧
    ∀ k, k * c.baseUnit.wholeNanos ≤ 2 ^ 53 → (b == Float.ofNat (k * c.baseUnit.wholeNanos)) = true →
      (asked == b) = true := by
  intro s w recordings shown asked answer
  obtain ⟨window, has, created⟩ := window?_build built (s := s) rfl
  obtain ⟨faultless, new⟩ := Window.new_of_ofSettings created
  have takes : (i.run visits).recorder? = some (.timer c.baseUnit) :=
    (recorder?_run i visits).trans (recorder?_build built)
  have has' : (i.run visits).window? = some (window.run (i.watched visits)) := by
    rw [window?_run, has]
    rfl
  -- the snapshot and the single question look at one window, so both count the same recordings
  have counted : answer = some ((window.run (i.watched visits)).countAtMost m.monotonic asked).value :=
    value_countAtMost_window takes has' m none shown
  have pos : 0.0 < b :=
    ((Distribution.Settings.collects_boundaries faultless).2.1 b (List.mem_of_getElem? listed)).pos faultless
  refine ⟨?_, fun b' mem same => ?_, fun between => ?_, fun nanos => ?_, fun k few whole => ?_⟩
  · obtain ⟨snapshot, taken, -, boundaries⟩ := exists_snapshot_window takes has' m
    refine ⟨snapshot, taken, ?_⟩
    rw [boundaries, Window.value_boundaryCounts_run created, List.getElem?_map, List.getElem?_map, listed]
    rfl
  · rw [counted, Window.value_countAtMost_run created _ _ mem same]
  · rw [counted, Window.value_countAtMost_of_isBetween created _ _ between, ← new]
  · show (c.baseUnit.toNanos (c.baseUnit.ofNanos b) == b) = true
    rw [nanos]
    exact TimeUnit.nanoseconds_toNanos_ofNanos_beq (Amount.le_of_lt pos)
  · exact TimeUnit.whole_toNanos_ofNanos_beq few whole

/-- An objective of twenty milliseconds in a timer of milliseconds, which one of two recordings does not exceed. -/
theorem conversions_run_milliseconds :
    let at' (seconds : Nat) : Moment := { wall := seconds * 1000, monotonic := seconds * 1000000000 }
    let options : Distribution.Options := { objectives := some [20000000.0] }
    let visits : List Visit := [⟨at' 1, .record (.duration (Duration.ofMillis 10))⟩,
      ⟨at' 2, .record (.duration (Duration.ofMillis 40))⟩]
    let shown := TimeUnit.milliseconds.ofNanos 20000000.0
    ∃ i, (Blueprint.timer options).build {} (at' 0) = .ok i ∧
      (∃ snapshot, ((i.run visits).snapshot? (at' 3)).map Outcome.value = some snapshot ∧
        snapshot.boundaries[0]? = some ⟨shown, 1.0⟩) ∧
      ((i.run visits).countAtMost? (at' 3) none shown).map Outcome.value = some 1.0 := by
  intro at' options visits shown
  let s : Distribution.Settings := { objectives := [20000000.0] }
  have faultless : s.fault? = none := by decide +kernel
  have created : Window.ofSettings s 0 = .ok (Window.new s 0) := by rw [Window.ofSettings, faultless]
  let i : Instrument :=
    .timer { unit := .milliseconds, nanos := { steps := .new 60000 0, window := Window.new s 0 } }
  have built : (Blueprint.timer options).build {} (at' 0) = .ok i := by
    show ((Window.ofSettings s 0).map _).map _ = _
    rw [created]
    rfl
  have listed : s.boundaries[0]? = some 20000000.0 := by decide +kernel
  obtain ⟨snapshot, exact, -, -, whole⟩ := conversions_run built visits (at' 3) listed
  have one :
      Float.ofNat (Window.atMost (Window.windowed s 0 (i.watched visits) (at' 3).monotonic) 20000000.0) = 1.0 := by
    decide +kernel
  have met := whole 20 (by decide) (by decide +kernel)
  have answer := exact 20000000.0 (List.mem_of_getElem? listed) met
  exact ⟨i, built, one ▸ snapshot, one ▸ answer⟩

/-- An objective of 67 milliseconds in a timer of seconds. The snapshot lists it as 0.067 seconds with no recordings,
for the one of 68 milliseconds exceeds it. But converted back 0.067 seconds are not the objective but the next amount
above it, and the estimate for this amount counts the recording. -/
theorem conversions_misses :
    let at' (seconds : Nat) : Moment := { wall := seconds * 1000, monotonic := seconds * 1000000000 }
    let options : Distribution.Options := { objectives := some [67000000.0] }
    let visits : List Visit := [⟨at' 1, .record (.duration (Duration.ofMillis 68))⟩]
    let shown := TimeUnit.seconds.ofNanos 67000000.0
    let recordings (i : Instrument) :=
      Window.windowed { objectives := [67000000.0] } 0 (i.watched visits) (at' 2).monotonic
    ∃ i, (Blueprint.timer options).build { baseUnit := .seconds } (at' 0) = .ok i ∧
      ((i.run visits).snapshot? (at' 2)).map (fun outcome =>
        outcome.value.boundaries.map fun entry => (entry.boundary, entry.count)) = some [(shown, 0.0)] ∧
      Window.atMost (recordings i) 67000000.0 = 0 ∧
      ((i.run visits).countAtMost? (at' 2) none shown).map Outcome.value = some 1.0 := by
  intro at' options visits shown recordings
  have answers : ((Blueprint.timer options).build { baseUnit := .seconds } (at' 0)).toOption.map (fun i =>
      (((i.run visits).snapshot? (at' 2)).map (fun outcome =>
        outcome.value.boundaries.map fun entry => (entry.boundary, entry.count)),
      Window.atMost (recordings i) 67000000.0,
      ((i.run visits).countAtMost? (at' 2) none shown).map Outcome.value))
      = some (some [(shown, 0.0)], 0, some 1.0) := by decide +kernel
  cases built : (Blueprint.timer options).build { baseUnit := .seconds } (at' 0) with
  | error fault =>
    rw [built] at answers
    cases answers
  | ok i =>
    rw [built] at answers
    obtain ⟨snapshot, rest⟩ := Prod.mk.inj (Option.some.inj answers)
    obtain ⟨none, answer⟩ := Prod.mk.inj rest
    exact ⟨i, rfl, snapshot, none, answer⟩

end Instrument

end StepMeters
