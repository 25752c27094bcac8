import Mathlib.Tactic.Lemma
import StepMeters.Proofs.Ledger
import StepMeters.Window.Basic

/-!
# Rotation of windows

Time since the origin of a window is cut into slots of one phase each. `Window.Holds` says that the ring is
exactly the recent part of a ledger of slots: the phase at a place holds, in order, the amounts of the one
recent slot that falls onto this place. A rotation moves to the slot of the clock, whatever the gap, and
keeps this (`Holds.rotate`); so does filing an amount in the slot in force (`Holds.file`).
-/

namespace StepMeters

/-- How time is cut into slots, and how many of them a window covers. -/
structure Slots where
  /-- The monotonic time at which the first slot begins. -/
  origin : Nat
  /-- The nanoseconds in a slot. -/
  nanos : Nat
  /-- The number of slots that a window covers. -/
  length : Nat

/-- The slot of a reading of the monotonic clock. A reading before the origin belongs to the first slot. -/
def Slots.slotAt (slots : Slots) (reading : Nat) : Nat := (reading - slots.origin) / slots.nanos

/-- An entry is live in a slot if it belongs to one of the last slots up to this one. -/
def Entry.isLive (e : Entry) (slot length : Nat) : Bool := e.slice ≤ slot && slot < e.slice + length

/-- An entry is live from its own slot on, for as many slots as the ring has places. -/
lemma Entry.isLive_iff {e : Entry} {slot length : Nat} :
    e.isLive slot length = true ↔ e.slice ≤ slot ∧ slot < e.slice + length := by
  simp [isLive]

namespace Ledger

/-- The entries that are live in a slot. -/
def live (l : Ledger) (slot length : Nat) : Ledger := l.filter fun e => e.isLive slot length

/-- The amounts of the slots that fall onto one place of a ring, in order. -/
def atPlace (l : Ledger) (length place : Nat) : List Float :=
  (l.filter fun e => e.slice % length = place).map Entry.amount

/-- An entry comes last at the place of its slot. -/
lemma atPlace_concat_self (l : Ledger) (length slot : Nat) (amount : Float) :
    atPlace (l ++ [⟨slot, amount⟩]) length (slot % length) = l.atPlace length (slot % length) ++ [amount] := by
  simp [atPlace]

/-- An entry does not come to the places of other slots. -/
lemma atPlace_concat_of_ne (l : Ledger) {length place slot : Nat} (h : slot % length ≠ place) (amount : Float) :
    atPlace (l ++ [⟨slot, amount⟩]) length place = l.atPlace length place := by
  simp [atPlace, h]

/-- An entry of the current slot is live. -/
lemma live_concat (l : Ledger) {slot length : Nat} (h : 0 < length) (amount : Float) :
    live (l ++ [⟨slot, amount⟩]) slot length = l.live slot length ++ [⟨slot, amount⟩] := by
  simp [live, Entry.isLive, h]

end Ledger

/-- From the place after the current one on, a ring meets the recent slots from the oldest on. -/
lemma ring_distance {length slice slot : Nat} (le : slice ≤ slot) (recent : slot < slice + length) :
    slot + 1 + (slice % length + length - (slot % length + 1)) % length = slice + length := by
  obtain ⟨age, rfl⟩ := Nat.exists_eq_add_of_le le
  have short : age < length := by omega
  have place := Nat.mod_lt slice (Nat.zero_lt_of_lt short)
  rcases Nat.lt_or_ge (slice % length + age) length with inside | wraps
  · have current : (slice + age) % length = slice % length + age := by
      rw [Nat.add_mod, Nat.mod_eq_of_lt short, Nat.mod_eq_of_lt inside]
    rw [current, Nat.mod_eq_of_lt (by omega)]
    omega
  · have current : (slice + age) % length = slice % length + age - length := by
      rw [Nat.add_mod, Nat.mod_eq_of_lt short, Nat.mod_eq_sub_mod wraps, Nat.mod_eq_of_lt (by omega)]
    rw [current, Nat.mod_eq_sub_mod (by omega), Nat.mod_eq_of_lt (by omega)]
    omega

namespace Window

/-- A phase of a window after an amount was recorded in it. -/
def recorded (w : Window) (p : Phase) (amount : Float) : Phase :=
  p.record w.precision amount (w.boundaryOf? amount) (w.scaled amount)

/-- The phase of a window that holds some amounts, recorded in order. -/
def phaseOf (w : Window) (amounts : List Float) : Phase :=
  amounts.foldl w.recorded (Phase.empty w.boundaries.length)

/-- One more amount is recorded after the others. -/
lemma phaseOf_concat (w : Window) (amounts : List Float) (amount : Float) :
    w.phaseOf (amounts ++ [amount]) = w.recorded (w.phaseOf amounts) amount := by
  simp only [phaseOf, List.foldl_append, List.foldl_cons, List.foldl_nil]

/-- Phases are filled in the same way after a rotation. -/
lemma phaseOf_rotate (w : Window) (now : Nat) : (w.rotate now).phaseOf = w.phaseOf := by
  simp only [rotate]
  split <;> rfl

/-- The ring of a window is the recent part of a ledger of slots. -/
structure Holds (w : Window) (slots : Slots) (slot : Nat) (l : Ledger) : Prop where
  length : w.phases.length = slots.length
  length_pos : 0 < slots.length
  nanos : w.phaseNanos = slots.nanos
  nanos_pos : 0 < slots.nanos
  current : w.current = slot % slots.length
  lastRotation : w.lastRotation = slots.origin + slot * slots.nanos
  notAhead : ∀ e ∈ l, e.slice ≤ slot
  phases : ∀ place, (h : place < w.phases.length) →
    w.phases[place] = w.phaseOf ((l.live slot slots.length).atPlace slots.length place)

section Holds
variable {w : Window} {slots : Slots} {slot : Nat} {l : Ledger}

/-- The slot of the clock, unless the window has seen a later one. -/
lemma Holds.slot_add_elapsed (h : w.Holds slots slot l) (now : Nat) :
    slot + w.elapsed now = max slot (slots.slotAt now) := by
  have e : w.elapsed now = slots.slotAt now - slot := by
    rw [elapsed, h.lastRotation, h.nanos, Nat.sub_add_eq, Nat.mul_comm, Nat.sub_mul_div, Slots.slotAt]
  omega

/-- What is live at a place some slots later: nothing if the slot that falls onto it has gone by, and else
what was live there before. -/
lemma atPlace_live_add {length place : Nat} (notAhead : ∀ e ∈ l, e.slice ≤ slot) (steps : Nat) :
    (l.live (slot + steps) length).atPlace length place =
      if (place + length - (slot % length + 1)) % length < steps then []
      else (l.live slot length).atPlace length place := by
  split
  · -- a live entry at a cleared place would have to be younger than the slot the clock has reached
    rename_i cleared
    simp only [Ledger.atPlace, List.map_eq_nil_iff, List.filter_eq_nil_iff, decide_eq_true_eq]
    intro e he here
    obtain ⟨mem, live⟩ := List.mem_filter.1 he
    rw [Entry.isLive_iff] at live
    have distance := ring_distance (notAhead e mem) (by omega : slot < e.slice + length)
    rw [here] at distance
    omega
  · -- at a place that is kept, an entry is as live after the steps as before
    rename_i kept
    simp only [Ledger.atPlace, Ledger.live, List.filter_filter]
    congr 1
    apply List.filter_congr
    intro e he
    have old := notAhead e he
    rw [Bool.eq_iff_iff, Bool.and_eq_true, Bool.and_eq_true, Entry.isLive_iff, Entry.isLive_iff,
      decide_eq_true_iff]
    refine ⟨fun ⟨here, _, recent⟩ => ⟨here, old, by omega⟩, fun ⟨here, _, recent⟩ => ?_⟩
    have distance := ring_distance old recent
    rw [here] at distance
    exact ⟨here, by omega, by omega⟩

/-- A rotation moves to the slot of the clock and keeps what is recent there. -/
lemma Holds.rotate (h : w.Holds slots slot l) (now : Nat) :
    (w.rotate now).Holds slots (max slot (slots.slotAt now)) l := by
  rw [← h.slot_add_elapsed]
  by_cases idle : w.elapsed now = 0
  · -- the clock is still in the slot of the window, or shows less
    have e : w.rotate now = w := by simp [Window.rotate, idle]
    rw [e, idle, Nat.add_zero]
    exact h
  · have e : w.rotate now = { w with
        phases := w.cleared (min (w.elapsed now) w.phases.length)
        current := (w.current + w.elapsed now) % w.phases.length
        lastRotation := w.lastRotation + w.elapsed now * w.phaseNanos } := by
      simp [Window.rotate, idle]
    refine ⟨?_, h.length_pos, ?_, h.nanos_pos, ?_, ?_, ?_, ?_⟩
    · rw [length_phases_rotate, h.length]
    · rw [phaseNanos_rotate, h.nanos]
    · rw [e, h.length, h.current, Nat.mod_add_mod]
    · rw [e, h.lastRotation, h.nanos, Nat.add_mul, Nat.add_assoc]
    · intro x hx
      have := h.notAhead x hx
      omega
    · intro place bound
      have inside : place < w.phases.length := by rwa [length_phases_rotate] at bound
      -- no place is further ahead than the ring is long, so the bound on what is cleared takes nothing away
      have reach := Nat.mod_lt (place + slots.length - (slot % slots.length + 1)) h.length_pos
      have cleared : (w.rotate now).phases[place] =
          if (place + slots.length - (slot % slots.length + 1)) % slots.length < w.elapsed now then
            Phase.empty w.boundaries.length
          else w.phases[place] := by
        simp only [e, Window.cleared, List.getElem_mapIdx, h.current, h.length]
        congr 1
        rw [eq_iff_iff, Nat.lt_min]
        exact ⟨And.left, fun gone => ⟨gone, reach⟩⟩
      rw [cleared, phaseOf_rotate, atPlace_live_add h.notAhead, h.phases place inside]
      split <;> rfl

/-- An amount is filed in the slot in force. -/
lemma Holds.file (h : w.Holds slots slot l) (amount : Float) :
    (w.file amount).Holds slots slot (l ++ [⟨slot, amount⟩]) := by
  have length : (w.file amount).phases.length = w.phases.length := List.length_modify ..
  refine ⟨length.trans h.length, h.length_pos, h.nanos, h.nanos_pos, h.current, h.lastRotation, ?_, ?_⟩
  · intro e he
    rcases List.mem_append.1 he with he | he
    · exact h.notAhead e he
    · exact Nat.le_of_eq (congrArg Entry.slice (List.mem_singleton.1 he))
  · intro place bound
    have inside : place < w.phases.length := by rwa [length] at bound
    have filed : (w.file amount).phases[place] =
        if w.current = place then w.recorded w.phases[place] amount else w.phases[place] :=
      List.getElem_modify ..
    show _ = w.phaseOf _
    rw [filed, Ledger.live_concat l h.length_pos, h.current, h.phases place inside]
    split
    · rename_i here
      rw [← here, Ledger.atPlace_concat_self, phaseOf_concat]
    · rename_i elsewhere
      rw [Ledger.atPlace_concat_of_ne _ elsewhere]

end Holds

end Window

end StepMeters
