import StepMeters.Proofs.Distribution.Validation
import StepMeters.Proofs.Window.Contents

/-!
# Histories of windows

A window moves on whenever an operation happens to look at the clock, by any number of phases at once, and the
clock may stand still, jump, or show less than before. `Window.Holds` survives all of it, so a window shows
exactly the accepted recordings of its last slots (`shows_run`). The slot of an operation is that of the
latest reading that the window has seen.
-/

namespace StepMeters

/-- Later readings do not belong to earlier slots. -/
lemma Slots.slotAt_mono (slots : Slots) {r r' : Nat} (h : r ≤ r') : slots.slotAt r ≤ slots.slotAt r' :=
  Nat.div_le_div_right (Nat.sub_le_sub_right h _)

/-- The later one of two readings belongs to the later one of their slots. -/
lemma Slots.slotAt_max (slots : Slots) (r r' : Nat) :
    slots.slotAt (max r r') = max (slots.slotAt r) (slots.slotAt r') := by
  rcases Nat.le_total r r' with h | h
  · rw [Nat.max_eq_right h, Nat.max_eq_right (slots.slotAt_mono h)]
  · rw [Nat.max_eq_left h, Nat.max_eq_left (slots.slotAt_mono h)]

/-- An amount is live for all phases but one after it came. -/
lemma Entry.isLive_of_le (slots : Slots) (positive : 0 < slots.nanos) (length : 0 < slots.length)
    {reading now : Nat} (amount : Float) (order : reading ≤ now)
    (recent : now ≤ reading + (slots.length - 1) * slots.nanos) :
    isLive ⟨slots.slotAt reading, amount⟩ (slots.slotAt now) slots.length := by
  have reach : slots.slotAt now ≤ slots.slotAt reading + (slots.length - 1) := by
    rw [Slots.slotAt, Slots.slotAt, ← Nat.add_mul_div_right _ _ positive]
    exact Nat.div_le_div_right (by omega)
  have := slots.slotAt_mono order
  rw [isLive_iff]
  dsimp only
  omega

/-- An amount is not live any more when as many phases have passed as the window has. -/
lemma Entry.not_isLive_of_le (slots : Slots) (positive : 0 < slots.nanos) {reading now : Nat}
    (amount : Float) (started : slots.origin ≤ reading) (old : reading + slots.length * slots.nanos ≤ now) :
    ¬isLive ⟨slots.slotAt reading, amount⟩ (slots.slotAt now) slots.length := by
  have reach : slots.slotAt reading + slots.length ≤ slots.slotAt now := by
    rw [Slots.slotAt, Slots.slotAt, ← Nat.add_mul_div_right _ _ positive]
    exact Nat.div_le_div_right (by omega)
  rw [isLive_iff]
  dsimp only
  omega

namespace Window

/-- What can be done with a window. -/
inductive Action where
  /-- An amount is recorded; a whole number is recorded as an amount. -/
  | record (amount : Float)
  /-- The number of recordings and the greatest of them are asked for. -/
  | summarize
  | percentile (part : Float)
  | countAtMost (amount : Float)
  | percentileValues
  | boundaryCounts

/-- Whether an action looks at the clock. Amounts that are not accepted, undefined parts, and no percentiles
at all are answered without a look. -/
def Action.looks (percentiles : List Float) : Action → Bool
  | record amount => Amount.isAccepted amount
  | summarize => true
  | percentile part => !part.isNaN
  | countAtMost amount => Amount.isAccepted amount
  | percentileValues => !percentiles.isEmpty
  | boundaryCounts => true

/-- The amount that an action files, if it is accepted. -/
def Action.amount? : Action → Option Float
  | record amount => if Amount.isAccepted amount then some amount else none
  | _ => none

/-- An action, and what the monotonic clock shows at the time. -/
structure Visit where
  reading : Nat
  action : Action

/-- The latest reading that a window has seen after a visit. -/
def Visit.latest (percentiles : List Float) (seen : Nat) (visit : Visit) : Nat :=
  if visit.action.looks percentiles then Max.max seen visit.reading else seen

/-- The window after a visit. -/
def apply (w : Window) (visit : Visit) : Window :=
  match visit.action with
  | .record amount => (w.record visit.reading amount).state
  | .summarize => w.rotate visit.reading
  | .percentile part => (w.percentile visit.reading part).state
  | .countAtMost amount => (w.countAtMost visit.reading amount).state
  | .percentileValues => (w.percentileValues visit.reading).state
  | .boundaryCounts => (w.boundaryCounts visit.reading).state

/-- The window after a run of visits. -/
def run (w : Window) (visits : List Visit) : Window := visits.foldl apply w

/-- The latest reading that a window has seen after a run of visits. -/
def latest (percentiles : List Float) (seen : Nat) (visits : List Visit) : Nat :=
  visits.foldl (Visit.latest percentiles) seen

/-- All accepted recordings of a run, each with the slot of the latest reading seen by then. -/
def entries (percentiles : List Float) (slots : Slots) (seen : Nat) : List Visit → Ledger
  | [] => []
  | visit :: rest =>
    let seen' := visit.latest percentiles seen
    (visit.action.amount?.map (Entry.mk (slots.slotAt seen'))).toList ++ entries percentiles slots seen' rest

/-- What records an accepted amount looks at the clock. -/
lemma Action.looks_of_amount? {percentiles : List Float} {action : Action} {amount : Float}
    (h : action.amount? = some amount) : action.looks percentiles = true := by
  cases action with
  | record x =>
    rw [amount?] at h
    split at h
    · assumption
    · cases h
  | _ => cases h

/-- Only accepted amounts are recorded. -/
lemma Action.isAccepted_of_amount? {action : Action} {amount : Float} (h : action.amount? = some amount) :
    Amount.isAccepted amount = true := by
  cases action with
  | record x =>
    rw [amount?] at h
    split at h
    · cases h
      assumption
    · cases h
  | _ => cases h

/-- A visit rotates the ring if it looks at the clock, and then files what it records. -/
lemma apply_eq (w : Window) (visit : Visit) : w.apply visit =
    match visit.action.amount? with
    | some amount => (w.rotate visit.reading).file amount
    | none => if visit.action.looks w.percentiles then w.rotate visit.reading else w := by
  obtain ⟨reading, action⟩ := visit
  cases action with
  | record x =>
    by_cases h : Amount.isAccepted x = true
    · simp only [apply, record, Action.amount?, h, if_true]
    · simp only [apply, record, Action.amount?, Action.looks, h, Bool.false_eq_true, if_false]
  | summarize => rfl
  | percentile part =>
    by_cases h : part.isNaN = true
    · simp only [apply, percentile, Action.amount?, Action.looks, h, if_true, Bool.not_true,
        Bool.false_eq_true, if_false]
    · simp only [apply, percentile, Action.amount?, Action.looks, h, Bool.false_eq_true, if_false,
        Bool.not_false, if_true]
  | countAtMost x =>
    by_cases h : Amount.isAccepted x = true
    · simp only [apply, countAtMost, Action.amount?, Action.looks, h, if_true]
      split <;> rfl
    · simp only [apply, countAtMost, Action.amount?, Action.looks, h, Bool.false_eq_true, if_false]
  | percentileValues =>
    by_cases h : w.percentiles.isEmpty = true
    · simp only [apply, percentileValues, Action.amount?, Action.looks, h, if_true, Bool.not_true,
        Bool.false_eq_true, if_false]
    · simp only [apply, percentileValues, Action.amount?, Action.looks, h, Bool.false_eq_true, if_false,
        Bool.not_false, if_true]
  | boundaryCounts => rfl

/-- A window differs from another at most in its ring. -/
def IsLike (w w' : Window) : Prop :=
  w = { w' with phases := w.phases, current := w.current, lastRotation := w.lastRotation }

/-- A rotation changes the ring only. -/
lemma isLike_rotate (w : Window) (now : Nat) : (w.rotate now).IsLike w := by
  simp only [rotate]
  split <;> rfl

/-- Two changes of the ring are one. -/
lemma IsLike.trans {w w' w'' : Window} (h : w.IsLike w') (h' : w'.IsLike w'') : w.IsLike w'' := by
  unfold IsLike at h h' ⊢
  rw [h, h']

/-- A change of the ring leaves the published percentiles. -/
lemma IsLike.percentiles {w w' : Window} (h : w.IsLike w') : w.percentiles = w'.percentiles := by
  rw [h]

/-- A change of the ring leaves the boundaries. -/
lemma IsLike.boundaries {w w' : Window} (h : w.IsLike w') : w.boundaries = w'.boundaries := by
  rw [h]

/-- A change of the ring leaves the precision. -/
lemma IsLike.precision {w w' : Window} (h : w.IsLike w') : w.precision = w'.precision := by
  rw [h]

/-- A change of the ring leaves the scale. -/
lemma IsLike.scale {w w' : Window} (h : w.IsLike w') : w.scale = w'.scale := by
  rw [h]

/-- Windows that differ in their rings only scale amounts in the same way. -/
lemma IsLike.scaled {w w' : Window} (h : w.IsLike w') : w.scaled = w'.scaled := by
  rw [h]
  rfl

/-- A visit changes the ring only. -/
lemma isLike_apply (w : Window) (visit : Visit) : (w.apply visit).IsLike w := by
  rw [apply_eq]
  split
  · rename_i amount _
    have filed : ((w.rotate visit.reading).file amount).IsLike (w.rotate visit.reading) := rfl
    exact IsLike.trans filed (w.isLike_rotate visit.reading)
  · split
    · exact w.isLike_rotate visit.reading
    · rfl

section Run
variable {w : Window} {slots : Slots} {seen : Nat} {l : Ledger}

/-- A rotation takes the ring to the slot of the latest reading. -/
lemma Holds.rotate_latest (h : w.Holds slots (slots.slotAt seen) l) (now : Nat) :
    (w.rotate now).Holds slots (slots.slotAt (Max.max seen now)) l := by
  have rotated := h.rotate now
  rw [← slots.slotAt_max] at rotated
  exact rotated

/-- A visit takes the ring to the slot of the latest reading, and enters there what it records. -/
lemma Holds.apply (h : w.Holds slots (slots.slotAt seen) l) (visit : Visit) :
    (w.apply visit).Holds slots (slots.slotAt (visit.latest w.percentiles seen))
      (l ++ (visit.action.amount?.map
        (Entry.mk (slots.slotAt (visit.latest w.percentiles seen)))).toList) := by
  rw [apply_eq]
  cases e : visit.action.amount? with
  | some amount =>
    dsimp only
    rw [Visit.latest, if_pos (Action.looks_of_amount? e)]
    exact (h.rotate_latest visit.reading).file amount
  | none =>
    rw [Option.map_none, Option.toList_none, List.append_nil, Visit.latest]
    dsimp only
    split
    · exact h.rotate_latest visit.reading
    · exact h

/-- A run keeps the ledger and changes the ring only. -/
lemma Holds.run (h : w.Holds slots (slots.slotAt seen) l) (visits : List Visit) :
    (w.run visits).Holds slots (slots.slotAt (Window.latest w.percentiles seen visits))
        (l ++ entries w.percentiles slots seen visits)
      ∧ (w.run visits).IsLike w := by
  induction visits generalizing w seen l with
  | nil => exact ⟨by simpa [entries, Window.run, Window.latest] using h, rfl⟩
  | cons visit rest ih =>
    have like := w.isLike_apply visit
    obtain ⟨holds, like'⟩ := ih (h.apply visit)
    rw [like.percentiles, List.append_assoc] at holds
    exact ⟨holds, like'.trans like⟩

/-- Only accepted amounts are entered. -/
lemma isAccepted_of_mem_entries {percentiles : List Float} {visits : List Visit} :
    ∀ e ∈ entries percentiles slots seen visits, Amount.isAccepted e.amount := by
  induction visits generalizing seen with
  | nil => nofun
  | cons visit rest ih =>
    intro e he
    rcases List.mem_append.1 he with he | he
    · rw [Option.mem_toList, Option.map_eq_some_iff] at he
      obtain ⟨amount, recorded, rfl⟩ := he
      exact Action.isAccepted_of_amount? recorded
    · exact ih e he

/-- The entries of a run are those of its parts, where the second goes on from the latest reading of the first. -/
lemma entries_append (percentiles : List Float) (slots : Slots) (seen : Nat) (visits visits' : List Visit) :
    entries percentiles slots seen (visits ++ visits') = entries percentiles slots seen visits
      ++ entries percentiles slots (latest percentiles seen visits) visits' := by
  induction visits generalizing seen with
  | nil => rfl
  | cons visit rest ih =>
    rw [List.cons_append, entries, entries, ih, List.append_assoc]
    rfl

/-- If the clock never goes back, the latest reading is not later than what it shows next. -/
lemma latest_le {percentiles : List Float} {visits : List Visit} {now : Nat} (start : seen ≤ now)
    (order : ∀ visit ∈ visits, visit.reading ≤ now) : latest percentiles seen visits ≤ now := by
  induction visits generalizing seen with
  | nil => exact start
  | cons visit rest ih =>
    have here := order visit List.mem_cons_self
    apply ih
    · rw [Visit.latest]
      split
      · exact Nat.max_le.2 ⟨start, here⟩
      · exact start
    · exact fun v hv => order v (List.mem_cons_of_mem _ hv)

/-- If the clock has not gone back, a recording is entered in the slot of its own reading. -/
lemma entries_append_record (percentiles : List Float) (slots : Slots) {earlier : List Visit}
    {reading : Nat} {amount : Float} (start : seen ≤ reading)
    (order : ∀ visit ∈ earlier, visit.reading ≤ reading) (accepted : Amount.isAccepted amount)
    (later : List Visit) :
    entries percentiles slots seen (earlier ++ ⟨reading, .record amount⟩ :: later) =
      entries percentiles slots seen earlier
        ++ ⟨slots.slotAt reading, amount⟩ :: entries percentiles slots reading later := by
  have looks : Visit.latest percentiles (latest percentiles seen earlier) ⟨reading, .record amount⟩
      = reading := by
    rw [Visit.latest, Action.looks, if_pos accepted]
    exact Nat.max_eq_right (latest_le start order)
  have recorded : Action.amount? (.record amount) = some amount := if_pos accepted
  rw [entries_append, entries, looks, recorded]
  rfl

end Run

/-- A new window holds nothing, in the first slot. -/
lemma holds_new {s : Distribution.Settings} (h : s.fault? = none) (start : Nat) :
    (new s start).Holds ⟨start, (new s start).phaseNanos, s.bufferLength⟩ 0 [] where
  length := List.length_replicate
  length_pos := (Distribution.Settings.fault?_eq_none_iff.1 h).bufferLength_pos
  nanos := rfl
  nanos_pos := Nat.le_max_right _ _
  current := (Nat.zero_mod _).symm
  lastRotation := by rw [Nat.zero_mul]; rfl
  notAhead := nofun
  phases place inside := List.getElem_replicate ..

/-- A phase of a new window takes its share of the expiry, which is a millisecond at least. -/
lemma phaseNanos_new {s : Distribution.Settings} (h : s.fault? = none) (start : Nat) :
    (new s start).phaseNanos = s.expiry.cappedNanos / s.bufferLength ∧ 1000000 ≤ (new s start).phaseNanos := by
  have share := (Distribution.Settings.fault?_eq_none_iff.1 h).million_le_cappedNanos_div
  have even : (new s start).phaseNanos = s.expiry.cappedNanos / s.bufferLength :=
    Nat.max_eq_left (Nat.le_trans (by decide) share)
  exact ⟨even, even.symm ▸ share⟩

/-- The phases of a new window together do not last longer than the expiry. -/
lemma length_mul_phaseNanos_le {s : Distribution.Settings} (h : s.fault? = none) (start : Nat) :
    s.bufferLength * (new s start).phaseNanos ≤ s.expiry.nanos := by
  rw [(phaseNanos_new h start).1, Nat.mul_comm]
  exact (Nat.div_mul_le_self _ _).trans (Nat.min_le_left _ _)

/-- The accepted recordings of a run that are inside the window when the clock shows `now`. -/
def windowed (s : Distribution.Settings) (start : Nat) (past : List Visit) (now : Nat) : Ledger :=
  let slots : Slots := ⟨start, (new s start).phaseNanos, s.bufferLength⟩
  (entries s.percentiles slots start past).live
    (slots.slotAt (Max.max (latest s.percentiles start past) now)) s.bufferLength

/-- Only accepted amounts are inside a window. -/
lemma isAccepted_of_mem_windowed {s : Distribution.Settings} {start now : Nat} {past : List Visit} :
    ∀ e ∈ windowed s start past now, Amount.isAccepted e.amount :=
  fun e he => isAccepted_of_mem_entries e (List.mem_of_mem_filter he)

/-- A window that is created is new, and its settings are not at fault. -/
lemma new_of_ofSettings {s : Distribution.Settings} {start : Nat} {w : Window}
    (created : ofSettings s start = .ok w) : s.fault? = none ∧ new s start = w := by
  rw [ofSettings] at created
  split at created
  · exact ⟨by assumption, Except.ok.inj created⟩
  · cases created

/-- A run from the creation on keeps a ledger of its accepted recordings, and changes the ring only. -/
lemma holds_run {s : Distribution.Settings} {start : Nat} {w : Window} (created : ofSettings s start = .ok w)
    (past : List Visit) :
    let slots : Slots := ⟨start, w.phaseNanos, s.bufferLength⟩
    (w.run past).Holds slots (slots.slotAt (latest s.percentiles start past)) (entries s.percentiles slots start past) ∧
      (w.run past).IsLike w := by
  obtain ⟨faultless, rfl⟩ := new_of_ofSettings created
  have fresh := holds_new faultless start
  have first : Slots.slotAt ⟨start, (new s start).phaseNanos, s.bufferLength⟩ start = 0 := by
    rw [Slots.slotAt, Nat.sub_self, Nat.zero_div]
  rw [← first] at fresh
  exact fresh.run past

/-- After a run a window shows the recordings inside it, and differs from the new one in its ring only. -/
lemma shows_windowed {s : Distribution.Settings} {start : Nat} {w : Window}
    (created : ofSettings s start = .ok w) (past : List Visit) (now : Nat) :
    ((w.run past).rotate now).IsLike w ∧
      ((w.run past).rotate now).Shows s.bufferLength (windowed s start past now) := by
  obtain ⟨holds, like⟩ := holds_run created past
  obtain ⟨-, rfl⟩ := new_of_ofSettings created
  exact ⟨((new s start).run past |>.isLike_rotate now).trans like,
    (holds.rotate_latest now).shows isAccepted_of_mem_entries⟩

/-- No visit changes which boundaries are counted. -/
lemma boundaries_run {s : Distribution.Settings} {start : Nat} {w : Window} (created : ofSettings s start = .ok w)
    (past : List Visit) (now : Nat) : ((w.run past).rotate now).boundaries = s.boundaries := by
  rw [(shows_windowed created past now).1.boundaries, ← (new_of_ofSettings created).2]
  rfl

/-- A window shows exactly the accepted recordings of its last slots, each of them once, after any run of visits
from its creation on and wherever the clock stands. If the clock never goes back, a recording belongs to the
slot of its own reading, so it is shown for all phases but one, and no longer once it is as old as the expiry. -/
theorem shows_run {s : Distribution.Settings} {start : Nat} {w : Window} (created : ofSettings s start = .ok w)
    (past : List Visit) (now : Nat) :
    let slots : Slots := ⟨start, w.phaseNanos, s.bufferLength⟩
    let slot := slots.slotAt (Max.max (latest s.percentiles start past) now)
    let l := entries s.percentiles slots start past
    let seen := (w.run past).rotate now
    seen.IsLike w ∧ seen.Shows s.bufferLength (l.live slot s.bufferLength) ∧
      ∀ earlier reading amount later, past = earlier ++ ⟨reading, .record amount⟩ :: later →
        Amount.isAccepted amount → (start :: past.map Visit.reading ++ [now]).Pairwise (· ≤ ·) →
        let e : Entry := ⟨slots.slotAt reading, amount⟩
        l = entries s.percentiles slots start earlier ++ e :: entries s.percentiles slots reading later ∧
          (now ≤ reading + (s.bufferLength - 1) * w.phaseNanos → e.isLive slot s.bufferLength) ∧
          (reading + s.expiry.nanos ≤ now → ¬e.isLive slot s.bufferLength) := by
  obtain ⟨faultless, rfl⟩ := new_of_ofSettings created
  intro slots slot l seen
  have fresh := holds_new faultless start
  have first : slots.slotAt start = 0 := by rw [Slots.slotAt, Nat.sub_self, Nat.zero_div]
  rw [← first] at fresh
  obtain ⟨holds, like⟩ := fresh.run past
  have shown := (holds.rotate_latest now).shows isAccepted_of_mem_entries
  refine ⟨((new s start).run past |>.isLike_rotate now).trans like, shown, ?_⟩
  intro earlier reading amount later split accepted order e
  -- from here on the clock does not go back, so the latest reading is the last one
  obtain ⟨before, last⟩ := List.pairwise_append.1 order |>.imp_right And.right
  have upToNow : ∀ r ∈ start :: past.map Visit.reading, r ≤ now := fun r hr => last r hr now (by simp)
  have upToHere : ∀ r ∈ start :: earlier.map Visit.reading, r ≤ reading := by
    rw [split, List.map_append, ← List.cons_append, List.pairwise_append] at before
    exact fun r hr => before.2.2 r hr reading (by simp)
  have started := upToHere start List.mem_cons_self
  have latest_now : Max.max (latest s.percentiles start past) now = now :=
    Nat.max_eq_right (latest_le (upToNow start List.mem_cons_self) fun visit hv =>
      upToNow visit.reading (List.mem_cons_of_mem _ (List.mem_map_of_mem hv)))
  have reached : reading ≤ now := upToNow reading (by simp [split])
  have slot_now : slot = slots.slotAt now := congrArg slots.slotAt latest_now
  rw [slot_now]
  refine ⟨?_, fun recent => ?_, fun old => ?_⟩
  · subst split
    exact entries_append_record s.percentiles slots started (fun visit hv =>
      upToHere visit.reading (List.mem_cons_of_mem _ (List.mem_map_of_mem hv))) accepted later
  · exact Entry.isLive_of_le slots holds.nanos_pos holds.length_pos amount reached recent
  · refine Entry.not_isLive_of_le slots holds.nanos_pos amount started ?_
    have whole : slots.length * slots.nanos ≤ s.expiry.nanos := length_mul_phaseNanos_le faultless start
    omega

/-- A recording in a window of the default settings, asked for soon after it and at the age of the expiry. -/
theorem shows_run_default :
    let w := new {} 7
    let past : List Visit := [⟨8, .summarize⟩, ⟨8, .record (-1.0)⟩, ⟨9, .record 2.0⟩]
    let late := 9 + 120 * 1000000000
    let slots : Slots := ⟨7, w.phaseNanos, 3⟩
    ofSettings {} 7 = .ok w ∧ (7 :: past.map Visit.reading ++ [late]).Pairwise (· ≤ ·) ∧
      ((w.run past).rotate 11).count = 1 ∧ ((w.run past).rotate late).count = 0 ∧
      ¬Entry.isLive ⟨slots.slotAt 9, 2.0⟩ (slots.slotAt (Max.max (latest [] 7 past) late)) 3 := by
  intro w past late slots
  have created : ofSettings {} 7 = .ok w := by rfl
  have order : (7 :: past.map Visit.reading ++ [late]).Pairwise (· ≤ ·) := by decide
  have accepted : Amount.isAccepted 2.0 = true := by decide +kernel
  obtain ⟨-, soon, -⟩ := shows_run created past 11
  obtain ⟨-, gone, old⟩ := shows_run created past late
  obtain ⟨-, -, expired⟩ := old [⟨8, .summarize⟩, ⟨8, .record (-1.0)⟩] 9 2.0 [] rfl accepted order
  refine ⟨created, order, soon.count.trans (by decide +kernel), gone.count.trans (by decide +kernel), ?_⟩
  exact expired (Nat.le_refl _)

end Window

end StepMeters
