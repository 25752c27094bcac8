import StepMeters.Proofs.Registry.Looks
import StepMeters.Registry.Registration

/-!
# Histories of registries

Meters are registered, report and are read in any order, and publish cycles come in between. For each place of
an open registry this is the history of one meter: `Registry.Follows` says that the meter at the place, as soon
as there is one, keeps a ledger of the accepted recordings reported to the place, and every visit preserves
this (`Follows.apply`, `Follows.run`).
-/

namespace StepMeters.Registry

/-- What can be done with a registry while it is open. -/
inductive Action where
  | register (id : Identity) (b : Blueprint)
  | record (ref : MeterRef) (recording : Recording)
  | read (ref : MeterRef) (unit : Option TimeUnit) (statistic : Statistic)
  | percentile (ref : MeterRef) (unit : Option TimeUnit) (part : Float)
  | countAtMost (ref : MeterRef) (unit : Option TimeUnit) (amount : Float)
  | snapshot (ref : MeterRef)
  | report (ref : MeterRef)
  | publish
  | tick
  | start (spawn : Spawn)
  | stop

/-- An action, and the moment of it. -/
structure Visit where
  moment : Moment
  action : Action

/-- The registry after a visit. A registration that fails leaves it as it is. -/
def apply (r : Registry) (visit : Visit) : Registry :=
  match visit.action with
  | .register id b =>
    match r.register visit.moment id b with
    | .ok outcome => outcome.state
    | .error _ => r
  | .record ref recording => (r.record visit.moment ref recording).state
  | .read ref unit s => (r.read visit.moment ref unit s).state
  | .percentile ref unit part => (r.percentile visit.moment ref unit part).state
  | .countAtMost ref unit amount => (r.countAtMost visit.moment ref unit amount).state
  | .snapshot ref => (r.snapshot visit.moment ref).state
  | .report ref => (r.report visit.moment ref).state
  | .publish => (r.publish visit.moment).state
  | .tick => (r.tick visit.moment).state
  | .start spawn => (r.start spawn).state
  | .stop => r.stop.state

/-- The registry after a run of visits. -/
def run (r : Registry) (visits : List Visit) : Registry := visits.foldl apply r

/-- Whether a visit is a publish cycle. -/
def Visit.isCycle (r : Registry) (visit : Visit) : Bool :=
  match visit.action with
  | .publish => !r.closed
  | .tick => r.running && !r.closed
  | _ => false

/-- What a visit does with the meters that there are. -/
def Visit.touches (r : Registry) (visit : Visit) : List Touch :=
  match visit.action with
  | .record ref recording => [⟨ref, .record recording⟩]
  | .read ref unit s => readTouches r.meters ref unit s
  | .percentile ref unit part => [⟨ref, .percentile unit part⟩]
  | .countAtMost ref unit amount => [⟨ref, .countAtMost unit amount⟩]
  | .snapshot ref => [⟨ref, .snapshot⟩]
  | .report ref => reportTouches r.meters ref
  | _ => if visit.isCycle r then cycleTouches r.meters else []

/-- The entry of what a visit reports to the meter at a place, if there is a meter and it accepts it. -/
def Visit.entered? (ref : MeterRef) (r : Registry) (visit : Visit) : Option Entry :=
  match visit.action with
  | .record place recording =>
    if place = ref then
      (r.meters[ref]?.bind fun meter => meter.instrument.recorder?).bind fun k =>
        k.entered? r.config.step.stepMillis visit.moment recording
    else none
  | _ => none

/-- All accepted recordings of a run at a place, each in the step of the clock at the time. -/
def entries (ref : MeterRef) (r : Registry) : List Visit → Ledger
  | [] => []
  | visit :: rest => (visit.entered? ref r).toList ++ entries ref (r.apply visit) rest

/-- An open registry with a ledger of the accepted recordings at a place. -/
structure Follows (r : Registry) (c : Configuration) (ref : MeterRef) (wall : Nat) (l : Ledger) : Prop where
  config : r.config = c
  isOpen : r.closed = false
  absent : r.meters.length ≤ ref → l = []
  present : ∀ (meter : Meter) (k : Recorder), r.meters[ref]? = some meter →
    meter.instrument.recorder? = some k →
      Instrument.Follows c.step.stepMillis wall l k meter.instrument

/-- Further meters are added only where there are none. -/
lemma foldl_addFree (meters more : List Meter) :
    ∃ added, more.foldl addFree meters = meters ++ added ∧ ∀ meter ∈ added, meter ∈ more := by
  induction more generalizing meters with
  | nil => exact ⟨[], (List.append_nil _).symm, fun _ none => absurd none List.not_mem_nil⟩
  | cons meter rest ih =>
    obtain ⟨added, e, mem⟩ := ih (addFree meters meter)
    rw [List.foldl_cons, e, addFree]
    split
    · exact ⟨added, rfl, fun x hx => List.mem_cons_of_mem _ (mem x hx)⟩
    · refine ⟨meter :: added, by rw [List.append_assoc]; rfl, fun x hx => ?_⟩
      rcases List.mem_cons.1 hx with rfl | hx
      · exact List.mem_cons_self
      · exact List.mem_cons_of_mem _ (mem x hx)

/-- Derived meters are gauges. -/
lemma gauge_of_mem_derived {meter derived : Meter} {owner : MeterRef} (h : derived ∈ meter.derived owner) :
    ∃ g, derived.instrument = .gauge g := by
  rw [Meter.derived] at h
  split at h
  · cases h
  · rcases List.mem_append.1 h with h | h
    · obtain ⟨part, _, rfl⟩ := List.mem_map.1 h
      exact ⟨.percentile owner part, rfl⟩
    · obtain ⟨boundary, _, rfl⟩ := List.mem_map.1 h
      exact ⟨.countAtMost owner boundary, rfl⟩

section Register
variable {r : Registry} {m : Moment} {id : Identity} {b : Blueprint} {outcome : Outcome Registry MeterRef}

/-- A registration either finds the meter or makes a new one, which comes after all others. The gauges that it
brings with it come after it. -/
lemma register_inv (h : r.register m id b = .ok outcome) :
    (∃ ref meter, r.find? (b.identify r.config id) = some ref ∧ r.meters[ref.val]? = some meter ∧
      meter.kind = b.kind ∧ outcome.value = ref ∧ outcome.state = r) ∨
    ∃ meter added, r.find? (b.identify r.config id) = none ∧ meter.id = b.identify r.config id ∧
      b.build r.config m = .ok meter.instrument ∧ outcome.value = r.meters.length ∧
      outcome.state = { r with meters := r.meters ++ meter :: added } ∧
      (meter.derived r.meters.length).foldl addFree (r.meters ++ [meter]) = r.meters ++ meter :: added ∧
      ∀ gauge ∈ added, gauge ∈ meter.derived r.meters.length := by
  unfold register at h
  dsimp only at h
  split at h
  · rename_i ref found
    split at h
    · rename_i same
      cases h
      exact .inl ⟨ref, _, found, List.getElem?_eq_getElem ref.isLt, same, rfl, rfl⟩
    · cases h
  · rename_i free
    split at h
    · cases h
    · rename_i i built
      cases h
      let meter : Meter := ⟨b.identify r.config id, i⟩
      obtain ⟨added, split, mem⟩ := foldl_addFree (r.meters ++ [meter]) (meter.derived r.meters.length)
      rw [List.append_assoc] at split
      exact .inr ⟨meter, added, free, rfl, built, rfl, congrArg (Registry.mk _ _ · _ _) split, split, mem⟩

end Register

section Apply
variable {r r' : Registry}

/-- A publish cycle looks at each meter of an open registry, and else moves only the publisher. -/
lemma publish_inv (r : Registry) (m : Moment) : ∃ publisher, (r.publish m).state
    = { r.touched m (if !r.closed then cycleTouches r.meters else []) with publisher } := by
  cases e : r.closed with
  | true =>
    rw [publish_of_closed e]
    exact ⟨r.publisher, rfl⟩
  | false =>
    rw [publish_of_open e]
    exact ⟨_, r.state_cycle m⟩

/-- A tick is a publish cycle while the schedule runs, and else nothing. -/
lemma tick_inv (r : Registry) (m : Moment) : ∃ publisher, (r.tick m).state
    = { r.touched m (if r.running && !r.closed then cycleTouches r.meters else []) with publisher } := by
  rw [tick]
  cases r.running with
  | true => exact r.publish_inv m
  | false => exact ⟨r.publisher, rfl⟩

/-- A start changes only whether the schedule runs. -/
lemma start_inv (r : Registry) (spawn : Spawn) : ∃ running, (r.start spawn).state = { r with running } := by
  unfold start
  split
  · exact ⟨r.running, rfl⟩
  · split
    · exact ⟨r.running, rfl⟩
    · cases spawn with
      | spawned => exact ⟨true, rfl⟩
      | refused cause => exact ⟨false, rfl⟩

/-- A visit that is no registration touches meters. All else that it may change is the publisher and the schedule. -/
lemma apply_inv (r : Registry) (visit : Visit) :
    (∃ id b, visit.action = .register id b) ∨ ∃ publisher running,
      r.apply visit = { r.touched visit.moment (visit.touches r) with publisher, running } := by
  obtain ⟨m, action⟩ := visit
  have alone {r' : Registry} {touches : List Touch} (e : r' = r.touched m touches) :
      ∃ publisher running, r' = { r.touched m touches with publisher, running } :=
    ⟨r.publisher, r.running, e⟩
  cases action with
  | register id b => exact .inl ⟨id, b, rfl⟩
  | record place recording => exact .inr (alone (r.state_record m place recording))
  | read place unit s => exact .inr (alone (r.state_read m place unit s))
  | percentile place unit part => exact .inr (alone (r.state_percentile m place unit part))
  | countAtMost place unit amount => exact .inr (alone (r.state_countAtMost m place unit amount))
  | snapshot place => exact .inr (alone (r.state_snapshot m place))
  | report place => exact .inr (alone (r.state_report m place))
  | publish =>
    obtain ⟨publisher, e⟩ := r.publish_inv m
    exact .inr ⟨publisher, r.running, e⟩
  | tick =>
    obtain ⟨publisher, e⟩ := r.tick_inv m
    exact .inr ⟨publisher, r.running, e⟩
  | start spawn =>
    obtain ⟨running, e⟩ := r.start_inv spawn
    exact .inr ⟨r.publisher, running, e⟩
  | stop => exact .inr ⟨r.publisher, false, r.state_stop⟩

/-- Visits that record nothing only look at the meters. -/
lemma isLook_touches (r : Registry) (visit : Visit)
    (record : ∀ ref recording, visit.action ≠ .record ref recording) :
    ∀ t ∈ visit.touches r, t.action.IsLook := by
  obtain ⟨m, action⟩ := visit
  have one {t : Touch} (look : t.action.IsLook) : ∀ t' ∈ [t], t'.action.IsLook := by
    intro t' mem
    rw [List.mem_singleton.1 mem]
    exact look
  have cycle : ∀ t ∈ if Visit.isCycle r ⟨m, action⟩ then cycleTouches r.meters else [], t.action.IsLook := by
    split
    · exact isLook_cycleTouches
    · exact fun _ none => absurd none List.not_mem_nil
  cases action with
  | record ref recording => exact absurd rfl (record ref recording)
  | read ref unit s => exact isLook_readTouches ref unit s
  | percentile ref unit part => exact one nofun
  | countAtMost ref unit amount => exact one nofun
  | snapshot ref => exact one nofun
  | report ref => exact isLook_reportTouches ref
  | _ => exact cycle

/-- A visit that neither registers nor records is a look. -/
lemma looked_apply (r : Registry) (visit : Visit) (register : ∀ id b, visit.action ≠ .register id b)
    (record : ∀ ref recording, visit.action ≠ .record ref recording) :
    Looked visit.moment r (r.apply visit) := by
  obtain ⟨id, b, e⟩ | ⟨publisher, running, e⟩ := r.apply_inv visit
  · exact absurd e (register id b)
  · exact looked_of_touched e (r.isLook_touches visit record)

end Apply

section Follows
variable {r r' : Registry} {c : Configuration} {ref : MeterRef} {wall : Nat} {l : Ledger} {m : Moment}

/-- Looks keep the ledger. -/
lemma Follows.looked (h : r.Follows c ref wall l) (le : wall ≤ m.wall) (look : Looked m r r') :
    r'.Follows c ref m.wall l := by
  refine ⟨look.config.trans h.config, look.closed.trans h.isOpen, fun few => h.absent ?_, ?_⟩
  · rwa [look.length] at few
  · intro meter' k there' takes
    obtain ⟨meter, there, looked, _⟩ := look.alters.before there'
    rw [looked.recorder?_eq] at takes
    exact (h.present meter k there takes).looked le looked

/-- A registry that is left alone keeps its ledger. -/
lemma Follows.later {now : Nat} (h : r.Follows c ref wall l) (le : wall ≤ now) : r.Follows c ref now l :=
  h.looked (m := { wall := now, monotonic := 0 }) le (looked_refl _ r)

/-- An accepted recording is entered for the step of the clock. -/
lemma Follows.record (h : r.Follows c ref wall l) (le : wall ≤ m.wall) (place : MeterRef)
    (recording : Recording) : (r.record m place recording).state.Follows c ref m.wall
      (l ++ (Visit.entered? ref r ⟨m, .record place recording⟩).toList) := by
  rw [Registry.record]
  refine ⟨(r.config_visit ..).trans h.config, (r.closed_visit ..).trans h.isOpen, fun few => ?_, ?_⟩
  · rw [length_visit] at few
    rw [h.absent few, Visit.entered?, List.getElem?_eq_none few]
    dsimp only
    split <;> rfl
  · intro meter' k there' takes
    rw [getElem?_visit, Option.map_eq_some_iff] at there'
    obtain ⟨meter, there, rfl⟩ := there'
    rw [Visit.entered?, there, Option.bind_some, h.config]
    dsimp only
    by_cases here : place = ref
    · -- the entry of the visit is that of the meter at its place
      rw [if_pos here] at takes ⊢
      rw [Instrument.recorder?_record] at takes
      rw [if_pos here, takes, Option.bind_some]
      exact (h.present meter k there takes).record le recording
    · rw [if_neg here] at takes ⊢
      rw [if_neg here, Option.toList_none, List.append_nil]
      exact (h.present meter k there takes).later le

/-- A new meter begins with an empty ledger. -/
lemma Follows.register (h : r.Follows c ref wall l) (le : wall ≤ m.wall) {id : Identity} {b : Blueprint}
    {outcome : Outcome Registry MeterRef} (registered : r.register m id b = .ok outcome) :
    outcome.state.Follows c ref m.wall l := by
  obtain ⟨_, _, _, _, _, _, same⟩ | ⟨new, added, -, -, built, -, e, -, gauges⟩ := register_inv registered
  · rw [same]
    exact h.later le
  · rw [e]
    refine ⟨h.config, h.isOpen, fun few => h.absent ?_, ?_⟩
    · rw [List.length_append] at few
      omega
    · intro meter k there takes
      dsimp only at there
      rcases Nat.lt_or_ge ref r.meters.length with old | beyond
      · rw [List.getElem?_append_left old] at there
        exact (h.present meter k there takes).later le
      · rw [List.getElem?_append_right beyond] at there
        -- at a new place there is the meter itself, or else one of its gauges
        rcases List.mem_cons.1 (List.mem_of_getElem? there) with rfl | gauge
        · rw [h.absent beyond, ← h.config]
          rw [Instrument.recorder?_build built] at takes
          exact Instrument.follows_build built takes
        · obtain ⟨g, e⟩ := gauge_of_mem_derived (gauges meter gauge)
          rw [e] at takes
          cases takes

/-- A visit enters what it records, for the step of its moment, and nothing else. -/
lemma Follows.apply (h : r.Follows c ref wall l) (visit : Visit) (le : wall ≤ visit.moment.wall) :
    (r.apply visit).Follows c ref visit.moment.wall (l ++ (visit.entered? ref r).toList) := by
  have look := r.looked_apply visit
  obtain ⟨m, action⟩ := visit
  cases action with
  | register id b =>
    rw [Visit.entered?, Option.toList_none, List.append_nil, Registry.apply]
    dsimp only
    split
    · rename_i outcome registered
      exact h.register le registered
    · exact h.later le
  | record place recording => exact h.record le place recording
  | _ =>
    -- everything else is a look, and enters nothing
    rw [Visit.entered?, Option.toList_none, List.append_nil]
    exact h.looked le (look (fun _ _ e => nomatch e) fun _ _ e => nomatch e)

/-- A run under a clock that does not go back keeps the ledger. -/
lemma Follows.run {now : Nat} (h : r.Follows c ref wall l) (visits : List Visit)
    (order : (wall :: visits.map (·.moment.wall) ++ [now]).Pairwise (· ≤ ·)) :
    (r.run visits).Follows c ref now (l ++ entries ref r visits) := by
  induction visits generalizing r wall l with
  | nil =>
    rw [entries, List.append_nil]
    exact h.later (by simpa using order)
  | cons visit rest ih =>
    rw [List.map_cons, List.cons_append, List.pairwise_cons] at order
    have kept := ih (h.apply visit (order.1 _ (by simp))) order.2
    rw [List.append_assoc] at kept
    exact kept

end Follows

end StepMeters.Registry
