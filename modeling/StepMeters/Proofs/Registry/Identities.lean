import StepMeters.Proofs.Meter.Keeping
import StepMeters.Proofs.Registry.History

/-!
# Identities of registered meters

No two meters of a registry have the same identity. A registration adds a whole family of meters, and their
identities may be those of other meters, of any kind, or the same among themselves; but each is added only where
its identity is free (`Sound.register`). All else that is done with a registry leaves the meters in their places
(`Alters.extends`), so each keeps its identity for ever (`identities_run`).
-/

namespace StepMeters

namespace Identity
variable {a b c : Identity}

/-- Each identity is the same as itself. -/
lemma same_refl (a : Identity) : a.same a := same_iff.2 ⟨rfl, rfl⟩

/-- Sameness of identities goes both ways. -/
lemma same_symm (h : a.same b) : b.same a :=
  same_iff.2 ⟨(same_iff.1 h).1.symm, (same_iff.1 h).2.symm⟩

/-- Sameness of identities carries over. -/
lemma same_trans (h : a.same b) (h' : b.same c) : a.same c :=
  same_iff.2 ⟨(same_iff.1 h).1.trans (same_iff.1 h').1, (same_iff.1 h).2.trans (same_iff.1 h').2⟩

end Identity

/-- The identity of a new meter is the same as the one asked for: only its unit may differ. -/
lemma Blueprint.same_identify (b : Blueprint) (c : Configuration) (id : Identity) :
    (b.identify c id).same id := by
  cases b <;> exact Identity.same_iff.2 ⟨rfl, rfl⟩

/-- Looks keep an instrument what it is. -/
lemma Instrument.allowsLooks_kept (m : Moment) : AllowsLooks m Kept :=
  ⟨kept_refl, Kept.trans, fun i action _ => kept_apply m i action⟩

namespace Registry

/-- The place of the meter that holds an identity. -/
def holder? (r : Registry) (id : Identity) : Option MeterRef := (r.find? id).map Fin.val

/-- What can be done with a registry, at any time. -/
inductive Request where
  | visit (visit : Visit)
  | close (moment : Moment)

/-- The registry after a request. -/
def handle (r : Registry) : Request → Registry
  | .visit visit => r.apply visit
  | .close m => (r.close m).state

/-- The registry after some requests. -/
def serve (r : Registry) (requests : List Request) : Registry := requests.foldl handle r

/-- No two meters have the same identity, and the identities of all gauges that come with a meter are held. -/
structure Sound (r : Registry) : Prop where
  distinct : r.meters.Pairwise fun a b => ¬a.id.same b.id
  derived : ∀ (ref : MeterRef) (meter : Meter), r.meters[ref]? = some meter →
    ∀ gauge ∈ meter.derived ref, ∃ holder ∈ r.meters, holder.id.same gauge.id

/-- All meters are still in their places, and what they measure with is kept. There may be more after them. -/
structure Extends (r r' : Registry) : Prop where
  config : r'.config = r.config
  meters : ∀ (ref : MeterRef) (meter : Meter), r.meters[ref]? = some meter →
    ∃ i, Instrument.Kept meter.instrument i ∧ r'.meters[ref]? = some { meter with instrument := i }

section AddFree
variable {meters more : List Meter} {meter : Meter}

/-- A meter is added only if its identity is free, so all identities stay distinct. -/
lemma distinct_addFree (h : meters.Pairwise fun a b => ¬a.id.same b.id) (meter : Meter) :
    (addFree meters meter).Pairwise fun a b => ¬a.id.same b.id := by
  rw [addFree]
  split
  · exact h
  · rename_i free
    rw [Bool.not_eq_true, List.any_eq_false] at free
    refine List.pairwise_append.2 ⟨h, List.pairwise_singleton _ meter, fun a ha b hb => ?_⟩
    rw [List.mem_singleton.1 hb]
    exact free a ha

/-- Adding more meters where they are free keeps all identities distinct. -/
lemma distinct_foldl_addFree (h : meters.Pairwise fun a b => ¬a.id.same b.id) (more : List Meter) :
    (more.foldl addFree meters).Pairwise fun a b => ¬a.id.same b.id := by
  induction more generalizing meters with
  | nil => exact h
  | cons meter rest ih => exact ih (distinct_addFree h meter)

/-- Once a meter was added where it is free, somebody holds its identity. -/
lemma exists_mem_addFree (meters : List Meter) (meter : Meter) :
    ∃ holder ∈ addFree meters meter, holder.id.same meter.id := by
  rw [addFree]
  split
  · rename_i taken
    exact List.any_eq_true.1 taken
  · exact ⟨meter, List.mem_append_right _ (List.mem_singleton_self _), meter.id.same_refl⟩

/-- Whether or not they were added, the identities of all further meters are held afterwards. -/
lemma exists_mem_foldl_addFree (h : meter ∈ more) (meters : List Meter) :
    ∃ holder ∈ more.foldl addFree meters, holder.id.same meter.id := by
  induction more generalizing meters with
  | nil => cases h
  | cons head rest ih =>
    rcases List.mem_cons.1 h with rfl | h
    · obtain ⟨holder, mem, same⟩ := exists_mem_addFree meters meter
      obtain ⟨added, e, -⟩ := foldl_addFree (addFree meters meter) rest
      refine ⟨holder, ?_, same⟩
      rw [List.foldl_cons, e]
      exact List.mem_append_left _ mem
    · exact ih h _

end AddFree

section Extends
variable {r r' r'' : Registry}

/-- Each registry extends itself. -/
lemma extends_refl (r : Registry) : Extends r r :=
  ⟨rfl, fun _ meter there => ⟨meter.instrument, Instrument.kept_refl _, there⟩⟩

/-- What extends an extension extends the first. -/
lemma Extends.trans (h : Extends r r') (h' : Extends r' r'') : Extends r r'' := by
  refine ⟨h'.config.trans h.config, fun ref meter there => ?_⟩
  obtain ⟨i, kept, there'⟩ := h.meters ref meter there
  obtain ⟨i', kept', there''⟩ := h'.meters ref _ there'
  exact ⟨i', kept.trans kept', there''⟩

/-- A registry whose instruments are kept is extended. -/
lemma Alters.extends (h : Alters Instrument.Kept r r') : Extends r r' := ⟨h.config, h.meters⟩

/-- More meters at the end extend a registry. -/
lemma extends_append (r : Registry) (added : List Meter) :
    Extends r { r with meters := r.meters ++ added } := by
  refine ⟨rfl, fun ref meter there => ⟨meter.instrument, Instrument.kept_refl _, ?_⟩⟩
  have inside := (List.getElem?_eq_some_iff.1 there).1
  exact (List.getElem?_append_left inside).trans there

end Extends

section Sound
variable {r r' : Registry} {m : Moment} {id : Identity} {ref : MeterRef}

/-- A look-up gives the only meter with the identity. -/
lemma Sound.holder?_eq_some_iff (h : r.Sound) :
    r.holder? id = some ref ↔ ∃ meter, r.meters[ref]? = some meter ∧ meter.id.same id := by
  rw [holder?, Option.map_eq_some_iff]
  constructor
  · rintro ⟨place, found, rfl⟩
    exact ⟨r.meters[place], List.getElem?_eq_getElem place.isLt, (List.findFinIdx?_eq_some_iff.1 found).1⟩
  · rintro ⟨meter, there, same⟩
    obtain ⟨inside, e⟩ := List.getElem?_eq_some_iff.1 there
    refine ⟨⟨ref, inside⟩, List.findFinIdx?_eq_some_iff.2 ⟨by rw [← e] at same; exact same, ?_⟩, rfl⟩
    -- an earlier meter with this identity would have the same as this one
    intro place before earlier
    refine List.pairwise_iff_getElem.1 h.distinct place ref place.isLt inside before ?_
    rw [e]
    exact Identity.same_trans earlier (Identity.same_symm same)

/-- The look-up of an identity finds a meter if and only if some meter has the identity. -/
lemma Sound.exists_holder?_iff (h : r.Sound) :
    (∃ ref, r.holder? id = some ref) ↔ ∃ meter ∈ r.meters, meter.id.same id := by
  constructor
  · rintro ⟨ref, held⟩
    obtain ⟨meter, there, same⟩ := h.holder?_eq_some_iff.1 held
    exact ⟨meter, List.mem_of_getElem? there, same⟩
  · rintro ⟨meter, mem, same⟩
    obtain ⟨ref, there⟩ := List.mem_iff_getElem?.1 mem
    exact ⟨ref, h.holder?_eq_some_iff.2 ⟨meter, there, same⟩⟩

/-- The holder of an identity keeps it. -/
lemma Extends.holder?_eq (h : Extends r r') (before : r.Sound) (after : r'.Sound)
    (held : r.holder? id = some ref) : r'.holder? id = some ref := by
  obtain ⟨meter, there, same⟩ := before.holder?_eq_some_iff.1 held
  obtain ⟨i, -, there'⟩ := h.meters ref meter there
  exact after.holder?_eq_some_iff.2 ⟨{ meter with instrument := i }, there', same⟩

/-- An identity that is held stays held. -/
lemma Extends.exists_mem (h : Extends r r') (held : ∃ holder ∈ r.meters, holder.id.same id) :
    ∃ holder ∈ r'.meters, holder.id.same id := by
  obtain ⟨holder, mem, same⟩ := held
  obtain ⟨ref, there⟩ := List.mem_iff_getElem?.1 mem
  obtain ⟨i, -, there'⟩ := h.meters ref holder there
  exact ⟨{ holder with instrument := i }, List.mem_of_getElem? there', same⟩

/-- What leaves all meters in their places leaves their identities too. -/
lemma Sound.altered (h : r.Sound) (alters : Alters Instrument.Kept r r') : r'.Sound := by
  constructor
  · refine List.pairwise_iff_getElem.2 fun ref ref' inside inside' lt same => ?_
    obtain ⟨a, there, -, id⟩ := alters.before (List.getElem?_eq_getElem inside)
    obtain ⟨b, there', -, id'⟩ := alters.before (List.getElem?_eq_getElem inside')
    obtain ⟨_, rfl⟩ := List.getElem?_eq_some_iff.1 there
    obtain ⟨_, rfl⟩ := List.getElem?_eq_some_iff.1 there'
    rw [id, id'] at same
    exact List.pairwise_iff_getElem.1 h.distinct ref ref' _ _ lt same
  · intro ref meter' there' gauge mem
    obtain ⟨meter, there, kept, id⟩ := alters.before there'
    obtain ⟨id', i'⟩ := meter'
    cases id
    rw [kept.derived] at mem
    exact alters.extends.exists_mem (h.derived ref meter there gauge mem)

end Sound

section Register
variable {r : Registry} {m : Moment} {id : Identity} {b : Blueprint} {outcome : Outcome Registry MeterRef}

/-- A registration adds meters at the end, and changes nothing else. -/
lemma register_append (h : r.register m id b = .ok outcome) :
    ∃ added, outcome.state = { r with meters := r.meters ++ added } := by
  obtain ⟨_, _, _, _, _, _, same⟩ | ⟨meter, added, -, -, -, -, e, -⟩ := register_inv h
  · exact ⟨[], by rw [same, List.append_nil]⟩
  · exact ⟨meter :: added, e⟩

/-- A registration extends the registry. -/
lemma extends_register (h : r.register m id b = .ok outcome) : Extends r outcome.state := by
  obtain ⟨added, e⟩ := register_append h
  rw [e]
  exact extends_append r added

/-- A registration gives the place of a meter of the kind and with the identity that were asked for. -/
lemma getElem?_register (h : r.register m id b = .ok outcome) :
    ∃ meter, outcome.state.meters[outcome.value]? = some meter ∧ meter.id.same id ∧ meter.kind = b.kind := by
  have asked := b.same_identify r.config id
  obtain ⟨ref, meter, found, there, kind, value, same⟩ | ⟨meter, added, -, id', built, value, e, -⟩ :=
    register_inv h
  · refine ⟨meter, by rw [value, same, there], ?_, kind⟩
    obtain ⟨_, rfl⟩ := List.getElem?_eq_some_iff.1 there
    exact Identity.same_trans (List.findFinIdx?_eq_some_iff.1 found).1 asked
  · refine ⟨meter, ?_, id' ▸ asked, Instrument.kind_build built⟩
    rw [value, e, List.getElem?_append_right (Nat.le_refl _), Nat.sub_self, List.getElem?_cons_zero]

/-- A registration keeps identities distinct, and those of the gauges of the new meter held. -/
lemma Sound.register (h : r.Sound) (registered : r.register m id b = .ok outcome) : outcome.state.Sound := by
  have grown := extends_register registered
  obtain ⟨_, _, _, _, _, _, same⟩ | ⟨new, added, free, id', -, -, e, split, gauges⟩ := register_inv registered
  · rw [same]
    exact h
  rw [e] at grown ⊢
  constructor
  · dsimp only
    rw [← split]
    refine distinct_foldl_addFree (List.pairwise_append.2 ⟨h.distinct, List.pairwise_singleton _ new, ?_⟩) _
    intro meter old last hlast
    rw [List.mem_singleton.1 hlast, id']
    exact List.findFinIdx?_eq_none_iff.1 free meter old
  · -- the meter is an old one, the new one, or a gauge that came with it
    intro ref meter there gauge hg
    rcases Nat.lt_trichotomy ref r.meters.length with old | rfl | beyond
    · rw [List.getElem?_append_left old] at there
      exact grown.exists_mem (h.derived ref meter there gauge hg)
    · rw [List.getElem?_append_right (Nat.le_refl _), Nat.sub_self] at there
      cases there
      dsimp only
      rw [← split]
      exact exists_mem_foldl_addFree hg _
    · obtain ⟨n, rfl⟩ := Nat.exists_eq_add_of_lt beyond
      rw [Nat.add_assoc, List.getElem?_append_right (Nat.le_add_right _ _), Nat.add_sub_cancel_left,
        List.getElem?_cons_succ] at there
      obtain ⟨g, isGauge⟩ := gauge_of_mem_derived (gauges meter (List.mem_of_getElem? there))
      rw [Meter.derived, isGauge] at hg
      cases hg

end Register

section Serve
variable {c : Configuration} {p : Publisher} {r : Registry} {m : Moment}

/-- Closing all meters closes each in its place. -/
lemma alters_closeAll {R : Instrument → Instrument → Prop} (close : ∀ i : Instrument, R i (i.close m))
    (r : Registry) : Alters R r (r.closeAll m) := by
  refine ⟨rfl, rfl, List.length_map _, fun ref meter there => ?_⟩
  refine ⟨meter.instrument.close m, close _, ?_⟩
  rw [closeAll, List.getElem?_map, there]
  rfl

/-- Beside the mark that it is closed, a registry that closes is altered in its meters only. -/
lemma alters_close {R : Instrument → Instrument → Prop} (allows : Instrument.AllowsLooks m R)
    (close : ∀ i : Instrument, R i (i.close m)) (r : Registry) :
    Alters R { r with closed := true } (r.close m).state := by
  cases isOpen : r.closed with
  | true =>
    rw [close_of_closed isOpen]
    exact (alters_refl allows _).congr rfl isOpen rfl
  | false =>
    cases enabled : r.config.enabled with
    | true =>
      rw [(close_of_enabled isOpen enabled m).2, state_deliver]
      have closed := alters_closeAll close { r with closed := true }
      refine (closed.trans allows (alters_looks allows (fun t mem => ?_) _)).congr rfl rfl rfl
      obtain ⟨ref, -, mem⟩ := List.mem_flatMap.1 mem
      exact isLook_reportTouches ref t mem
    | false =>
      rw [(close_of_disabled isOpen enabled m).2]
      exact (alters_refl allows _).congr rfl rfl rfl

/-- Every visit leaves the identities sound and the meters in their places. -/
lemma Sound.apply (h : r.Sound) (visit : Visit) : (r.apply visit).Sound ∧ Extends r (r.apply visit) := by
  obtain ⟨id, b, e⟩ | ⟨publisher, running, e⟩ := r.apply_inv visit
  · obtain ⟨m, action⟩ := visit
    cases e
    rw [Registry.apply]
    dsimp only
    split
    · rename_i registered
      exact ⟨h.register registered, extends_register registered⟩
    · exact ⟨h, extends_refl r⟩
  · -- all that is done with a meter keeps it
    have alters : Alters Instrument.Kept r { r.touched visit.moment (visit.touches r) with publisher, running } :=
      (alters_touched (Instrument.allowsLooks_kept visit.moment)
        (fun _ _ i => Instrument.kept_apply visit.moment i _) r).congr rfl rfl rfl
    rw [e]
    exact ⟨h.altered alters, alters.extends⟩

/-- A request keeps the registry sound, and extends it. -/
lemma Sound.handle (h : r.Sound) (request : Request) :
    (r.handle request).Sound ∧ Extends r (r.handle request) := by
  cases request with
  | visit visit => exact h.apply visit
  | close m =>
    have marked : Sound { r with closed := true } := ⟨h.distinct, h.derived⟩
    have marks : Extends r { r with closed := true } := ⟨rfl, (extends_refl r).meters⟩
    have alters := alters_close (Instrument.allowsLooks_kept m) (Instrument.kept_close m) r
    exact ⟨marked.altered alters, marks.trans alters.extends⟩

/-- Any requests keep the registry sound, and extend it. -/
lemma Sound.serve (h : r.Sound) (requests : List Request) :
    (r.serve requests).Sound ∧ Extends r (r.serve requests) := by
  induction requests generalizing r with
  | nil => exact ⟨h, extends_refl r⟩
  | cons request rest ih =>
    obtain ⟨sound, grown⟩ := h.handle request
    obtain ⟨sound', grown'⟩ := ih sound
    exact ⟨sound', grown.trans grown'⟩

/-- A new registry is sound, as it is empty. -/
lemma sound_of_ofConfiguration (created : ofConfiguration c p = .ok r) : r.Sound := by
  obtain ⟨-, rfl⟩ := eq_of_ofConfiguration created
  refine ⟨.nil, fun ref meter there => ?_⟩
  rw [List.getElem?_nil] at there
  cases there

/-- Whatever is done with a registry, no two of its meters have the same identity, and a look-up gives the one
that has it. From then on this meter holds the identity: it stays in its place, of its kind and with its gauges.
A successful registration gives the holder of the identity that was asked for, of the kind that was asked for,
and adds meters only after all others. The gauges of all percentiles and boundaries have their holders. -/
theorem identities_run {r₀ : Registry} (created : ofConfiguration c p = .ok r₀) (past later : List Request) :
    let r := r₀.serve past
    (r.meters.Pairwise fun a b => ¬a.id.same b.id) ∧
    (∀ id ref, r.holder? id = some ref ↔ ∃ meter, r.meters[ref]? = some meter ∧ meter.id.same id) ∧
    (∀ id ref meter, r.holder? id = some ref → r.meters[ref]? = some meter →
      (r.serve later).holder? id = some ref ∧
      ∃ i, Instrument.Kept meter.instrument i ∧
        (r.serve later).meters[ref]? = some { meter with instrument := i }) ∧
    (∀ m id b outcome, r.register m id b = .ok outcome →
      (∃ meter, outcome.state.holder? id = some outcome.value ∧
        outcome.state.meters[outcome.value]? = some meter ∧ meter.kind = b.kind) ∧
      ∃ added, outcome.state = { r with meters := r.meters ++ added }) ∧
    ∀ meter ∈ r.meters, ∀ d text, meter.instrument.distribution? = some (d, text) →
      (∀ part ∈ d.window.percentiles, ∃ ref, r.holder? (meter.id.ofPercentile part) = some ref) ∧
      ∀ boundary ∈ d.window.boundaries,
        ∃ ref, r.holder? (meter.id.ofBoundary (boundaryText text boundary)) = some ref := by
  intro r
  have sound : r.Sound := ((sound_of_ofConfiguration created).serve past).1
  refine ⟨sound.distinct, fun id ref => sound.holder?_eq_some_iff, ?_, ?_, ?_⟩
  · intro id ref meter held there
    obtain ⟨sound', grown⟩ := sound.serve later
    exact ⟨grown.holder?_eq sound sound' held, grown.meters ref meter there⟩
  · intro m id b outcome registered
    obtain ⟨meter, there, same, kind⟩ := getElem?_register registered
    have held := (sound.register registered).holder?_eq_some_iff.2 ⟨meter, there, same⟩
    exact ⟨⟨meter, held, there, kind⟩, register_append registered⟩
  · intro meter mem d text distribution
    obtain ⟨ref, there⟩ := List.mem_iff_getElem?.1 mem
    have held := sound.derived ref meter there
    -- the gauges of percentiles and boundaries are all that such a meter brings
    simp only [Meter.derived, distribution] at held
    refine ⟨fun part hpart => sound.exists_holder?_iff.2 ?_, fun boundary hboundary =>
      sound.exists_holder?_iff.2 ?_⟩
    · exact held _ (List.mem_append_left _ (List.mem_map_of_mem hpart))
    · exact held _ (List.mem_append_right _ (List.mem_map_of_mem hboundary))

/-- A counter has the identity that the gauge of a percentile would have. The timer that comes after it brings no
gauge, and the counter keeps the identity through the closing of the registry. -/
theorem identities_run_taken :
    let at' (wall : Nat) : Moment := { wall, monotonic := 0 }
    let taken : Identity := ({ name := "t.percentile" } : Identity).withTag ⟨"phi", "0.5"⟩
    let r₀ : Registry := { config := {}, publisher := .hook [] }
    let past : List Request := [.visit ⟨at' 0, .register taken .counter⟩,
      .visit ⟨at' 0, .register { name := "t" } (.timer { percentiles := some [0.5] })⟩]
    let later : List Request := [.visit ⟨at' 5, .record 1 (.duration (Duration.ofSeconds 1))⟩,
      .visit ⟨at' 60000, .publish⟩, .close (at' 60001)]
    let r := r₀.serve past
    ofConfiguration {} (.hook []) = .ok r₀ ∧ r.meters.map Meter.kind = [.counter, .timer] ∧
      r.holder? (({ name := "t" } : Identity).ofPercentile 0.5) = some 0 ∧
      (r.serve later).holder? taken = some 0 ∧
      (r.serve later).meters[0]?.map Meter.kind = some .counter := by
  intro at' taken r₀ past later r
  have created : ofConfiguration {} (.hook []) = .ok r₀ := by rfl
  have kinds : r.meters.map Meter.kind = [.counter, .timer] := by decide +kernel
  have held : r.holder? taken = some 0 := by decide +kernel
  have gauge : ({ name := "t" } : Identity).ofPercentile 0.5 = taken := by decide +kernel
  obtain ⟨-, holds, keeps, -⟩ := identities_run created past later
  obtain ⟨counter, there, -⟩ := (holds taken 0).1 held
  obtain ⟨held', i, kept, there'⟩ := keeps taken 0 counter held there
  refine ⟨created, kinds, gauge ▸ held, held', ?_⟩
  have kind := congrArg (·[0]?) kinds
  rw [List.getElem?_map, there, Option.map_some, List.getElem?_cons_zero, Option.some_inj] at kind
  rw [there', Option.map_some, Meter.kind, kept.kind]
  exact congrArg some kind

end Serve

end Registry

end StepMeters
