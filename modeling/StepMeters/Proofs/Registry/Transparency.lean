import StepMeters.Proofs.Meter.CatchUp
import StepMeters.Proofs.Registry.Freezing

/-!
# Observing a registry

Two runs of a registry, one of them with more readings and publish cycles than the other, leave the same meters with
accumulators and windows that lag behind the clock by different times. They stay alike (`Registry.Alike`): once its
counters, timers and summaries have caught up with the clock, each is the same in both. A look makes no difference
to this, so it may come in one run only (`alike_look`); whatever else is asked for comes in both (`Alike.handle`). So
what is read of such a meter is the same in both runs (`transparent_run`).
-/

namespace StepMeters

/-- A moment is not later than another if neither of the two clocks has gone back. -/
instance : LE Moment := ⟨fun m m' => m.wall ≤ m'.wall ∧ m.monotonic ≤ m'.monotonic⟩

instance (m m' : Moment) : Decidable (m ≤ m') := inferInstanceAs (Decidable (_ ∧ _))

/-- A meter with what it is once it has caught up with a moment. -/
def Meter.caughtUp (m : Moment) (meter : Meter) : Identity × Option Instrument :=
  (meter.id, meter.instrument.caughtUp m)

namespace Registry

/-- A visit that neither registers a meter nor records anything. -/
def Visit.IsLook (visit : Visit) : Prop :=
  match visit.action with
  | .register _ _ => False
  | .record _ _ => False
  | _ => True

/-- Two registries have the same meters, and once they have caught up with a moment the counters, timers and
summaries among them are the same. -/
structure Alike (m : Moment) (r r' : Registry) : Prop where
  config : r'.config = r.config
  closed : r'.closed = r.closed
  meters : r'.meters.map (Meter.caughtUp m) = r.meters.map (Meter.caughtUp m)

section Alike
variable {r r' r'' : Registry} {m m' : Moment} {c : Configuration}

/-- Each registry is like itself. -/
lemma alike_refl (m : Moment) (r : Registry) : Alike m r r := ⟨rfl, rfl, rfl⟩

/-- Likeness goes both ways. -/
lemma Alike.symm (h : Alike m r r') : Alike m r' r := ⟨h.config.symm, h.closed.symm, h.meters.symm⟩

/-- Likeness carries over. -/
lemma Alike.trans (h : Alike m r r') (h' : Alike m r' r'') : Alike m r r'' :=
  ⟨h'.config.trans h.config, h'.closed.trans h.closed, h'.meters.trans h.meters⟩

/-- A look leaves an instrument that catches up to the same as before. -/
lemma allowsLooks_caughtUp (m : Moment) :
    Instrument.AllowsLooks m fun i i' => i'.caughtUp m = i.caughtUp m where
  refl _ := rfl
  trans h h' := h'.trans h
  look i _ look := i.caughtUp_look m look

/-- Registries are alike if each instrument catches up to the same. -/
lemma Alters.alike (h : Alters (fun i i' => i'.caughtUp m = i.caughtUp m) r r') : Alike m r r' := by
  refine ⟨h.config, h.closed, List.ext_getElem? fun ref => ?_⟩
  rw [List.getElem?_map, List.getElem?_map]
  cases there : r.meters[ref]? with
  | none =>
    have absent : r'.meters[ref]? = none := by
      rw [List.getElem?_eq_none_iff, h.length]
      exact List.getElem?_eq_none_iff.1 there
    rw [absent]
  | some meter =>
    obtain ⟨i, same, there'⟩ := h.meters ref meter there
    rw [there']
    exact congrArg (fun o => some (meter.id, o)) same

/-- The looks of a registry at its meters leave it alike. -/
lemma alike_touched {touches : List Touch} {publisher : Publisher} {running : Bool}
    (looks : ∀ t ∈ touches, t.action.IsLook) (r : Registry) :
    Alike m r { r.touched m touches with publisher, running } :=
  have alters := alters_looks (allowsLooks_caughtUp m) looks r
  ⟨rfl, rfl, alters.alike.meters⟩

/-- A look leaves a registry like the one before. -/
lemma alike_look (r : Registry) (visit : Visit) (look : visit.IsLook) :
    Alike visit.moment r (r.apply visit) := by
  obtain ⟨id, b, e⟩ | ⟨publisher, running, e⟩ := r.apply_inv visit
  · rw [Visit.IsLook, e] at look
    cases look
  · have record : ∀ ref recording, visit.action ≠ .record ref recording := by
      intro ref recording e
      rw [Visit.IsLook, e] at look
      cases look
    rw [e]
    exact alike_touched (r.isLook_touches visit record) r

/-- Alike meters stay alike as time goes by. -/
lemma Alike.later (h : Alike m r r') (le : m ≤ m') (rings : ∀ meter ∈ r.meters, meter.instrument.IsRing)
    (rings' : ∀ meter ∈ r'.meters, meter.instrument.IsRing) : Alike m' r r' := by
  have ahead : ∀ meters : List Meter, (∀ meter ∈ meters, meter.instrument.IsRing) →
      meters.map (Meter.caughtUp m')
        = (meters.map (Meter.caughtUp m)).map fun v => (v.1, v.2.bind (Instrument.caughtUp m')) := by
    intro meters rings
    rw [List.map_map]
    refine List.map_congr_left fun meter mem => ?_
    exact congrArg (Prod.mk _) (Instrument.caughtUp_later (rings meter mem) le.1 le.2)
  refine ⟨h.config, h.closed, ?_⟩
  rw [ahead _ rings, ahead _ rings', h.meters]

/-- A recording in both registries leaves them alike. -/
lemma Alike.record (h : Alike m r r') (ref : MeterRef) (recording : Recording) :
    Alike m (r.touched m [⟨ref, .record recording⟩]) (r'.touched m [⟨ref, .record recording⟩]) := by
  have recorded : ∀ meters : List Meter,
      (touchAll m meters [⟨ref, .record recording⟩]).map (Meter.caughtUp m)
        = (meters.map (Meter.caughtUp m)).modify ref fun v =>
            (v.1, v.2.bind fun j => (j.apply ⟨m, .record recording⟩).caughtUp m) := by
    intro meters
    refine List.ext_getElem? fun place => ?_
    show ((meters.modify ref _).map _)[place]? = _
    rw [List.getElem?_map, List.getElem?_modify, List.getElem?_modify, List.getElem?_map]
    cases meters[place]? with
    | none => rfl
    | some meter =>
      rw [Option.map_eq_map, Option.map_eq_map, Option.map_some, Option.map_some, Option.map_some,
        Option.map_some]
      by_cases here : ref = place
      · rw [if_pos here, if_pos here]
        exact congrArg (fun o => some (meter.id, o)) (meter.instrument.caughtUp_record m recording)
      · rw [if_neg here, if_neg here]
  refine ⟨h.config, h.closed, ?_⟩
  show (touchAll m r'.meters _).map _ = (touchAll m r.meters _).map _
  rw [recorded, recorded, h.meters]

/-- Closing all meters keeps registries alike. -/
lemma alike_closeAll (h : Alike m r r') : Alike m (r.closeAll m) (r'.closeAll m) := by
  have closed : ∀ meters : List Meter, (meters.map (·.close m)).map (Meter.caughtUp m)
      = (meters.map (Meter.caughtUp m)).map fun v =>
          (v.1, v.2.bind fun j => (j.close m).caughtUp m) := by
    intro meters
    rw [List.map_map, List.map_map]
    exact List.map_congr_left fun meter _ => congrArg (Prod.mk _) (meter.instrument.caughtUp_close m)
  refine ⟨h.config, h.closed, ?_⟩
  show (r'.meters.map _).map _ = (r.meters.map _).map _
  rw [closed, closed, h.meters]

/-- Registries that were alike are alike once both have closed. -/
lemma Alike.close (h : Alike m r r') : Alike m (r.close m).state (r'.close m).state := by
  have marked : Alike m { r with closed := true } { r' with closed := true } := ⟨h.config, rfl, h.meters⟩
  have reports (r : Registry) : ∀ t ∈ r.places.flatMap (reportTouches r.meters), t.action.IsLook := by
    intro t mem
    obtain ⟨ref, -, mem⟩ := List.mem_flatMap.1 mem
    exact isLook_reportTouches ref t mem
  cases isOpen : r.closed with
  | true =>
    rw [close_of_closed isOpen, close_of_closed (h.closed.trans isOpen)]
    exact h
  | false =>
    have isOpen' := h.closed.trans isOpen
    cases enabled : r.config.enabled with
    | true =>
      have enabled' : r'.config.enabled = true := by rw [h.config, enabled]
      rw [(close_of_enabled isOpen enabled m).2, (close_of_enabled isOpen' enabled' m).2, state_deliver,
        state_deliver]
      exact (alike_touched (reports _) _).symm.trans ((alike_closeAll marked).trans (alike_touched (reports _) _))
    | false =>
      have disabled' : r'.config.enabled = false := by rw [h.config, enabled]
      rw [(close_of_disabled isOpen enabled m).2, (close_of_disabled isOpen' disabled' m).2]
      exact ⟨h.config, rfl, h.meters⟩

/-- A registration adds a meter and its gauges, if the identity is free and the meter can be built. -/
lemma apply_register (r : Registry) (m : Moment) (id : Identity) (b : Blueprint) :
    r.apply ⟨m, .register id b⟩ =
      if r.meters.any fun meter => meter.id.same (b.identify r.config id) then r
      else
        match b.build r.config m with
        | .error _ => r
        | .ok instrument =>
          let meter : Meter := ⟨b.identify r.config id, instrument⟩
          { r with meters := (meter.derived r.meters.length).foldl addFree (r.meters ++ [meter]) } := by
  rw [Registry.apply]
  dsimp only
  unfold register
  dsimp only
  cases found : r.find? (b.identify r.config id) with
  | some ref =>
    have taken : (r.meters.any fun meter => meter.id.same (b.identify r.config id)) = true :=
      List.any_eq_true.2 ⟨r.meters[ref], List.getElem_mem _, (List.findFinIdx?_eq_some_iff.1 found).1⟩
    rw [if_pos taken]
    dsimp only
    split
    · rename_i ok
      split at ok
      · cases ok
        rfl
      · cases ok
    · rfl
  | none =>
    have free : ¬(r.meters.any fun meter => meter.id.same (b.identify r.config id)) = true := by
      rw [List.any_eq_true]
      rintro ⟨meter, mem, same⟩
      exact List.findFinIdx?_eq_none_iff.1 found meter mem same
    rw [if_neg free]
    dsimp only
    cases b.build r.config m <;> rfl

/-- Whether an identity is held does not depend on whether the meters have caught up. -/
lemma any_same_congr {meters meters' : List Meter}
    (same : meters'.map (Meter.caughtUp m) = meters.map (Meter.caughtUp m)) (id : Identity) :
    (meters'.any fun meter => meter.id.same id) = meters.any fun meter => meter.id.same id := by
  have ids := congrArg (List.any · fun v => v.1.same id) same
  rw [List.any_map, List.any_map] at ids
  exact ids

/-- Further meters are added to alike meters in the same way. -/
lemma foldl_addFree_congr (more : List Meter) {meters meters' : List Meter}
    (same : meters'.map (Meter.caughtUp m) = meters.map (Meter.caughtUp m)) :
    (more.foldl addFree meters').map (Meter.caughtUp m) = (more.foldl addFree meters).map (Meter.caughtUp m) := by
  induction more generalizing meters meters' with
  | nil => exact same
  | cons meter rest ih =>
    refine ih ?_
    rw [addFree, addFree, any_same_congr same]
    split
    · exact same
    · rw [List.map_append, List.map_append, same]

/-- A registration finds the same in alike registries, or adds the same to both. -/
lemma Alike.register (h : Alike m r r') (id : Identity) (b : Blueprint) :
    Alike m (r.apply ⟨m, .register id b⟩) (r'.apply ⟨m, .register id b⟩) := by
  have length : r'.meters.length = r.meters.length := by
    have lengths := congrArg List.length h.meters
    rwa [List.length_map, List.length_map] at lengths
  rw [apply_register, apply_register, h.config, any_same_congr h.meters, length]
  split
  · exact h
  · cases b.build r.config m with
    | error fault => exact h
    | ok instrument =>
      dsimp only
      refine ⟨rfl, h.closed, foldl_addFree_congr _ ?_⟩
      rw [List.map_append, List.map_append, h.meters]

/-- Whatever is asked of both registries leaves them alike. -/
lemma Alike.handle (request : Request) (h : Alike request.moment r r') :
    Alike request.moment (r.handle request) (r'.handle request) := by
  cases request with
  | close m => exact h.close
  | visit visit =>
    obtain ⟨m, action⟩ := visit
    have look (isLook : Visit.IsLook ⟨m, action⟩) : Alike m (r.apply ⟨m, action⟩) (r'.apply ⟨m, action⟩) :=
      (alike_look r ⟨m, action⟩ isLook).symm.trans (h.trans (alike_look r' ⟨m, action⟩ isLook))
    cases action with
    | register id b => exact h.register id b
    | record ref recording =>
      show Alike m (r.record m ref recording).state (r'.record m ref recording).state
      rw [state_record, state_record]
      exact h.record ref recording
    | _ => exact look trivial

end Alike

/-- A run with more looks than another, at whatever points. -/
inductive Padded : List Request → List Request → Prop where
  | nil : Padded [] []
  | both (request : Request) {past past' : List Request} :
    Padded past past' → Padded (request :: past) (request :: past')
  | more {visit : Visit} {past past' : List Request} :
    visit.IsLook → Padded past past' → Padded past (.visit visit :: past')

section Transparent
variable {r r' r₀ : Registry} {m : Moment} {c : Configuration} {p : Publisher} {ref : MeterRef} {meter : Meter}
  {k : Recorder} {past past' : List Request}

/-- Meters that were alike at some moment before two runs are alike after them. -/
lemma Alike.run {start : Moment} (h : Alike start r r') (config : r.config = c)
    (rings : ∀ meter ∈ r.meters, meter.instrument.IsRing) (rings' : ∀ meter ∈ r'.meters, meter.instrument.IsRing)
    (padded : Padded past past') (order : (start :: past'.map Request.moment ++ [m]).Pairwise (· ≤ ·)) :
    Alike m (r.serve past) (r'.serve past') := by
  have inv := Instrument.isInvariant_isRing c
  induction padded generalizing r r' start with
  | nil => exact h.later ((List.pairwise_cons.1 order).1 m (by simp)) rings rings'
  | both request _ ih =>
    rw [List.map_cons, List.cons_append, List.pairwise_cons] at order
    have here := h.later (order.1 request.moment (by simp)) rings rings'
    exact ih here.handle ((r.config_handle request).trans config) (forall_handle inv config rings request)
      (forall_handle inv (h.config.trans config) rings' request) order.2
  | @more visit _ _ look _ ih =>
    rw [List.map_cons, List.cons_append, List.pairwise_cons] at order
    have here := h.later (order.1 visit.moment (by simp [Request.moment])) rings rings'
    exact ih (here.trans (alike_look r' visit look)) config rings
      (forall_handle inv (h.config.trans config) rings' (.visit visit)) order.2

section Values
variable {j : Instrument} (h : Alike m r r') (there : r.meters[ref]? = some meter)
  (caught : meter.instrument.caughtUp m = some j)
include h there caught

/-- A meter that catches up has one like it in its place, which catches up to the same. -/
lemma Alike.getElem? : ∃ i, r'.meters[ref]? = some { meter with instrument := i } ∧ i.caughtUp m = some j := by
  have same := congrArg (·[ref]?) h.meters
  rw [List.getElem?_map, List.getElem?_map, there, Option.map_some, Option.map_eq_some_iff] at same
  obtain ⟨⟨id, i⟩, there', same⟩ := same
  obtain ⟨rfl, same⟩ := Prod.mk.inj same
  exact ⟨i, there', same.trans caught⟩

/-- Work with a meter that depends only on what it is once it has caught up. -/
lemma Alike.value_visit {α : Type} {work? : Instrument → Option (Outcome Instrument α)}
    (depends : ∀ i j : Instrument, i.caughtUp m = some j →
      (work? j).map Outcome.value = (work? i).map Outcome.value) :
    (r'.visit ref work?).value = (r.visit ref work?).value := by
  obtain ⟨i, there', caught'⟩ := h.getElem? there caught
  rw [Registry.value_visit, Registry.value_visit, there, there']
  exact (depends i j caught').symm.trans (depends meter.instrument j caught)

/-- Alike registries read the same. -/
lemma Alike.value_read (unit : Option TimeUnit) (s : Statistic) :
    (r'.read m ref unit s).value = (r.read m ref unit s).value := by
  obtain ⟨i, there', caught'⟩ := h.getElem? there caught
  rw [read_eq_visit there (Instrument.kind_caughtUp caught).2,
    read_eq_visit there' (Instrument.kind_caughtUp caught').2]
  exact h.value_visit there caught fun _ _ caught => Instrument.value_read_caughtUp caught s unit

/-- Alike registries read the same statistics. -/
lemma Alike.value_readAll (statistics : List Statistic) :
    (r'.readAll m ref none statistics).value = (r.readAll m ref none statistics).value := by
  induction statistics generalizing r r' meter with
  | nil => rfl
  | cons s rest ih =>
    -- the first reading leaves both registries alike
    have after (r : Registry) : Alike m r (r.read m ref none s).state := by
      rw [state_read]
      exact alike_touched (isLook_readTouches ref none s) r
    obtain ⟨i, there', caught'⟩ := (after r).getElem? there caught
    have first := h.value_read there caught none s
    have rest' := ih ((after r).symm.trans (h.trans (after r'))) there' caught'
    show ((r'.read m ref none s).value.map (Measurement.mk s)).toList
      ++ ((r'.read m ref none s).state.readAll m ref none rest).value = _
    rw [first, rest']
    rfl

/-- Alike registries report the same. -/
lemma Alike.value_report : (r'.report m ref).value = (r.report m ref).value := by
  have report {r : Registry} {meter : Meter} (there : r.meters[ref]? = some meter) :
      (r.report m ref).value = some
        { kind := meter.kind, id := meter.id
          measurements := (r.readAll m ref none meter.instrument.statistics).value } := by
    rw [Registry.report]
    split
    · rename_i none
      rw [there] at none
      cases none
    · rename_i found
      rw [there, Option.some_inj] at found
      subst found
      rfl
  obtain ⟨i, there', caught'⟩ := h.getElem? there caught
  have kind : i.kind = meter.instrument.kind :=
    (Instrument.kind_caughtUp caught').1.symm.trans (Instrument.kind_caughtUp caught).1
  have statistics : i.statistics = meter.instrument.statistics :=
    (Instrument.statistics_caughtUp caught').symm.trans (Instrument.statistics_caughtUp caught)
  rw [report there, report there', Meter.kind, Meter.kind, kind, statistics, h.value_readAll there caught]

end Values

/-- Observing a registry does not disturb its counters, timers and summaries. If neither clock goes back, each
reading, query, snapshot and report of such a meter is the same after two runs one of which has any number of
readings and publish cycles more than the other. -/
theorem transparent_run (created : ofConfiguration c p = .ok r₀) (padded : Padded past past')
    (order : (past'.map Request.moment ++ [m]).Pairwise (· ≤ ·))
    (there : (r₀.serve past).meters[ref]? = some meter) (takes : meter.instrument.recorder? = some k) :
    let r := r₀.serve past
    let r' := r₀.serve past'
    (∀ unit s, (r'.read m ref unit s).value = (r.read m ref unit s).value) ∧
    (∀ unit part, (r'.percentile m ref unit part).value = (r.percentile m ref unit part).value) ∧
    (∀ unit amount, (r'.countAtMost m ref unit amount).value = (r.countAtMost m ref unit amount).value) ∧
    (r'.snapshot m ref).value = (r.snapshot m ref).value ∧
    (r'.report m ref).value = (r.report m ref).value := by
  intro r r'
  let start : Moment := { wall := 0, monotonic := 0 }
  have order' : (start :: past'.map Request.moment ++ [m]).Pairwise (· ≤ ·) :=
    List.pairwise_cons.2 ⟨fun later _ => ⟨Nat.zero_le later.wall, Nat.zero_le later.monotonic⟩, order⟩
  have rings := forall_serve_of_ofConfiguration (Instrument.isInvariant_isRing c) created []
  have alike : Alike m r r' :=
    (alike_refl start r₀).run (config_serve_of_ofConfiguration created []) rings rings padded order'
  obtain ⟨j, caught⟩ := Instrument.exists_caughtUp takes m
  refine ⟨fun unit s => alike.value_read there caught unit s, fun unit part => ?_, fun unit amount => ?_, ?_,
    alike.value_report there caught⟩
  · exact alike.value_visit there caught fun _ _ caught =>
      Instrument.value_percentile_caughtUp caught unit part
  · exact alike.value_visit there caught fun _ _ caught =>
      Instrument.value_countAtMost_caughtUp caught unit amount
  · exact alike.value_visit there caught fun _ _ caught => Instrument.value_snapshot_caughtUp caught

/-- A summary that is looked at in one run and not in the other, through pauses of more than a step and more than a
phase of its window. -/
theorem transparent_run_summary :
    let at' (seconds : Nat) : Moment := { wall := seconds * 1000, monotonic := seconds * 1000000000 }
    let r₀ : Registry := { config := {}, publisher := .hook [] }
    let register : Request := .visit ⟨at' 0, .register { name := "s" } (.summary {})⟩
    let first : Request := .visit ⟨at' 5, .record 0 (.amount 5.0)⟩
    let second : Request := .visit ⟨at' 95, .record 0 (.amount 7.0)⟩
    let past := [register, first, second]
    let past' := [register, .visit ⟨at' 1, .read 0 none .mean⟩, first, .visit ⟨at' 50, .percentile 0 none 0.5⟩,
      .visit ⟨at' 60, .publish⟩, second, .visit ⟨at' 119, .snapshot 0⟩, .visit ⟨at' 119, .report 0⟩]
    (past'.map Request.moment ++ [at' 121]).Pairwise (· ≤ ·) ∧
      ((r₀.serve past').read (at' 121) 0 none .total).value = some 7.0 ∧
      ((r₀.serve past').read (at' 121) 0 none .total).value = ((r₀.serve past).read (at' 121) 0 none .total).value ∧
      ((r₀.serve past').percentile (at' 121) 0 none 0.5).value
        = ((r₀.serve past).percentile (at' 121) 0 none 0.5).value := by
  intro at' r₀ register first second past past'
  have created : ofConfiguration {} (.hook []) = .ok r₀ := by rfl
  have order : (past'.map Request.moment ++ [at' 121]).Pairwise (· ≤ ·) := by decide
  have padded : Padded past past' :=
    .both _ (.more trivial (.both _ (.more trivial (.more trivial (.both _ (.more trivial
      (.more trivial .nil)))))))
  have recorders : ((r₀.serve past).meters[0]?.bind fun meter => meter.instrument.recorder?).isSome := by
    decide +kernel
  obtain ⟨k, recorder⟩ := Option.isSome_iff_exists.1 recorders
  obtain ⟨meter, there, takes⟩ := Option.bind_eq_some_iff.1 recorder
  obtain ⟨read, percentile, -⟩ := transparent_run created padded order there takes
  refine ⟨order, ?_, read none .total, percentile none 0.5⟩
  rw [read none .total]
  decide +kernel

end Transparent

end Registry

end StepMeters
