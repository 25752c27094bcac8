import StepMeters.Proofs.Meter.Watching
import StepMeters.Proofs.Registry.Places

/-!
# Windows of registered meters

Closing a registry makes the statistics of its meters final, but their windows go on. So whatever is asked of a
registry, the window of a meter is the run of what the meter was asked (`watches_serve`); gauges, which have no
window, stay as they are.
-/

namespace StepMeters

namespace Instrument

/-- What some visits leave of an instrument as far as its window goes, with closings in between. -/
structure Watches (visits : List Visit) (i i' : Instrument) : Prop where
  gauge : i'.gauge? = i.gauge?
  recorder : i'.recorder? = i.recorder?
  window : i'.window? = i.window?.map (·.run (i.watched visits))

section Watches
variable {i i' i'' : Instrument} {visits visits' : List Visit}

/-- A run of visits does with a window what `watched` says. -/
lemma watches_run (i : Instrument) (visits : List Visit) : Watches visits i (i.run visits) :=
  ⟨i.gauge?_run visits, i.recorder?_run visits, i.window?_run visits⟩

/-- A meter that is left alone has its window as it was. -/
lemma watches_refl (i : Instrument) : Watches [] i i := i.watches_run []

/-- What is done with a window adds up. -/
lemma Watches.trans (h : Watches visits i i') (h' : Watches visits' i' i'') : Watches (visits ++ visits') i i'' where
  gauge := h'.gauge.trans h.gauge
  recorder := h'.recorder.trans h.recorder
  window := by
    have same : i'.watched visits' = i.watched visits' := by
      rw [watched, watched, h.recorder]
    rw [h'.window, h.window, Option.map_map, same, watched_append]
    congr 1
    funext w
    exact List.foldl_append.symm

/-- Closing does not change which gauge an instrument is. -/
lemma gauge?_close (i : Instrument) (m : Moment) : (i.close m).gauge? = i.gauge? := by
  cases i <;> rfl

/-- Closing does not change which statistics an instrument publishes. -/
lemma statistics_close (i : Instrument) (m : Moment) : (i.close m).statistics = i.statistics := by
  cases i <;> rfl

/-- Closing a meter does nothing with its window. -/
lemma watches_close (i : Instrument) (m : Moment) : Watches [] i (i.close m) where
  gauge := i.gauge?_close m
  recorder := i.recorder?_close m
  window := (i.window?_close m).trans i.watches_refl.window

end Watches

end Instrument

namespace Registry

/-- What is done with the window of the meter at a place during some requests. -/
def watched (ref : MeterRef) (r : Registry) (requests : List Request) : List Window.Visit :=
  r.meters[ref]?.elim [] fun meter => meter.instrument.watched (visitsIn ref r requests)

section Watches
variable {r : Registry} {ref : MeterRef} {meter : Meter}

/-- A closed meter is reported like an open one. -/
lemma reportTouches_closeAll (r : Registry) (m : Moment) :
    reportTouches (r.closeAll m).meters = reportTouches r.meters := by
  have reads (ref : MeterRef) : readTouches (r.closeAll m).meters ref none = readTouches r.meters ref none := by
    funext s
    unfold readTouches
    rw [closeAll, List.getElem?_map, Option.bind_map]
    simp only [Function.comp_def, Meter.close, Instrument.gauge?_close]
  funext ref
  rw [reportTouches, reportTouches, reads, closeAll, List.getElem?_map]
  cases r.meters[ref]? with
  | none => rfl
  | some meter =>
    rw [Option.map_some, Option.elim_some, Option.elim_some, Meter.close, Instrument.statistics_close]

/-- Closing a registry only looks at the windows, for the last report. -/
lemma watches_close (there : r.meters[ref]? = some meter) (m : Moment) :
    ∃ i, (r.close m).state.meters[ref]? = some { meter with instrument := i } ∧
      meter.instrument.Watches (visitsAt ref m (Request.touches r (.close m))) i := by
  cases isOpen : r.closed with
  | true =>
    rw [close_of_closed isOpen, Request.touches, isOpen]
    exact ⟨meter.instrument, there, meter.instrument.watches_refl⟩
  | false =>
    cases enabled : r.config.enabled with
    | true =>
      have closed : (closeAll { r with closed := true } m).meters[ref]? = some (meter.close m) := by
        rw [closeAll, List.getElem?_map, there]
        rfl
      have places : (closeAll { r with closed := true } m).places = r.places := congrArg List.range (List.length_map _)
      have touches : (closeAll { r with closed := true } m).places.flatMap
          (reportTouches (closeAll { r with closed := true } m).meters)
            = r.places.flatMap (reportTouches r.meters) := by
        rw [places, reportTouches_closeAll]
      rw [(close_of_enabled isOpen enabled m).2, state_deliver, touches, Request.touches, isOpen, enabled]
      exact ⟨_, getElem?_touched closed m _,
        (meter.instrument.watches_close m).trans (Instrument.watches_run _ _)⟩
    | false =>
      rw [(close_of_disabled isOpen enabled m).2, Request.touches, isOpen, enabled]
      exact ⟨meter.instrument, there, meter.instrument.watches_refl⟩

/-- A request does with the window of a meter what its touches say. -/
lemma watches_handle (there : r.meters[ref]? = some meter) (request : Request) :
    ∃ i, (r.handle request).meters[ref]? = some { meter with instrument := i } ∧
      meter.instrument.Watches (visitsAt ref request.moment (request.touches r)) i := by
  cases request with
  | visit visit => exact ⟨_, (r.grows_apply visit).getElem? there, meter.instrument.watches_run _⟩
  | close m => exact watches_close there m

/-- Whatever is asked of a registry, the window of a meter is the run of what is done with it. -/
lemma watches_serve (there : r.meters[ref]? = some meter) (requests : List Request) :
    ∃ i, (r.serve requests).meters[ref]? = some { meter with instrument := i } ∧
      meter.instrument.Watches (visitsIn ref r requests) i := by
  induction requests generalizing r meter with
  | nil => exact ⟨meter.instrument, there, meter.instrument.watches_refl⟩
  | cons request rest ih =>
    obtain ⟨i, there', watches⟩ := watches_handle there request
    obtain ⟨i', there'', watches'⟩ := ih there'
    exact ⟨i', there'', watches.trans watches'⟩

end Watches

end Registry

end StepMeters
