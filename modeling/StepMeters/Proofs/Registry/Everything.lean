import StepMeters.Proofs.Registry.Gauges

/-!
# The gauge that is to count everything

All boundaries beyond the words of 64 bits share the text `+Inf`, which no other boundary has (`boundaryText_iff`).
So a meter with such boundaries has one gauge of this name, and it is that of the least of them. It counts what does
not exceed this boundary, and so it counts everything as long as nothing greater is recorded (`everything_run`). But
greater amounts, which the window counts like all others, are missing there (`everything_misses`).
-/

namespace StepMeters

/-- The text of no number has a plus sign. -/
lemma Numeral.ne_everything (x : Float) : numeral x ≠ "+Inf" := by
  intro same
  have same := congrArg String.toList same
  rw [toList_numeral] at same
  split at same
  · exact absurd same (by decide)
  · rename_i defined
    obtain ⟨c, rest, plus, e⟩ : ∃ c rest, c ≠ '+' ∧ unsigned x.toBits = c :: rest := by
      rcases (not_lt.1 defined).lt_or_eq with finite | infinite
      · obtain ⟨c, rest, digit, e⟩ := exists_digit_of_finite finite
        refine ⟨c, rest, ?_, e⟩
        rintro rfl
        exact absurd digit (by decide)
      · exact ⟨'i', ['n', 'f'], by decide, unsigned_of_infinity infinite⟩
    rw [signed, e] at same
    split at same
    · exact absurd (List.cons.inj same).1 (by decide)
    · exact plus (List.cons.inj same).1

/-- The label that stands for everything goes to all boundaries from the top of the machine words on. -/
lemma boundaryText_iff (scale : Float → Float) (boundary : Float) :
    boundaryText (fun b => numeral (scale b)) boundary = "+Inf" ↔ 18446744073709551616.0 ≤ boundary := by
  rw [boundaryText]
  split
  · rename_i large
    exact ⟨fun _ => large, fun _ => rfl⟩
  · rename_i small
    exact ⟨fun same => absurd same (Numeral.ne_everything _), fun large => absurd large small⟩

/-- Identities of boundaries tell the texts of the boundaries. -/
lemma Identity.eq_of_same_ofBoundary {id : Identity} {text text' : String}
    (same : (id.ofBoundary text').same (id.ofBoundary text)) : text' = text := by
  have tags := congrArg (fun tags : List Tag => (tags.find? fun tag => tag.key == "le").map Tag.value)
    (same_iff.1 same).2
  have texts : some text' = some text :=
    (tag?_withTag_self _ ⟨"le", text'⟩).symm.trans (tags.trans (tag?_withTag_self _ ⟨"le", text⟩))
  exact Option.some.inj texts

/-- The first boundary of an increasing list that reaches a bound is the least one that does. -/
lemma Distribution.exists_least {boundaries : List Float} {bound : Float} (increasing : boundaries.Pairwise (· < ·))
    (reached : ∃ b ∈ boundaries, bound ≤ b) :
    ∃ (n : Nat) (least : Float), boundaries[n]? = some least ∧ bound ≤ least ∧
      (∀ b ∈ boundaries, bound ≤ b → least ≤ b) ∧
      ∀ (n' : Nat) (smaller : Float), n' < n → boundaries[n']? = some smaller → ¬bound ≤ smaller := by
  obtain ⟨b, mem, reaches⟩ := reached
  cases found : boundaries.findIdx? (bound ≤ ·) with
  | none => exact absurd (decide_eq_true reaches) (by simpa using List.findIdx?_eq_none_iff.1 found b mem)
  | some n =>
    obtain ⟨inside, here, before⟩ := List.findIdx?_eq_some_iff_getElem.1 found
    have here := of_decide_eq_true here
    refine ⟨n, boundaries[n], List.getElem?_eq_getElem inside, here, fun b mem reaches => ?_,
      fun n' smaller less there => ?_⟩
    · obtain ⟨n', inside', rfl⟩ := List.getElem_of_mem mem
      rcases Nat.lt_trichotomy n' n with less | rfl | greater
      · exact absurd (decide_eq_true reaches) (by simpa using before n' less)
      · exact Amount.le_refl (Amount.isNaN_of_le here).2
      · exact Amount.le_of_lt (List.pairwise_iff_getElem.1 increasing n n' inside inside' greater)
    · obtain ⟨inside', rfl⟩ := List.getElem?_eq_some_iff.1 there
      simpa using before n' less

namespace Registry

section Everything
variable {r₀ : Registry} {c : Configuration} {p : Publisher} {id : Identity} {b : Blueprint} {k : Recorder}
  {s : Distribution.Settings} {start : Moment} {outcome : Outcome Registry MeterRef}

/-- What the gauge `+Inf` of a timer or summary counts, if some boundary lies beyond the words of 64 bits and the
identity of the gauge was free. At any moment it reads the number of recordings inside the window that do not exceed
the least boundary of this size. These are all recordings inside the window if and only if none is greater. -/
theorem everything_run (created : ofConfiguration c p = .ok r₀) (past : List Request) (takes : b.recorder? c = some k)
    (asks : b.settings? c = some s) (large : ∃ boundary ∈ s.boundaries, 18446744073709551616.0 ≤ boundary)
    (new : (r₀.serve past).holder? id = none)
    (free : (r₀.serve past).holder? ((b.identify c id).ofBoundary "+Inf") = none)
    (registered : (r₀.serve past).register start id b = .ok outcome) (later : List Request) (m : Moment) :
    let now := outcome.state.serve later
    let recordings := Window.windowed s start.monotonic (watched outcome.value outcome.state later) m.monotonic
    ∃ place least, now.holder? ((b.identify c id).ofBoundary "+Inf") = some place ∧
      least ∈ s.boundaries ∧ 18446744073709551616.0 ≤ least ∧
      (∀ boundary ∈ s.boundaries, 18446744073709551616.0 ≤ boundary → least ≤ boundary) ∧
      (∀ looks, LooksAt m looks → ((now.run looks).read m place none .value).value
        = some (Float.ofNat (Window.atMost recordings least))) ∧
      (Window.atMost recordings least = recordings.length ↔ ∀ e ∈ recordings, e.amount ≤ least) := by
  intro now recordings
  obtain ⟨-, w, -, -, -, window, -⟩ := owner_inv created past takes asks new registered later
  obtain ⟨increasing, -⟩ :=
    Distribution.Settings.collects_boundaries (Window.new_of_ofSettings window).1
  obtain ⟨n, least, listed, reaches, minimal, before⟩ := Distribution.exists_least increasing large
  have text (boundary : Float) : boundaryText (fun b => numeral (k.scale none b)) boundary = "+Inf"
      ↔ 18446744073709551616.0 ≤ boundary := boundaryText_iff (k.scale none) boundary
  have known : k.boundaryId (b.identify c id) least = (b.identify c id).ofBoundary "+Inf" :=
    congrArg _ ((text least).2 reaches)
  rw [← known] at free ⊢
  -- all boundaries from the top on share one label, and the gauge that comes first keeps it
  have first : ∀ n' smaller, n' < n → s.boundaries[n']? = some smaller →
      ¬(k.boundaryId (b.identify c id) smaller).same (k.boundaryId (b.identify c id) least) := by
    intro n' smaller less there same
    have texts := Identity.eq_of_same_ofBoundary same
    exact before n' smaller less there ((text smaller).1 (texts.trans ((text least).2 reaches)))
  obtain ⟨place, held, reads⟩ :=
    exists_boundary_gauge created past takes asks new registered later listed free first m
  refine ⟨place, least, held, List.mem_of_getElem? listed, reaches, minimal,
    fun looks at' => (reads looks at').1, ?_⟩
  rw [Window.atMost, List.countP_eq_length]
  simp only [decide_eq_true_iff]

/-- A summary with a boundary of 2^64, which neither of two recordings exceeds. -/
theorem everything_run_small :
    let at' (seconds : Nat) : Moment := { wall := seconds * 1000, monotonic := seconds * 1000000000 }
    let r₀ : Registry := { config := {}, publisher := .hook [] }
    let id : Identity := { name := "s" }
    let b : Blueprint := .summary { objectives := some [18446744073709551616.0] }
    let later : List Request := [.visit ⟨at' 1, .record 0 (.amount 18446744073709551616.0)⟩,
      .visit ⟨at' 2, .record 0 (.amount 5)⟩]
    let now := (r₀.apply ⟨at' 0, .register id b⟩).serve later
    let looks : List Visit := [⟨at' 3, .snapshot 0⟩]
    ∃ place, now.holder? (id.ofBoundary "+Inf") = some place ∧
      ((now.run looks).read (at' 3) place none .value).value = some 2.0 := by
  intro at' r₀ id b later now looks
  have created : ofConfiguration {} (.hook []) = .ok r₀ := by rfl
  have takes : b.recorder? {} = some .summary := by rfl
  have asks : b.settings? {} = some { objectives := [18446744073709551616.0] } := by rfl
  -- there is one boundary only
  have only : ({ objectives := [18446744073709551616.0] } : Distribution.Settings).boundaries
      = [18446744073709551616.0] := by decide +kernel
  have large : ∃ boundary ∈ ({ objectives := [18446744073709551616.0] } : Distribution.Settings).boundaries,
      18446744073709551616.0 ≤ boundary := ⟨_, by rw [only]; exact List.mem_singleton_self _, by decide +kernel⟩
  cases registered : r₀.register (at' 0) id b with
  | error fault =>
    have accepted : (r₀.register (at' 0) id b).toOption.isSome = true := by decide +kernel
    rw [registered] at accepted
    cases accepted
  | ok outcome =>
    have state : r₀.apply ⟨at' 0, .register id b⟩ = outcome.state := by
      rw [Registry.apply]
      dsimp only
      rw [registered]
    have ref : (r₀.register (at' 0) id b).toOption.map Outcome.value = some 0 := by decide +kernel
    rw [registered] at ref
    have ref : outcome.value = 0 := Option.some.inj ref
    obtain ⟨place, least, held, mem, -, -, reads, all⟩ :=
      everything_run created [] takes asks large (by decide +kernel) (by decide +kernel) registered later (at' 3)
    rw [← state, ref] at reads all
    rw [← state] at held
    rw [only, List.mem_singleton] at mem
    subst mem
    have together : LooksAt (at' 3) looks := by simp [LooksAt, looks, Visit.IsLook]
    have read := reads looks together
    rw [all.2 (by decide +kernel)] at read
    refine ⟨place, held, read.trans ?_⟩
    decide +kernel

/-- The gauge of everything misses what is greater than its boundary, while the meter counts it. -/
theorem everything_misses :
    let at' (seconds : Nat) : Moment := { wall := seconds * 1000, monotonic := seconds * 1000000000 }
    let r₀ : Registry := { config := {}, publisher := .hook [] }
    let id : Identity := { name := "s" }
    let b : Blueprint := .summary { objectives := some [18446744073709551616.0] }
    let s : Distribution.Settings := { objectives := [18446744073709551616.0] }
    let later : List Request := [.visit ⟨at' 1, .record 0 (.amount 100000000000000000000.0)⟩,
      .visit ⟨at' 2, .record 0 (.amount 5)⟩]
    let r := r₀.apply ⟨at' 0, .register id b⟩
    let now := r.serve later
    ofConfiguration {} (.hook []) = .ok r₀ ∧ b.settings? {} = some s ∧
      (∃ boundary ∈ s.boundaries, 18446744073709551616.0 ≤ boundary) ∧
      r₀.holder? id = none ∧ r₀.holder? (id.ofBoundary "+Inf") = none ∧
      (Window.windowed s 0 (watched 0 r later) (at' 3).monotonic).length = 2 ∧
      now.holder? (id.ofBoundary "+Inf") = some 1 ∧ (now.read (at' 3) 1 none .value).value = some 1.0 := by
  intro at' r₀ id b s later r now
  have only : s.boundaries = [18446744073709551616.0] := by decide +kernel
  have listed : 18446744073709551616.0 ∈ s.boundaries := by rw [only]; exact List.mem_singleton_self _
  refine ⟨by rfl, by rfl, ⟨18446744073709551616.0, listed, by decide +kernel⟩, ?_⟩
  decide +kernel

end Everything

end Registry

end StepMeters
