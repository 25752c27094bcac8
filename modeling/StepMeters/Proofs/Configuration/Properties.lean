import Mathlib.Tactic.Lemma
import StepMeters.Configuration.Properties
import StepMeters.Proofs.Text.Blank
import StepMeters.Proofs.Time.Parser

/-!
# Configurations made of properties

What the values of properties mean is said apart from how they are read: a step is a number of units
(`Duration.Reads`), a truth value and a unit of time are words (`Reads`, `TimeUnit.Reads`). A property gives the value
that its text means, or the default where it is missing (`Gives`), and offends if its text means nothing (`Offends`).
A scope then either makes a configuration (`Makes`) or is refused for its first fault (`Refuses`), and reading does
just that (`ofProperties_exact`).
-/

namespace StepMeters

/-- A text means a duration: it writes a number of units whose milliseconds fit 64 bits. -/
def Duration.Reads (raw : String) (d : Duration) : Prop :=
  ∃ digits unit millis, Duration.Writes raw.toList digits (String.toList unit) ∧ (unit, millis) ∈ Duration.units ∧
    Duration.numberOf digits * millis ≤ 2 ^ 64 - 1 ∧ d = Duration.ofMillis (Duration.numberOf digits * millis)

/-- A text is parsed as the length that it reads as. -/
lemma Duration.parse?_eq_some_iff_reads {raw : String} {d : Duration} : parse? raw = some d ↔ Reads raw d :=
  parse?_eq_some_iff_writes

/-- A text means a unit of time: it writes its name or its abbreviation. -/
def TimeUnit.Reads (raw : String) (unit : TimeUnit) : Prop :=
  Text.Spells raw.toList unit.name.toList ∨ Text.Spells raw.toList unit.abbreviation.toList

/-- A text is parsed as the unit that it reads as. -/
lemma TimeUnit.parse?_eq_some_iff {raw : String} {unit : TimeUnit} : parse? raw = some unit ↔ Reads raw unit := by
  have words (word : String) : (all.find? fun unit => unit.name == word || unit.abbreviation == word) = some unit ↔
      word = unit.name ∨ word = unit.abbreviation := by
    constructor
    · intro found
      have named := List.find?_some found
      simp only [Bool.or_eq_true, beq_iff_eq] at named
      exact named.imp Eq.symm Eq.symm
    · rintro (rfl | rfl) <;> cases unit <;> rfl
  have plain : unit.name.toList.any Text.isBlank = false ∧ unit.abbreviation.toList.any Text.isBlank = false := by
    cases unit <;> exact ⟨by decide, by decide⟩
  rw [parse?, Reads, words, Text.spells_iff plain.1, Text.spells_iff plain.2, ← String.toList_inj, ← String.toList_inj,
    String.toList_ofList]

namespace Configuration

/-- A text means a truth value: it writes `true` or `false`. -/
def Reads (raw : String) (b : Bool) : Prop := Text.Spells raw.toList (toString b).toList

/-- A text is parsed as the truth value that it reads as. -/
lemma parseBool?_eq_some_iff {raw : String} {b : Bool} : parseBool? raw = some b ↔ Reads raw b := by
  have plain : (toString b).toList.any Text.isBlank = false := by cases b <;> decide
  rw [Reads, Text.spells_iff plain, parseBool?]
  split
  · rename_i word
    rw [word]
    cases b <;> decide
  · rename_i word
    rw [word]
    cases b <;> decide
  · rename_i noTrue noFalse
    cases b with
    | true => exact ⟨nofun, fun same => absurd same noTrue⟩
    | false => exact ⟨nofun, fun same => absurd same noFalse⟩

/-- The key of a property of a scope. -/
def key (scope name : String) : String := scope ++ "." ++ name

section Property
variable {α : Type}

/-- What a property gives: what its value means, or the default where it is missing. -/
inductive Gives (lookup : String → Option String) (Means : String → α → Prop) (default : α) (key : String) :
    α → Prop where
  | missing :
    lookup key = none →
    Gives lookup Means default key default
  | given {value a} :
    lookup key = some value →
    Means value a →
    Gives lookup Means default key a

/-- A property is there, and its value means nothing. -/
structure Offends (lookup : String → Option String) (Means : String → α → Prop) (key value : String) : Prop where
  given : lookup key = some value
  meaningless : ∀ a, ¬Means value a

/-- A property is missing, or its value means something. -/
def IsReadable (lookup : String → Option String) (Means : String → α → Prop) (key : String) : Prop :=
  ∀ value, lookup key = some value → ∃ a, Means value a

variable {lookup lookup' : String → Option String} {parse? : String → Option α} {Means : String → α → Prop}
  {default a a' : α} {scope name : String} {e : ConfigError}

/-- A property has the value that its text gives, or else the default. -/
lemma property_eq_ok_iff (means : ∀ {raw a}, parse? raw = some a ↔ Means raw a) :
    property scope name lookup parse? default = .ok a ↔ Gives lookup Means default (key scope name) a := by
  rw [property, key]
  constructor
  · intro h
    split at h
    · rename_i none
      cases h
      exact .missing none
    · rename_i value some
      split at h
      · rename_i read
        cases h
        exact .given some (means.1 read)
      · cases h
  · rintro (none | ⟨some, meant⟩)
    · rw [none]
    · rw [some]
      dsimp only
      rw [means.2 meant]

/-- A property fails for the text under its key that cannot be read. -/
lemma property_eq_error_iff (means : ∀ {raw a}, parse? raw = some a ↔ Means raw a) :
    property scope name lookup parse? default = .error e ↔
      ∃ value, Offends lookup Means (key scope name) value ∧ e = .invalidProperty (key scope name) value := by
  rw [property, key]
  constructor
  · intro h
    split at h
    · cases h
    · rename_i value some
      split at h
      · cases h
      · rename_i unread
        cases h
        refine ⟨value, ⟨some, fun a meant => ?_⟩, rfl⟩
        rw [means.2 meant] at unread
        cases unread
  · rintro ⟨value, ⟨some, meaningless⟩, rfl⟩
    have unread : parse? value = none :=
      Option.eq_none_iff_forall_ne_some.2 fun a read => meaningless a (means.1 read)
    rw [some]
    dsimp only
    rw [unread]

/-- A property is readable just if it has a value. -/
lemma isReadable_iff : IsReadable lookup Means name ↔ ∃ a, Gives lookup Means default name a := by
  constructor
  · intro readable
    cases found : lookup name with
    | none => exact ⟨default, .missing found⟩
    | some value =>
      obtain ⟨a, meant⟩ := readable value found
      exact ⟨a, .given found meant⟩
  · rintro ⟨a, none | ⟨some, meant⟩⟩ value found
    · rw [none] at found
      cases found
    · rw [some] at found
      cases found
      exact ⟨a, meant⟩

/-- A text that is taken as it stands can always be read. -/
lemma isReadable_eq (lookup : String → Option String) (key : String) : IsReadable lookup Eq key :=
  fun value _ => ⟨value, rfl⟩

/-- A property gives one value only. -/
lemma Gives.unique (means : ∀ {raw a}, parse? raw = some a ↔ Means raw a)
    (h : Gives lookup Means default (key scope name) a) (h' : Gives lookup Means default (key scope name) a') :
    a = a' := by
  rw [← property_eq_ok_iff means] at h h'
  exact Except.ok.inj (h.symm.trans h')

/-- A property depends on the text under its own key only. -/
lemma property_congr (same : lookup' (key scope name) = lookup (key scope name)) :
    property scope name lookup' parse? default = property scope name lookup parse? default := by
  rw [key] at same
  rw [property, property, same]

end Property

/-- The properties of a scope make a configuration. The options of distributions are left as they come. -/
structure Makes (scope : String) (lookup : String → Option String) (c : Configuration) : Prop where
  step : Gives lookup Duration.Reads (.ofSeconds 60) (key scope "step") c.step
  enabled : Gives lookup Reads true (key scope "enabled") c.enabled
  threadName : Gives lookup Eq "stepmic-publisher" (key scope "threadName") c.threadName
  baseUnit : Gives lookup TimeUnit.Reads .milliseconds (key scope "baseTimeUnit") c.baseUnit
  distribution : c.distribution = .standard

/-- The first fault of the properties of a scope. The step comes before the truth value, and this before the unit;
that the step is zero matters only if there is no other fault. -/
inductive Refuses (scope : String) (lookup : String → Option String) : ConfigError → Prop where
  | step {value} :
    Offends lookup Duration.Reads (key scope "step") value →
    Refuses scope lookup (.invalidProperty (key scope "step") value)
  | enabled {value} :
    IsReadable lookup Duration.Reads (key scope "step") →
    Offends lookup Reads (key scope "enabled") value →
    Refuses scope lookup (.invalidProperty (key scope "enabled") value)
  | baseUnit {value} :
    IsReadable lookup Duration.Reads (key scope "step") →
    IsReadable lookup Reads (key scope "enabled") →
    Offends lookup TimeUnit.Reads (key scope "baseTimeUnit") value →
    Refuses scope lookup (.invalidProperty (key scope "baseTimeUnit") value)
  | zeroStep {c} :
    Makes scope lookup c →
    c.step.millis = 0 →
    Refuses scope lookup .zeroStep

section OfProperties
variable {scope : String} {lookup lookup' : String → Option String} {c : Configuration} {e : ConfigError}

/-- A sequence succeeds just if both of its parts do. -/
lemma bind_eq_ok_iff {α β : Type} {x : Except ConfigError α} {f : α → Except ConfigError β} {b : β} :
    x >>= f = .ok b ↔ ∃ a, x = .ok a ∧ f a = .ok b := by
  cases x with
  | error e => exact ⟨nofun, nofun⟩
  | ok a =>
    refine ⟨fun h => ⟨a, rfl, h⟩, ?_⟩
    rintro ⟨_, same, h⟩
    cases same
    exact h

/-- A sequence fails in its first part, or in its second part after the first succeeded. -/
lemma bind_eq_error_iff {α β : Type} {x : Except ConfigError α} {f : α → Except ConfigError β} :
    x >>= f = .error e ↔ x = .error e ∨ ∃ a, x = .ok a ∧ f a = .error e := by
  cases x with
  | error e' =>
    refine ⟨fun h => .inl (congrArg Except.error (Except.error.inj h)), ?_⟩
    rintro (h | ⟨_, same, -⟩)
    · cases h
      rfl
    · cases same
  | ok a =>
    refine ⟨fun h => .inr ⟨a, rfl, h⟩, ?_⟩
    rintro (h | ⟨_, same, h⟩)
    · cases h
    · cases same
      exact h

/-- The default options of distributions have no fault of their own. -/
lemma fault?_of_standard (standard : c.distribution = .standard) :
    c.fault? = if c.step.millis = 0 then some .zeroStep else none := by
  have accepted : Distribution.Options.standard.settings.fault? = none := by decide +kernel
  rw [fault?, standard, accepted]

/-- A configuration is made just if all properties give its parts and its step is not zero. -/
lemma ofProperties_eq_ok_iff : ofProperties scope lookup = .ok c ↔ Makes scope lookup c ∧ c.step.millis ≠ 0 := by
  simp only [ofProperties, bind_eq_ok_iff, property_eq_ok_iff Duration.parse?_eq_some_iff_reads,
    property_eq_ok_iff parseBool?_eq_some_iff, property_eq_ok_iff Option.some_inj,
    property_eq_ok_iff TimeUnit.parse?_eq_some_iff]
  constructor
  · rintro ⟨step, givesStep, enabled, givesEnabled, threadName, givesName, baseUnit, givesUnit, checked⟩
    rw [fault?_of_standard rfl] at checked
    by_cases zero : step.millis = 0
    · rw [if_pos zero] at checked
      cases checked
    · rw [if_neg zero] at checked
      cases checked
      exact ⟨⟨givesStep, givesEnabled, givesName, givesUnit, rfl⟩, zero⟩
  · rintro ⟨made, some⟩
    refine ⟨_, made.step, _, made.enabled, _, made.threadName, _, made.baseUnit, ?_⟩
    rw [fault?_of_standard rfl, if_neg some]
    dsimp only
    rw [← made.distribution]

/-- A configuration is refused just for the first offence. -/
lemma ofProperties_eq_error_iff : ofProperties scope lookup = .error e ↔ Refuses scope lookup e := by
  simp only [ofProperties, bind_eq_error_iff, property_eq_ok_iff Duration.parse?_eq_some_iff_reads,
    property_eq_error_iff Duration.parse?_eq_some_iff_reads, property_eq_ok_iff parseBool?_eq_some_iff,
    property_eq_error_iff parseBool?_eq_some_iff, property_eq_ok_iff Option.some_inj,
    property_eq_error_iff Option.some_inj, property_eq_ok_iff TimeUnit.parse?_eq_some_iff,
    property_eq_error_iff TimeUnit.parse?_eq_some_iff]
  -- a property is refused only if all those before it could be read
  constructor
  · rintro (⟨value, offends, rfl⟩ | ⟨step, givesStep, ⟨value, offends, rfl⟩ | ⟨enabled, givesEnabled,
      ⟨value, offends, rfl⟩ | ⟨threadName, givesName, ⟨value, offends, rfl⟩ | ⟨baseUnit, givesUnit, checked⟩⟩⟩⟩)
    · exact .step offends
    · exact .enabled (isReadable_iff.2 ⟨step, givesStep⟩) offends
    · -- every text is a name
      exact absurd rfl (offends.meaningless value)
    · exact .baseUnit (isReadable_iff.2 ⟨step, givesStep⟩) (isReadable_iff.2 ⟨enabled, givesEnabled⟩) offends
    · rw [fault?_of_standard rfl] at checked
      by_cases zero : step.millis = 0
      · rw [if_pos zero] at checked
        cases checked
        exact .zeroStep (c := { step, enabled, threadName, baseUnit })
          ⟨givesStep, givesEnabled, givesName, givesUnit, rfl⟩ zero
      · rw [if_neg zero] at checked
        cases checked
  · intro refuses
    cases refuses with
    | step offends => exact .inl ⟨_, offends, rfl⟩
    | enabled readable offends =>
      obtain ⟨step, givesStep⟩ := isReadable_iff.1 readable
      exact .inr ⟨step, givesStep, .inl ⟨_, offends, rfl⟩⟩
    | baseUnit readable readable' offends =>
      obtain ⟨step, givesStep⟩ := isReadable_iff.1 readable
      obtain ⟨enabled, givesEnabled⟩ := isReadable_iff.1 readable'
      obtain ⟨threadName, givesName⟩ := isReadable_iff.1 (isReadable_eq lookup (key scope "threadName"))
      exact .inr ⟨step, givesStep, .inr ⟨enabled, givesEnabled, .inr ⟨threadName, givesName, .inl ⟨_, offends, rfl⟩⟩⟩⟩
    | @zeroStep c made zero =>
      refine .inr ⟨c.step, made.step, .inr ⟨c.enabled, made.enabled, .inr ⟨c.threadName, made.threadName,
        .inr ⟨c.baseUnit, made.baseUnit, ?_⟩⟩⟩⟩
      rw [fault?_of_standard rfl, if_pos zero]

/-- A configuration is made just if the three properties that have to be read can be, and the step is not zero. -/
lemma exists_ofProperties_iff : (∃ c, ofProperties scope lookup = .ok c) ↔
    IsReadable lookup Duration.Reads (key scope "step") ∧ IsReadable lookup Reads (key scope "enabled") ∧
      IsReadable lookup TimeUnit.Reads (key scope "baseTimeUnit") ∧
      ∀ step, Gives lookup Duration.Reads (.ofSeconds 60) (key scope "step") step → step.millis ≠ 0 := by
  simp only [ofProperties_eq_ok_iff]
  constructor
  · rintro ⟨c, made, some⟩
    refine ⟨isReadable_iff.2 ⟨_, made.step⟩, isReadable_iff.2 ⟨_, made.enabled⟩,
      isReadable_iff.2 ⟨_, made.baseUnit⟩, ?_⟩
    intro step gives
    rwa [gives.unique Duration.parse?_eq_some_iff_reads made.step]
  · rintro ⟨readable, readable', readable'', some⟩
    obtain ⟨step, givesStep⟩ := isReadable_iff.1 readable
    obtain ⟨enabled, givesEnabled⟩ := isReadable_iff.1 readable'
    obtain ⟨threadName, givesName⟩ := isReadable_iff.1 (isReadable_eq lookup (key scope "threadName"))
    obtain ⟨baseUnit, givesUnit⟩ := isReadable_iff.1 readable''
    exact ⟨{ step, enabled, threadName, baseUnit }, ⟨givesStep, givesEnabled, givesName, givesUnit, rfl⟩,
      some step givesStep⟩

/-- A configuration depends on the texts under its own keys only. -/
lemma ofProperties_congr (same : ∀ name ∈ ["step", "enabled", "threadName", "baseTimeUnit"],
    lookup' (key scope name) = lookup (key scope name)) : ofProperties scope lookup' = ofProperties scope lookup := by
  rw [ofProperties, property_congr (same "step" (by decide)), property_congr (same "enabled" (by decide)),
    property_congr (same "threadName" (by decide)), property_congr (same "baseTimeUnit" (by decide))]
  rfl

end OfProperties

/-- What reading the properties of a scope comes to: the configuration that they make, with what the value of each
property means and the default for each that is missing, unless its step is zero; and otherwise the first fault. A
configuration is read just if the step, the truth value and the unit can each be read or are missing, and the step is
not zero, and has no fault then. Nothing but the four properties matters. -/
theorem ofProperties_exact (scope : String) (lookup : String → Option String) :
    (∀ c, ofProperties scope lookup = .ok c ↔ Makes scope lookup c ∧ c.step.millis ≠ 0) ∧
    (∀ e, ofProperties scope lookup = .error e ↔ Refuses scope lookup e) ∧
    ((∃ c, ofProperties scope lookup = .ok c) ↔
      IsReadable lookup Duration.Reads (key scope "step") ∧ IsReadable lookup Reads (key scope "enabled") ∧
        IsReadable lookup TimeUnit.Reads (key scope "baseTimeUnit") ∧
        ∀ step, Gives lookup Duration.Reads (.ofSeconds 60) (key scope "step") step → step.millis ≠ 0) ∧
    (∀ c, ofProperties scope lookup = .ok c → c.fault? = none) ∧
    ∀ lookup', (∀ name ∈ ["step", "enabled", "threadName", "baseTimeUnit"],
        lookup' (key scope name) = lookup (key scope name)) →
      ofProperties scope lookup' = ofProperties scope lookup := by
  refine ⟨fun c => ofProperties_eq_ok_iff, fun e => ofProperties_eq_error_iff, exists_ofProperties_iff, ?_,
    fun lookup' => ofProperties_congr⟩
  intro c read
  obtain ⟨made, some⟩ := ofProperties_eq_ok_iff.1 read
  rw [fault?_of_standard made.distribution, if_neg some]

/-- Properties with blanks and capital letters, the unit missing; and of two that cannot be read the first. -/
theorem ofProperties_exact_metrics :
    let lookup (key : String) : Option String :=
      if key = "metrics.step" then some " 2 m "
      else if key = "metrics.enabled" then some "\tFALSE"
      else if key = "metrics.threadName" then some " push "
      else none
    let lookup' (key : String) : Option String :=
      if key = "metrics.enabled" then some " yes" else if key = "metrics.baseTimeUnit" then some "weeks" else none
    ofProperties "metrics" lookup = .ok { step := .ofMillis 120000, enabled := false, threadName := " push " } ∧
      ofProperties "metrics" lookup' = .error (.invalidProperty "metrics.enabled" " yes") := by
  intro lookup lookup'
  obtain ⟨reads, -⟩ := ofProperties_exact "metrics" lookup
  obtain ⟨-, refuses, -⟩ := ofProperties_exact "metrics" lookup'
  have step : lookup (key "metrics" "step") = some " 2 m " := by decide
  have enabled : lookup (key "metrics" "enabled") = some "\tFALSE" := by decide
  have threadName : lookup (key "metrics" "threadName") = some " push " := by decide
  have noStep : lookup' (key "metrics" "step") = none := by decide
  constructor
  · refine (reads _).2 ⟨⟨.given step ?_, .given enabled ?_, .given threadName rfl, .missing (by decide), rfl⟩,
      by decide⟩
    · exact Duration.parse?_eq_some_iff_reads.1 (by decide)
    · exact parseBool?_eq_some_iff.1 (by decide)
  · refine (refuses _).2 (.enabled (isReadable_iff.2 ⟨.ofSeconds 60, .missing noStep⟩) ⟨by decide, fun b meant => ?_⟩)
    rw [← parseBool?_eq_some_iff] at meant
    revert meant
    cases b <;> decide

end Configuration

end StepMeters
