import Mathlib.Data.List.Basic
import Mathlib.Data.List.Induction
import Mathlib.Data.Nat.Digits.Defs
import StepMeters.Proofs.Text.Blank
import StepMeters.Time.Duration.Parser

/-!
# What reads as a duration

A duration is written as digits and a unit, with blanks between them and around both if one likes (`Duration.Writes`).
Every text is written like this in one way at most, and reading it gives the number times the unit. So exactly those
texts are read whose product fits 64 bits (`Duration.parse?_exact`).
-/

namespace StepMeters.Duration

open Text (AreBlank isBlank trimmed)

/-- The abbreviations of the units with the milliseconds in each. -/
def units : List (String × Nat) :=
  [("", 1), ("ms", 1), ("s", 1000), ("m", 60000), ("h", 3600000), ("d", 86400000)]

/-- The number that digits stand for, the last digit counting ones. -/
def numberOf (digits : List Char) : Nat := Nat.ofDigits 10 (digits.reverse.map fun c => c.toNat - '0'.toNat)

/-- A text that writes a number of units: its digits and the abbreviation of the unit, with blanks between them and
around them. -/
inductive Writes : List Char → List Char → List Char → Prop where
  | intro (before digits gap unit after) :
    AreBlank before →
    digits ≠ [] →
    (∀ c ∈ digits, c.isDigit = true) →
    AreBlank gap →
    AreBlank after →
    Writes (before ++ (digits ++ (gap ++ (unit ++ after)))) digits unit

/-- Digits are read as the number that they write. -/
lemma ofDigitChars_eq_numberOf (digits : List Char) : Nat.ofDigitChars 10 digits 0 = numberOf digits := by
  induction digits using List.reverseRecOn with
  | nil => rfl
  | append_singleton digits c ih =>
    rw [Nat.ofDigitChars_append, ih, numberOf, numberOf, List.reverse_append, List.reverse_singleton,
      List.singleton_append, List.map_cons, Nat.ofDigits_cons, Nat.add_comm]
    rfl

/-- A text is a unit just if the list of units has it. -/
lemma unitMillis?_eq_some_iff {unit : String} {millis : Nat} :
    unitMillis? unit.toList = some millis ↔ (unit, millis) ∈ units := by
  constructor
  · obtain ⟨abbreviation, rfl⟩ : ∃ cs, unit = String.ofList cs := ⟨unit.toList, String.ofList_toList.symm⟩
    rw [String.toList_ofList]
    intro h
    unfold unitMillis? at h
    split at h <;> cases h <;> simp [units]
  · intro h
    simp only [units, List.mem_cons, Prod.mk.injEq, List.not_mem_nil, or_false] at h
    obtain ⟨rfl, rfl⟩ | ⟨rfl, rfl⟩ | ⟨rfl, rfl⟩ | ⟨rfl, rfl⟩ | ⟨rfl, rfl⟩ | ⟨rfl, rfl⟩ := h <;> rfl

/-- The letters of the units. -/
lemma of_mem_units {unit : String} {millis : Nat} (h : (unit, millis) ∈ units) :
    1 ≤ millis ∧ ∀ c ∈ unit.toList, c ∈ ['m', 's', 'h', 'd'] := by
  simp only [units, List.mem_cons, Prod.mk.injEq, List.not_mem_nil, or_false] at h
  obtain ⟨rfl, rfl⟩ | ⟨rfl, rfl⟩ | ⟨rfl, rfl⟩ | ⟨rfl, rfl⟩ | ⟨rfl, rfl⟩ | ⟨rfl, rfl⟩ := h <;> simp

/-- Digits are not blank. -/
lemma isBlank_eq_false_of_isDigit {c : Char} (h : c.isDigit = true) : isBlank c = false := by
  rw [Char.isDigit_iff_toNat] at h
  change 48 ≤ c.toNat ∧ c.toNat ≤ 57 at h
  simp only [isBlank, Text.Ranges.has, Text.blankRanges, List.any_cons, List.any_nil, Bool.or_false,
    Bool.or_eq_false_iff, Bool.and_eq_false_imp, decide_eq_true_eq, decide_eq_false_iff_not]
  omega

/-- Blanks are not digits. -/
lemma isDigit_eq_false_of_isBlank {c : Char} (h : isBlank c = true) : c.isDigit = false := by
  by_contra digit
  rw [isBlank_eq_false_of_isDigit (by simpa using digit)] at h
  cases h

section Writes
variable {text digits gap unit : List Char}

/-- A text without blanks at its ends stays as it is: it begins with a digit, and ends with one or with a letter of
the unit. -/
lemma trimmed_written (some : digits ≠ []) (all : ∀ c ∈ digits, c.isDigit = true)
    (plain : ∀ c ∈ unit, isBlank c = false) (blankGap : unit = [] → gap = []) :
    trimmed (digits ++ (gap ++ unit)) = digits ++ (gap ++ unit) := by
  obtain ⟨first, rest, rfl⟩ := List.exists_cons_of_ne_nil some
  refine Text.trimmed_eq_self (fun c head => ?_) fun c last => ?_
  · obtain rfl : first = c := by simpa using head
    exact isBlank_eq_false_of_isDigit (all first List.mem_cons_self)
  · by_cases none : unit = []
    · rw [blankGap none, none, List.append_nil, List.append_nil] at last
      exact isBlank_eq_false_of_isDigit (all c (List.mem_of_getLast? last))
    · rw [← List.append_assoc, List.getLast?_append_of_ne_nil _ none] at last
      exact plain c (List.mem_of_getLast? last)

/-- Reading takes the digits and the unit out of a text that writes them. -/
lemma Writes.reads (h : Writes text digits unit) (plain : ∀ c ∈ unit, isBlank c = false ∧ c.isDigit = false) :
    (trimmed text).takeWhile Char.isDigit = digits ∧ trimmed ((trimmed text).dropWhile Char.isDigit) = unit := by
  obtain ⟨before, digits, gap, unit, after, blank, some, all, blankGap, blankAfter⟩ := h
  have bare : ∀ c ∈ unit, isBlank c = false := fun c mem => (plain c mem).1
  -- without a unit the blanks before it are blanks at the end
  have ⟨gap', blankGap', written⟩ : ∃ gap', AreBlank gap' ∧
      trimmed (before ++ (digits ++ (gap ++ (unit ++ after)))) = digits ++ (gap' ++ unit) := by
    by_cases none : unit = []
    · subst none
      refine ⟨[], nofun, ?_⟩
      rw [Text.trimmed_append blank (List.forall_mem_append.2 ⟨blankGap, by simpa using blankAfter⟩)]
      have alone : trimmed (digits ++ ([] ++ [])) = digits ++ ([] ++ []) :=
        trimmed_written some all bare fun _ => rfl
      simpa using alone
    · refine ⟨gap, blankGap, ?_⟩
      rw [← List.append_assoc gap, ← List.append_assoc digits, Text.trimmed_append blank blankAfter]
      exact trimmed_written some all bare fun h => absurd h none
  have stop : ∀ c ∈ gap' ++ unit, c.isDigit = false := fun c mem =>
    (List.mem_append.1 mem).elim (fun mem => isDigit_eq_false_of_isBlank (blankGap' c mem)) fun mem => (plain c mem).2
  have kept {xs : List Char} (stop : ∀ c ∈ xs, c.isDigit = false) :
      xs.takeWhile Char.isDigit = [] ∧ xs.dropWhile Char.isDigit = xs := by
    cases xs with
    | nil => exact ⟨rfl, rfl⟩
    | cons c rest => simp [stop c List.mem_cons_self]
  rw [written, List.takeWhile_append_of_pos all, List.dropWhile_append_of_pos all, (kept stop).1, (kept stop).2,
    List.append_nil]
  refine ⟨rfl, ?_⟩
  rw [← List.append_nil unit, Text.trimmed_append blankGap' (List.forall_mem_nil _), List.append_nil]
  exact Text.trimmed_eq_self (fun c head => bare c (List.mem_of_mem_head? head))
    fun c last => bare c (List.mem_of_getLast? last)

/-- A written length has a digit. -/
lemma Writes.some_digit (h : Writes text digits unit) : digits ≠ [] := by
  cases h
  assumption

/-- A text has blanks, digits and the letters of its unit, and nothing else. -/
lemma Writes.of_mem (h : Writes text digits unit) :
    (∃ c ∈ text, c.isDigit = true) ∧ ∀ c ∈ text, isBlank c = true ∨ c.isDigit = true ∨ c ∈ unit := by
  obtain ⟨before, digits, gap, unit, after, blank, some, all, blankGap, blankAfter⟩ := h
  constructor
  · obtain ⟨first, rest, rfl⟩ := List.exists_cons_of_ne_nil some
    exact ⟨first, by simp, all first List.mem_cons_self⟩
  · intro c mem
    simp only [List.mem_append] at mem
    rcases mem with mem | mem | mem | mem | mem
    · exact .inl (blank c mem)
    · exact .inr (.inl (all c mem))
    · exact .inl (blankGap c mem)
    · exact .inr (.inr mem)
    · exact .inl (blankAfter c mem)

/-- The other way round, digits and a unit taken out of a text are written in it. -/
lemma writes_of_reads (some : (trimmed text).takeWhile Char.isDigit ≠ []) :
    Writes text ((trimmed text).takeWhile Char.isDigit) (trimmed ((trimmed text).dropWhile Char.isDigit)) := by
  obtain ⟨before, after, around, blank, blankAfter⟩ := Text.exists_trimmed text
  obtain ⟨gap, after', split, blankGap, blankAfter'⟩ :=
    Text.exists_trimmed ((trimmed text).dropWhile Char.isDigit)
  have written := Writes.intro before _ gap (trimmed ((trimmed text).dropWhile Char.isDigit)) (after' ++ after) blank
    some (fun c mem => List.mem_takeWhile_imp mem) blankGap (List.forall_mem_append.2 ⟨blankAfter', blankAfter⟩)
  rwa [← List.append_assoc _ after', ← List.append_assoc gap, ← split, ← List.append_assoc _ _ after,
    List.takeWhile_append_dropWhile, ← around] at written

end Writes

/-- What reading a text comes to. -/
lemma parse?_eq_some_iff {raw : String} {d : Duration} : parse? raw = some d ↔ ∃ millis,
    unitMillis? (trimmed ((trimmed raw.toList).dropWhile Char.isDigit)) = some millis ∧
      (trimmed raw.toList).takeWhile Char.isDigit ≠ [] ∧
      numberOf ((trimmed raw.toList).takeWhile Char.isDigit) * millis < UInt64.size ∧
      ofMillis (numberOf ((trimmed raw.toList).takeWhile Char.isDigit) * millis) = d := by
  rw [parse?, Option.bind_eq_bind, Option.bind_eq_some_iff]
  refine exists_congr fun millis => and_congr_right fun _ => ?_
  rw [ofDigitChars_eq_numberOf, Option.ite_none_left_eq_some]
  simp [and_assoc]

/-- The units with their names are told apart from blanks and digits. -/
lemma plain_of_mem_units {unit : String} {millis : Nat} (h : (unit, millis) ∈ units) :
    ∀ c ∈ unit.toList, isBlank c = false ∧ c.isDigit = false := by
  have letters : ∀ c ∈ ['m', 's', 'h', 'd'], isBlank c = false ∧ c.isDigit = false := by
    simp only [List.mem_cons, List.not_mem_nil, or_false, forall_eq_or_imp, forall_eq]
    decide
  exact fun c mem => letters c ((of_mem_units h).2 c mem)

/-- A text writes one number of one unit only. -/
lemma Writes.unique {text digits digits' : List Char} {unit unit' : String} {millis millis' : Nat}
    (h : Writes text digits unit.toList) (h' : Writes text digits' unit'.toList) (known : (unit, millis) ∈ units)
    (known' : (unit', millis') ∈ units) : digits = digits' ∧ millis = millis' := by
  obtain ⟨number, abbreviation⟩ := h.reads (plain_of_mem_units known)
  obtain ⟨number', abbreviation'⟩ := h'.reads (plain_of_mem_units known')
  obtain rfl : unit = unit' := String.toList_inj.1 (abbreviation.symm.trans abbreviation')
  refine ⟨number.symm.trans number', Option.some.inj ?_⟩
  rw [← unitMillis?_eq_some_iff.2 known, ← unitMillis?_eq_some_iff.2 known']

/-- Exactly the texts that write digits and a unit are read, if the product fits 64 bits. -/
lemma parse?_eq_some_iff_writes {raw : String} {d : Duration} :
    parse? raw = some d ↔ ∃ digits unit millis, Writes raw.toList digits (String.toList unit) ∧
      (unit, millis) ∈ units ∧ numberOf digits * millis ≤ 2 ^ 64 - 1 ∧ d = ofMillis (numberOf digits * millis) := by
  rw [parse?_eq_some_iff]
  constructor
  · rintro ⟨millis, known, some, fits, rfl⟩
    refine ⟨_, String.ofList (trimmed ((trimmed raw.toList).dropWhile Char.isDigit)), millis, ?_, ?_,
      Nat.le_sub_one_of_lt fits, rfl⟩
    · rw [String.toList_ofList]
      exact writes_of_reads some
    · rwa [← unitMillis?_eq_some_iff, String.toList_ofList]
  · rintro ⟨digits, unit, millis, writes, known, fits, rfl⟩
    obtain ⟨number, abbreviation⟩ := writes.reads (plain_of_mem_units known)
    rw [number, abbreviation]
    exact ⟨millis, unitMillis?_eq_some_iff.2 known, writes.some_digit, Nat.lt_of_le_sub_one (by decide) fits, rfl⟩

/-- A number written in decimal stands for itself. -/
lemma numberOf_toDigits (n : Nat) : numberOf (Nat.toDigits 10 n) = n := by
  rw [← ofDigitChars_eq_numberOf, Nat.ofDigitChars_ten_toDigits]

/-- A number in its usual digits, followed by a unit, writes a length. -/
lemma writes_toString (n : Nat) (unit : String) :
    Writes (toString n ++ unit).toList (Nat.toDigits 10 n) unit.toList := by
  have digits : ∀ c ∈ Nat.toDigits 10 n, c.isDigit = true := fun c mem =>
    Nat.isDigit_of_mem_toDigits (by decide) (Nat.le_refl 10) mem
  have written := Writes.intro [] _ [] unit.toList [] nofun Nat.toDigits_ne_nil digits nofun nofun
  rw [String.toList_append, Nat.toString_eq_ofList_toDigits, String.toList_ofList]
  simpa using written

/-- What reads as a duration. A text is read if and only if it writes digits and the name of a unit, with blanks
between and around them at most, and the number times the milliseconds of the unit fits 64 bits; it is read as so many
milliseconds. So no text is read that has any other character (a sign, a point, a digit of another script), or no
digit, or a product that does not fit. A number in decimal with the name of a unit is read as so many of the unit. -/
theorem parse?_exact (raw : String) :
    (∀ d, parse? raw = some d ↔ ∃ digits unit millis, Writes raw.toList digits (String.toList unit) ∧
      (unit, millis) ∈ units ∧ numberOf digits * millis ≤ 2 ^ 64 - 1 ∧ d = ofMillis (numberOf digits * millis)) ∧
      ((∃ c ∈ raw.toList, isBlank c = false ∧ c.isDigit = false ∧ c ∉ ['m', 's', 'h', 'd']) → parse? raw = none) ∧
      ((∀ c ∈ raw.toList, c.isDigit = false) → parse? raw = none) ∧
      (∀ digits unit millis, Writes raw.toList digits (String.toList unit) → (unit, millis) ∈ units →
        2 ^ 64 ≤ numberOf digits * millis → parse? raw = none) ∧
      ∀ n unit millis, raw = toString n ++ unit → (unit, millis) ∈ units → n * millis ≤ 2 ^ 64 - 1 →
        parse? raw = some (ofMillis (n * millis)) := by
  refine ⟨fun d => parse?_eq_some_iff_writes, ?_, ?_, ?_, ?_⟩
  · rintro ⟨c, mem, filled, noDigit, foreign⟩
    rw [Option.eq_none_iff_forall_ne_some]
    intro d read
    obtain ⟨digits, unit, millis, writes, known, -⟩ := parse?_eq_some_iff_writes.1 read
    rcases writes.of_mem.2 c mem with blank | digit | letter
    · simp [blank] at filled
    · simp [digit] at noDigit
    · exact foreign ((of_mem_units known).2 c letter)
  · intro noDigit
    rw [Option.eq_none_iff_forall_ne_some]
    intro d read
    obtain ⟨digits, unit, millis, writes, -⟩ := parse?_eq_some_iff_writes.1 read
    obtain ⟨c, mem, digit⟩ := writes.of_mem.1
    simp [noDigit c mem] at digit
  · intro digits unit millis writes known large
    rw [Option.eq_none_iff_forall_ne_some]
    intro d read
    obtain ⟨digits', unit', millis', writes', known', fits, -⟩ := parse?_eq_some_iff_writes.1 read
    -- a text is written in one way only, so its product is the large one
    obtain ⟨rfl, rfl⟩ := writes.unique writes' known known'
    omega
  · rintro n unit millis rfl known fits
    refine parse?_eq_some_iff_writes.2 ⟨_, unit, millis, writes_toString n unit, known, ?_⟩
    rw [numberOf_toDigits]
    exact ⟨fits, rfl⟩

/-- Blanks and zeros in front, a sign, no digit, a day too many, and a number of seconds in decimal. -/
theorem parse?_exact_written :
    parse? "\t 007 m\n" = some (ofMillis 420000) ∧ parse? "+5s" = none ∧ parse? " ms" = none ∧
      parse? "213503982335d" = none ∧ toString 90 ++ "s" = "90s" ∧ parse? "90s" = some (ofMillis 90000) := by
  have minutes : Writes "\t 007 m\n".toList ['0', '0', '7'] "m".toList :=
    .intro ['\t', ' '] ['0', '0', '7'] [' '] "m".toList ['\n'] (List.all_eq_true.1 (by decide)) (by decide)
      (List.all_eq_true.1 (by decide)) (List.all_eq_true.1 (by decide)) (List.all_eq_true.1 (by decide))
  have days : Writes "213503982335d".toList "213503982335".toList "d".toList :=
    .intro [] "213503982335".toList [] "d".toList [] nofun (by decide) (List.all_eq_true.1 (by decide)) nofun nofun
  have seconds : "90s" = toString 90 ++ "s" := by decide
  refine ⟨?_, ?_, ?_, ?_, seconds.symm, ?_⟩
  · exact ((parse?_exact _).1 _).2 ⟨_, "m", 60000, minutes, by decide, by decide, by decide⟩
  · exact (parse?_exact _).2.1 ⟨'+', by decide, by decide, by decide, by decide⟩
  · exact (parse?_exact _).2.2.1 (by simp)
  · exact (parse?_exact _).2.2.2.1 _ "d" 86400000 days (by decide) (by decide)
  · exact (parse?_exact _).2.2.2.2 90 "s" 1000 seconds (by decide) (by decide)

end StepMeters.Duration
