import Mathlib.Data.List.TakeWhile
import StepMeters.Text.Blank

/-!
# Texts without the blanks around them

A text is what is left of it with blanks on both sides (`Text.exists_trimmed`), and it does not matter how many blanks
there were (`Text.trimmed_append`). Nothing is taken from a text that begins and ends with other characters. A word
can be written with blanks around it and with letters of either case (`Text.Spells`).
-/

namespace StepMeters.Text

/-- Nothing but white space. -/
abbrev AreBlank (cs : List Char) : Prop := ∀ c ∈ cs, isBlank c = true

section Trimmed
variable {cs before after : List Char}

/-- A text is its trimmed text with blanks on both sides. -/
lemma exists_trimmed (cs : List Char) :
    ∃ before after, cs = before ++ (trimmed cs ++ after) ∧ AreBlank before ∧ AreBlank after := by
  have around (cs : List Char) : AreBlank (cs.takeWhile isBlank) := fun c mem => List.mem_takeWhile_imp mem
  refine ⟨cs.takeWhile isBlank, ((cs.dropWhile isBlank).reverse.takeWhile isBlank).reverse, ?_, around cs,
    fun c mem => around _ c (List.mem_reverse.1 mem)⟩
  rw [trimmed, ← List.reverse_append, List.takeWhile_append_dropWhile, List.reverse_reverse,
    List.takeWhile_append_dropWhile]

/-- Blanks around a text make no difference to the trimmed text. -/
lemma trimmed_append (blank : AreBlank before) (blank' : AreBlank after) (cs : List Char) :
    trimmed (before ++ (cs ++ after)) = trimmed cs := by
  rw [trimmed, List.dropWhile_append_of_pos blank, List.dropWhile_append, trimmed]
  split
  · rename_i empty
    rw [List.isEmpty_iff.1 empty, List.dropWhile_eq_nil_iff.2 blank']
  · rw [List.reverse_append, List.dropWhile_append_of_pos fun c mem => blank' c (List.mem_reverse.1 mem)]

/-- A text is trimmed if its first and its last character are not blank. -/
lemma trimmed_eq_self (first : ∀ c, cs.head? = some c → isBlank c = false)
    (last : ∀ c, cs.getLast? = some c → isBlank c = false) : trimmed cs = cs := by
  have kept {xs : List Char} (first : ∀ c, xs.head? = some c → isBlank c = false) : xs.dropWhile isBlank = xs := by
    cases xs with
    | nil => rfl
    | cons c rest => exact List.dropWhile_cons_of_neg (by simpa using first c rfl)
  rw [trimmed, kept first, kept (by simpa using last), List.reverse_reverse]

end Trimmed

/-- A text writes a word: blanks around it and the case of the letters `A` to `Z` do not matter. -/
inductive Spells : List Char → List Char → Prop where
  | intro (before letters after) :
    AreBlank before →
    AreBlank after →
    Spells (before ++ (letters ++ after)) (letters.map Char.toLower)

section Spells
variable {c : Char} {word : List Char}

/-- Lowering a blank leaves a blank. -/
lemma isBlank_of_toLower (blank : isBlank c = true) : isBlank c.toLower = true := by
  have small : ¬(c.val ≥ 'A'.val ∧ c.val ≤ 'Z'.val) := by
    intro upper
    -- no capital letter is blank
    simp only [isBlank, Ranges.has, blankRanges, List.any_cons, List.any_nil, Bool.or_false, Bool.or_eq_true,
      Bool.and_eq_true, decide_eq_true_eq] at blank
    have first : 65 ≤ c.toNat := upper.1
    have last : c.toNat ≤ 90 := upper.2
    omega
  have same : c.toLower = c := dif_neg small
  rw [same, blank]

/-- The trimmed text in small letters is the word that the text writes. -/
lemma spells_iff (plain : word.any isBlank = false) (text : List Char) :
    Spells text word ↔ (trimmed text).map Char.toLower = word := by
  rw [List.any_eq_false] at plain
  constructor
  · rintro ⟨before, letters, after, blank, blank'⟩
    have filled : ∀ c ∈ letters, isBlank c = false := by
      intro c mem
      by_contra some
      exact plain c.toLower (List.mem_map_of_mem mem) (isBlank_of_toLower (by simpa using some))
    rw [trimmed_append blank blank', trimmed_eq_self (fun c first => filled c (List.mem_of_head? first))
      fun c last => filled c (List.mem_of_getLast? last)]
  · rintro rfl
    obtain ⟨before, after, e, blank, blank'⟩ := exists_trimmed text
    have spells := Spells.intro before (trimmed text) after blank blank'
    rwa [← e] at spells

end Spells

end StepMeters.Text
