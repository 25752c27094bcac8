import StepMeters.Proofs.Decimal.Positional

/-!
# One plain way to write a number

Digits before a point and behind it are plain (`Decimal.IsPlain`) if no zero stands in front of another digit before
the point, and none at the end behind it. A decimal above zero is written in plain digits (`Decimal.isPlain`), and a
number has only one plain form (`Decimal.IsPlain.unique`). Without the point a number may be mistaken for another one
(`Decimal.IsPlain.shift`): below a hundred this takes a single digit before the point that moves to the left
(`Decimal.IsPlain.exists_shift`).
-/

namespace StepMeters.Decimal

/-- Digits before a point and behind it that are written without a needless zero. -/
structure IsPlain (whole fraction : List Char) : Prop where
  digits : ∀ c ∈ whole ++ fraction, c.isDigit
  nonempty : whole ≠ []
  first : ∀ rest, whole = '0' :: rest → rest = []
  last : ∀ rest, fraction ≠ rest ++ ['0']

section Digits
variable {c : Char} {cs cs' : List Char}

/-- Digits are the characters with the codes from 48 to 57. -/
lemma toNat_of_isDigit (digit : c.isDigit) : 48 ≤ c.toNat ∧ c.toNat ≤ 57 := Char.isDigit_iff_toNat.1 digit

/-- Every digit but zero is worth more than zero. -/
lemma digit_pos (digit : c.isDigit) (ne : c ≠ '0') : 0 < c.toNat - 48 := by
  have := toNat_of_isDigit digit
  have : c.toNat ≠ 48 := fun same => ne (Char.toNat_inj.1 same)
  omega

/-- A digit at the end makes ten times as much, and adds its worth. -/
lemma ofDigitChars_concat (cs : List Char) (c : Char) :
    Nat.ofDigitChars 10 (cs ++ [c]) 0 = 10 * Nat.ofDigitChars 10 cs 0 + (c.toNat - 48) := by
  rw [Nat.ofDigitChars_append, Nat.ofDigitChars_cons, Nat.ofDigitChars_nil]
  rfl

/-- A digit at the front adds its worth at its place. -/
lemma ofDigitChars_cons_zero (c : Char) (cs : List Char) :
    Nat.ofDigitChars 10 (c :: cs) 0 = 10 ^ cs.length * (c.toNat - 48) + Nat.ofDigitChars 10 cs 0 := by
  rw [Nat.ofDigitChars_cons, Nat.ofDigitChars_eq_ofDigitChars_zero, Nat.mul_zero, Nat.zero_add]
  rfl

/-- So many digits stand for less than the power of ten of their number. -/
lemma ofDigitChars_lt (digits : ∀ c ∈ cs, c.isDigit) : Nat.ofDigitChars 10 cs 0 < 10 ^ cs.length := by
  induction cs using List.reverseRecOn with
  | nil => exact Nat.one_pos
  | append_singleton cs c ih =>
    have before := ih fun c mem => digits c (List.mem_append_left _ mem)
    have := toNat_of_isDigit (digits c (by simp))
    rw [ofDigitChars_concat, List.length_append, List.length_singleton, Nat.pow_succ]
    omega

/-- As many digits that stand for the same number are the same. -/
lemma eq_of_ofDigitChars (digits : ∀ c ∈ cs, c.isDigit) (digits' : ∀ c ∈ cs', c.isDigit)
    (length : cs.length = cs'.length) (same : Nat.ofDigitChars 10 cs 0 = Nat.ofDigitChars 10 cs' 0) : cs = cs' := by
  induction cs using List.reverseRecOn generalizing cs' with
  | nil => exact (List.length_eq_zero_iff.1 length.symm).symm
  | append_singleton cs c ih =>
    obtain rfl | ⟨cs', c', rfl⟩ := List.eq_nil_or_concat' cs'
    · simp at length
    rw [List.length_append, List.length_append, List.length_singleton, List.length_singleton] at length
    rw [ofDigitChars_concat, ofDigitChars_concat] at same
    have := toNat_of_isDigit (digits c (by simp))
    have := toNat_of_isDigit (digits' c' (by simp))
    have before := ih (fun c mem => digits c (List.mem_append_left _ mem))
      (fun c mem => digits' c (List.mem_append_left _ mem)) (by omega) (by omega)
    obtain rfl : c = c' := Char.toNat_inj.1 (by omega)
    rw [before]

end Digits

section Plain
variable {w f w' f' : List Char} {c c' : Char}

/-- What stands before the point is the whole part of a number. -/
lemma number_bounds (digits : ∀ c ∈ f, c.isDigit) :
    (Nat.ofDigitChars 10 w 0 : ℚ) ≤ number w f ∧ number w f < Nat.ofDigitChars 10 w 0 + 1 := by
  have scale : (0 : ℚ) < 10 ^ f.length := pow_pos (by norm_num) _
  have part : (Nat.ofDigitChars 10 f 0 : ℚ) / 10 ^ f.length < 1 := by
    rw [div_lt_one scale]
    exact_mod_cast ofDigitChars_lt digits
  have nonneg : (0 : ℚ) ≤ Nat.ofDigitChars 10 f 0 / 10 ^ f.length := by positivity
  rw [number]
  constructor <;> linarith

/-- What stands before the point are digits. -/
lemma IsPlain.whole_digits (h : IsPlain w f) : ∀ c ∈ w, c.isDigit :=
  fun c mem => h.digits c (List.mem_append_left _ mem)

/-- What stands behind the point are digits. -/
lemma IsPlain.fraction_digits (h : IsPlain w f) : ∀ c ∈ f, c.isDigit :=
  fun c mem => h.digits c (List.mem_append_right _ mem)

/-- Digits behind the point stand for more than zero. -/
lemma IsPlain.fraction_pos (h : IsPlain w f) (some : f ≠ []) : 0 < Nat.ofDigitChars 10 f 0 := by
  obtain rfl | ⟨rest, c, rfl⟩ := List.eq_nil_or_concat' f
  · exact absurd rfl some
  · have ne : c ≠ '0' := by
      rintro rfl
      exact h.last rest rfl
    have := digit_pos (h.fraction_digits c (by simp)) ne
    rw [ofDigitChars_concat]
    omega

/-- Digits behind the point make a number greater than its whole part. -/
lemma IsPlain.lt_number (h : IsPlain w f) (some : f ≠ []) : (Nat.ofDigitChars 10 w 0 : ℚ) < number w f := by
  have part : (0 : ℚ) < Nat.ofDigitChars 10 f 0 / 10 ^ f.length :=
    div_pos (by exact_mod_cast h.fraction_pos some) (pow_pos (by norm_num) _)
  rw [number]
  linarith

/-- A whole part with more than one digit has a first digit that counts. -/
lemma IsPlain.ten_pow_le (h : IsPlain w f) (long : 1 < w.length) :
    10 ^ (w.length - 1) ≤ Nat.ofDigitChars 10 w 0 := by
  obtain ⟨c, rest, rfl⟩ := List.exists_cons_of_ne_nil h.nonempty
  have ne : c ≠ '0' := by
    rintro rfl
    rw [h.first rest rfl] at long
    exact absurd long (by decide)
  rw [ofDigitChars_cons_zero, List.length_cons, Nat.add_sub_cancel]
  exact (Nat.le_mul_of_pos_right _ (digit_pos (h.whole_digits c (by simp)) ne)).trans (Nat.le_add_right _ _)

/-- So many digits before the point are enough. -/
lemma IsPlain.length_le {n : ℕ} (h : IsPlain w f) (some : 0 < n) (lt : number w f < 10 ^ n) : w.length ≤ n := by
  by_contra more
  have below : Nat.ofDigitChars 10 w 0 < 10 ^ n := by
    have := (number_bounds h.fraction_digits).1.trans_lt lt
    exact_mod_cast this
  have enough : n ≤ w.length - 1 := by omega
  have reach := (Nat.pow_le_pow_right (by decide : 0 < 10) enough).trans (h.ten_pow_le (by omega))
  exact absurd below (not_lt.2 reach)

/-- Plain digits do not come from other digits by zeros put before the first or behind the last one. -/
lemma replicate_append_eq (h' : IsPlain w' f') (some : w ≠ []) {n : ℕ} (e : List.replicate n '0' ++ w = w') :
    w = w' := by
  cases n with
  | zero => exact e
  | succ n =>
    have none := h'.first _ e.symm
    exact absurd (List.append_eq_nil_iff.1 none).2 some

/-- Digits that become plain by zeros at the end are plain without them. -/
lemma append_replicate_eq (h' : IsPlain w' f') {n : ℕ} (e : f ++ List.replicate n '0' = f') : f = f' := by
  cases n with
  | zero =>
    rw [List.replicate_zero, List.append_nil] at e
    exact e
  | succ n =>
    rw [List.replicate_succ', ← List.append_assoc] at e
    exact absurd e.symm (h'.last _)

/-- Equal numbers before the point are written the same. -/
lemma IsPlain.whole_eq (h : IsPlain w f) (h' : IsPlain w' f')
    (same : Nat.ofDigitChars 10 w 0 = Nat.ofDigitChars 10 w' 0) : w = w' := by
  wlog le : w.length ≤ w'.length generalizing w f w' f'
  · exact (this h' h same.symm (Nat.le_of_not_le le)).symm
  have e : List.replicate (w'.length - w.length) '0' ++ w = w' := by
    refine eq_of_ofDigitChars ?_ h'.whole_digits ?_ ?_
    · exact List.forall_mem_append.2 ⟨isDigit_of_mem_zeros, h.whole_digits⟩
    · rw [List.length_append, List.length_replicate]
      omega
    · rw [Nat.ofDigitChars_append, Nat.ofDigitChars_replicate_zero, Nat.mul_zero, same]
  exact replicate_append_eq h' h.nonempty e

/-- Equal numbers behind the point are written the same. -/
lemma IsPlain.fraction_eq (h : IsPlain w f) (h' : IsPlain w' f')
    (same : (Nat.ofDigitChars 10 f 0 : ℚ) / 10 ^ f.length = Nat.ofDigitChars 10 f' 0 / 10 ^ f'.length) : f = f' := by
  wlog le : f.length ≤ f'.length generalizing w f w' f'
  · exact (this h' h same.symm (Nat.le_of_not_le le)).symm
  have length : (f ++ List.replicate (f'.length - f.length) '0').length = f'.length := by
    rw [List.length_append, List.length_replicate]
    omega
  have e : f ++ List.replicate (f'.length - f.length) '0' = f' := by
    refine eq_of_ofDigitChars ?_ h'.fraction_digits length ?_
    · exact List.forall_mem_append.2 ⟨h.fraction_digits, isDigit_of_mem_zeros⟩
    · rw [← ofDigitChars_append_zeros f (f'.length - f.length), length, div_left_inj' (by positivity)] at same
      exact_mod_cast same
  exact append_replicate_eq h' e

/-- A number has one plain form only. -/
lemma IsPlain.unique (h : IsPlain w f) (h' : IsPlain w' f') (same : number w f = number w' f') :
    w = w' ∧ f = f' := by
  have bounds := number_bounds (w := w) h.fraction_digits
  have bounds' := number_bounds (w := w') h'.fraction_digits
  have wholes : Nat.ofDigitChars 10 w 0 = Nat.ofDigitChars 10 w' 0 := by
    have lt : (Nat.ofDigitChars 10 w 0 : ℚ) < Nat.ofDigitChars 10 w' 0 + 1 := by linarith
    have lt' : (Nat.ofDigitChars 10 w' 0 : ℚ) < Nat.ofDigitChars 10 w 0 + 1 := by linarith
    have := Nat.lt_succ_iff.1 (by exact_mod_cast lt)
    have := Nat.lt_succ_iff.1 (by exact_mod_cast lt')
    omega
  rw [number, number, wholes, add_right_inj] at same
  exact ⟨h.whole_eq h' wholes, h.fraction_eq h' same⟩

/-- If the first digit counts, the point may move behind the second one, and the number is ten times as great. -/
lemma IsPlain.shift (h : IsPlain [c] (c' :: f)) (ne : c ≠ '0') :
    IsPlain [c, c'] f ∧ number [c, c'] f = 10 * number [c] (c' :: f) := by
  refine ⟨⟨h.digits, List.cons_ne_nil _ _, ?_, ?_⟩, ?_⟩
  · rintro rest e
    exact absurd (List.cons.inj e).1 ne
  · rintro rest rfl
    exact h.last (c' :: rest) rfl
  · simp only [number, ofDigitChars_cons_zero, Nat.ofDigitChars_nil, List.length_cons, List.length_nil]
    push_cast
    field_simp
    ring

/-- What plain digits tell if they are the same but for the point. -/
lemma IsPlain.exists_shift (h : IsPlain w f) (h' : IsPlain w' f') (same : w ++ f = w' ++ f')
    (less : w.length < w'.length) (few : w'.length ≤ 2) :
    ∃ c c', c ≠ '0' ∧ w = [c] ∧ f = c' :: f' ∧ w' = [c, c'] := by
  have some := List.length_pos_of_ne_nil h.nonempty
  obtain ⟨c, rfl⟩ := List.length_eq_one_iff.1 (by omega : w.length = 1)
  obtain ⟨d, c', rfl⟩ := List.length_eq_two.1 (by rw [List.length_singleton] at less; omega : w'.length = 2)
  rw [List.singleton_append, List.cons_append, List.singleton_append] at same
  obtain ⟨rfl, rest⟩ := List.cons.inj same
  refine ⟨c, c', ?_, rfl, rest, rfl⟩
  rintro rfl
  exact absurd (h'.first [c'] rfl) (List.cons_ne_nil _ _)

end Plain

section Text
variable {d : Decimal}

/-- The digits of a number above zero do not begin with zero. -/
lemma toDigits_ne_cons_zero {n : ℕ} (pos : 0 < n) (rest : List Char) : Nat.toDigits 10 n ≠ '0' :: rest := by
  intro e
  have number : n = Nat.ofDigitChars 10 rest 0 := by
    rw [← Nat.ofDigitChars_ten_toDigits (n := n), e, ofDigitChars_cons_zero]
    exact Nat.zero_add _
  have digits : ∀ c ∈ rest, c.isDigit := by
    intro c mem
    exact Nat.isDigit_of_mem_toDigits (b := 10) (n := n) (by decide) (by decide) (e ▸ List.mem_cons_of_mem _ mem)
  have lt := number.trans_lt (ofDigitChars_lt digits)
  rcases Nat.eq_zero_or_pos rest.length with none | some
  · rw [none] at lt
    omega
  · have := (Nat.length_toDigits_le_iff (by decide) some).2 lt
    rw [e, List.length_cons] at this
    omega

/-- If the first digit is a zero, the digits do not reach the point, and the zero is all that stands before it. -/
lemma whole_of_zero (pos : 0 < d.digits) {rest : List Char} (e : d.whole = '0' :: rest) : rest = [] := by
  obtain ⟨n, split, length⟩ := d.exists_padded_eq
  have digits : 0 < (Nat.toDigits 10 d.digits).length := Nat.length_toDigits_pos
  rcases Nat.lt_or_ge d.places (Nat.toDigits 10 d.digits).length with reach | short
  · obtain ⟨c, others, list⟩ := List.exists_cons_of_ne_nil (Nat.toDigits_ne_nil (n := d.digits) (b := 10))
    rw [e, padded, Nat.sub_eq_zero_of_le reach, list] at split
    obtain rfl : '0' = c := (List.cons.inj split).1
    exact absurd list (toDigits_ne_cons_zero pos others)
  · have total := congrArg List.length split
    simp only [e, padded, List.length_append, List.length_cons, List.length_replicate] at total length
    apply List.length_eq_zero_iff.1
    rw [places] at *
    omega

/-- A decimal above zero is written in plain digits. -/
lemma isPlain (pos : 0 < d.digits) : IsPlain d.whole d.fraction := by
  refine ⟨d.isDigit_of_mem, d.whole_ne_nil, fun rest => whole_of_zero pos, fun rest e => ?_⟩
  have first := List.head?_dropWhile_not (· == '0') (d.padded.drop (d.padded.length - d.places)).reverse
  rw [fraction, List.reverse_eq_iff, List.reverse_append, List.reverse_singleton] at e
  rw [e] at first
  exact Bool.noConfusion (show true = false from first)

end Text

end StepMeters.Decimal
