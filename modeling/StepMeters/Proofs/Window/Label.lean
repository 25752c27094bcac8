import StepMeters.Proofs.Decimal.Nearest
import StepMeters.Window.Label

/-!
# Which percentiles share a label

The percent that a label shows is a whole number of millionths, and its text is that decimal
(`Percentile.exists_decimal`). A label leaves out the point. So two percents share a label if they are the same, and
otherwise only if the point is all that tells them apart: `5.5` and `55` are both labeled `p55`
(`Percentile.label_eq_iff`).
-/

namespace StepMeters.Percentile
open Amount (HasValue Approximates IsNearest exponentOf)
open Decimal (IsPlain number)

/-- The percent of a part in millionths. -/
def millionths (part : Float) : ℕ := (Amount.rounded (Amount.clamped part * 100.0 * 1000000.0)).toNat

/-- One percent lies between one and ten and is not whole, and the other one is ten times as much. Both are given in
millionths. -/
structure IsTenfold (k l : ℕ) : Prop where
  above : 1000000 < k
  below : k < 10000000
  part : ¬1000000 ∣ k
  tenfold : l = 10 * k

section Percent
variable {part part' : Float}

/-- One is kept as it is. -/
lemma hasValue_one : HasValue 1.0 (1 : ℕ) := Amount.hasValue_literal (by rfl) (by decide)

/-- A hundred is kept as it is. -/
lemma hasValue_hundred : HasValue 100.0 (100 : ℕ) := Amount.hasValue_literal (by rfl) (by decide)

/-- A million is kept as it is. -/
lemma hasValue_million : HasValue 1000000.0 (1000000 : ℕ) := Amount.hasValue_literal (by rfl) (by decide)

/-- A clamped part lies between zero and one. -/
lemma clamped_bounds (part : Float) : 0.0 ≤ Amount.clamped part ∧ Amount.clamped part ≤ 1.0 := by
  rw [Amount.clamped]
  split
  · rename_i pos
    exact ⟨Amount.zero_le_least (fun _ => Amount.le_of_lt pos) (by decide),
      Amount.least_le_right (Amount.lt_iff.1 pos).2.1 (by decide)⟩
  · exact ⟨by decide, by decide⟩

/-- No percent is above a hundred. -/
lemma millionths_le (part : Float) : millionths part ≤ 100000000 := by
  obtain ⟨nonneg, le⟩ := clamped_bounds part
  obtain ⟨v, value, below⟩ := hasValue_one.exists_of_le nonneg le
  have product := Amount.approximates_mul value hasValue_hundred
  have less := product.le (Amount.approximates_mul hasValue_one hasValue_hundred)
    (mul_le_mul_of_nonneg_right below (Nat.cast_nonneg _))
  have top : (Amount.rounded (1.0 * 100.0 * 1000000.0)).toNat = 100000000 := by decide +kernel
  rw [millionths, ← top]
  exact Amount.rounded_mul_mono product.zero_le less (by decide)

/-- A percent is the nearest number to its millionths. -/
lemma approximates_percent (part : Float) : Approximates (percent part) (millionths part / 1000000) := by
  have few : millionths part ≤ 2 ^ 53 := (millionths_le part).trans (by decide)
  have whole := (Amount.approximates_toFloat (Amount.rounded (Amount.clamped part * 100.0 * 1000000.0))).hasValue
    (Amount.hasValue_ofNat few)
  exact_mod_cast Amount.approximates_div whole hasValue_million (by norm_num)

/-- What lies between a millionth and a hundred is rounded at places far behind the point. -/
lemma exponentOf_bounds {v : ℚ} (low : 1 / 1000000 ≤ v) (high : v ≤ 100) :
    -1074 < exponentOf v ∧ exponentOf v < -45 := by
  have pos : 0 < v := lt_of_lt_of_le (by norm_num) low
  have least : (2 : ℚ) ^ (-20 : ℤ) < 2 ^ (Int.log 2 v + 1) :=
    lt_of_lt_of_le (by norm_num) (low.trans (Amount.lt_two_pow_log v).le)
  have most : (2 : ℚ) ^ Int.log 2 v < 2 ^ (7 : ℤ) :=
    lt_of_le_of_lt ((Amount.two_pow_log_le pos).trans high) (by norm_num)
  rw [zpow_lt_zpow_iff_right₀ one_lt_two] at least most
  rw [exponentOf]
  omega

/-- The text of a percent above zero is its millionths as a decimal. -/
lemma exists_decimal (some : 0 < millionths part) : ∃ d : Decimal, 0 < d.digits ∧
    d.value = millionths part / 1000000 ∧ (numeral (percent part)).toList = d.text := by
  have low : (1 : ℚ) / 1000000 ≤ millionths part / 1000000 := by
    have : (1 : ℚ) ≤ millionths part := by exact_mod_cast some
    linarith
  have high : (millionths part / 1000000 : ℚ) ≤ 100 := by
    have : (millionths part : ℚ) ≤ 100000000 := by exact_mod_cast millionths_le part
    linarith
  -- in ten millionths, to have more than one step for the least percent as well
  have steps : (millionths part / 1000000 : ℚ) = (10 * millionths part : ℕ) * 10 ^ (-7 : ℤ) := by
    push_cast
    ring
  obtain ⟨normal, small⟩ := exponentOf_bounds low high
  have nearest := (approximates_percent part).isNearest (lt_of_lt_of_le (by norm_num) low)
  rw [steps] at nearest normal small ⊢
  have fine : (2 : ℚ) ^ (exponentOf ((10 * millionths part : ℕ) * 10 ^ (-7 : ℤ)) + 1) < 10 ^ (-7 : ℤ) :=
    (zpow_le_zpow_right₀ one_le_two (by omega : _ ≤ (-45 : ℤ))).trans_lt (by norm_num)
  exact Numeral.exists_text_of_isNearest nearest (by omega) normal (by omega) fine

/-- No millionths are written as zero. -/
lemma numeral_of_zero (none : millionths part = 0) : numeral (percent part) = "0" := by
  have whole : Amount.rounded (Amount.clamped part * 100.0 * 1000000.0) = 0 := UInt64.toNat_inj.1 none
  rw [percent, whole]
  decide +kernel

/-- The text of a percent tells its millionths. -/
lemma read_numeral (part : Float) : Decimal.read (numeral (percent part)).toList = millionths part / 1000000 := by
  rcases Nat.eq_zero_or_pos (millionths part) with none | some
  · rw [numeral_of_zero none, none, Nat.cast_zero, zero_div]
    exact Numeral.read_zero
  · obtain ⟨d, -, value, text⟩ := exists_decimal some
    rw [text, Decimal.read_text, value]

/-- Two percents are equal just if their millionths are. -/
lemma percent_eq_iff : percent part = percent part' ↔ millionths part = millionths part' := by
  constructor
  · intro same
    have texts := congrArg (fun x => Decimal.read (numeral x).toList) same
    rw [read_numeral, read_numeral, div_left_inj' (by norm_num)] at texts
    exact_mod_cast texts
  · intro same
    have whole := UInt64.toNat_inj.1 same
    rw [percent, percent, whole]

end Percent

section Label
variable {p q : Percentile} {w f w' f' : List Char} {k l : ℕ}

/-- No millionths have the label of the least amount. -/
lemma label_of_zero (none : millionths p.part = 0) : p.label = "min" := by
  rw [label, numeral_of_zero none]
  rfl

/-- A hundred percent has the label of the greatest amount. -/
lemma label_of_all (all : millionths p.part = 100000000) : p.label = "max" := by
  have whole : Amount.rounded (Amount.clamped p.part * 100.0 * 1000000.0) = 100000000 := UInt64.toNat_inj.1 all
  have text : numeral (percent p.part) = "100" := by
    rw [percent, whole]
    decide +kernel
  rw [label, text]
  rfl

/-- A percent is not written as a whole number that it is not. -/
lemma numeral_ne {text : String} {n : ℕ} (reads : Decimal.read text.toList = n) (ne : millionths p.part ≠ n * 1000000) :
    numeral (percent p.part) ≠ text := by
  rintro rfl
  rw [read_numeral, div_eq_iff (by norm_num)] at reads
  exact ne (by exact_mod_cast reads)

/-- Between the ends a label has the plain digits of the percent. -/
lemma exists_label (some : 0 < millionths p.part) (less : millionths p.part < 100000000) :
    ∃ whole fraction, IsPlain whole fraction ∧ number whole fraction = millionths p.part / 1000000 ∧
      p.label.toList = 'p' :: (whole ++ fraction) := by
  obtain ⟨d, digits, value, text⟩ := exists_decimal some
  have notZero : numeral (percent p.part) ≠ "0" := numeral_ne (n := 0) (Decimal.read_whole (by decide)) (by omega)
  have notAll : numeral (percent p.part) ≠ "100" := numeral_ne (n := 100) (Decimal.read_whole (by decide)) (by omega)
  have kept (c : Char) (mem : c ∈ d.whole ++ d.fraction) : decide (c ≠ '.') = true := by
    refine decide_eq_true fun point => ?_
    exact absurd (d.isDigit_of_mem c mem) (by rw [point]; decide)
  have whole := List.filter_eq_self.2 fun c mem => kept c (List.mem_append_left _ mem)
  have fraction := List.filter_eq_self.2 fun c mem => kept c (List.mem_append_right _ mem)
  refine ⟨d.whole, d.fraction, Decimal.isPlain digits, d.number_eq.trans value, ?_⟩
  simp only [label, if_neg notZero, if_neg notAll, String.toList_ofList, text, Decimal.text_eq]
  rw [List.filter_cons_of_pos (by decide)]
  congr 1
  split
  · rename_i none
    rw [whole, List.isEmpty_iff.1 none, List.append_nil]
  · rw [List.filter_append, whole, List.filter_cons_of_neg (by decide), fraction]

/-- If the point is all that tells two numbers apart, one is ten times as much as the other. -/
lemma isTenfold_of_shift {c c' : Char} (h : IsPlain [c] (c' :: f)) (ne : c ≠ '0')
    (value : number [c] (c' :: f) = k / 1000000) (value' : number [c, c'] f = l / 1000000) : IsTenfold k l := by
  have digit := h.whole_digits c (by simp)
  have first := Decimal.digit_pos digit ne
  have last := (Decimal.toNat_of_isDigit digit).2
  have whole : Nat.ofDigitChars 10 [c] 0 = c.toNat - 48 := Nat.zero_add _
  have floor := h.lt_number (List.cons_ne_nil _ _)
  have ceiling := (Decimal.number_bounds (w := [c]) h.fraction_digits).2
  have tenfold := (h.shift ne).2
  rw [value, whole, lt_div_iff₀ (by norm_num)] at floor
  rw [value, whole, div_lt_iff₀ (by norm_num)] at ceiling
  rw [value, value', ← mul_div_assoc, div_left_inj' (by norm_num)] at tenfold
  have low : (c.toNat - 48) * 1000000 < k := by exact_mod_cast floor
  have high : k < (c.toNat - 48 + 1) * 1000000 := by exact_mod_cast ceiling
  exact ⟨by omega, by omega, by omega, by exact_mod_cast tenfold⟩

/-- A number between one and ten that is not whole has one digit before the point, and another one behind it. -/
lemma IsTenfold.exists_cons (t : IsTenfold k l) (h : IsPlain w f) (value : number w f = k / 1000000) :
    ∃ c c' rest, c ≠ '0' ∧ w = [c] ∧ f = c' :: rest := by
  have above : (1000000 : ℚ) < k := by exact_mod_cast t.above
  have below : (k : ℚ) < 10000000 := by exact_mod_cast t.below
  have bounds := Decimal.number_bounds (w := w) h.fraction_digits
  rw [value] at bounds
  have short : w.length ≤ 1 := by
    apply h.length_le Nat.one_pos
    rw [value]
    linarith
  obtain ⟨c, rfl⟩ := List.length_eq_one_iff.1 (le_antisymm short (List.length_pos_of_ne_nil h.nonempty))
  have some : f ≠ [] := by
    rintro rfl
    rw [number, Nat.ofDigitChars_nil, Nat.cast_zero, zero_div, add_zero, eq_div_iff (by norm_num)] at value
    exact t.part ⟨_, (Nat.mul_comm _ _).trans (by exact_mod_cast value) |>.symm⟩
  obtain ⟨c', rest, rfl⟩ := List.exists_cons_of_ne_nil some
  refine ⟨c, c', rest, ?_, rfl, rfl⟩
  rintro rfl
  have none : Nat.ofDigitChars 10 ['0'] 0 = 0 := by decide
  rw [none] at bounds
  linarith

/-- Tenfold percents have the same digits in the same order, and differ in the place of the point. -/
lemma IsTenfold.append_eq (t : IsTenfold k l) (h : IsPlain w f) (h' : IsPlain w' f')
    (value : number w f = k / 1000000) (value' : number w' f' = l / 1000000) : w ++ f = w' ++ f' := by
  obtain ⟨c, c', rest, ne, rfl, rfl⟩ := t.exists_cons h value
  obtain ⟨plain, tenfold⟩ := h.shift ne
  have same : number [c, c'] rest = number w' f' := by
    rw [tenfold, value, value', t.tenfold]
    push_cast
    ring
  obtain ⟨rfl, rfl⟩ := plain.unique h' same
  rfl

/-- When the plain digits of two numbers below a hundred are the same without the point. -/
lemma append_eq_iff (h : IsPlain w f) (h' : IsPlain w' f') (value : number w f = k / 1000000)
    (value' : number w' f' = l / 1000000) (less : k < 100000000) (less' : l < 100000000) :
    w ++ f = w' ++ f' ↔ k = l ∨ IsTenfold k l ∨ IsTenfold l k := by
  have few {w f : List Char} {k : ℕ} (h : IsPlain w f) (value : number w f = k / 1000000) (less : k < 100000000) :
      w.length ≤ 2 := by
    have below : (k : ℚ) < 100000000 := by exact_mod_cast less
    apply h.length_le Nat.two_pos
    rw [value]
    linarith
  constructor
  · intro same
    rcases lt_trichotomy w.length w'.length with shorter | equal | longer
    · obtain ⟨c, c', ne, rfl, rfl, rfl⟩ := h.exists_shift h' same shorter (few h' value' less')
      exact .inr (.inl (isTenfold_of_shift h ne value value'))
    · obtain ⟨rfl, rfl⟩ := List.append_inj same equal
      rw [value, div_left_inj' (by norm_num)] at value'
      exact .inl (by exact_mod_cast value')
    · obtain ⟨c, c', ne, rfl, rfl, rfl⟩ := h'.exists_shift h same.symm longer (few h value less)
      exact .inr (.inr (isTenfold_of_shift h' ne value' value))
  · rintro (rfl | t | t)
    · obtain ⟨rfl, rfl⟩ := h.unique h' (value.trans value'.symm)
      rfl
    · exact t.append_eq h h' value value'
    · exact (t.append_eq h' h value' value).symm

/-- What a label looks like. -/
inductive Labeled (p : Percentile) : Prop where
  | least (none : millionths p.part = 0) (e : p.label = "min")
  | most (all : millionths p.part = 100000000) (e : p.label = "max")
  | between (some : 0 < millionths p.part) (less : millionths p.part < 100000000) (digits : List Char)
      (e : p.label.toList = 'p' :: digits)

/-- Every label looks like one of these. -/
lemma labeled (p : Percentile) : Labeled p := by
  rcases Nat.eq_zero_or_pos (millionths p.part) with none | some
  · exact .least none (label_of_zero none)
  · rcases (millionths_le p.part).lt_or_eq with less | all
    · obtain ⟨whole, fraction, -, -, e⟩ := exists_label some less
      exact .between some less (whole ++ fraction) e
    · exact .most all (label_of_all all)

/-- Tenfold percents lie strictly between zero and a hundred. -/
lemma IsTenfold.between (t : IsTenfold k l) : (0 < k ∧ k < 100000000) ∧ 0 < l ∧ l < 100000000 := by
  obtain ⟨above, below, -, rfl⟩ := t
  omega

/-- The ends of the scale have labels of their own. -/
lemma label_eq_iff_of_end (ends : ¬(0 < millionths p.part ∧ millionths p.part < 100000000)) :
    p.label = q.label ↔ millionths p.part = millionths q.part := by
  cases labeled p with
  | least none e =>
    rw [e, none]
    cases labeled q with
    | least none' e' => exact iff_of_true e'.symm none'.symm
    | most all' e' => simp [e', all']
    | between some' less' digits' e' =>
      refine iff_of_false (fun same => ?_) some'.ne
      rw [← same] at e'
      exact absurd (List.cons.inj e').1 (by decide)
  | most all e =>
    rw [e, all]
    cases labeled q with
    | least none' e' => simp [e', none']
    | most all' e' => exact iff_of_true e'.symm all'.symm
    | between some' less' digits' e' =>
      refine iff_of_false (fun same => ?_) less'.ne'
      rw [← same] at e'
      exact absurd (List.cons.inj e').1 (by decide)
  | between some less digits e => exact absurd ⟨some, less⟩ ends

end Label

/-- When two percentiles have the same label: their percents, rounded to six decimals, are the same, or one of them
lies between one and ten and is not whole and the other one is ten times as much. All other percents have different
labels, and percents are different if their millionths are. -/
theorem label_eq_iff (p q : Percentile) :
    (percent p.part = percent q.part ↔ millionths p.part = millionths q.part) ∧
    (p.label = q.label ↔ percent p.part = percent q.part ∨
      IsTenfold (millionths p.part) (millionths q.part) ∨ IsTenfold (millionths q.part) (millionths p.part)) := by
  refine ⟨percent_eq_iff, ?_⟩
  rw [percent_eq_iff]
  by_cases inside : 0 < millionths p.part ∧ millionths p.part < 100000000
  · by_cases inside' : 0 < millionths q.part ∧ millionths q.part < 100000000
    · obtain ⟨w, f, plain, value, e⟩ := exists_label inside.1 inside.2
      obtain ⟨w', f', plain', value', e'⟩ := exists_label inside'.1 inside'.2
      rw [← append_eq_iff plain plain' value value' inside.2 inside'.2, ← String.toList_inj, e, e', List.cons_inj_right]
    · rw [eq_comm, label_eq_iff_of_end inside', eq_comm, or_iff_left]
      exact fun t => inside' (t.elim (·.between.2) (·.between.1))
  · rw [label_eq_iff_of_end inside, or_iff_left]
    exact fun t => inside (t.elim (·.between.1) (·.between.2))

/-- The percents `5.5` and `55` have the same label. -/
theorem label_eq_without_point :
    let p : Percentile := ⟨0.055, 1.0⟩
    let q : Percentile := ⟨0.55, 1.0⟩
    (0.0 ≤ p.part ∧ p.part ≤ 1.0) ∧ (0.0 ≤ q.part ∧ q.part ≤ 1.0) ∧ percent p.part ≠ percent q.part ∧
      p.label = "p55" ∧ q.label = "p55" := by
  decide +kernel

end StepMeters.Percentile
