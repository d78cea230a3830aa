import WorkedAlgebra.Proofs.Derivations
import WorkedAlgebra.Proofs.FiniteAnswers
import WorkedAlgebra.Proofs.NumberTexts
import WorkedAlgebra.Proofs.Document.Lossless
import WorkedAlgebra.Toml.Format

/-!
The words that numbers and truth values are written as in a document. A natural number is written
as its digits, a finite floating-point number as digits with a point inside them; both read back,
and so do the words for the infinities.
-/

namespace WorkedAlgebra.Toml

open Rounding Float.Model Numeral

section Scaled

variable {m : Nat} {e : Int}

/-- A decimal rounds to the number it is read as. -/
theorem toFloat_roundsTo (d : Decimal) :
    ∃ u, RoundsTo d.value u ∧ d.toFloat = Float.ofModel (Float.Model.pack u) := by
  obtain ⟨a, k, written⟩ := d.exists_numeral
  obtain ⟨u, rounds, word⟩ := ofDecimal_roundsTo a k
  rw [written] at rounds
  exact ⟨u, rounds, (Decimal.ofDecimal_eq_toFloat written).symm.trans word⟩

theorem toFloat_of_tiny {d : Decimal} (positive : 0 < d.value)
    (tiny : d.value < 2 ^ (-1075 : Int)) : d.toFloat = Scalar.zero := by
  obtain ⟨u, rounds, word⟩ := toFloat_roundsTo d
  rw [word, rounds.unique (RoundsTo.zero_of_tiny positive tiny)]
  exact eq_of_parts rfl

theorem value_lt_of_finite {d : Decimal} (finite : Scalar.isFinite d.toFloat = true) :
    d.value < overflowThreshold := by
  obtain ⟨u, rounds, word⟩ := toFloat_roundsTo d
  rw [word] at finite
  exact rounds.isFinite_pack_iff.mp finite

theorem tenth_power_tiny : (10 : ℚ) ^ (-401 : Int) < 2 ^ (-1075 : Int) := by
  have natural : 2 ^ 1075 < 10 ^ 401 := by decide +kernel
  rw [zpow_neg, zpow_neg, inv_lt_inv₀ (by positivity) (by positivity)]
  exact_mod_cast natural

theorem tenth_power_huge : overflowThreshold ≤ (10 : ℚ) ^ (400 : Int) := by
  have natural : 2 ^ 1024 ≤ 10 ^ 400 := by decide +kernel
  refine (sub_le_self _ (by positivity)).trans ?_
  exact_mod_cast natural

/-- The shortcuts for very small and very large decimals do not change what they are read as. -/
theorem scaled_eq_toFloat (finite : Scalar.isFinite (Decimal.toFloat ⟨m, e⟩) = true) :
    scaled m e = Decimal.toFloat ⟨m, e⟩ := by
  have ten : (0 : ℚ) < 10 ^ e := zpow_pos (by norm_num) e
  unfold scaled
  dsimp only
  split
  · rename_i small
    rcases Nat.eq_zero_or_pos m with rfl | positive
    · exact (Decimal.toFloat_congr (d := ⟨0, 0⟩) (by simp [Decimal.value]))
    · have bound : (m : ℚ) < 10 ^ (Decimal.width m : Int) := by
        rw [zpow_natCast]
        exact_mod_cast Decimal.Ratio.lt_pow_width m
      refine (toFloat_of_tiny (mul_pos (by exact_mod_cast positive) ten) ?_).symm
      calc (m : ℚ) * 10 ^ e < 10 ^ (Decimal.width m : Int) * 10 ^ e :=
            mul_lt_mul_of_pos_right bound ten
        _ = 10 ^ (Decimal.width m + e) := (zpow_add₀ (by norm_num) _ _).symm
        _ ≤ 10 ^ (-401 : Int) := zpow_le_zpow_right₀ (by norm_num) (by omega)
        _ < 2 ^ (-1075 : Int) := tenth_power_tiny
  · rename_i notSmall
    split
    · rename_i large
      have positive : 0 < m := by omega
      have digits : 0 < Decimal.width m := by
        rw [Decimal.width, if_neg positive.ne']
        exact Nat.length_toDigits_pos
      have bound : (10 : ℚ) ^ ((Decimal.width m - 1 : Nat) : Int) ≤ m := by
        rw [zpow_natCast]
        exact_mod_cast Decimal.Ratio.pow_width_le positive
      refine absurd (value_lt_of_finite finite) (not_lt.mpr ?_)
      calc overflowThreshold ≤ (10 : ℚ) ^ (400 : Int) := tenth_power_huge
        _ ≤ 10 ^ (((Decimal.width m - 1 : Nat) : Int) + e) :=
            zpow_le_zpow_right₀ (by norm_num) (by omega)
        _ = 10 ^ ((Decimal.width m - 1 : Nat) : Int) * 10 ^ e := zpow_add₀ (by norm_num) _ _
        _ ≤ m * 10 ^ e := mul_le_mul_of_nonneg_right bound ten.le
    · rfl

end Scaled

section Digits

variable {cs : List Char}

theorem ne_of_isDigit {c d : Char} (digit : c.isDigit = true) (other : d.isDigit = false) :
    c ≠ d := by
  rintro rfl
  rw [digit] at other
  cases other

theorem not_mem_of_isDigit {c : Char} (digits : ∀ d ∈ cs, d.isDigit = true)
    (other : c.isDigit = false) : c ∉ cs :=
  fun mem => ne_of_isDigit (digits c mem) other rfl

theorem digits?_of_digits (digits : ∀ c ∈ cs, c.isDigit = true) (nonempty : cs ≠ []) :
    digits? Char.isDigit cs = some cs := by
  rw [digits?, pieces_of_absent (not_mem_of_isDigit digits rfl)]
  simp [List.isEmpty_eq_false_iff.mpr nonempty, List.all_eq_true.mpr digits]

/-- No zero in front of other digits. -/
def Unpadded (cs : List Char) : Prop := 1 < cs.length → cs.head? ≠ some '0'

theorem Unpadded.wholeDigits? (unpadded : Unpadded cs) :
    wholeDigits? cs = digits? Char.isDigit cs := by
  unfold Toml.wholeDigits?
  rw [if_neg]
  simpa [Unpadded] using unpadded

theorem head?_toDigits {n : Nat} (positive : 0 < n) : (Nat.toDigits 10 n).head? ≠ some '0' := by
  induction n using Nat.strongRecOn with
  | ind n ih =>
    rcases Nat.lt_or_ge n 10 with small | large
    · rw [Nat.toDigits_of_lt_base small]
      interval_cases n <;> decide
    · rw [Nat.toDigits_of_base_le (by decide) large,
        List.head?_append_of_ne_nil _ Nat.toDigits_ne_nil]
      exact ih (n / 10) (by omega) (by omega)

theorem unpadded_toDigits (n : Nat) : Unpadded (Nat.toDigits 10 n) := by
  rcases Nat.eq_zero_or_pos n with rfl | positive
  · intro long
    exact absurd long (by decide)
  · exact fun _ => head?_toDigits positive

end Digits

section Dates

variable {cs rest : List Char}

theorem mark?_of_absent {c : Char} (absent : c ∉ cs) : mark? c cs = none := by
  cases cs with
  | nil => rfl
  | cons d cs =>
    rw [mark?, if_neg]
    rw [beq_iff_eq]
    rintro rfl
    exact absent List.mem_cons_self

theorem field?_suffix {count low high : Nat} (read : field? count low high cs = some rest) :
    rest <:+ cs := by
  unfold field? at read
  dsimp only at read
  split at read
  · cases read
    exact List.drop_suffix count cs
  · cases read

theorem mark?_field?_of_absent {c : Char} {count low high : Nat} (absent : c ∉ cs) :
    (field? count low high cs).bind (mark? c) = none := by
  refine Option.bind_eq_none_iff.mpr fun rest read => mark?_of_absent fun mem => absent ?_
  exact (field?_suffix read).subset mem

/-- A text without the mark of times, with that of dates at most in front, is no date. -/
theorem isDate_of_absent (noTime : ':' ∉ cs) (noDate : '-' ∉ cs ∨ ∃ ds, cs = '-' :: ds) :
    isDate cs = false := by
  have calendar : calendarDate? cs = none := by
    unfold calendarDate?
    rcases noDate with absent | ⟨ds, rfl⟩
    · have first : (field? 4 0 9999 cs).bind (mark? '-') = none := mark?_field?_of_absent absent
      simp only [Option.bind_eq_bind, ← Option.bind_assoc] at first ⊢
      rw [first]
      rfl
    · have first : field? 4 0 9999 ('-' :: ds) = none := by simp [field?]
      rw [first]
      rfl
  have clock : clockTime? cs = none := by
    unfold clockTime?
    have first : (field? 2 0 23 cs).bind (mark? ':') = none := mark?_field?_of_absent noTime
    simp only [Option.bind_eq_bind, ← Option.bind_assoc] at first ⊢
    rw [first]
    rfl
  rw [isDate, calendar, clock]
  rfl

end Dates

section Plain

variable {word : List Char}

/-- A word of digits, signs and points has no base. -/
theorem integer?_of_plain (plain : ∀ c ∈ word, c.isAlpha = false) :
    integer? word = ((wholeDigits? (signed word).2).map fun ds =>
      if (signed word).1 then -(ofDigits ds : Int) else ofDigits ds).bind fun n =>
        if fitsInteger n then some n else none := by
  unfold integer?
  split
  iterate 3
    cases plain _ (List.mem_cons_of_mem _ List.mem_cons_self)
  rfl

theorem wordValue?_of_plain (plain : ∀ c ∈ word, c.isAlpha = false) (date : isDate word = false) :
    wordValue? word = match integer? word with
      | some n => some (.integer n)
      | none => (float? word).map .float := by
  have other {c : Char} {cs : List Char} (letter : c.isAlpha = true) :
      (word == c :: cs) = false := by
    refine beq_false_of_ne ?_
    rintro rfl
    rw [plain c List.mem_cons_self] at letter
    cases letter
  rw [wordValue?, other rfl, other rfl, date]
  rfl

theorem isAlpha_of_isDigit {c : Char} (digit : c.isDigit = true) : c.isAlpha = false := by
  grind [Char.isDigit, Char.isAlpha, Char.isUpper, Char.isLower]

theorem wordValue?_natural {n : Nat} (fits : fitsInteger n = true) :
    wordValue? (Nat.toDigits 10 n) = some (.integer n) := by
  have digits : ∀ c ∈ Nat.toDigits 10 n, c.isDigit = true := isDigit_of_mem_toDigits
  have plain : ∀ c ∈ Nat.toDigits 10 n, c.isAlpha = false :=
    fun c mem => isAlpha_of_isDigit (digits c mem)
  have unsigned : signed (Nat.toDigits 10 n) = (false, Nat.toDigits 10 n) := by
    unfold signed
    split
    · rename_i same
      cases digits '-' (same ▸ List.mem_cons_self)
    · rename_i same
      cases digits '+' (same ▸ List.mem_cons_self)
    · rfl
  have whole : integer? (Nat.toDigits 10 n) = some (n : Int) := by
    have back : ofDigits (Nat.toDigits 10 n) = n := ofDigits_zeros_toDigits 0 n
    rw [integer?_of_plain plain, unsigned, (unpadded_toDigits n).wholeDigits?,
      digits?_of_digits digits Nat.toDigits_ne_nil]
    simp [back, fits]
  rw [wordValue?_of_plain plain (isDate_of_absent (not_mem_of_isDigit digits rfl)
    (.inl (not_mem_of_isDigit digits rfl))), whole]

end Plain

structure PointedWord where
  whole : List Char
  fraction : List Char
  isDigit_whole : ∀ c ∈ whole, c.isDigit = true
  isDigit_fraction : ∀ c ∈ fraction, c.isDigit = true
  whole_ne_nil : whole ≠ []
  fraction_ne_nil : fraction ≠ []
  unpadded : Unpadded whole

namespace PointedWord

variable (w : PointedWord)

def text : List Char := w.whole ++ '.' :: w.fraction

def decimal : Decimal := ⟨ofDigits (w.whole ++ w.fraction), -(w.fraction.length : Int)⟩

theorem isMark_text : ∀ c ∈ w.text, isMark c = true := by
  intro c mem
  rcases List.mem_append.mp mem with whole | rest
  · exact isMark_of_isDigit (w.isDigit_whole c whole)
  · rcases List.mem_cons.mp rest with rfl | fraction
    · rfl
    · exact isMark_of_isDigit (w.isDigit_fraction c fraction)

theorem isAlpha_text : ∀ c ∈ w.text, c.isAlpha = false := by
  intro c mem
  rcases Bool.or_eq_true _ _ |>.mp (w.isMark_text c mem) with digit | point
  · exact isAlpha_of_isDigit digit
  · rw [beq_iff_eq.mp point]
    rfl

theorem exists_cons : ∃ c cs, w.text = c :: cs ∧ c.isDigit = true := by
  obtain ⟨c, cs, whole⟩ := List.exists_cons_of_ne_nil w.whole_ne_nil
  refine ⟨c, cs ++ '.' :: w.fraction, ?_, w.isDigit_whole c ?_⟩
  · rw [text, whole, List.cons_append]
  · rw [whole]
    exact List.mem_cons_self

theorem wholeDigits?_text : wholeDigits? w.text = none := by
  have point : ¬ (w.text.all Char.isDigit) = true := by simp [text]
  have bar : '_' ∉ w.text := fun mem => by cases w.isMark_text '_' mem
  unfold wholeDigits?
  split
  · rfl
  · rw [digits?, pieces_of_absent bar, if_neg]
    simpa using fun _ => point

theorem floatParts?_text : floatParts? w.text = some (w.whole, w.fraction, 0) := by
  have whole {p : Char → Bool} (keeps : ∀ c, c.isDigit = true → p c = true)
      (stops : p '.' = false) :
      w.text.takeWhile p = w.whole ∧ w.text.dropWhile p = '.' :: w.fraction := by
    have all := fun c mem => keeps c (w.isDigit_whole c mem)
    rw [text, List.takeWhile_append_of_pos all, List.dropWhile_append_of_pos all,
      List.takeWhile_cons_of_neg (by simpa using stops),
      List.dropWhile_cons_of_neg (by simpa using stops)]
    exact ⟨List.append_nil _, rfl⟩
  have mark := whole (p := fun c => !(c == '.' || c == 'e' || c == 'E'))
    (fun c digit => by simp [ne_of_isDigit digit (d := '.') rfl, ne_of_isDigit digit (d := 'e') rfl,
      ne_of_isDigit digit (d := 'E') rfl]) rfl
  have point {p : Char → Bool} (keeps : ∀ c, c.isDigit = true → p c = true)
      (start : p '.' = true) :
      ('.' :: w.fraction).takeWhile p = '.' :: w.fraction ∧
        ('.' :: w.fraction).dropWhile p = [] := by
    have all : ∀ c ∈ '.' :: w.fraction, p c = true :=
      List.forall_mem_cons.mpr ⟨start, fun c mem => keeps c (w.isDigit_fraction c mem)⟩
    exact ⟨List.takeWhile_eq_self_iff.mpr all, List.dropWhile_eq_nil_iff.mpr all⟩
  have exponent := point (p := fun c => !(c == 'e' || c == 'E'))
    (fun c digit => by simp [ne_of_isDigit digit (d := 'e') rfl,
      ne_of_isDigit digit (d := 'E') rfl]) rfl
  simp only [floatParts?, mark, exponent, w.unpadded.wholeDigits?,
    digits?_of_digits w.isDigit_whole w.whole_ne_nil,
    digits?_of_digits w.isDigit_fraction w.fraction_ne_nil]
  rfl

variable {w}

theorem signed_text : signed w.text = (false, w.text) := by
  unfold signed
  split
  · rename_i same
    cases w.isMark_text '-' (same ▸ List.mem_cons_self)
  · rename_i same
    cases w.isMark_text '+' (same ▸ List.mem_cons_self)
  · rfl

theorem text_ne_words :
    (w.text == ['i', 'n', 'f']) = false ∧ (w.text == ['n', 'a', 'n']) = false := by
  obtain ⟨c, cs, text, digit⟩ := w.exists_cons
  rw [text]
  exact ⟨beq_false_of_ne fun same => ne_of_isDigit digit rfl (List.cons.inj same).1,
    beq_false_of_ne fun same => ne_of_isDigit digit rfl (List.cons.inj same).1⟩

theorem scaled_text (finite : Scalar.isFinite w.decimal.toFloat = true) :
    scaled (ofDigits (w.whole ++ w.fraction)) (0 - w.fraction.length) = w.decimal.toFloat := by
  rw [zero_sub]
  exact scaled_eq_toFloat finite

theorem float?_text (finite : Scalar.isFinite w.decimal.toFloat = true) :
    float? w.text = some w.decimal.toFloat := by
  have finite' : w.decimal.toFloat.isFinite = true := finite
  simp only [float?, signed_text, text_ne_words, floatParts?_text, Option.bind_eq_bind,
    Option.bind_some, scaled_text finite]
  simp [finite']

theorem float?_minus (finite : Scalar.isFinite w.decimal.toFloat = true) :
    float? ('-' :: w.text) = some (-w.decimal.toFloat) := by
  simp only [float?, signed, text_ne_words, floatParts?_text, Option.bind_eq_bind,
    Option.bind_some, scaled_text finite]
  simp

theorem wordValue?_text (finite : Scalar.isFinite w.decimal.toFloat = true) :
    wordValue? w.text = some (.float w.decimal.toFloat) := by
  have absent {c : Char} (other : isMark c = false) : c ∉ w.text := by
    intro mem
    rw [w.isMark_text c mem] at other
    cases other
  rw [wordValue?_of_plain w.isAlpha_text (isDate_of_absent (absent rfl) (.inl (absent rfl))),
    integer?_of_plain w.isAlpha_text, signed_text, wholeDigits?_text, float?_text finite]
  rfl

theorem wordValue?_minus (finite : Scalar.isFinite w.decimal.toFloat = true) :
    wordValue? ('-' :: w.text) = some (.float (-w.decimal.toFloat)) := by
  have plain : ∀ c ∈ '-' :: w.text, c.isAlpha = false :=
    List.forall_mem_cons.mpr ⟨rfl, w.isAlpha_text⟩
  have noTime : ':' ∉ '-' :: w.text :=
    List.not_mem_cons_of_ne_of_not_mem (by decide) fun mem => by cases w.isMark_text ':' mem
  rw [wordValue?_of_plain plain (isDate_of_absent noTime (.inr ⟨_, rfl⟩)), integer?_of_plain plain,
    signed, wholeDigits?_text, float?_minus finite]
  rfl

end PointedWord

section Written

open Layout

variable {d : Decimal} {k : Nat} {x : Float}

/-- A decimal without a needless factor of ten at zero. -/
def Reduced (d : Decimal) : Prop := d.digits = 0 → d.exponent = 0

theorem reduced_shortest (finite : Scalar.isFinite x = true)
    (unsigned : Unsigned x.toModel.unpack) : Reduced (Decimal.shortest .upper x) := by
  intro none
  have value : (Decimal.shortest .upper x).value = (⟨0, 0⟩ : Decimal).value := by
    simp [Decimal.value, none]
  have zero : x = Scalar.zero := by
    rw [← Decimal.shortest_toFloat .upper finite unsigned]
    exact Decimal.toFloat_congr value
  rw [zero]
  rfl

theorem pointed_of_whole (reduced : Reduced d) (exponent : d.exponent = k) :
    ∃ w : PointedWord, w.text = (positionalText true d).toList ∧ w.decimal.toFloat = d.toFloat := by
  have digits : ∀ c ∈ Nat.toDigits 10 d.digits ++ List.replicate k '0', c.isDigit = true := by
    intro c mem
    exact (List.mem_append.mp mem).elim (isDigit_of_mem_toDigits c) (isDigit_of_mem_zeros c)
  have unpadded : Unpadded (Nat.toDigits 10 d.digits ++ List.replicate k '0') := by
    rcases Nat.eq_zero_or_pos d.digits with none | positive
    · have whole : k = 0 := by exact_mod_cast exponent.symm.trans (reduced none)
      rw [whole, List.replicate_zero, List.append_nil]
      exact unpadded_toDigits d.digits
    · intro _
      rw [List.head?_append_of_ne_nil _ Nat.toDigits_ne_nil]
      exact head?_toDigits positive
  have nonempty : Nat.toDigits 10 d.digits ++ List.replicate k '0' ≠ [] :=
    List.append_ne_nil_of_left_ne_nil Nat.toDigits_ne_nil _
  have zero : ∀ c ∈ ['0'], c.isDigit = true := List.forall_mem_singleton.mpr rfl
  refine ⟨⟨_, ['0'], digits, zero, nonempty, List.cons_ne_nil _ _, unpadded⟩, ?_, ?_⟩
  · simp [PointedWord.text, positionalText, exponent]
  · refine Decimal.toFloat_congr ?_
    have zeros : Nat.toDigits 10 d.digits ++ List.replicate k '0' ++ ['0'] =
        Nat.toDigits 10 d.digits ++ List.replicate (k + 1) '0' := by
      rw [List.append_assoc, List.replicate_succ']
    simp only [PointedWord.decimal, Decimal.value, zeros, ofDigits_toDigits_zeros, exponent]
    push_cast
    rw [List.length_singleton, zpow_natCast, pow_succ, mul_assoc, mul_assoc]
    norm_num

theorem pointed_of_fraction (exponent : d.exponent = -((k + 1 : Nat) : Int)) :
    ∃ w : PointedWord, w.text = (positionalText true d).toList ∧ w.decimal.toFloat = d.toFloat := by
  obtain ⟨zeros, hz⟩ : ∃ zeros, k + 1 + 1 - (Nat.toDigits 10 d.digits).length = zeros := ⟨_, rfl⟩
  obtain ⟨padded, pads⟩ : ∃ padded, List.replicate zeros '0' ++ Nat.toDigits 10 d.digits = padded :=
    ⟨_, rfl⟩
  have length : padded.length = zeros + (Nat.toDigits 10 d.digits).length := by
    rw [← pads, List.length_append, List.length_replicate]
  have digits : ∀ c ∈ padded, c.isDigit = true := by
    intro c mem
    rw [← pads] at mem
    exact (List.mem_append.mp mem).elim (isDigit_of_mem_zeros c) (isDigit_of_mem_toDigits c)
  -- Zeros stand in front only where one of them is all that stands before the point.
  have unpadded : Unpadded (padded.take (padded.length - (k + 1))) := by
    intro long
    rw [List.length_take] at long
    have none : zeros = 0 := by omega
    rw [none, List.replicate_zero, List.nil_append] at pads
    have positive : 0 < d.digits := by
      by_contra zero
      rw [Nat.eq_zero_of_not_pos zero] at pads
      have : padded.length = 1 := by rw [← pads]; rfl
      omega
    rw [List.head?_take, if_neg (by omega), ← pads]
    exact head?_toDigits positive
  have below : ¬ 0 ≤ d.exponent := by omega
  have places : d.exponent.natAbs = k + 1 := by omega
  refine ⟨⟨padded.take (padded.length - (k + 1)), padded.drop (padded.length - (k + 1)),
    fun c mem => digits c (List.mem_of_mem_take mem),
    fun c mem => digits c (List.mem_of_mem_drop mem), ?_, ?_, unpadded⟩, ?_, ?_⟩
  · rw [← List.length_pos_iff, List.length_take]
    omega
  · rw [← List.length_pos_iff, List.length_drop]
    omega
  · simp only [positionalText, below, if_false, places, hz, pads]
    simp [PointedWord.text]
  · refine Decimal.toFloat_congr ?_
    have fraction : padded.length - (padded.length - (k + 1)) = k + 1 := by omega
    simp only [PointedWord.decimal, Decimal.value, List.take_append_drop, List.length_drop,
      fraction, exponent]
    rw [← pads, ofDigits_zeros_toDigits]

theorem exists_pointed (reduced : Reduced d) :
    ∃ w : PointedWord, w.text = (positionalText true d).toList ∧ w.decimal.toFloat = d.toFloat := by
  rcases le_or_gt 0 d.exponent with whole | fraction
  · exact pointed_of_whole reduced (Int.eq_ofNat_of_zero_le whole).choose_spec
  · obtain ⟨k, exponent⟩ : ∃ k : Nat, d.exponent = -((k + 1 : Nat) : Int) :=
      ⟨d.exponent.natAbs - 1, by omega⟩
    exact pointed_of_fraction exponent

theorem wordValue?_inf :
    wordValue? ['i', 'n', 'f'] = some (.float Scalar.infinity) ∧
      wordValue? ['-', 'i', 'n', 'f'] = some (.float (-Scalar.infinity)) :=
  ⟨rfl, rfl⟩

def magnitudeText (x : Float) : String :=
  if x.isFinite then positionalText true (Decimal.shortest .upper x.abs) else "inf"

theorem write_settings (number : x.isNaN = false) :
    settings.write x =
      (if (Binary64.ofFloat x).negative then "-" else "") ++ magnitudeText x := by
  simp only [write, number, settings, magnitudeText]
  cases x.isFinite <;> cases (Binary64.ofFloat x).negative <;> simp

theorem wordValue?_magnitudeText (number : x.toModel.unpack ≠ .notANumber) :
    wordValue? (magnitudeText x).toList = some (.float (Scalar.abs x)) ∧
      wordValue? ('-' :: (magnitudeText x).toList) = some (.float (-Scalar.abs x)) := by
  unfold magnitudeText
  cases finite : x.isFinite with
  | true =>
    have finite' : Scalar.isFinite (Scalar.abs x) = true := (denotes_value finite).abs.finite
    obtain ⟨w, text, value⟩ := exists_pointed (reduced_shortest finite' (unsigned_abs x))
    rw [Decimal.shortest_toFloat .upper finite' (unsigned_abs x)] at value
    have decimal : Scalar.isFinite w.decimal.toFloat = true := by rwa [value]
    have reads := PointedWord.wordValue?_text decimal
    have turned := PointedWord.wordValue?_minus decimal
    rw [value, text] at reads turned
    exact ⟨reads, turned⟩
  | false =>
    rw [abs_of_infinite number finite, if_neg Bool.false_ne_true]
    exact wordValue?_inf

theorem isWordMark_of_isMark {c : Char} (mark : isMark c = true) : isWordMark c = true := by
  rcases Bool.or_eq_true _ _ |>.mp mark with digit | point
  · simp [isWordMark, Char.isAlphanum, digit]
  · rw [beq_iff_eq.mp point]
    rfl

theorem isWordMark_magnitudeText : ∀ c ∈ (magnitudeText x).toList, isWordMark c = true := by
  unfold magnitudeText
  cases finite : x.isFinite with
  | true =>
    have finite' : Scalar.isFinite (Scalar.abs x) = true := (denotes_value finite).abs.finite
    obtain ⟨w, text, -⟩ := exists_pointed (reduced_shortest finite' (unsigned_abs x))
    intro c mem
    exact isWordMark_of_isMark (w.isMark_text c (text ▸ mem))
  | false =>
    rw [if_neg Bool.false_ne_true]
    exact List.all_eq_true.mp rfl

theorem isWordMark_write (number : x.isNaN = false) :
    ∀ c ∈ (settings.write x).toList, isWordMark c = true := by
  rw [write_settings number, String.toList_append]
  refine List.forall_mem_append.mpr ⟨?_, isWordMark_magnitudeText⟩
  split <;> exact List.all_eq_true.mp rfl

/-- A number of a document reads back, with its sign and also when it is infinite. -/
theorem wordValue?_write (number : x.isNaN = false) :
    wordValue? (settings.write x).toList = some (.float x) := by
  have parts : x.toModel.unpack ≠ .notANumber := by
    intro undefined
    have defined : x.toModel.unpack.isNaN = false := number
    rw [undefined] at defined
    cases defined
  obtain ⟨reads, turned⟩ := wordValue?_magnitudeText parts
  have sign := ofFloat_negative_iff parts
  rw [write_settings number]
  by_cases unsigned : Unsigned x.toModel.unpack
  · have positive : (Binary64.ofFloat x).negative = false :=
      Bool.eq_false_iff.mpr fun negative => sign.mp negative unsigned
    rw [abs_of_unsigned unsigned] at reads
    simpa [positive] using reads
  · rw [neg_abs_of_signed unsigned] at turned
    simpa [sign.mpr unsigned] using turned

end Written

namespace Value.Plain

variable {v : Value}

theorem toList_natural (n : Nat) : (Value.integer n).scalarText.toList = Nat.toDigits 10 n :=
  Nat.toList_repr

theorem isWordMark (plain : v.Plain) : ∀ c ∈ v.scalarText.toList, isWordMark c = true := by
  cases plain with
  | natural fits =>
    rw [toList_natural]
    exact fun c mem => isWordMark_of_isMark (isMark_of_isDigit (isDigit_of_mem_toDigits c mem))
  | float number => exact isWordMark_write number
  | boolean b => cases b <;> exact List.all_eq_true.mp rfl

/-- The text of a value reads back. -/
theorem wordValue? (plain : v.Plain) : wordValue? v.scalarText.toList = some v := by
  cases plain with
  | natural fits =>
    rw [toList_natural]
    exact wordValue?_natural fits
  | float number => exact wordValue?_write number
  | boolean b => cases b <;> rfl

end Value.Plain

end WorkedAlgebra.Toml
