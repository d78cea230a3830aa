import WorkedAlgebra.Proofs.Renaming.Texts
import WorkedAlgebra.Proofs.Summands

/-!
Sums of terms mean what they were built from. Shown exactly, every term is a summand worth its
coefficient times the value of its letter, and dividing every term on its own divides that. Reading
the text back therefore computes the same sum in the same order; only the sign of a zero may differ,
since a sum that starts with its first term was not added to zero.
-/

namespace WorkedAlgebra

open Rounding Float.Model Scalar Text

section Units

open Float.Model.UnpackedFloat

variable {x : Float}

theorem one_parts :
    (one : Float).toModel.unpack = .finite .positive (2 ^ 52) (-52) (Nat.two_pow_pos 52) := rfl

/-- Multiplying by one rounds nothing. -/
theorem one_mul_parts {m : Nat} {e : Int} (positive : 0 < m) (canonical : Canonical m e) :
    UnpackedFloat.mul Format.binary64 (.finite .positive (2 ^ 52) (-52) (Nat.two_pow_pos 52))
      (.finite .positive m e positive) = .finite .positive m e positive := by
  have enough : -52 + e ≤ step (2 ^ 52 * m) (-52 + e) := by
    have digits : (2 ^ 52 * m).log2 = m.log2 + 52 := by
      rw [Nat.mul_comm, ← Nat.shiftLeft_eq, log2_shiftLeft positive]
    rw [step_eq, digits]
    push_cast
    omega
  have rounds := RoundsTo.roundWithAccuracy (describes_exact (2 ^ 52 * m)) enough
  have value : ((2 ^ 52 * m : Nat) : ℚ) * 2 ^ (-52 + e) = m * 2 ^ e := by
    rw [two_zpow_add]
    push_cast
    have inverse : (2 : ℚ) ^ 52 * 2 ^ (-52 : Int) = 1 := by norm_num
    linear_combination (m : ℚ) * 2 ^ e * inverse
  rw [value] at rounds
  have power := two_zpow_pos e
  exact rounds.of_near canonical (by simpa using power) fun _ => by simpa using power

theorem one_mul_word (x : Float) : one * x = x := by
  have word {u : UnpackedFloat} (parts : x.toModel.unpack = u)
      (product : UnpackedFloat.mul Format.binary64 (one : Float).toModel.unpack u = u) :
      one * x = x := by
    rw [← parts] at product
    exact eq_of_parts product
  cases parts : x.toModel.unpack with
  | notANumber => exact word parts rfl
  | zero s | infinity s => exact word parts (by rw [one_parts]; cases s <;> rfl)
  | finite s m e positive =>
      have finite : x.toModel.isFinite = true := by
        rw [Float.Model.isFinite, parts]
        rfl
      have canonical : Canonical m e := by
        have stored := storable_unpack finite
        rwa [parts] at stored
      have product := one_mul_parts positive canonical
      refine word parts ?_
      rw [one_parts]
      cases s with
      | positive => exact product
      | negative =>
          rw [mul_comm_parts] at product ⊢
          exact (mul_neg_parts _ _).trans (congrArg UnpackedFloat.neg product)

end Units

section Operands

variable {x : Float}

theorem add_zero_of_nonzero (finite : isFinite x = true) (nonzero : isZero x = false) :
    x + zero = x := by
  rw [add_comm_word, isZeroWord_zero.add finite nonzero]

/-- A negative number is shown as its magnitude behind a minus sign. -/
theorem numberText_negative (finite : isFinite x = true) (nonzero : isZero x = false)
    (negative : isNegative x = true) :
    numberText fullPrecision x = "-" ++ numberText fullPrecision (Scalar.abs x) := by
  obtain ⟨s, m, e, positive, parts⟩ := exists_significand finite nonzero
  have sign : (Binary64.ofFloat x).negative = true := by
    cases s with
    | negative =>
        refine (ofFloat_negative_iff fun undefined => ?_).mpr fun unsigned => ?_
        · rw [parts] at undefined
          cases undefined
        · rw [parts] at unsigned
          cases unsigned
    | positive =>
        rw [isNegative_eq finite, decide_eq_true_iff, floatValue, parts, partsValue_positive]
          at negative
        exact (negative.not_gt (size_pos positive e)).elim
  have magnitude := (denotes_value finite).abs.finite
  have whole : numberText fullPrecision x = Layout.plain.write (x + zero) := by
    simp [numberText, finite, Printable.text]
  have part : numberText fullPrecision (Scalar.abs x) =
      Layout.plain.write (Scalar.abs x + zero) := by
    simp [numberText, magnitude, Printable.text]
  have finite' : x.isFinite = true := finite
  rw [whole, part, add_zero_of_nonzero finite nonzero, add_zero_word magnitude (unsigned_abs x),
    write_plain magnitude (unsigned_abs x)]
  simp only [Layout.write, Layout.plain, isNaN_of_isFinite finite, finite', sign, Bool.or_true,
    Bool.not_true, Bool.false_eq_true, if_false, if_true]
  rfl

/-- A number that is not zero stands as an operand. -/
theorem exists_divisor (finite : isFinite x = true) (nonzero : isZero x = false) :
    ∃ d : Divisor, d.text = (operandText fullPrecision x).toList ∧ d.value = x := by
  obtain ⟨n, marks, reads⟩ :=
    numberText_written (denotes_value finite).abs.finite (unsigned_abs x)
  have whole := signed_abs finite nonzero
  unfold joinSign at whole
  cases negative : isNegative x with
  | true =>
      rw [negative, if_pos rfl] at whole
      refine ⟨⟨true, n⟩, ?_, ?_⟩
      · rw [operandText, numberText_negative finite nonzero negative]
        simp [Divisor.text, marks, toString]
      · exact (congrArg (- ·) reads).trans whole
  | false =>
      rw [negative, if_neg Bool.false_ne_true] at whole
      have same : Scalar.abs x = x := whole
      rw [same] at marks reads
      have unsigned : ((numberText fullPrecision x).toList.head? == some '-') = false := by
        rw [← marks, beq_eq_false_iff_ne]
        intro first
        have mark := n.isMark_of_mem '-' (List.mem_of_mem_head? first)
        cases mark
      refine ⟨⟨false, n⟩, ?_, reads⟩
      simp [operandText, unsigned, Divisor.text, marks]

end Operands

section Terms

/-- From full precision on all numbers are shown exactly. -/
theorem numberText_exact {places : Nat} (full : fullPrecision ≤ places) :
    (numberText places : Float → String) = numberText fullPrecision := by
  funext x
  simp [numberText, full]

def Term.value (at_ : Char → Float) (term : Term Float) : Float :=
  match term.letter with
  | some letter => term.coefficient * at_ letter
  | none => term.coefficient

variable {b : Bindings Float} {at_ : Char → Float}

theorem signed_mul (lead : Option TermSign) (x y : Float) :
    signed lead (x * y) = signed lead x * y := by
  cases lead with
  | none => rfl
  | some s =>
    cases s with
    | plus => rfl
    | minus => exact (signLaws_float.neg_mul x y).symm

theorem signed_div (lead : Option TermSign) (x y : Float) :
    signed lead (x / y) = signed lead x / y := by
  cases lead with
  | none => rfl
  | some s =>
    cases s with
    | plus => rfl
    | minus => exact (signLaws_float.neg_div x y).symm

section Letters

variable {p : PlainTerm} {letter : Char} {c : Float}

theorem toLower_of_isLetter {d : Char} (lower : letter.isLower = true)
    (same : LinearForm.isLetter letter d = true) : d.toLower = letter :=
  (eq_of_beq same).trans (toLower_of_isLower lower)

/-- A term in which a letter has a coefficient is that coefficient times the letter. -/
theorem value_of_coefficient (lower : letter.isLower = true)
    (reads : p.coefficient? letter = some c) (lead : Option TermSign) :
    p.value at_ lead = signed lead (c * at_ letter) := by
  unfold PlainTerm.coefficient? at reads
  split at reads
  · cases reads
  · rename_i l
    split at reads
    · rename_i same
      obtain rfl := Option.some.inj reads
      rw [PlainTerm.value, Letter.name, toLower_of_isLetter lower same, one_mul_word]
    · cases reads
  · rename_i n l
    split at reads
    · rename_i same
      obtain rfl := Option.some.inj reads
      rw [PlainTerm.value, Letter.name, toLower_of_isLetter lower same, signed_mul]
    · cases reads

/-- No other letter occurs in it. -/
theorem letters_of_coefficient (lower : letter.isLower = true)
    (reads : p.coefficient? letter = some c) : ∀ d ∈ lettersOf p.text, d = letter := by
  intro d mem
  obtain ⟨e, inText, alpha, rfl⟩ := mem_lettersOf.mp mem
  unfold PlainTerm.coefficient? at reads
  split at reads
  · cases reads
  · rename_i l
    obtain rfl : e = l.written := List.mem_singleton.mp inText
    split at reads
    · exact toLower_of_isLetter lower ‹_›
    · cases reads
  · rename_i n l
    rcases List.mem_append.mp inText with inMarks | inLetter
    · rw [not_isAlpha_of_isMark (n.isMark_of_mem e inMarks)] at alpha
      cases alpha
    · obtain rfl : e = l.written := List.mem_singleton.mp inLetter
      split at reads
      · exact toLower_of_isLetter lower ‹_›
      · cases reads

end Letters

/-- A term that is not zero is shown as a summand. -/
theorem Term.exists_summand {term : Term Float} (finite : isFinite term.coefficient = true)
    (nonzero : isZero term.coefficient = false)
    (lower : ∀ letter ∈ term.letter, letter.isLower = true)
    (bound : ∀ letter ∈ term.letter, b letter = some (at_ letter)) :
    ∃ s : Summand b, s.shown = (term.magnitudeText fullPrecision).toList ∧
      signed (some (joinSign term.coefficient)) s.value = term.value at_ := by
  obtain ⟨c, letter⟩ := term
  have whole : signed (some (joinSign c)) (Scalar.abs c) = c := signed_abs finite nonzero
  cases letter with
  | none =>
      obtain ⟨n, marks, reads⟩ := exists_number finite
      have noLetters : ∀ d ∈ lettersOf n.marks, b d = some (at_ d) := by
        intro d mem
        obtain ⟨e, inMarks, alpha, -⟩ := mem_lettersOf.mp mem
        rw [not_isAlpha_of_isMark (n.isMark_of_mem e inMarks)] at alpha
        cases alpha
      refine ⟨.ofTerm (.number n) noLetters fun lead => rfl, marks, ?_⟩
      exact (congrArg (signed (some (joinSign c))) reads).trans whole
  | some letter =>
      have isLower := lower letter rfl
      obtain ⟨p, text, reads, -⟩ := exists_letter finite (isAlpha_of_isLower isLower)
      have bound' : ∀ d ∈ lettersOf p.text, b d = some (at_ d) := by
        intro d mem
        rw [letters_of_coefficient isLower reads d mem]
        exact bound letter rfl
      refine ⟨.ofTerm p bound' fun lead => value_of_coefficient isLower reads lead, text, ?_⟩
      exact (signed_mul _ _ _).trans (congrArg (· * at_ letter) whole)

end Terms

section Joining

variable {b : Bindings Float} {write : Term Float → String} {worth : Term Float → Float}

def Shows (b : Bindings Float) (write : Term Float → String) (worth : Term Float → Float)
    (term : Term Float) : Prop :=
  ∃ s : Summand b, s.shown = (write term).toList ∧
    signed (some (joinSign term.coefficient)) s.value = worth term

theorem char_joinSign (x : Float) : (joinSign x).char = if isNegative x then '-' else '+' := by
  unfold joinSign
  split <;> rfl

theorem leadText_leadSign (x : Float) :
    PlainSide.leadText (leadSign x) = (if isNegative x then "-" else "").toList := by
  unfold leadSign
  split <;> rfl

/-- The terms behind the first one. -/
theorem exists_rest {rest : List (Term Float)}
    (shows : ∀ term ∈ rest, Shows b write worth term) :
    ∃ summands : List (TermSign × Summand b),
      Chain.restShown summands = (rest.flatMap fun term =>
        ' ' :: (if isNegative term.coefficient then '-' else '+') :: ' ' :: (write term).toList) ∧
      ∀ v, summands.foldl (fun v st => st.1.join v st.2.value) v =
        (rest.map worth).foldl (· + ·) v := by
  induction rest with
  | nil => exact ⟨[], rfl, fun v => rfl⟩
  | cons term rest ih =>
      obtain ⟨⟨s, text, value⟩, later⟩ := List.forall_mem_cons.mp shows
      obtain ⟨summands, shown, sum⟩ := ih later
      refine ⟨(joinSign term.coefficient, s) :: summands, ?_, fun v => ?_⟩
      · rw [Chain.restShown, List.flatMap_cons, List.flatMap_cons, ← shown, char_joinSign, text]
        rfl
      · rw [List.foldl_cons, sum, List.map_cons, List.foldl_cons, TermSign.join_eq_add, value]

theorem Alike.foldl {u v : Float} (alike : Alike u v) (xs : List Float) :
    Alike (xs.foldl (· + ·) u) (xs.foldl (· + ·) v) := by
  induction xs generalizing u v with
  | nil => exact alike
  | cons x xs ih => exact ih (alike.add_right x)

/-- Joined terms read back as an expression that is worth their sum. -/
theorem evaluate_joinWith [Unicode.Form] {terms : List (Term Float)}
    (shows : ∀ term ∈ terms, Shows b write worth term) (offset : Nat) :
    ∃ (e : Expr Float) (v : Float),
      Expr.ofSide offset (normalize (Term.joinWith write terms).toList) = .ok e ∧
        e.evaluate b = .ok v ∧ Alike v (sumOf (terms.map worth)) := by
  cases terms with
  | nil =>
      have shown : (Term.joinWith write []).toList = PlainSide.zero.spaced := by
        simp [Term.joinWith]
        rfl
      have text := PlainSide.zero.normalize_spaced
      rw [← shown] at text
      exact ⟨_, zero, text ▸ PlainSide.zero.ofSide_text offset, rfl, .inl rfl⟩
  | cons first rest =>
      obtain ⟨⟨s, text, value⟩, later⟩ := List.forall_mem_cons.mp shows
      obtain ⟨summands, shown, sum⟩ := exists_rest later
      let chain : Chain b := ⟨leadSign first.coefficient, s, summands⟩
      have written : chain.shown = (Term.joinWith write (first :: rest)).toList := by
        rw [Term.joinWith, Term.toList_foldl, String.toList_append, ← shown, ← text,
          ← leadText_leadSign]
        rfl
      have worths : chain.value = (rest.map worth).foldl (· + ·) (worth first) := by
        rw [← sum, ← value, ← signed_leadSign]
        rfl
      obtain ⟨e, parsed, evaluated⟩ := chain.evaluate_shown offset
      refine ⟨e, chain.value, written ▸ parsed, evaluated, ?_⟩
      rw [worths]
      exact (isZeroWord_zero.add_alike (worth first)).symm.foldl _

end Joining

/-- The same number; zeros of either sign are the same, and so are undefined values. -/
def SameNumber (x y : Float) : Prop := Scalar.eq x y = true ∨ x.isNaN = true ∧ y.isNaN = true

theorem Alike.sameNumber {x y : Float} (alike : Alike x y) : SameNumber x y := by
  rcases alike with rfl | ⟨zeroX, zeroY⟩
  · by_cases number : x.toModel.unpack = .notANumber
    · have undefined : x.isNaN = true := by
        change x.toModel.unpack.isNaN = true
        rw [number]
        rfl
      exact .inr ⟨undefined, undefined⟩
    · exact .inl (eq_self_of_number number)
  · exact .inl (eq_of_zeros zeroX zeroY)

section Meaning

variable {b : Bindings Float} {at_ : Char → Float} {terms : List (Term Float)} {places : Nat}

theorem Shows.dividedBy {write : Term Float → String} {worth : Term Float → Float}
    {term : Term Float} (shows : Shows b write worth term) {d : Divisor} {x : Float}
    (text : d.text = (operandText fullPrecision x).toList) (value : d.value = x) :
    Shows b (fun term => s!"{write term} / {operandText fullPrecision x}")
      (fun term => worth term / x) term := by
  obtain ⟨s, shown, signedValue⟩ := shows
  refine ⟨s.dividedBy d, ?_, ?_⟩
  · simp [Summand.dividedBy, shown, text, toString]
  · change _ = worth term / x
    rw [← signedValue, ← value]
    exact signed_div _ _ _

/-- Sums of terms mean what they were built from. With finite coefficients, lower-case letters and
at least full precision, the text of a sum reads back as an expression that is worth the sum of the
terms which are not zero, in their order and with the letters at any values; and the text of the sum
with every term divided by a number other than zero is worth the sum of the quotients. -/
theorem sumText_meaning [Unicode.Form] (finite : ∀ term ∈ terms, isFinite term.coefficient = true)
    (lower : ∀ term ∈ terms, ∀ letter ∈ term.letter, letter.isLower = true)
    (bound : ∀ term ∈ terms, ∀ letter ∈ term.letter, b letter = some (at_ letter))
    (full : 17 ≤ places) (offset : Nat) :
    (∃ (e : Expr Float) (v : Float),
      Expr.ofSide offset (normalize (Term.sumText places terms).toList) = .ok e ∧
        e.evaluate b = .ok v ∧
          SameNumber v (sumOf ((terms.filter fun term => !isZero term.coefficient).map
            (Term.value at_)))) ∧
      ∀ divisor : Float, isFinite divisor = true → isZero divisor = false →
        ∃ (e : Expr Float) (v : Float),
          Expr.ofSide offset (normalize (Term.quotientText places divisor terms).toList) = .ok e ∧
            e.evaluate b = .ok v ∧
              SameNumber v (sumOf ((terms.filter fun term => !isZero term.coefficient).map
                fun term => term.value at_ / divisor)) := by
  have exact : (numberText places : Float → String) = numberText fullPrecision :=
    numberText_exact full
  have magnitude : (Term.magnitudeText places : Term Float → String) =
      Term.magnitudeText fullPrecision := by
    funext term
    simp only [Term.magnitudeText, termText, exact]
  have operand : (operandText places : Float → String) = operandText fullPrecision := by
    funext x
    simp only [operandText, exact]
  have shows : ∀ term ∈ Term.shown terms,
      Shows b (Term.magnitudeText fullPrecision) (Term.value at_) term := by
    intro term mem
    obtain ⟨inTerms, nonzero⟩ := List.mem_filter.mp mem
    exact term.exists_summand (finite term inTerms) (by simpa using nonzero) (lower term inTerms)
      (bound term inTerms)
  constructor
  · obtain ⟨e, v, parsed, evaluated, alike⟩ := evaluate_joinWith shows offset
    exact ⟨e, v, by rwa [Term.sumText, magnitude], evaluated, alike.sameNumber⟩
  · intro divisor finite' nonzero
    obtain ⟨d, text, value⟩ := exists_divisor finite' nonzero
    obtain ⟨e, v, parsed, evaluated, alike⟩ :=
      evaluate_joinWith (fun term mem => (shows term mem).dividedBy text value) offset
    exact ⟨e, v, by rwa [Term.quotientText, magnitude, operand], evaluated, alike.sameNumber⟩

/-- `3x - y - 0.5` with a term that vanishes. -/
def mixedTerms : List (Term Float) :=
  [⟨ofDecimal 3 0, some 'x'⟩, ⟨zero, some 'z'⟩, ⟨-one, some 'y'⟩, ⟨-ofDecimal 5 1, none⟩]

/-- Four for `x` and one and a half for any other letter. -/
def mixedValues (c : Char) : Float := if c = 'x' then ofDecimal 4 0 else ofDecimal 15 1

/-- At `x = 4` and `y = 1.5` the sum is ten; divided by minus four it is minus two and a half. -/
theorem sumText_meaning_mixed :
    (∀ term ∈ mixedTerms, isFinite term.coefficient = true) ∧
      (∀ term ∈ mixedTerms, ∀ letter ∈ term.letter, letter.isLower = true) ∧
      (∃ (e : Expr Float) (v : Float),
        Expr.ofSide 0 (normalize "3x - y - 0.5".toList) = .ok e ∧
          e.evaluate (fun c => some (mixedValues c)) = .ok v ∧
            SameNumber v (ofDecimal 10 0)) ∧
      ∃ (e : Expr Float) (v : Float),
        Expr.ofSide 0 (normalize "3x / (-4) - y / (-4) - 0.5 / (-4)".toList) = .ok e ∧
          e.evaluate (fun c => some (mixedValues c)) = .ok v ∧
            SameNumber v (-ofDecimal 25 1) := by
  have finite : ∀ term ∈ mixedTerms, isFinite term.coefficient = true := by decide +kernel
  have lower : ∀ term ∈ mixedTerms, ∀ letter ∈ term.letter, letter.isLower = true := by
    simp [mixedTerms, Char.isLower]
  have texts : Term.sumText 17 mixedTerms = "3x - y - 0.5" ∧
      Term.quotientText 17 (-ofDecimal 4 0) mixedTerms = "3x / (-4) - y / (-4) - 0.5 / (-4)" := by
    decide +kernel
  have letters : ∀ term ∈ mixedTerms, ∀ letter ∈ term.letter,
      (fun c => some (mixedValues c)) letter = some (mixedValues letter) := fun _ _ _ _ => rfl
  obtain ⟨sum, quotients⟩ := sumText_meaning finite lower letters (le_refl 17) 0
  have sums : sumOf ((mixedTerms.filter fun term => !isZero term.coefficient).map
      (Term.value mixedValues)) = ofDecimal 10 0 ∧
      sumOf ((mixedTerms.filter fun term => !isZero term.coefficient).map fun term =>
        term.value mixedValues / -ofDecimal 4 0) = -ofDecimal 25 1 := by
    decide +kernel
  have quotient := quotients (-ofDecimal 4 0) (by decide +kernel) (by decide +kernel)
  rw [texts.1, sums.1] at sum
  rw [texts.2, sums.2] at quotient
  exact ⟨finite, lower, sum, quotient⟩

end Meaning

end WorkedAlgebra
