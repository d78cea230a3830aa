import WorkedAlgebra.Proofs.PlainEquations
import WorkedAlgebra.Proofs.SumTexts

/-!
Linear forms are read back from their text. Every form is written as a plain side; reading adds the
coefficient and the constant to zeros, which changes neither of them.
-/

namespace WorkedAlgebra

open Rounding Scalar

namespace LinearForm

variable {form : LinearForm Float} {letter : Char}

structure WrittenAs (letter : Char) (form : LinearForm Float) (side : PlainSide) : Prop where
  text : (form.text letter).toList = side.spaced
  coefficient : eq (side.coefficient letter) form.coefficient = true
  constant : eq (side.value fun _ => (zero : Float)) form.constant = true

theorem eq_of_isZero {x z : Float} (finite : isFinite x = true) (isZero : isZero x = true)
    (h : IsZeroWord z) : eq z x = true := by
  rw [isZero_eq (denotes_value finite), decide_eq_true_iff] at isZero
  exact (h.denotes.eq_eq ⟨finite, isZero⟩).trans (decide_eq_true rfl)

theorem signed_leadSign_abs {x : Float} (finite : isFinite x = true) (nonzero : isZero x = false) :
    signed (leadSign x) (Scalar.abs x) = x :=
  (signed_leadSign x _).trans (signed_abs finite nonzero)

/-- Adding the coefficient that a term is read with to nothing. -/
theorem addTo_zero {x : Float} {p : PlainTerm} (finite : isFinite x = true)
    (nonzero : isZero x = false) (reads : p.coefficient? letter = some (Scalar.abs x)) :
    p.addTo letter zero (leadSign x) = x := by
  rw [PlainTerm.addTo, reads]
  exact (congrArg (zero + ·) (signed_leadSign_abs finite nonzero)).trans
    (isZeroWord_zero.add finite nonzero)

section Cases

variable (finite : isFinite form.coefficient = true) (finite' : isFinite form.constant = true)
  (alpha : letter.isAlpha = true)

include finite finite'

theorem written_zero (zero : isZero form.coefficient = true) (zero' : isZero form.constant = true) :
    WrittenAs letter form PlainSide.zero where
  text := by
    simp [LinearForm.text, Term.sumText, Term.shown, Term.joinWith, zero, zero']
    rfl
  coefficient := eq_of_isZero finite zero isZeroWord_zero
  constant := eq_of_isZero finite' zero' isZeroWord_zero

theorem written_constant (zero : isZero form.coefficient = true)
    (nonzero : isZero form.constant = false) : ∃ side, WrittenAs letter form side := by
  obtain ⟨n, marks, reads⟩ := Term.exists_number finite'
  have value : signed (leadSign form.constant) n.scalar = form.constant := by
    rw [reads, signed_leadSign_abs finite' nonzero]
  refine ⟨Term.Shown.side ⟨⟨form.constant, none⟩, .number n, marks⟩ [], ?_⟩
  constructor
  case text =>
    rw [← Term.toList_joinWith]
    simp [LinearForm.text, Term.sumText, Term.shown, zero, nonzero]
  case coefficient => exact eq_of_isZero finite zero isZeroWord_zero
  case constant =>
    change eq (signed (leadSign form.constant) n.scalar) form.constant = true
    rw [value]
    exact eq_self finite'

include alpha

theorem written_coefficient (nonzero : isZero form.coefficient = false)
    (zero' : isZero form.constant = true) : ∃ side, WrittenAs letter form side := by
  obtain ⟨p, text, reads, vanishes⟩ := Term.exists_letter finite alpha
  refine ⟨Term.Shown.side ⟨⟨form.coefficient, some letter⟩, p, text⟩ [], ?_⟩
  constructor
  case text =>
    rw [← Term.toList_joinWith]
    simp [LinearForm.text, Term.sumText, Term.shown, zero', nonzero]
  case coefficient =>
    change eq (p.addTo letter zero (leadSign form.coefficient)) form.coefficient = true
    rw [addTo_zero finite nonzero reads]
    exact eq_self finite
  case constant => exact eq_of_isZero finite' zero' (vanishes _)

theorem written_both (nonzero : isZero form.coefficient = false)
    (nonzero' : isZero form.constant = false) : ∃ side, WrittenAs letter form side := by
  obtain ⟨p, text, reads, vanishes⟩ := Term.exists_letter finite alpha
  obtain ⟨n, marks, reads'⟩ := Term.exists_number finite'
  have value : (joinSign form.constant).join
      (p.value (fun _ => zero) (leadSign form.coefficient)) n.scalar = form.constant := by
    rw [reads', (vanishes _).join finite' nonzero']
  refine ⟨Term.Shown.side ⟨⟨form.coefficient, some letter⟩, p, text⟩
    [⟨⟨form.constant, none⟩, .number n, marks⟩], ?_⟩
  constructor
  case text =>
    rw [← Term.toList_joinWith]
    simp [LinearForm.text, Term.sumText, Term.shown, nonzero, nonzero']
  case coefficient =>
    change eq (p.addTo letter zero (leadSign form.coefficient)) form.coefficient = true
    rw [addTo_zero finite nonzero reads]
    exact eq_self finite
  case constant =>
    change eq ((joinSign form.constant).join (p.value (fun _ => zero) (leadSign form.coefficient))
      n.scalar) form.constant = true
    rw [value]
    exact eq_self finite'

end Cases

/-- Every finite form is written as a plain side that says the same. -/
theorem exists_writtenAs (finite : isFinite form.coefficient = true)
    (finite' : isFinite form.constant = true) (alpha : letter.isAlpha = true) :
    ∃ side, WrittenAs letter form side := by
  cases coefficient : isZero form.coefficient <;> cases constant : isZero form.constant
  · exact written_both finite finite' alpha coefficient constant
  · exact written_coefficient finite finite' alpha coefficient constant
  · exact written_constant finite finite' coefficient constant
  · exact ⟨_, written_zero finite finite' coefficient constant⟩

/-- A form with finite numbers is read back from its text: the text is a linear form for the letter
it was written with, and both numbers are equal to those of the form. -/
theorem ofText_text [Unicode.Form] (finite : isFinite form.coefficient = true)
    (finite' : isFinite form.constant = true) (alpha : letter.isAlpha = true) :
    ∃ read : LinearForm Float, ofText letter (form.text letter).toList = .ok read ∧
      eq read.coefficient form.coefficient = true ∧ eq read.constant form.constant = true := by
  obtain ⟨side, written⟩ := exists_writtenAs finite finite' alpha
  refine ⟨⟨side.coefficient letter, side.value fun _ => zero⟩, ?_, written.coefficient,
    written.constant⟩
  rw [ofText, written.text, side.normalize_spaced]
  exact decompose_plain alpha 0 (finite_of_eq finite' written.constant)

theorem ofText_text_signed :
    ∃ read : LinearForm Float, ofText 'X' "-4.5X + 0.1".toList = .ok read ∧
      eq read.coefficient (-ofDecimal 45 1) = true ∧
        eq read.constant (ofDecimal 1 1) = true := by
  have text : (⟨-ofDecimal 45 1, ofDecimal 1 1⟩ : LinearForm Float).text 'X' = "-4.5X + 0.1" := by
    decide +kernel
  rw [← text]
  exact ofText_text (by decide +kernel) (by decide +kernel) (by decide)

end LinearForm

end WorkedAlgebra
