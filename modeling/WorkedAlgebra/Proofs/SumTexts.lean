import WorkedAlgebra.Proofs.NumberTexts
import WorkedAlgebra.Proofs.PlainBounds
import WorkedAlgebra.Proofs.PlainTexts

/-!
Sums as they are shown. An exact sum is a plain side with blanks around its inner signs, and
cleanup takes the blanks away again.
-/

namespace WorkedAlgebra

open Rounding Scalar Text

namespace PlainSide

def spacedRest (rest : List (TermSign × PlainTerm)) : List Char :=
  rest.flatMap fun st => ' ' :: st.1.char :: ' ' :: st.2.text

def spaced (side : PlainSide) : List Char :=
  leadText side.lead ++ side.first.text ++ spacedRest side.rest

theorem kept_of_mem_term (t : PlainTerm) : ∀ c ∈ t.text, Kept c := by
  intro c mem
  cases t with
  | number n => exact kept_of_isMark (n.isMark_of_mem c mem)
  | letter l =>
      rw [List.mem_singleton.mp mem]
      exact kept_of_isAlpha l.isAlpha
  | product n l =>
      rcases List.mem_append.mp mem with inMarks | inLetter
      · exact kept_of_isMark (n.isMark_of_mem c inMarks)
      · rw [List.mem_singleton.mp inLetter]
        exact kept_of_isAlpha l.isAlpha

theorem kept_of_mem_lead (lead : Option TermSign) : ∀ c ∈ leadText lead, Kept c := by
  intro c mem
  cases lead with
  | none => cases mem
  | some s =>
      rw [List.mem_singleton.mp mem]
      exact kept_of_isSign s.isSign_char

theorem tidy_blank : Tidy ' ' := tidy_of_ascii (by decide) (by decide) (by decide)

theorem tidy_of_mem_spacedRest (rest : List (TermSign × PlainTerm)) :
    ∀ c ∈ spacedRest rest, Tidy c := by
  intro c mem
  obtain ⟨⟨s, t⟩, -, inTerm⟩ := List.mem_flatMap.mp mem
  simp only [List.mem_cons] at inTerm
  rcases inTerm with rfl | rfl | rfl | inText
  · exact tidy_blank
  · exact (kept_of_isSign s.isSign_char).toTidy
  · exact tidy_blank
  · exact (kept_of_mem_term t c inText).toTidy

theorem filter_of_kept {cs : List Char} (kept : ∀ c ∈ cs, Kept c) :
    (cs.filter fun c => !isBlank c) = cs :=
  List.filter_eq_self.mpr fun c mem => by rw [(kept c mem).notBlank]; rfl

theorem filter_spacedRest (rest : List (TermSign × PlainTerm)) :
    ((spacedRest rest).filter fun c => !isBlank c) = restText rest := by
  induction rest with
  | nil => rfl
  | cons st rest ih =>
      have sign : isBlank st.1.char = false := (kept_of_isSign st.1.isSign_char).notBlank
      have blank : isBlank ' ' = true := rfl
      change ((' ' :: st.1.char :: ' ' :: st.2.text ++ spacedRest rest).filter _) =
        st.1.char :: st.2.text ++ restText rest
      rw [List.filter_append, ih]
      simp [blank, sign, filter_of_kept (kept_of_mem_term st.2)]

/-- Cleanup takes the blanks of a plain side away, and nothing else. -/
theorem normalize_spaced [Unicode.Form] (side : PlainSide) : normalize side.spaced = side.text := by
  have tidy : ∀ c ∈ side.spaced, Tidy c := by
    intro c mem
    rcases List.mem_append.mp mem with inFirst | inRest
    · rcases List.mem_append.mp inFirst with inLead | inTerm
      · exact (kept_of_mem_lead side.lead c inLead).toTidy
      · exact (kept_of_mem_term side.first c inTerm).toTidy
    · exact tidy_of_mem_spacedRest side.rest c inRest
  rw [normalize_of_tidy tidy, spaced, List.filter_append, List.filter_append, filter_spacedRest,
    filter_of_kept (kept_of_mem_lead _), filter_of_kept (kept_of_mem_term _), text]

end PlainSide

namespace Term

section Joining

variable {α : Type} [Printable α]

/-- Joining appends every term behind its sign. -/
theorem toList_foldl (write : Term α → String) (rest : List (Term α)) (text : String) :
    (rest.foldl (fun text term =>
        text ++ (if isNegative term.coefficient then " - " else " + ") ++ write term) text).toList =
      text.toList ++ rest.flatMap fun term =>
        ' ' :: (if isNegative term.coefficient then '-' else '+') :: ' ' :: (write term).toList := by
  induction rest generalizing text with
  | nil => simp
  | cons term rest ih =>
      rw [List.foldl_cons, ih, List.flatMap_cons, ← List.append_assoc]
      congr 1
      split <;> simp

end Joining

/-- A term and the plain term that its magnitude is written as. -/
structure Shown where
  term : Term Float
  plain : PlainTerm
  text : plain.text = (term.magnitudeText fullPrecision).toList

def Shown.side (first : Shown) (rest : List Shown) : PlainSide where
  lead := leadSign first.term.coefficient
  first := first.plain
  rest := rest.map fun s => (joinSign s.term.coefficient, s.plain)

theorem toList_joinWith (first : Shown) (rest : List Shown) :
    (joinWith (magnitudeText fullPrecision) (first.term :: rest.map Shown.term)).toList =
      (Shown.side first rest).spaced := by
  rw [joinWith, toList_foldl, PlainSide.spaced]
  congr 1
  · rw [String.toList_append, ← first.text, Shown.side, leadSign]
    split <;> rfl
  · rw [PlainSide.spacedRest, Shown.side, List.flatMap_map, List.flatMap_map]
    congr 1
    funext s
    rw [← s.text, joinSign]
    split <;> rfl

/-- A magnitude with a letter is a plain term, in which the letter has it as its coefficient. -/
theorem exists_letter {c : Float} (finite : isFinite c = true) {letter : Char}
    (alpha : letter.isAlpha = true) :
    ∃ p : PlainTerm, p.text = (magnitudeText fullPrecision ⟨c, some letter⟩).toList ∧
      p.coefficient? letter = some (Scalar.abs c) ∧
        ∀ lead, IsZeroWord (p.value (fun _ => zero) lead) := by
  have magnitude := (denotes_value finite).abs
  have same : LinearForm.isLetter letter letter = true := beq_self_eq_true _
  have notMinus : eq (Scalar.abs c) (-one) = false := by
    rw [magnitude.eq_eq denotes_one.neg, decide_eq_false_iff_not]
    have := abs_nonneg (floatValue c)
    intro negative
    linarith
  cases isOne : eq (Scalar.abs c) one with
  | true =>
      have unit : Scalar.abs c = one :=
        eq_of_unsigned denotes_one.finite (unsigned_ofDecimal 1 0) (unsigned_abs c) isOne
      refine ⟨.letter ⟨letter, alpha⟩, ?_, ?_, isZeroWord_zero.signed⟩
      · simp [magnitudeText, termText, isOne, PlainTerm.text, toString]
      · rw [PlainTerm.coefficient?, if_pos same, unit]
  | false =>
      obtain ⟨n, marks, reads⟩ := numberText_written magnitude.finite (unsigned_abs c)
      refine ⟨.product n ⟨letter, alpha⟩, ?_, ?_, fun lead => ?_⟩
      · simp [magnitudeText, termText, isOne, notMinus, PlainTerm.text, marks, toString]
      · rw [PlainTerm.coefficient?, if_pos same, reads]
      · have literal : isFinite (n.scalar : Float) = true := reads ▸ magnitude.finite
        exact isZeroWord_mul ((denotes_value literal).signed lead).finite isZeroWord_zero

/-- A magnitude without letter is a numeral. -/
theorem exists_number {c : Float} (finite : isFinite c = true) :
    ∃ n : Written, n.marks = (magnitudeText fullPrecision ⟨c, none⟩).toList ∧
      n.scalar = Scalar.abs c :=
  numberText_written (denotes_value finite).abs.finite (unsigned_abs c)

end Term

end WorkedAlgebra
