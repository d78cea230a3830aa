import WorkedAlgebra.Proofs.PlainReadings
import WorkedAlgebra.Proofs.ShortestDecimals
import WorkedAlgebra.Terms

/-!
Numbers shown exactly. A number is its sign and its magnitude, and the text of the magnitude is a
numeral that reads back as it.
-/

namespace WorkedAlgebra

open Rounding Float.Model Scalar

section Magnitudes

variable {x y z : Float}

theorem unsigned_abs (x : Float) : Unsigned (Scalar.abs x).toModel.unpack := by
  refine Unsigned.unpack_pack (u := x.toModel.unpack.abs) ?_
  cases x.toModel.unpack <;> trivial

theorem abs_of_unsigned (unsigned : Unsigned x.toModel.unpack) : Scalar.abs x = x := by
  have parts : x.toModel.unpack.abs = x.toModel.unpack := by
    cases parts : x.toModel.unpack with
    | notANumber => rfl
    | zero s | infinity s | finite s m e positive =>
        rw [parts] at unsigned
        cases unsigned
        rfl
  exact eq_of_parts parts

/-- A number with a negative sign is its magnitude turned. -/
theorem neg_abs_of_signed (signed : ¬ Unsigned x.toModel.unpack) : -Scalar.abs x = x := by
  have turned : x.toModel.unpack.abs = x.toModel.unpack.neg := by
    cases parts : x.toModel.unpack with
    | notANumber =>
        rw [parts] at signed
        exact absurd trivial signed
    | zero s | infinity s | finite s m e positive =>
        rw [parts] at signed
        cases s with
        | positive => exact absurd rfl signed
        | negative => rfl
  have word : Scalar.abs x = -x :=
    congrArg (fun u => Float.ofModel (Float.Model.pack u)) turned
  rw [word, signLaws_float.neg_neg]

def joinSign (x : Float) : TermSign := if isNegative x then .minus else .plus

def leadSign (x : Float) : Option TermSign := if isNegative x then some .minus else none

theorem signed_leadSign (x v : Float) : signed (leadSign x) v = signed (some (joinSign x)) v := by
  unfold leadSign joinSign
  split <;> rfl

theorem isNegative_eq (finite : isFinite x = true) : isNegative x = decide (floatValue x < 0) :=
  (denotes_value finite).lt_eq denotes_zero

theorem exists_significand (finite : isFinite x = true) (nonzero : isZero x = false) :
    ∃ s m e positive, x.toModel.unpack = .finite s m e positive := by
  rw [isZero_eq (denotes_value finite), decide_eq_false_iff_not, floatValue] at nonzero
  refine (finite_parts finite).resolve_left ?_
  rintro ⟨s, parts⟩
  rw [parts] at nonzero
  exact nonzero rfl

/-- A number is its magnitude behind its sign. -/
theorem signed_abs (finite : isFinite x = true) (nonzero : isZero x = false) :
    signed (some (joinSign x)) (Scalar.abs x) = x := by
  obtain ⟨s, m, e, positive, parts⟩ := exists_significand finite nonzero
  have size := size_pos positive e
  unfold joinSign
  rw [isNegative_eq finite, floatValue, parts]
  cases s with
  | negative =>
      rw [partsValue_negative, decide_eq_true (neg_neg_of_pos size)]
      refine neg_abs_of_signed fun unsigned => ?_
      rw [parts] at unsigned
      cases unsigned
  | positive =>
      rw [partsValue_positive, decide_eq_false size.not_gt]
      refine abs_of_unsigned ?_
      rw [parts]
      rfl

theorem isZero_of_infinite {x : Float} (infinite : ¬ isFinite x = true) : isZero x = false :=
  Bool.eq_false_iff.mpr fun zero => infinite (finite_of_eq denotes_zero.finite zero)

theorem isZero_abs (x : Float) : isZero (Scalar.abs x) = isZero x := by
  by_cases finite : isFinite x = true
  · rw [isZero_eq (denotes_value finite).abs, isZero_eq (denotes_value finite)]
    exact decide_eq_decide.mpr abs_eq_zero
  · have infinite : ¬ isFinite (Scalar.abs x) = true := by
      intro finite'
      have parts : x.toModel.unpack.abs.isFinite = true := isFinite_ofModel finite'
      refine finite (Eq.trans ?_ parts)
      change x.toModel.unpack.isFinite = _
      cases x.toModel.unpack <;> rfl
    rw [isZero_of_infinite finite, isZero_of_infinite infinite]

end Magnitudes

section Zeros

variable {x z : Float}

/-- Zero of either sign. -/
def IsZeroWord (x : Float) : Prop := ∃ s, x.toModel.unpack = .zero s

theorem isZeroWord_zero : IsZeroWord zero := ⟨.positive, rfl⟩

theorem IsZeroWord.denotes (h : IsZeroWord z) : Denotes z 0 := by
  obtain ⟨s, parts⟩ := h
  exact .ofUnpack parts trivial rfl

theorem IsZeroWord.neg (h : IsZeroWord z) : IsZeroWord (-z) := by
  obtain ⟨s, parts⟩ := h
  exact ⟨-s, by rw [unpack_neg, parts]; rfl⟩

theorem IsZeroWord.signed (h : IsZeroWord z) (lead : Option TermSign) :
    IsZeroWord (signed lead z) := by
  match lead with
  | none | some .plus => exact h
  | some .minus => exact h.neg

theorem isZeroWord_mul (finite : isFinite x = true) (h : IsZeroWord z) : IsZeroWord (x * z) := by
  obtain ⟨s, zero⟩ := h
  have product : ∃ t, UnpackedFloat.mul Format.binary64 x.toModel.unpack z.toModel.unpack =
      .zero t := by
    rw [zero]
    rcases finite_parts finite with ⟨t, parts⟩ | ⟨t, m, e, positive, parts⟩ <;>
    · rw [parts]
      exact ⟨_, rfl⟩
  obtain ⟨t, product⟩ := product
  have word : (x * z).toModel = Float.Model.pack (.zero t) := congrArg Float.Model.pack product
  exact ⟨t, by rw [word]; exact unpack_pack (u := .zero t) trivial⟩

/-- Adding a number that is not zero to a zero. -/
theorem IsZeroWord.add (h : IsZeroWord z) (finite : isFinite x = true)
    (nonzero : isZero x = false) : z + x = x := by
  obtain ⟨s, zero⟩ := h
  obtain ⟨t, m, e, positive, parts⟩ := exists_significand finite nonzero
  have sum : UnpackedFloat.add Format.binary64 z.toModel.unpack x.toModel.unpack =
      x.toModel.unpack := by
    rw [zero, parts]
    rfl
  exact eq_of_parts sum

/-- A term is joined by adding it behind its sign. -/
theorem TermSign.join_eq_add (s : TermSign) (x y : Float) :
    s.join x y = x + signed (some s) y := by
  cases s with
  | plus => rfl
  | minus => exact (signLaws_float.add_neg x y).symm

/-- A term behind a zero keeps its sign. -/
theorem IsZeroWord.join (h : IsZeroWord z) (finite : isFinite x = true)
    (nonzero : isZero x = false) : (joinSign x).join z (Scalar.abs x) = x := by
  rw [TermSign.join_eq_add, signed_abs finite nonzero, h.add finite nonzero]

end Zeros

section Texts

variable {x : Float}

theorem add_zero_word (finite : isFinite x = true) (unsigned : Unsigned x.toModel.unpack) :
    x + zero = x := by
  have sum : UnpackedFloat.add Format.binary64 x.toModel.unpack (zero : Float).toModel.unpack =
      x.toModel.unpack := by
    have zeros : (zero : Float).toModel.unpack = .zero .positive := rfl
    rw [zeros]
    rcases finite_parts finite with ⟨s, parts⟩ | ⟨s, m, e, positive, parts⟩
    · rw [parts] at unsigned ⊢
      rw [show s = .positive from unsigned]
      rfl
    · rw [parts]
      rfl
  exact eq_of_parts sum

theorem isNaN_of_isFinite (finite : isFinite x = true) : x.isNaN = false := by
  change x.toModel.unpack.isNaN = false
  rcases finite_parts finite with ⟨s, parts⟩ | ⟨s, m, e, positive, parts⟩ <;>
  · rw [parts]
    rfl

/-- Running text of a number that is not negative: the digits of its shortest decimal. -/
theorem write_plain (finite : isFinite x = true) (unsigned : Unsigned x.toModel.unpack) :
    Layout.plain.write x = Layout.positionalText false (Decimal.shortest .upper x) := by
  have sign := (ofFloat_decodes finite).2 unsigned
  have finite' : x.isFinite = true := finite
  have magnitude : x.abs = x := abs_of_unsigned unsigned
  simp only [Layout.write, Layout.plain, isNaN_of_isFinite finite, finite', sign, magnitude,
    Bool.or_true, Bool.not_true, Bool.false_eq_true, if_false, if_true]
  exact String.empty_append

/-- The text of a number that is not negative is a numeral that reads back as the number. -/
theorem numberText_written (finite : isFinite x = true) (unsigned : Unsigned x.toModel.unpack) :
    ∃ n : Written, n.marks = (numberText fullPrecision x).toList ∧ n.scalar = x := by
  obtain ⟨n, marks, reads⟩ := positionalText_written (Decimal.shortest .upper x)
  refine ⟨n, ?_, reads.trans (Decimal.shortest_toFloat .upper finite unsigned)⟩
  have text : numberText fullPrecision x = Layout.plain.write (x + zero) := by
    simp [numberText, finite, Printable.text]
  rw [marks, text, add_zero_word finite unsigned, write_plain finite unsigned]

end Texts

end WorkedAlgebra
