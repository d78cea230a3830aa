import WorkedAlgebra.Decimal.Layout
import WorkedAlgebra.Proofs.PlainSides
import WorkedAlgebra.Proofs.Rounding.Literals

/-!
Decimals written without exponent. Such a text is a numeral with at most one inner point, and it
reads as the number that the decimal itself stands for.
-/

namespace WorkedAlgebra

namespace Numeral

theorem isDigit_of_mem_toDigits {n : Nat} : ∀ c ∈ Nat.toDigits 10 n, c.isDigit = true :=
  fun _ mem => Nat.isDigit_of_mem_toDigits (by decide) (by decide) mem

theorem isDigit_of_mem_zeros {k : Nat} : ∀ c ∈ List.replicate k '0', c.isDigit = true := by
  intro c mem
  rw [List.eq_of_mem_replicate mem]
  rfl

/-- Zeros behind the digits count as factors of ten. -/
theorem ofDigits_toDigits_zeros (n k : Nat) :
    ofDigits (Nat.toDigits 10 n ++ List.replicate k '0') = n * 10 ^ k := by
  change Nat.ofDigitChars 10 _ 0 = _
  rw [Nat.ofDigitChars_append, Nat.ofDigitChars_ten_toDigits, Nat.ofDigitChars_replicate_zero,
    Nat.mul_comm]

/-- Zeros before the digits do not count. -/
theorem ofDigits_zeros_toDigits (k n : Nat) :
    ofDigits (List.replicate k '0' ++ Nat.toDigits 10 n) = n := by
  change Nat.ofDigitChars 10 _ 0 = _
  rw [Nat.ofDigitChars_append, Nat.ofDigitChars_replicate_zero, Nat.mul_zero,
    Nat.ofDigitChars_ten_toDigits]

theorem ofMarks?_point {whole fraction : List Char} (digits : ∀ c ∈ whole, c.isDigit = true)
    (digits' : ∀ c ∈ fraction, c.isDigit = true) (nonempty : whole ≠ []) :
    ofMarks? (whole ++ '.' :: fraction) = some ⟨ofDigits (whole ++ fraction), fraction.length⟩ := by
  refine ofMarks?_number digits ?_ (.inl nonempty)
  intro mem
  cases digits' '.' mem

def pointed (digits : List Char) (places : Nat) : List Char :=
  digits.take (digits.length - places) ++ '.' :: digits.drop (digits.length - places)

theorem isMark_of_mem_pointed {digits : List Char} (all : ∀ c ∈ digits, c.isDigit = true)
    (places : Nat) : ∀ c ∈ pointed digits places, isMark c = true := by
  intro c mem
  rcases List.mem_append.mp mem with taken | rest
  · exact isMark_of_isDigit (all c (List.mem_of_mem_take taken))
  · rcases List.mem_cons.mp rest with rfl | dropped
    · rfl
    · exact isMark_of_isDigit (all c (List.mem_of_mem_drop dropped))

theorem ofMarks?_pointed {digits : List Char} (all : ∀ c ∈ digits, c.isDigit = true) {places : Nat}
    (long : places < digits.length) :
    ofMarks? (pointed digits places) = some ⟨ofDigits digits, places⟩ := by
  have whole : digits.take (digits.length - places) ≠ [] := by
    rw [← List.length_pos_iff, List.length_take]
    omega
  have fraction : (digits.drop (digits.length - places)).length = places := by
    rw [List.length_drop]
    omega
  rw [pointed, ofMarks?_point (fun c mem => all c (List.mem_of_mem_take mem))
    (fun c mem => all c (List.mem_of_mem_drop mem)) whole, List.take_append_drop, fraction]

end Numeral

namespace Decimal

def value (d : Decimal) : ℚ := d.digits * 10 ^ d.exponent

/-- Every way to write a decimal as a numeral reads as the same number. -/
theorem ofDecimal_eq_toFloat {d : Decimal} {m e : Nat} (same : (m : ℚ) / 10 ^ e = d.value) :
    Scalar.ofDecimal m e = d.toFloat := by
  unfold toFloat
  split
  · rename_i whole
    obtain ⟨k, exponent⟩ := Int.eq_ofNat_of_zero_le whole
    refine ofDecimal_congr (same.trans ?_)
    rw [value, exponent, Int.natAbs_natCast, zpow_natCast]
    push_cast
    simp
  · rename_i fraction
    obtain ⟨k, exponent⟩ : ∃ k : Nat, d.exponent = -(k : Int) :=
      ⟨d.exponent.natAbs, by omega⟩
    refine ofDecimal_congr (same.trans ?_)
    rw [value, exponent, Int.natAbs_neg, Int.natAbs_natCast, zpow_neg, zpow_natCast, div_eq_mul_inv]

/-- Every decimal can be written as a numeral. -/
theorem exists_numeral (d : Decimal) : ∃ m e : Nat, (m : ℚ) / 10 ^ e = d.value := by
  rcases le_or_gt 0 d.exponent with whole | fraction
  · obtain ⟨k, exponent⟩ := Int.eq_ofNat_of_zero_le whole
    refine ⟨d.digits * 10 ^ k, 0, ?_⟩
    rw [value, exponent, zpow_natCast]
    push_cast
    simp
  · obtain ⟨k, exponent⟩ : ∃ k : Nat, d.exponent = -(k : Int) :=
      ⟨d.exponent.natAbs, by omega⟩
    exact ⟨d.digits, k, by rw [value, exponent, zpow_neg, zpow_natCast, div_eq_mul_inv]⟩

theorem toFloat_congr {d d' : Decimal} (same : d.value = d'.value) : d.toFloat = d'.toFloat := by
  obtain ⟨m, e, value⟩ := d.exists_numeral
  rw [← ofDecimal_eq_toFloat value, ofDecimal_eq_toFloat (value.trans same)]

end Decimal

section Texts

open Numeral Decimal Layout

/-- A numeral with the value of a decimal reads as the decimal. -/
theorem Written.of_reads {d : Decimal} {marks : List Char} {m e : Nat}
    (mark : ∀ c ∈ marks, isMark c = true) (reads : ofMarks? marks = some ⟨m, e⟩)
    (same : (m : ℚ) / 10 ^ e = d.value) :
    ∃ n : Written, n.marks = marks ∧ n.scalar = d.toFloat :=
  ⟨⟨marks, ⟨m, e⟩, List.all_eq_true.mpr mark, reads⟩, rfl, ofDecimal_eq_toFloat same⟩

variable {d : Decimal} {k : Nat}

theorem written_of_whole (exponent : d.exponent = k) :
    ∃ n : Written, n.marks = (positionalText false d).toList ∧ n.scalar = d.toFloat := by
  have text : (positionalText false d).toList =
      Nat.toDigits 10 d.digits ++ List.replicate k '0' := by
    simp [positionalText, exponent]
  have digits : ∀ c ∈ Nat.toDigits 10 d.digits ++ List.replicate k '0', c.isDigit = true := by
    intro c mem
    exact (List.mem_append.mp mem).elim (isDigit_of_mem_toDigits c) (isDigit_of_mem_zeros c)
  have reads := ofMarks?_whole digits (by simp)
  rw [ofDigits_toDigits_zeros] at reads
  rw [text]
  refine Written.of_reads (fun c mem => isMark_of_isDigit (digits c mem)) reads ?_
  rw [value, exponent, zpow_natCast]
  push_cast
  simp

theorem written_of_fraction (exponent : d.exponent = -((k + 1 : Nat) : Int)) :
    ∃ n : Written, n.marks = (positionalText false d).toList ∧ n.scalar = d.toFloat := by
  obtain ⟨padded, pads⟩ : ∃ padded,
      List.replicate (k + 1 + 1 - (Nat.toDigits 10 d.digits).length) '0' ++
        Nat.toDigits 10 d.digits = padded := ⟨_, rfl⟩
  have text : (positionalText false d).toList = pointed padded (k + 1) := by
    have below : ¬ 0 ≤ d.exponent := by omega
    have places : d.exponent.natAbs = k + 1 := by omega
    simp only [positionalText, below, if_false, places, pads]
    simp [pointed]
  have digits : ∀ c ∈ padded, c.isDigit = true := by
    intro c mem
    rw [← pads] at mem
    exact (List.mem_append.mp mem).elim (isDigit_of_mem_zeros c) (isDigit_of_mem_toDigits c)
  have long : k + 1 < padded.length := by
    rw [← pads, List.length_append, List.length_replicate]
    omega
  have reads := ofMarks?_pointed digits long
  rw [← pads, ofDigits_zeros_toDigits, pads] at reads
  rw [text]
  refine Written.of_reads (isMark_of_mem_pointed digits (k + 1)) reads ?_
  rw [value, exponent, zpow_neg, zpow_natCast, div_eq_mul_inv]

/-- The text of a decimal without exponent is a numeral that reads as the decimal. -/
theorem positionalText_written (d : Decimal) :
    ∃ n : Written, n.marks = (positionalText false d).toList ∧ n.scalar = d.toFloat := by
  rcases le_or_gt 0 d.exponent with whole | fraction
  · exact written_of_whole (Int.eq_ofNat_of_zero_le whole).choose_spec
  · obtain ⟨k, exponent⟩ : ∃ k : Nat, d.exponent = -((k + 1 : Nat) : Int) :=
      ⟨d.exponent.natAbs - 1, by omega⟩
    exact written_of_fraction exponent

end Texts

end WorkedAlgebra
