import Mathlib
import WorkedAlgebra.Equation.LinearForm

/-!
Letters, their case, and numeral marks, as code points.
-/

namespace WorkedAlgebra

open Numeral

theorem isAlpha_iff {c : Char} :
    c.isAlpha = true ↔ (65 ≤ c.toNat ∧ c.toNat ≤ 90) ∨ (97 ≤ c.toNat ∧ c.toNat ≤ 122) := by
  simp [Char.isAlpha, Char.isUpper, Char.isLower, UInt32.le_iff_toNat_le]

theorem isMark_iff {c : Char} :
    isMark c = true ↔ (48 ≤ c.toNat ∧ c.toNat ≤ 57) ∨ c.toNat = 46 := by
  have point : c = '.' ↔ c.toNat = 46 := by
    rw [← Char.toNat_inj]
    rfl
  simp [isMark, point, Char.isDigit, UInt32.le_iff_toNat_le]

theorem toNat_toLower (c : Char) :
    c.toLower.toNat = if 65 ≤ c.toNat ∧ c.toNat ≤ 90 then c.toNat + 32 else c.toNat := by
  unfold Char.toLower
  simp only [ge_iff_le, UInt32.le_iff_toNat_le]
  split
  · rename_i upper
    have range : 65 ≤ c.toNat ∧ c.toNat ≤ 90 := upper
    rw [if_pos range]
    simp only [Char.toNat_mk, UInt32.toNat_add]
    change (c.toNat + 32) % 2 ^ 32 = c.toNat + 32
    omega
  · rename_i other
    rw [if_neg (by exact other)]

theorem isSign_iff {c : Char} :
    Text.isSign c = true ↔ c.toNat = 43 ∨ c.toNat = 45 := by
  have plus : c = '+' ↔ c.toNat = 43 := by
    rw [← Char.toNat_inj]
    rfl
  have minus : c = '-' ↔ c.toNat = 45 := by
    rw [← Char.toNat_inj]
    rfl
  simp [Text.isSign, plus, minus]

theorem isAlpha_toLower {c : Char} (alpha : c.isAlpha = true) : c.toLower.isAlpha = true := by
  rw [isAlpha_iff] at alpha ⊢
  rw [toNat_toLower]
  split <;> omega

theorem isLower_toLower {c : Char} (alpha : c.isAlpha = true) : c.toLower.isLower = true := by
  rw [isAlpha_iff] at alpha
  have range : 97 ≤ c.toLower.toNat ∧ c.toLower.toNat ≤ 122 := by
    rw [toNat_toLower]
    split <;> omega
  simpa [Char.isLower, UInt32.le_iff_toNat_le] using range

theorem isMark_of_isAlpha {c : Char} (alpha : c.isAlpha = true) : isMark c = false := by
  rw [← Bool.not_eq_true, isMark_iff]
  rw [isAlpha_iff] at alpha
  omega

theorem not_isAlpha_of_isMark {c : Char} (mark : isMark c = true) : c.isAlpha = false :=
  Bool.eq_false_iff.mpr fun alpha => by simp [isMark_of_isAlpha alpha] at mark

theorem isSign_of_isAlpha {c : Char} (alpha : c.isAlpha = true) : Text.isSign c = false := by
  rw [← Bool.not_eq_true, isSign_iff]
  rw [isAlpha_iff] at alpha
  omega

theorem isSign_of_isMark {c : Char} (mark : isMark c = true) : Text.isSign c = false := by
  rw [← Bool.not_eq_true, isSign_iff]
  rw [isMark_iff] at mark
  omega

theorem isMark_of_isLetter {letter c : Char} (alpha : letter.isAlpha = true)
    (same : LinearForm.isLetter letter c = true) : isMark c = false := by
  have numbers : c.toLower.toNat = letter.toLower.toNat := by rw [eq_of_beq same]
  rw [toNat_toLower, toNat_toLower] at numbers
  rw [← Bool.not_eq_true, isMark_iff]
  rw [isAlpha_iff] at alpha
  split at numbers <;> split at numbers <;> omega

/-- The letters that are detected in a text are lower-case ones of the text. -/
theorem mem_lettersOf {text : List Char} {letter : Char} :
    letter ∈ lettersOf text ↔ ∃ c ∈ text, c.isAlpha = true ∧ c.toLower = letter := by
  simp [lettersOf, and_assoc]

theorem lettersOf_append (u v : List Char) : lettersOf (u ++ v) = lettersOf u ++ lettersOf v := by
  simp [lettersOf]

theorem mem_distinct {cs : List Char} {c : Char} : c ∈ distinct cs ↔ c ∈ cs := by
  induction cs with
  | nil => rfl
  | cons d cs ih =>
      by_cases same : c = d
      · simp [distinct, same]
      · simp [distinct, same, ih]

theorem isAlpha_of_mem_detectLetters {text : List Char} {letter : Char}
    (mem : letter ∈ detectLetters text) : letter.isAlpha = true := by
  obtain ⟨c, -, alpha, rfl⟩ := mem_lettersOf.mp (mem_distinct.mp mem)
  exact isAlpha_toLower alpha

theorem isLower_of_mem_detectLetters {text : List Char} {letter : Char}
    (mem : letter ∈ detectLetters text) : letter.isLower = true := by
  obtain ⟨c, -, alpha, rfl⟩ := mem_lettersOf.mp (mem_distinct.mp mem)
  exact isLower_toLower alpha

end WorkedAlgebra
