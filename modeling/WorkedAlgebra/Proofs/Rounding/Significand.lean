import Mathlib

/-!
Rounding of a significand. Bits that are cut off leave a round bit and a sticky bit behind; these
two tell on which side of the middle the exact number lies, so the rounded significand is never
farther than one half from it. Statements are about rational numbers and the format of 64 bits.
-/

namespace WorkedAlgebra.Rounding

open Float.Model Float.Model.UnpackedFloat

/-- What a significand with its two extra bits says about the number it stands for. -/
def Describes (em : ExtendedMantissa) (x : ℚ) : Prop :=
  match em.roundBit, em.stickyBit with
  | false, false => x = em.mantissa
  | false, true => em.mantissa < x ∧ 2 * x < 2 * em.mantissa + 1
  | true, false => 2 * x = 2 * em.mantissa + 1
  | true, true => 2 * em.mantissa + 1 < 2 * x ∧ x < em.mantissa + 1

theorem Describes.bounds {em : ExtendedMantissa} {x : ℚ} (h : Describes em x) :
    em.mantissa ≤ x ∧ x < em.mantissa + 1 := by
  obtain ⟨m, round, sticky⟩ := em
  cases round <;> cases sticky <;> simp only [Describes] at h <;> constructor <;> linarith

theorem Describes.shiftRightOne {em : ExtendedMantissa} {x : ℚ} (h : Describes em x) :
    Describes em.shiftRightOne (x / 2) := by
  obtain ⟨m, round, sticky⟩ := em
  have halves : (m : ℚ) = 2 * ((m / 2 : Nat) : ℚ) + ((m % 2 : Nat) : ℚ) := by
    exact_mod_cast (Nat.div_add_mod m 2).symm
  rcases Nat.mod_two_eq_zero_or_one m with parity | parity
  · have bit : (m % 2 != 0) = false := by simp [parity]
    rw [parity, Nat.cast_zero] at halves
    cases round <;> cases sticky <;>
      simp only [Describes, ExtendedMantissa.shiftRightOne, bit, Bool.or_self, Bool.or_true,
        Bool.or_false] at h ⊢ <;>
      (try constructor) <;> linarith
  · have bit : (m % 2 != 0) = true := by simp [parity]
    rw [parity, Nat.cast_one] at halves
    cases round <;> cases sticky <;>
      simp only [Describes, ExtendedMantissa.shiftRightOne, bit, Bool.or_self, Bool.or_true,
        Bool.or_false] at h ⊢ <;>
      (try constructor) <;> linarith

theorem Describes.shiftRight {em : ExtendedMantissa} {x : ℚ} (h : Describes em x) (k : Nat) :
    Describes (em >>> k) (x / 2 ^ k) := by
  change Describes (k.repeat ExtendedMantissa.shiftRightOne em) _
  induction k with
  | zero => simpa [Nat.repeat] using h
  | succ k ih =>
      have next := ih.shiftRightOne
      rwa [div_div, ← pow_succ] at next

theorem describes_exact (m : Nat) :
    Describes (ExtendedMantissa.ofMantissaAndAccuracy m .exact) m := rfl

/-- The fraction that a division leaves over. -/
theorem describes_fraction (m num den : Nat) (less : num < den) :
    Describes (ExtendedMantissa.ofMantissaAndAccuracy m (accuracyOfFraction num den))
      (m + num / den) := by
  have positive : (0 : ℚ) < den := by exact_mod_cast Nat.zero_lt_of_lt less
  unfold accuracyOfFraction
  by_cases zero : num = 0
  · simp [zero, Describes, ExtendedMantissa.ofMantissaAndAccuracy]
  · have above : (0 : ℚ) < (num : ℚ) / den :=
      div_pos (by exact_mod_cast Nat.pos_of_ne_zero zero) positive
    have below : (num : ℚ) / den < 1 := by
      rw [div_lt_one positive]
      exact_mod_cast less
    rw [if_neg zero]
    cases order : compare (2 * num) den with
    | lt =>
        have half : 2 * ((num : ℚ) / den) < 1 := by
          rw [← mul_div_assoc, div_lt_one positive]
          exact_mod_cast Nat.compare_eq_lt.mp order
        simp only [ExtendedMantissa.ofMantissaAndAccuracy, Describes]
        constructor <;> linarith
    | eq =>
        have half : 2 * ((num : ℚ) / den) = 1 := by
          rw [← mul_div_assoc, div_eq_one_iff_eq positive.ne']
          exact_mod_cast Nat.compare_eq_eq.mp order
        simp only [ExtendedMantissa.ofMantissaAndAccuracy, Describes]
        linarith
    | gt =>
        have half : 1 < 2 * ((num : ℚ) / den) := by
          rw [← mul_div_assoc, one_lt_div positive]
          exact_mod_cast Nat.compare_eq_gt.mp order
        simp only [ExtendedMantissa.ofMantissaAndAccuracy, Describes]
        constructor <;> linarith

/-- A rounded significand is the nearest one. -/
theorem Describes.roundedMantissa_near {em : ExtendedMantissa} {x : ℚ} (h : Describes em x) :
    |(em.roundedMantissa : ℚ) - x| ≤ 1 / 2 := by
  obtain ⟨m, round, sticky⟩ := em
  rw [abs_le]
  cases round <;> cases sticky <;>
    simp only [Describes, ExtendedMantissa.roundedMantissa, ExtendedMantissa.accuracy,
      Accuracy.roundToNearestEven] at h ⊢ <;> push_cast
  case true.false =>
      rcases Nat.mod_two_eq_zero_or_one m with parity | parity <;> rw [parity] <;> push_cast <;>
        constructor <;> linarith
  all_goals constructor <;> linarith

theorem roundedMantissa_bounds (em : ExtendedMantissa) :
    em.mantissa ≤ em.roundedMantissa ∧ em.roundedMantissa ≤ em.mantissa + 1 := by
  obtain ⟨m, round, sticky⟩ := em
  cases round <;> cases sticky <;>
    simp only [ExtendedMantissa.roundedMantissa, ExtendedMantissa.accuracy,
      Accuracy.roundToNearestEven] <;> omega

end WorkedAlgebra.Rounding
