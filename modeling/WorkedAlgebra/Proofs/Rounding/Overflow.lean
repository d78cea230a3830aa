import WorkedAlgebra.Proofs.Rounding.Finite
import WorkedAlgebra.Proofs.Rounding.Opposed

/-!
Where quotients overflow. Rounding to the nearest number gives an infinite one from half a step
above the largest stored number on, the middle included, as that number has an odd significand.
-/

namespace WorkedAlgebra

namespace Rounding

open Float.Model Float.Model.UnpackedFloat

/-- The threshold in steps of the largest numbers. -/
theorem overflowThreshold_eq : overflowThreshold = (2 ^ 53 - 1 / 2) * 2 ^ (971 : Int) := by
  have whole : (2 : ℚ) ^ 1024 = 2 ^ 53 * 2 ^ 971 := by rw [← pow_add]
  have half : (2 : ℚ) ^ 971 = 2 ^ 970 * 2 := pow_succ 2 970
  have steps : (2 : ℚ) ^ (971 : Int) = 2 ^ 971 := zpow_natCast 2 971
  rw [overflowThreshold, whole, steps, half]
  generalize (2 : ℚ) ^ 970 = unit
  ring

/-- From the middle between two significands on an odd one is rounded up. -/
theorem Describes.roundedMantissa_of_odd {em : ExtendedMantissa} {y : ℚ} (h : Describes em y)
    (odd : em.mantissa % 2 = 1) (middle : 2 * (em.mantissa : ℚ) + 1 ≤ 2 * y) :
    em.roundedMantissa = em.mantissa + 1 := by
  obtain ⟨m, round, sticky⟩ := em
  cases round <;> cases sticky <;> simp only [Describes] at h middle odd
  case true.false =>
      simp [ExtendedMantissa.roundedMantissa, ExtendedMantissa.accuracy,
        Accuracy.roundToNearestEven, odd]
  case true.true =>
      simp [ExtendedMantissa.roundedMantissa, ExtendedMantissa.accuracy,
        Accuracy.roundToNearestEven]
  all_goals exfalso; linarith

theorem isFinite_pack_of_storable {u : UnpackedFloat} (stored : Storable u) :
    (Float.Model.pack u).isFinite = true := (Denotes.ofParts stored).finite

section Rounded

variable {y : ℚ} {t : Int} {em : ExtendedMantissa}

/-- What is rounded at a step can be stored unless its exponent gets too high. -/
theorem OnStep.storable_roundedParts (place : OnStep y t) (described : Describes em y)
    (low : t ≤ 970 ∨ t = 971 ∧ em.roundedMantissa < 2 ^ 53) :
    Storable (roundedParts em.roundedMantissa t) := by
  have bounds := roundedMantissa_bounds em
  unfold roundedParts
  split
  · rename_i positive
    split
    · rename_i fits
      refine ⟨positive, fits, place.low, by omega, ?_⟩
      by_cases bottom : t = -1074
      · exact .inr bottom
      · exact .inl ((place.le_mantissa described bottom).trans bounds.1)
    · have := place.low
      exact ⟨by decide, by decide, by omega, by omega, .inl le_rfl⟩
  · trivial

/-- On the longest steps a number is rounded up to a power of two from the threshold on. -/
theorem OnStep.roundedMantissa_lt_iff (place : OnStep y 971) (described : Describes em y) :
    em.roundedMantissa < 2 ^ 53 ↔ y < 2 ^ 53 - 1 / 2 := by
  have bounds := roundedMantissa_bounds em
  have near := abs_le.mp described.roundedMantissa_near
  constructor
  · intro fits
    by_contra above
    have last : em.mantissa = 2 ^ 53 - 1 := by
      have upper := place.mantissa_lt described
      have lower : (2 ^ 53 : ℚ) < em.mantissa + 2 := by linarith [described.bounds.2]
      have : 2 ^ 53 < em.mantissa + 2 := by exact_mod_cast lower
      omega
    have middle : 2 * (em.mantissa : ℚ) + 1 ≤ 2 * y := by
      rw [last]
      push_cast
      linarith
    have up := described.roundedMantissa_of_odd (by omega) middle
    omega
  · intro below
    have less : (em.roundedMantissa : ℚ) < 2 ^ 53 := by linarith [near.2]
    exact_mod_cast less

/-- Storing a rounded number overflows from the threshold on. -/
theorem RoundsTo.isFinite_pack_iff {q : ℚ} {u : UnpackedFloat} (h : RoundsTo q u) :
    (Float.Model.pack u).isFinite = true ↔ q < overflowThreshold := by
  obtain ⟨y, t, em, place, described, rfl, rfl⟩ := h
  have power := two_zpow_pos t
  have infinite {r : Nat} (positive : 0 < r) (high : 971 < t ∨ t = 971 ∧ ¬ r < 2 ^ 53) :
      ¬ (Float.Model.pack (roundedParts r t)).isFinite = true := by
    rw [Bool.not_eq_true, roundedParts, dif_pos positive]
    split
    · exact isFinite_pack_of_high _ _ (by omega)
    · exact isFinite_pack_of_high _ _ (by omega)
  have filled (high : -1074 < t) : 0 < em.roundedMantissa := by
    have := place.le_mantissa described high.ne'
    have := (roundedMantissa_bounds em).1
    omega
  rw [overflowThreshold_eq]
  rcases lt_trichotomy t 971 with less | rfl | greater
  · refine iff_of_true (isFinite_pack_of_storable
      (place.storable_roundedParts described (.inl (by omega)))) ?_
    have steps : 2 * (2 : ℚ) ^ t ≤ 2 ^ (971 : Int) := two_zpow_succ_le less
    have below : y * 2 ^ t < 2 ^ 53 * 2 ^ t := mul_lt_mul_of_pos_right place.below power
    have longest := two_zpow_pos 971
    generalize (2 : ℚ) ^ (971 : Int) = top at steps longest ⊢
    linarith
  · rw [mul_lt_mul_iff_left₀ power, ← place.roundedMantissa_lt_iff described]
    by_cases fits : em.roundedMantissa < 2 ^ 53
    · exact iff_of_true (isFinite_pack_of_storable
        (place.storable_roundedParts described (.inr ⟨rfl, fits⟩))) fits
    · exact iff_of_false (infinite (filled (by norm_num)) (.inr ⟨rfl, fits⟩)) fits
  · refine iff_of_false (infinite (filled (by omega)) (.inl greater)) (not_lt.mpr ?_)
    have steps : 2 * (2 : ℚ) ^ (971 : Int) ≤ 2 ^ t := two_zpow_succ_le greater
    have above : 2 ^ 52 * 2 ^ t ≤ y * 2 ^ t :=
      mul_le_mul_of_nonneg_right (place.above (by omega)) power.le
    have longest := two_zpow_pos 971
    generalize (2 : ℚ) ^ (971 : Int) = top at steps longest ⊢
    linarith

end Rounded

section Signs

theorem isFinite_pack_neg (u : UnpackedFloat) :
    (Float.Model.pack u.neg).isFinite = (Float.Model.pack u).isFinite := by
  rw [Float.Model.isFinite, unpack_pack_neg, isFinite_neg]
  rfl

theorem abs_parts (u : UnpackedFloat) : u.abs = u ∨ u.abs = u.neg := by
  cases u with
  | notANumber => exact .inl rfl
  | zero s | infinity s | finite s m e positive =>
      cases s with
      | positive => exact .inl rfl
      | negative => exact .inr rfl

theorem magnitude_pos (s : Sign) {m : Nat} {e : Int} (positive : 0 < m) :
    0 < partsValue (UnpackedFloat.finite s m e positive).abs := by
  rw [partsValue_abs, abs_partsValue]
  exact size_pos positive e

theorem div_neg_right_parts (u v : UnpackedFloat) :
    UnpackedFloat.div Format.binary64 u v.neg = (UnpackedFloat.div Format.binary64 u v).neg := by
  rw [← neg_neg_parts u, div_neg_neg_parts, neg_neg_parts, div_neg_parts]

/-- Whether a quotient overflows does not depend on the signs. -/
theorem isFinite_div_abs (u v : UnpackedFloat) :
    (Float.Model.pack (UnpackedFloat.div Format.binary64 u.abs v.abs)).isFinite =
      (Float.Model.pack (UnpackedFloat.div Format.binary64 u v)).isFinite := by
  rcases abs_parts u with hu | hu <;> rcases abs_parts v with hv | hv <;> rw [hu, hv]
  · rw [div_neg_right_parts, isFinite_pack_neg]
  · rw [div_neg_parts, isFinite_pack_neg]
  · rw [div_neg_neg_parts]

end Signs

end Rounding

open Rounding Float.Model

variable {x y : Float}

/-- A quotient of finite numbers is finite just below the threshold. -/
theorem isFinite_div_iff (finiteX : Scalar.isFinite x = true) (finiteY : Scalar.isFinite y = true)
    (nonzero : Scalar.isZero y = false) :
    Scalar.isFinite (x / y) = true ↔ |floatValue x / floatValue y| < overflowThreshold := by
  obtain ⟨t, m', e', positive', partsY⟩ := exists_significand finiteY nonzero
  have rounds : RoundsTo (|floatValue x| / |floatValue y|) (UnpackedFloat.div Format.binary64
      x.toModel.unpack.abs y.toModel.unpack.abs) := by
    rw [floatValue, floatValue, ← partsValue_abs, ← partsValue_abs, partsY]
    rcases finite_parts finiteX with ⟨s, partsX⟩ | ⟨s, m, e, positive, partsX⟩
    · rw [partsX, show partsValue (UnpackedFloat.zero s).abs = 0 from rfl, zero_div]
      exact .zero
    · rw [partsX]
      exact .div_parts rfl rfl (magnitude_pos s positive) (magnitude_pos t positive')
  rw [abs_div, ← rounds.isFinite_pack_iff, isFinite_div_abs]
  rfl

end WorkedAlgebra
