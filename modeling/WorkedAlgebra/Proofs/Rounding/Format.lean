import WorkedAlgebra.Proofs.Rounding.Nearest

/-!
The rounding function of the format, for numbers given by a significand, an exponent and what was
cut off: its result is the number rounded, and only its exponent can be too high to be stored.
-/

namespace WorkedAlgebra.Rounding

open Float.Model Float.Model.UnpackedFloat

def step (m : Nat) (e : Int) : Int := Format.binary64.targetExponent (totalExponent m e)

theorem step_eq (m : Nat) (e : Int) : step m e = max (m.log2 + e - 52) (-1074) := by
  simp only [step, Format.targetExponent, totalExponent, Format.mantissaBits, Format.minExponent]
  norm_num
  omega

theorem shiftToTargetExponent_eq (m : Nat) (e : Int) (accuracy : Accuracy) :
    shiftToTargetExponent Format.binary64 m e accuracy =
      (ExtendedMantissa.ofMantissaAndAccuracy m accuracy >>> (step m e - e).toNat,
        e + (step m e - e).toNat) := rfl

/-- A significand that fits is not shifted. -/
theorem shiftToTargetExponent_of_fits {m : Nat} {e : Int} (fits : m < 2 ^ 53) (low : -1074 ≤ e) :
    shiftToTargetExponent Format.binary64 m e .exact = (⟨m, false, false⟩, e) := by
  have digits : m.log2 ≤ 52 := by
    by_cases zero : m = 0
    · simp [zero]
    · have := (Nat.log2_lt zero).mpr fits
      omega
  have still : (step m e - e).toNat = 0 := by
    rw [step_eq]
    omega
  rw [shiftToTargetExponent_eq, still, Nat.cast_zero, add_zero]
  rfl

/-- A significand that was rounded up to the next power of two is shifted once. -/
theorem shiftToTargetExponent_carry {e : Int} (low : -1074 ≤ e) :
    shiftToTargetExponent Format.binary64 (2 ^ 53) e .exact = (⟨2 ^ 52, false, false⟩, e + 1) := by
  have once : (step (2 ^ 53) e - e).toNat = 1 := by
    rw [step_eq, Nat.log2_two_pow]
    omega
  rw [shiftToTargetExponent_eq, once]
  rfl

/-- The parts that a rounded significand is stored as. -/
theorem roundWithAccuracy_eq (s : Sign) (m : Nat) (e : Int) (accuracy : Accuracy) {r : Nat}
    {t : Int} (first : (shiftToTargetExponent Format.binary64 m e accuracy).1.roundedMantissa = r)
    (exponent : (shiftToTargetExponent Format.binary64 m e accuracy).2 = t)
    (fits : r ≤ 2 ^ 53) (low : -1074 ≤ t) :
    roundWithAccuracy Format.binary64 s m e accuracy =
      if positive : 0 < r then
        if r < 2 ^ 53 then .finite s r t positive else .finite s (2 ^ 52) (t + 1) (by decide)
      else .zero s := by
  unfold roundWithAccuracy
  rcases pair : shiftToTargetExponent Format.binary64 m e accuracy with ⟨em, e₁⟩
  rw [pair] at first exponent
  simp only at first exponent
  simp only [first, exponent]
  by_cases small : r < 2 ^ 53
  · simp only [shiftToTargetExponent_of_fits small low]
    by_cases zero : r = 0
    · simp [zero]
    · simp only [zero, Nat.pos_of_ne_zero zero, small, ↓reduceDIte, ↓reduceIte]
  · obtain rfl : r = 2 ^ 53 := by omega
    simp only [shiftToTargetExponent_carry low]
    simp

theorem mantissa_ofMantissaAndAccuracy (m : Nat) (accuracy : Accuracy) :
    (ExtendedMantissa.ofMantissaAndAccuracy m accuracy).mantissa = m := by
  cases accuracy with
  | exact => rfl
  | inexact order => cases order <;> rfl

/-- `y · 2 ^ t` has its leading digit where the format wants it: `y` has at most 53 digits before
the point, and 53 unless the step `2 ^ t` is the smallest one. -/
structure OnStep (y : ℚ) (t : Int) : Prop where
  nonneg : 0 ≤ y
  below : y < 2 ^ 53
  above : t ≠ -1074 → 2 ^ 52 ≤ y
  low : -1074 ≤ t

namespace OnStep

variable {y : ℚ} {t : Int}

theorem of_describes {m : Nat} {e : Int} {accuracy : Accuracy} {x : ℚ}
    (described : Describes (ExtendedMantissa.ofMantissaAndAccuracy m accuracy) x)
    (enough : e ≤ step m e) : OnStep (x / 2 ^ (step m e - e).toNat) (step m e) := by
  obtain ⟨k, hk⟩ : ∃ k : Nat, (step m e - e).toNat = k := ⟨_, rfl⟩
  have steps := step_eq m e
  obtain ⟨atLeast, less⟩ := described.bounds
  rw [mantissa_ofMantissaAndAccuracy] at atLeast less
  have power : (0 : ℚ) < 2 ^ k := by positivity
  rw [hk]
  constructor
  case nonneg => exact div_nonneg ((Nat.cast_nonneg m).trans atLeast) power.le
  case below =>
    have digits : (m : ℚ) + 1 ≤ 2 ^ (m.log2 + 1) := by exact_mod_cast Nat.lt_log2_self
    have room : (2 : ℚ) ^ (m.log2 + 1) ≤ 2 ^ (53 + k) :=
      pow_le_pow_right₀ (by norm_num) (by omega)
    rw [div_lt_iff₀ power, ← pow_add]
    exact less.trans_le (digits.trans room)
  case above =>
    intro high
    have long : m.log2 = 52 + k := by omega
    have digits : ((2 : ℚ) ^ m.log2) ≤ m := by
      have nonzero : m ≠ 0 := by
        rintro rfl
        rw [Nat.log2_zero] at long
        omega
      exact_mod_cast Nat.log2_self_le nonzero
    rw [le_div_iff₀ power, ← pow_add, ← long]
    exact digits.trans atLeast
  case low => omega

theorem le_magnitude (h : OnStep y t) (high : t ≠ -1074) : (2 : ℚ) ^ (52 + t) ≤ y * 2 ^ t := by
  rw [two_zpow_add]
  exact mul_le_mul_of_nonneg_right (by exact_mod_cast h.above high) (two_zpow_pos t).le

theorem mantissa_lt (h : OnStep y t) {em : ExtendedMantissa} (described : Describes em y) :
    em.mantissa < 2 ^ 53 := by
  exact_mod_cast described.bounds.1.trans_lt h.below

theorem le_mantissa (h : OnStep y t) {em : ExtendedMantissa} (described : Describes em y)
    (high : t ≠ -1074) : 2 ^ 52 ≤ em.mantissa := by
  have : (2 : ℚ) ^ 52 < em.mantissa + 1 := (h.above high).trans_lt described.bounds.2
  exact Nat.lt_succ_iff.mp (by exact_mod_cast this)

theorem rounded (h : OnStep y t) (s : Sign) {r : Nat} (near : |(r : ℚ) - y| ≤ 1 / 2) :
    Rounded (signFactor s * (y * 2 ^ t)) (signFactor s * (r * 2 ^ t)) := by
  have value : signFactor s * (r * 2 ^ t) = ((s.apply r : Int) : ℚ) * 2 ^ t := by
    cases s <;> simp [signFactor, Sign.apply]
  have positive := two_zpow_pos t
  refine ⟨t, s.apply r, h.low, value, ?_, ?_⟩
  · rw [← mul_sub, abs_mul, abs_signFactor, one_mul, ← sub_mul, abs_mul, abs_of_pos positive,
      zpow_sub_one₀ (by norm_num)]
    have := mul_le_mul_of_nonneg_right near positive.le
    linarith
  · rw [abs_mul, abs_signFactor, one_mul, abs_of_nonneg (mul_nonneg h.nonneg positive.le)]
    refine (eq_or_ne t (-1074)).imp id fun high => ?_
    rw [add_comm]
    exact h.le_magnitude high

end OnStep

/-- Rounding a significand `m` whose cut-off part is described by `accuracy`. The exponent must be
low enough for the significand to have all its digits. -/
theorem roundWithAccuracy_rounded (s : Sign) {m : Nat} {e : Int} {accuracy : Accuracy} {x : ℚ}
    (described : Describes (ExtendedMantissa.ofMantissaAndAccuracy m accuracy) x)
    (enough : e ≤ step m e) :
    Normalized (roundWithAccuracy Format.binary64 s m e accuracy) ∧
      Rounded (signFactor s * (x * 2 ^ e))
        (partsValue (roundWithAccuracy Format.binary64 s m e accuracy)) := by
  have place := OnStep.of_describes described enough
  obtain ⟨k, hk⟩ : ∃ k : Nat, (step m e - e).toNat = k := ⟨_, rfl⟩
  have shifted := described.shiftRight k
  obtain ⟨em, hem⟩ :
      ∃ em, ExtendedMantissa.ofMantissaAndAccuracy m accuracy >>> k = em := ⟨_, rfl⟩
  obtain ⟨r, hr⟩ : ∃ r, em.roundedMantissa = r := ⟨_, rfl⟩
  obtain ⟨t, ht⟩ : ∃ t : Int, step m e = t := ⟨_, rfl⟩
  have exponent : e + (k : Int) = t := by omega
  have scale : x * 2 ^ e = x / 2 ^ k * 2 ^ t := by
    rw [← exponent, two_zpow_add, zpow_natCast]
    field_simp
  rw [hem] at shifted
  rw [hk, ht] at place
  have low := place.low
  have fits := place.mantissa_lt shifted
  have bounds := roundedMantissa_bounds em
  have near := shifted.roundedMantissa_near
  rw [hr] at bounds near
  rw [roundWithAccuracy_eq s m e accuracy (r := r) (t := t) (by
      rw [shiftToTargetExponent_eq, hk, hem]; exact hr) (by
      rw [shiftToTargetExponent_eq, hk]; exact exponent) (by omega) low, scale]
  have rounded := place.rounded s near
  by_cases positive : 0 < r
  · by_cases short : r < 2 ^ 53
    · rw [dif_pos positive, if_pos short]
      refine ⟨⟨short, low, ?_⟩, rounded⟩
      by_cases high : t = -1074
      · exact .inr high
      · exact .inl ((place.le_mantissa shifted high).trans bounds.1)
    · obtain rfl : r = 2 ^ 53 := by omega
      rw [dif_pos positive, if_neg short]
      refine ⟨⟨by decide, by omega, .inl le_rfl⟩, ?_⟩
      convert rounded using 1
      simp only [partsValue]
      rw [add_comm t, two_zpow_add]
      push_cast
      ring
  · obtain rfl : r = 0 := by omega
    rw [dif_neg positive]
    refine ⟨trivial, ?_⟩
    simpa [partsValue] using rounded

end WorkedAlgebra.Rounding
