import WorkedAlgebra.Proofs.Rounding.Arithmetic

/-!
Rounding is a function of the number that is rounded. However a number is written as a significand,
an exponent and what was cut off, the same parts come out, without a bound on the exponent; and a
number that is close enough to a stored one comes out as that one.
-/

namespace WorkedAlgebra.Rounding

open Float.Model Float.Model.UnpackedFloat

/-- The significand and its extra bits are determined by the number. -/
theorem Describes.unique {em em' : ExtendedMantissa} {y : ℚ} (h : Describes em y)
    (h' : Describes em' y) : em = em' := by
  have upper : em.mantissa < em'.mantissa + 1 := by
    exact_mod_cast h.bounds.1.trans_lt h'.bounds.2
  have lower : em'.mantissa < em.mantissa + 1 := by
    exact_mod_cast h'.bounds.1.trans_lt h.bounds.2
  obtain ⟨m, round, sticky⟩ := em
  obtain ⟨m', round', sticky'⟩ := em'
  obtain rfl : m = m' := by
    simp only at upper lower
    omega
  cases round <;> cases sticky <;> cases round' <;> cases sticky' <;>
    simp only [Describes] at h h' <;> first | rfl | (exfalso; linarith)

theorem OnStep.unique {y y' : ℚ} {t t' : Int} (h : OnStep y t) (h' : OnStep y' t')
    (same : y * 2 ^ t = y' * 2 ^ t') : t = t' ∧ y = y' := by
  have below {y y' : ℚ} {t t' : Int} (h : OnStep y t) (h' : OnStep y' t')
      (same : y * 2 ^ t = y' * 2 ^ t') : t' ≤ t := by
    by_contra less
    have high : t' ≠ -1074 := by
      have := h.low
      omega
    have size : (2 : ℚ) ^ (52 + t') < 2 ^ (53 + t) := by
      calc (2 : ℚ) ^ (52 + t') ≤ y' * 2 ^ t' := h'.le_magnitude high
        _ = y * 2 ^ t := same.symm
        _ < 2 ^ 53 * 2 ^ t := mul_lt_mul_of_pos_right h.below (two_zpow_pos t)
        _ = 2 ^ (53 + t) := by rw [two_zpow_add]; norm_num
    have := (zpow_lt_zpow_iff_right₀ (by norm_num : (1 : ℚ) < 2)).mp size
    omega
  obtain rfl : t = t' := le_antisymm (below h' h same.symm) (below h h' same)
  exact ⟨rfl, mul_right_cancel₀ (two_zpow_pos t).ne' same⟩

/-- Two steps of different length. -/
theorem two_zpow_succ_le {t e : Int} (less : t < e) : (2 : ℚ) * 2 ^ t ≤ 2 ^ e := by
  calc (2 : ℚ) * 2 ^ t = 2 ^ (1 + t) := by rw [two_zpow_add, zpow_one]
    _ ≤ 2 ^ e := zpow_le_zpow_right₀ (by norm_num) (by omega)

section Near

variable {m : Nat} {e t : Int} {y : ℚ} (place : OnStep y t) (canonical : Canonical m e)

include place canonical

/-- A number with shorter steps lies right below the power of two where the steps of the stored
one begin. -/
theorem OnStep.bottom_of_less (near : 2 * |y * 2 ^ t - m * 2 ^ e| < 2 ^ e)
    (nearer : m = 2 ^ 52 → 4 * |y * 2 ^ t - m * 2 ^ e| < 2 ^ e) (less : t < e) :
    m = 2 ^ 52 ∧ e = t + 1 ∧ 2 ^ 53 - 1 / 2 < y := by
  have power := two_zpow_pos t
  have power' := two_zpow_pos e
  have below : y * 2 ^ t < 2 ^ 53 * 2 ^ t := mul_lt_mul_of_pos_right place.below power
  have long : 2 ^ 52 ≤ m := canonical.normal.resolve_right (by have := place.low; omega)
  have bottom : m = 2 ^ 52 := by
    have apart := (abs_lt.mp (show |y * 2 ^ t - m * 2 ^ e| < 2 ^ e / 2 by linarith)).1
    have steps := two_zpow_succ_le less
    have short : (m : ℚ) < 2 ^ 52 + 1 := by
      refine lt_of_mul_lt_mul_right ?_ power'.le
      linarith
    have : m < 2 ^ 52 + 1 := by exact_mod_cast short
    omega
  have apart := (abs_lt.mp (show |y * 2 ^ t - m * 2 ^ e| < 2 ^ e / 4 by linarith [nearer bottom])).1
  rw [bottom] at apart
  push_cast at apart
  have next : e = t + 1 := by
    by_contra other
    have steps := two_zpow_succ_le (show t + 1 < e by omega)
    rw [two_zpow_add, zpow_one] at steps
    linarith
  refine ⟨bottom, next, lt_of_mul_lt_mul_right ?_ power.le⟩
  rw [next, two_zpow_add, zpow_one] at apart
  linarith

theorem OnStep.not_greater (near : 2 * |y * 2 ^ t - m * 2 ^ e| < 2 ^ e) : ¬ e < t := by
  intro greater
  have power' := two_zpow_pos e
  have high : (2 : ℚ) ^ 52 * 2 ^ t ≤ y * 2 ^ t :=
    mul_le_mul_of_nonneg_right (place.above (by have := canonical.low; omega)) (two_zpow_pos t).le
  have fits : ((m : ℚ) + 1) * 2 ^ e ≤ 2 ^ 53 * 2 ^ e :=
    mul_le_mul_of_nonneg_right (by exact_mod_cast canonical.fits) power'.le
  have apart := (abs_lt.mp (show |y * 2 ^ t - m * 2 ^ e| < 2 ^ e / 2 by linarith)).2
  linarith [two_zpow_succ_le greater]

end Near

/-- The parts of a rounded significand at a step; one that was rounded up to a power of two moves
to the next step. -/
def roundedParts (r : Nat) (t : Int) : UnpackedFloat :=
  if positive : 0 < r then
    if r < 2 ^ 53 then .finite .positive r t positive
    else .finite .positive (2 ^ 52) (t + 1) (by decide)
  else .zero .positive

def RoundsTo (q : ℚ) (u : UnpackedFloat) : Prop :=
  ∃ (y : ℚ) (t : Int) (em : ExtendedMantissa), OnStep y t ∧ Describes em y ∧ q = y * 2 ^ t ∧
    u = roundedParts em.roundedMantissa t

namespace RoundsTo

variable {q : ℚ} {u u' : UnpackedFloat}

theorem unique (h : RoundsTo q u) (h' : RoundsTo q u') : u = u' := by
  obtain ⟨y, t, em, place, described, rfl, rfl⟩ := h
  obtain ⟨y', t', em', place', described', same, rfl⟩ := h'
  obtain ⟨rfl, rfl⟩ := place.unique place' same
  rw [described.unique described']

theorem zero : RoundsTo 0 (.zero .positive) :=
  ⟨0, -1074, ⟨0, false, false⟩, ⟨le_rfl, by norm_num, fun high => (high rfl).elim, le_rfl⟩,
    by simp [Describes], by simp, rfl⟩

/-- Less than half of the smallest step is nothing. -/
theorem zero_of_tiny (positive : 0 < q) (tiny : q < 2 ^ (-1075 : Int)) :
    RoundsTo q (.zero .positive) := by
  have power := two_zpow_pos (-1074)
  have half : (2 : ℚ) * (q / 2 ^ (-1074 : Int)) < 1 := by
    rw [← mul_div_assoc, div_lt_one power]
    calc 2 * q < 2 * 2 ^ (-1075 : Int) := by linarith
      _ = 2 ^ (1 + (-1075) : Int) := by rw [two_zpow_add]; norm_num
  refine ⟨q / 2 ^ (-1074 : Int), -1074, ⟨0, false, true⟩, ⟨?_, ?_, fun high => (high rfl).elim,
    le_rfl⟩, ?_, (div_mul_cancel₀ q power.ne').symm, rfl⟩
  · exact (div_pos positive power).le
  · linarith
  · simp only [Describes, Nat.cast_zero, mul_zero, zero_add]
    exact ⟨div_pos positive power, half⟩

theorem roundWithAccuracy {m : Nat} {e : Int} {accuracy : Accuracy} {y : ℚ}
    (described : Describes (ExtendedMantissa.ofMantissaAndAccuracy m accuracy) y)
    (enough : e ≤ step m e) :
    RoundsTo (y * 2 ^ e) (roundWithAccuracy Format.binary64 .positive m e accuracy) := by
  have place := OnStep.of_describes described enough
  obtain ⟨k, hk⟩ : ∃ k : Nat, (step m e - e).toNat = k := ⟨_, rfl⟩
  have exponent : e + (k : Int) = step m e := by omega
  have shifted := described.shiftRight k
  rw [hk] at place
  have fits := place.mantissa_lt shifted
  have bounds := roundedMantissa_bounds
    (ExtendedMantissa.ofMantissaAndAccuracy m accuracy >>> k)
  refine ⟨_, _, _, place, shifted, ?_, ?_⟩
  · rw [← exponent, two_zpow_add, zpow_natCast]
    field_simp
  · rw [roundedParts]
    exact roundWithAccuracy_eq .positive m e accuracy (by rw [shiftToTargetExponent_eq, hk])
      (by rw [shiftToTargetExponent_eq, hk, exponent]) (by omega) place.low

/-- A number less than half a step away from a stored one is rounded to it. Below a power of two
the steps are half as long. -/
theorem of_near {m : Nat} {e : Int} (canonical : Canonical m e)
    (near : 2 * |q - m * 2 ^ e| < 2 ^ e)
    (nearer : m = 2 ^ 52 → 4 * |q - m * 2 ^ e| < 2 ^ e) (h : RoundsTo q u) :
    u = .finite .positive m e canonical.positive := by
  obtain ⟨y, t, em, place, described, rfl, rfl⟩ := h
  have rounded := abs_le.mp described.roundedMantissa_near
  rcases lt_trichotomy t e with less | rfl | greater
  · obtain ⟨rfl, rfl, top⟩ := place.bottom_of_less canonical near nearer less
    have carried : em.roundedMantissa = 2 ^ 53 := by
      have atLeast : (2 : ℚ) ^ 53 < em.roundedMantissa + 1 := by linarith
      have : 2 ^ 53 < em.roundedMantissa + 1 := by exact_mod_cast atLeast
      have := (roundedMantissa_bounds em).2
      have := place.mantissa_lt described
      omega
    rw [carried]
    rfl
  · have same : em.roundedMantissa = m := by
      have power := two_zpow_pos t
      rw [← sub_mul, abs_mul, abs_of_pos power, ← mul_assoc] at near
      have apart := abs_lt.mp (show |y - m| < 1 / 2 by
        linarith [lt_of_mul_lt_mul_right (near.trans_eq (one_mul _).symm) power.le])
      have upper : (em.roundedMantissa : ℚ) < m + 1 := by linarith
      have lower : (m : ℚ) < em.roundedMantissa + 1 := by linarith
      have : em.roundedMantissa < m + 1 := by exact_mod_cast upper
      have : m < em.roundedMantissa + 1 := by exact_mod_cast lower
      omega
    rw [same, roundedParts, dif_pos canonical.positive, if_pos canonical.fits]
  · exact (place.not_greater canonical near greater).elim

end RoundsTo

end WorkedAlgebra.Rounding
