import WorkedAlgebra.Proofs.Rounding.Denoted

/-!
Rounding keeps order. A number that does not exceed a stored one is not rounded beyond it, so the
middle of an interval, computed in floating point, lies in the interval.
-/

namespace WorkedAlgebra

open Rounding Float.Model

namespace Rounding

theorem Representable.neg {q : ℚ} (h : Representable q) : Representable (-q) := by
  obtain ⟨n, g, digits, low, rfl⟩ := h
  exact ⟨-n, g, by rwa [abs_neg], low, by push_cast; ring⟩

theorem Storable.representable {u : UnpackedFloat} (stored : Storable u) :
    Representable (partsValue u) := by
  cases u with
  | zero s => exact ⟨0, -1074, by norm_num, le_rfl, by simp [partsValue]⟩
  | finite s m e positive =>
      refine ⟨s.apply m, e, ?_, stored.low, ?_⟩
      · have fits : (m : Int) ≤ 2 ^ 53 := by exact_mod_cast stored.fits.le
        cases s <;> simpa [UnpackedFloat.Sign.apply] using fits
      · cases s <;> simp [partsValue, signFactor, UnpackedFloat.Sign.apply]
  | infinity s | notANumber => exact stored.elim

theorem Rounded.neg {q v : ℚ} (h : Rounded q v) : Rounded (-q) (-v) := by
  obtain ⟨t, k, low, rfl, near, step⟩ := h
  refine ⟨t, -k, low, by push_cast; ring, ?_, by rwa [abs_neg]⟩
  rwa [show -(k * 2 ^ t) - -q = -(k * 2 ^ t - q) by ring, abs_neg]

/-- A multiple of the step that is not below `q` is not below what `q` is rounded to. -/
theorem le_of_le_multiple {q : ℚ} {t k j : Int} (near : |k * 2 ^ t - q| ≤ 2 ^ (t - 1))
    (le : q ≤ j * 2 ^ t) : (k : ℚ) * 2 ^ t ≤ j * 2 ^ t := by
  have power := two_zpow_pos t
  by_contra above
  have steps : j + 1 ≤ k := by
    have : (j : ℚ) < k := lt_of_mul_lt_mul_right (not_le.mp above) power.le
    exact_mod_cast this
  have far : ((j : ℚ) + 1) * 2 ^ t ≤ k * 2 ^ t :=
    mul_le_mul_of_nonneg_right (by exact_mod_cast steps) power.le
  rw [zpow_sub_one₀ (by norm_num), abs_le] at near
  linarith [near.2]

theorem Rounded.le_of_le {q v r : ℚ} (h : Rounded q v) (exact : Representable r) (le : q ≤ r) :
    v ≤ r := by
  obtain ⟨t, k, low, rfl, near, step⟩ := h
  by_cases coarse : t = -1074 ∨ (2 : ℚ) ^ (t + 52) ≤ |r|
  · obtain ⟨j, rfl⟩ := exact.exists_multiple low coarse
    exact le_of_le_multiple near le
  · -- The steps at `r` are shorter than those at `q`, so a power of two lies between them.
    rw [not_or, not_le, abs_lt] at coarse
    obtain ⟨fine, below, above⟩ := coarse
    have bottom : ((-2 ^ 52 : Int) : ℚ) * 2 ^ t = -2 ^ (t + 52) := by
      rw [two_zpow_add]
      push_cast
      norm_num
      ring
    have far : q ≤ -2 ^ (t + 52) := by
      rcases le_abs.mp (step.resolve_left fine) with positive | negative <;> linarith
    have between := le_of_le_multiple near (far.trans_eq bottom.symm)
    linarith

theorem Rounded.ge_of_ge {q v r : ℚ} (h : Rounded q v) (exact : Representable r) (ge : r ≤ q) :
    r ≤ v :=
  neg_le_neg_iff.mp (h.neg.le_of_le exact.neg (neg_le_neg ge))

/-- Rounding of magnitudes is monotone. -/
theorem Rounded.mono {q r v w : ℚ} (hv : Rounded q v) (hw : Rounded r w) (exactV : Representable v)
    (exactW : Representable w) (nonneg : 0 ≤ q) (less : q < r) : v ≤ w := by
  by_contra above
  have below : r < v := not_le.mp fun ge => above (hw.ge_of_ge exactV ge)
  obtain ⟨t, i, lowT, valueV, nearV, stepV⟩ := hv
  obtain ⟨s, j, lowS, valueW, nearW, stepW⟩ := id hw
  -- Both are multiples of the longer of the two steps, but they are less than it apart.
  have onT : ∃ k : Int, w = k * 2 ^ t := by
    refine exactW.exists_multiple lowT (stepV.imp_right fun size => ?_)
    have power : Representable ((2 : ℚ) ^ (t + 52)) :=
      ⟨1, t + 52, by norm_num, by omega, by rw [Int.cast_one, one_mul]⟩
    rw [abs_of_nonneg nonneg] at size
    exact (hw.ge_of_ge power (size.trans less.le)).trans (le_abs_self w)
  have onS : ∃ k : Int, v = k * 2 ^ s := by
    refine exactV.exists_multiple lowS (stepW.imp_right fun size => ?_)
    rw [abs_of_nonneg (nonneg.trans less.le)] at size
    exact (size.trans below.le).trans (le_abs_self v)
  have apart {u k l : Int} (hv : v = k * 2 ^ u) (hw : w = l * 2 ^ u) (leT : t ≤ u) (leS : s ≤ u) :
      False := by
    have steps : l + 1 ≤ k := by
      have order : (l : ℚ) * 2 ^ u < k * 2 ^ u := hw ▸ hv ▸ not_le.mp above
      exact_mod_cast lt_of_mul_lt_mul_right order (two_zpow_pos u).le
    have far : ((l : ℚ) + 1) * 2 ^ u ≤ k * 2 ^ u :=
      mul_le_mul_of_nonneg_right (by exact_mod_cast steps) (two_zpow_pos u).le
    have longT : (2 : ℚ) ^ t ≤ 2 ^ u := zpow_le_zpow_right₀ (by norm_num) leT
    have longS : (2 : ℚ) ^ s ≤ 2 ^ u := zpow_le_zpow_right₀ (by norm_num) leS
    rw [zpow_sub_one₀ (by norm_num), abs_le] at nearV nearW
    linarith [nearV.2, nearW.1]
  obtain ⟨k, onT⟩ := onT
  obtain ⟨l, onS⟩ := onS
  rcases le_total t s with shorter | longer
  · exact apart onS valueW shorter le_rfl
  · exact apart valueV onT le_rfl longer

/-- The difference of two stored numbers can be stored, or it is far above the smallest step. -/
theorem representable_sub_or {p q : ℚ} (hp : Representable p) (hq : Representable q) (le : p ≤ q) :
    Representable (q - p) ∨ (2 : ℚ) ^ (-1021 : Int) ≤ q - p := by
  obtain ⟨i, rfl⟩ := hp.exists_multiple le_rfl (.inl rfl)
  obtain ⟨j, rfl⟩ := hq.exists_multiple le_rfl (.inl rfl)
  have power := two_zpow_pos (-1074)
  have steps : i ≤ j := by exact_mod_cast le_of_mul_le_mul_right le power
  rw [← sub_mul]
  by_cases few : j - i ≤ 2 ^ 53
  · exact .inl ⟨j - i, -1074, by rwa [abs_of_nonneg (by omega)], le_rfl, by rw [Int.cast_sub]⟩
  · refine .inr ?_
    have many : ((2 : ℚ) ^ 53) ≤ j - i := by exact_mod_cast (not_le.mp few).le
    calc (2 : ℚ) ^ (-1021 : Int) = 2 ^ 53 * 2 ^ (-1074 : Int) := by
          rw [← zpow_natCast, ← two_zpow_add, Nat.cast_ofNat]
          rfl
      _ ≤ (j - i) * 2 ^ (-1074 : Int) := mul_le_mul_of_nonneg_right many power.le

/-- The difference of two stored numbers is not rounded to zero. -/
theorem Rounded.sub_eq_zero_iff {p q v : ℚ} (h : Rounded (p - q) v) (hp : Representable p)
    (hq : Representable q) : v = 0 ↔ p = q := by
  obtain ⟨i, rfl⟩ := hp.exists_multiple le_rfl (.inl rfl)
  obtain ⟨j, rfl⟩ := hq.exists_multiple le_rfl (.inl rfl)
  refine ⟨?_, fun same => ?_⟩
  · rintro rfl
    obtain ⟨t, k, -, value, near, rfl | large⟩ := h
    · have steps : (i : ℚ) * 2 ^ (-1074 : Int) - j * 2 ^ (-1074 : Int) =
          ((i - j : Int) : ℚ) * 2 ^ (-1074 : Int) := by rw [Int.cast_sub, sub_mul]
      exact sub_eq_zero.mp (eq_of_near_multiple value steps near).symm
    · have short : (2 : ℚ) ^ (t - 1) < 2 ^ (t + 52) :=
        zpow_lt_zpow_right₀ (by norm_num) (by omega)
      rw [zero_sub, abs_neg] at near
      exact absurd (large.trans near) (not_le.mpr short)
  · rw [same, sub_self] at h
    exact h.eq_of_representable ⟨0, -1074, by norm_num, le_rfl, by rw [Int.cast_zero, zero_mul]⟩

end Rounding

variable {x y : Float} {p q : ℚ}

theorem Denotes.representable (h : Denotes x p) : Representable p :=
  h.value ▸ h.stored.representable

/-- Half the length of an interval is computed as a number between zero and the length. -/
theorem Denotes.halfDifference (hx : Denotes x p) (hy : Denotes y q) (le : p ≤ q)
    (bound : q - p ≤ 2 ^ (127 : Int)) :
    ∃ d, Denotes ((y - x) / Scalar.two) d ∧ 0 ≤ d ∧ d ≤ q - p := by
  have length : |q - p| = q - p := abs_of_nonneg (sub_nonneg.mpr le)
  have room : (2 : ℚ) ^ (127 : Int) < 2 ^ (1023 : Int) :=
    zpow_lt_zpow_right₀ (by norm_num) (by norm_num)
  have tiny : (2 : ℚ) ^ (-1075 : Int) * 2 ^ 54 = 2 ^ (-1021 : Int) := by
    rw [← zpow_natCast, ← two_zpow_add]
    norm_num
  have small : (2 : ℚ) ^ (-1075 : Int) ≤ 1 :=
    zpow_le_one_of_nonpos₀ (by norm_num) (by norm_num)
  have ulp : (2 : ℚ) ^ (-53 : Int) = 1 / 2 ^ 53 := by norm_num
  obtain ⟨v, hv, rounded⟩ := hy.sub hx (length.trans_lt (bound.trans_lt room))
  have nonneg : 0 ≤ v := rounded.nonneg (sub_nonneg.mpr le)
  have error := rounded.error
  rw [length, ulp, abs_le] at error
  have halved : |v / 2| ≤ 2 ^ (127 : Int) := by
    rw [abs_of_nonneg (by positivity)]
    norm_num at bound ⊢
    linarith [error.2]
  obtain ⟨d, hd, rounded'⟩ := hv.div denotes_two (by norm_num) (halved.trans_lt room)
  refine ⟨d, hd, rounded'.nonneg (by positivity), ?_⟩
  rcases representable_sub_or hx.representable hy.representable le with exact | long
  · rw [rounded.eq_of_representable exact] at rounded'
    exact rounded'.le_of_le exact (by linarith)
  · have error' := rounded'.error
    rw [abs_of_nonneg (by positivity : 0 ≤ v / 2), ulp, abs_le] at error'
    linarith [error.2, error'.2]

/-- The middle of an interval is computed as a number in the interval. -/
theorem Denotes.middle (hx : Denotes x p) (hy : Denotes y q) (le : p ≤ q)
    (bound : |p| ≤ 2 ^ (126 : Int)) (bound' : |q| ≤ 2 ^ (126 : Int)) :
    ∃ m, Denotes (x + (y - x) / Scalar.two) m ∧ p ≤ m ∧ m ≤ q := by
  obtain ⟨low, -⟩ := abs_le.mp bound
  obtain ⟨-, high⟩ := abs_le.mp bound'
  have double : (2 : ℚ) ^ (126 : Int) + 2 ^ (126 : Int) = 2 ^ (127 : Int) := by norm_num
  obtain ⟨d, hd, nonneg, short⟩ := hx.halfDifference hy le (by linarith)
  have inside : |p + d| ≤ 2 ^ (126 : Int) := abs_le.mpr ⟨by linarith, by linarith⟩
  obtain ⟨m, hm, rounded⟩ := hx.add hd
    (inside.trans_lt (zpow_lt_zpow_right₀ (by norm_num) (by norm_num)))
  exact ⟨m, hm, rounded.ge_of_ge hx.representable (by linarith),
    rounded.le_of_le hy.representable (by linarith)⟩

end WorkedAlgebra
