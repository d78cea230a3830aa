import WorkedAlgebra.Proofs.Rounding.Significand

/-!
Rounding to the format of 64 bits. `Rounded q v` is all that later arguments use: `v` lies on a
grid of powers of two that is fine enough for `q`, at most half a step away from it. Numbers of the
grid are therefore their own rounding, and the relative error is at most `2 ^ (-53)`, save below
the normal numbers, where the absolute error is at most `2 ^ (-1075)`.
-/

namespace WorkedAlgebra.Rounding

open Float.Model Float.Model.UnpackedFloat

structure Canonical (m : Nat) (e : Int) : Prop where
  positive : 0 < m
  fits : m < 2 ^ 53
  low : -1074 ≤ e
  high : e ≤ 971
  normal : 2 ^ 52 ≤ m ∨ e = -1074

def signFactor : Sign → ℚ
  | .negative => -1
  | .positive => 1

theorem abs_signFactor (s : Sign) : |signFactor s| = 1 := by
  cases s <;> simp [signFactor]

/-- The number that unpacked parts stand for; zero where they stand for none. -/
def partsValue : UnpackedFloat → ℚ
  | .finite s m e _ => signFactor s * (m * 2 ^ e)
  | _ => 0

def Storable : UnpackedFloat → Prop
  | .zero _ => True
  | .finite _ m e _ => Canonical m e
  | _ => False

/-- Unpacked parts of a rounded number, whose exponent may be too high for the format. -/
def Normalized : UnpackedFloat → Prop
  | .zero _ => True
  | .finite _ m e _ => m < 2 ^ 53 ∧ -1074 ≤ e ∧ (2 ^ 52 ≤ m ∨ e = -1074)
  | _ => False

/-- `v` is `q` rounded: a multiple of the step `2 ^ t`, at most half a step away. Above the
subnormal numbers the step is at most `2 ^ (-52)` of `q`. -/
def Rounded (q v : ℚ) : Prop :=
  ∃ t k : Int, -1074 ≤ t ∧ v = k * 2 ^ t ∧ |v - q| ≤ 2 ^ (t - 1) ∧
    (t = -1074 ∨ (2 : ℚ) ^ (t + 52) ≤ |q|)

theorem two_zpow_pos (t : Int) : (0 : ℚ) < 2 ^ t := zpow_pos (by norm_num) t

theorem two_zpow_add (a b : Int) : (2 : ℚ) ^ (a + b) = 2 ^ a * 2 ^ b :=
  zpow_add₀ (by norm_num) a b

theorem size_pos {m : Nat} (positive : 0 < m) (e : Int) : (0 : ℚ) < m * 2 ^ e :=
  mul_pos (by exact_mod_cast positive) (two_zpow_pos e)

theorem partsValue_positive {m : Nat} {e : Int} (positive : 0 < m) :
    partsValue (.finite .positive m e positive) = m * 2 ^ e := one_mul _

theorem partsValue_negative {m : Nat} {e : Int} (positive : 0 < m) :
    partsValue (.finite .negative m e positive) = -(m * 2 ^ e) := neg_one_mul _

theorem abs_partsValue (s : Sign) {m : Nat} {e : Int} (positive : 0 < m) :
    |partsValue (.finite s m e positive)| = m * 2 ^ e := by
  rw [partsValue, abs_mul, abs_signFactor, one_mul, abs_of_pos (size_pos positive e)]

/-- A number that is stored is its own rounding. -/
theorem Rounded.refl {u : UnpackedFloat} (stored : Storable u) :
    Rounded (partsValue u) (partsValue u) := by
  cases u with
  | zero s => exact ⟨-1074, 0, le_refl _, by simp [partsValue], by simp, .inl rfl⟩
  | finite s m e pos =>
      refine ⟨e, s.apply m, stored.low, ?_, ?_, ?_⟩
      · cases s <;> simp [partsValue, signFactor, Sign.apply]
      · simp only [sub_self, abs_zero]
        exact (two_zpow_pos _).le
      · refine stored.normal.symm.imp id fun normal => ?_
        have large : ((2 : ℚ) ^ 52) ≤ m := by exact_mod_cast normal
        rw [abs_partsValue, two_zpow_add, mul_comm]
        exact mul_le_mul_of_nonneg_right (by exact_mod_cast large) (two_zpow_pos e).le
  | infinity s => exact stored.elim
  | notANumber => exact stored.elim

theorem Storable.normalized {u : UnpackedFloat} (stored : Storable u) : Normalized u := by
  cases u with
  | zero s => trivial
  | finite s m e positive => exact ⟨stored.fits, stored.low, stored.normal⟩
  | infinity s | notANumber => exact stored.elim

/-- Multiples of a power of two with at most 53 binary digits. -/
def Representable (q : ℚ) : Prop :=
  ∃ n g : Int, |n| ≤ 2 ^ 53 ∧ -1074 ≤ g ∧ q = n * 2 ^ g

theorem eq_of_near_multiple {q v : ℚ} {t k n : Int} (hv : v = k * 2 ^ t) (hq : q = n * 2 ^ t)
    (near : |v - q| ≤ 2 ^ (t - 1)) : v = q := by
  have half : (2 : ℚ) ^ (t - 1) = 2 ^ t / 2 := by rw [zpow_sub_one₀ (by norm_num)]; ring
  rw [hv, hq, ← sub_mul, abs_mul, abs_of_pos (two_zpow_pos t), half] at near
  have steps : |((k - n : Int) : ℚ)| < 1 := by
    push_cast
    by_contra far
    have := mul_le_mul_of_nonneg_right (not_lt.mp far) (two_zpow_pos t).le
    linarith [two_zpow_pos t]
  have same : k - n = 0 := by
    rw [← Int.cast_abs] at steps
    exact Int.abs_lt_one_iff.mp (by exact_mod_cast steps)
  rw [hv, hq, show k = n by omega]

/-- A number with at most 53 binary digits is a multiple of every step at which it would be
rounded. -/
theorem Representable.exists_multiple {q : ℚ} (exact : Representable q) {t : Int}
    (low : -1074 ≤ t) (step : t = -1074 ∨ (2 : ℚ) ^ (t + 52) ≤ |q|) : ∃ j : Int, q = j * 2 ^ t := by
  obtain ⟨n, g, digits, grid, hq⟩ := exact
  -- Either the step divides the grid of `q`, or `q` is the power of two `± 2 ^ (53 + g)`.
  by_cases fine : t ≤ g
  · refine ⟨n * 2 ^ (g - t).toNat, ?_⟩
    have exponent : ((g - t).toNat : Int) + t = g := by omega
    push_cast
    rw [hq, mul_assoc, ← zpow_natCast, ← two_zpow_add, exponent]
  · have large : (2 : ℚ) ^ (t + 52) ≤ |q| := step.resolve_left (by omega)
    have bound : |q| ≤ 2 ^ (53 + g) := by
      rw [hq, abs_mul, abs_of_pos (two_zpow_pos g), two_zpow_add]
      exact mul_le_mul_of_nonneg_right (by exact_mod_cast digits) (two_zpow_pos g).le
    have exponents : t + 52 ≤ 53 + g :=
      (zpow_le_zpow_iff_right₀ (by norm_num : (1 : ℚ) < 2)).mp (large.trans bound)
    obtain rfl : t = g + 1 := by omega
    have size : |q| = 2 ^ (53 + g) :=
      le_antisymm bound (by rwa [show g + 1 + 52 = 53 + g by ring] at large)
    have whole : (2 : ℚ) ^ (53 + g) = ((2 ^ 52 : Int) : ℚ) * 2 ^ (g + 1) := by
      rw [show 53 + g = 52 + (g + 1) by ring, two_zpow_add]
      norm_num
    rcases abs_eq (two_zpow_pos _).le |>.mp size with h | h
    · exact ⟨2 ^ 52, by rw [h, whole]⟩
    · exact ⟨-2 ^ 52, by rw [h, whole]; push_cast; ring⟩

/-- Numbers that need no rounding are left alone. -/
theorem Rounded.eq_of_representable {q v : ℚ} (h : Rounded q v) (exact : Representable q) :
    v = q := by
  obtain ⟨t, k, low, value, near, step⟩ := h
  obtain ⟨j, hj⟩ := exact.exists_multiple low step
  exact eq_of_near_multiple value hj near

theorem Rounded.nonneg {q v : ℚ} (h : Rounded q v) (nonneg : 0 ≤ q) : 0 ≤ v := by
  obtain ⟨t, k, low, value, near, step⟩ := h
  by_contra negative
  have power := two_zpow_pos t
  have steps : k ≤ -1 := by
    by_contra above
    exact negative (value ▸ mul_nonneg (by exact_mod_cast (by omega : 0 ≤ k)) power.le)
  have far : v ≤ -2 ^ t := by
    have : (k : ℚ) ≤ -1 := by exact_mod_cast steps
    rw [value]
    nlinarith
  rw [zpow_sub_one₀ (by norm_num), abs_le] at near
  linarith [near.1]

/-- The error of a rounding. -/
theorem Rounded.error {q v : ℚ} (h : Rounded q v) :
    |v - q| ≤ 2 ^ (-53 : Int) * |q| + 2 ^ (-1075 : Int) := by
  obtain ⟨t, k, low, value, near, step⟩ := h
  have product : 0 ≤ (2 : ℚ) ^ (-53 : Int) * |q| :=
    mul_nonneg (two_zpow_pos _).le (abs_nonneg q)
  rcases step with rfl | large
  · rw [show (-1074 : Int) - 1 = -1075 by norm_num] at near
    linarith
  · have relative : (2 : ℚ) ^ (t - 1) ≤ 2 ^ (-53 : Int) * |q| := by
      rw [show t - 1 = -53 + (t + 52) by ring, two_zpow_add]
      exact mul_le_mul_of_nonneg_left large (two_zpow_pos _).le
    linarith [two_zpow_pos (-1075)]

/-- Half a step above the largest stored number. -/
def overflowThreshold : ℚ := 2 ^ 1024 - 2 ^ 970

theorem two_zpow_lt_overflowThreshold : (2 : ℚ) ^ (1023 : Int) < overflowThreshold := by
  have top : (2 : ℚ) ^ 1024 = 2 ^ 54 * 2 ^ 970 := by rw [← pow_add]
  have bottom : (2 : ℚ) ^ (1023 : Int) = 2 ^ 53 * 2 ^ 970 := by
    rw [← pow_add]
    exact zpow_natCast 2 1023
  have power : (0 : ℚ) < 2 ^ 970 := by positivity
  rw [overflowThreshold, top, bottom]
  generalize (2 : ℚ) ^ 970 = unit at power ⊢
  linarith

/-- Parts of a number below `2 ^ 1024` can be stored. -/
theorem Normalized.storable {u : UnpackedFloat} (h : Normalized u)
    (small : |partsValue u| < 2 ^ (1024 : Int)) : Storable u := by
  cases u with
  | zero s => trivial
  | infinity s | notANumber => exact h.elim
  | finite s m e positive =>
      obtain ⟨fits, low, normal⟩ := h
      refine ⟨positive, fits, low, ?_, normal⟩
      rcases normal with long | rfl
      · have size : (2 : ℚ) ^ (52 + e) ≤ m * 2 ^ e := by
          rw [two_zpow_add]
          exact mul_le_mul_of_nonneg_right (by exact_mod_cast long) (two_zpow_pos e).le
        rw [abs_partsValue] at small
        have := (zpow_lt_zpow_iff_right₀ (by norm_num : (1 : ℚ) < 2)).mp (size.trans_lt small)
        omega
      · norm_num

/-- What is rounded from below the threshold can be stored. -/
theorem Normalized.storable_of_rounded {u : UnpackedFloat} {q : ℚ} (h : Normalized u)
    (rounded : Rounded q (partsValue u)) (below : |q| < overflowThreshold) : Storable u := by
  refine h.storable ?_
  obtain ⟨t, k, low, value, near, step⟩ := rounded
  have top : (2 : ℚ) ^ (1024 : Int) = 2 ^ 1024 := zpow_natCast 2 1024
  have half : (2 : ℚ) ^ (970 : Int) = 2 ^ 970 := zpow_natCast 2 970
  have short : t ≤ 971 := by
    rcases step with rfl | large
    · norm_num
    · have size : (2 : ℚ) ^ (t + 52) < 2 ^ (1024 : Int) := by
        refine large.trans_lt (below.trans ?_)
        rw [overflowThreshold, top]
        exact sub_lt_self _ (by positivity)
      have := (zpow_lt_zpow_iff_right₀ (by norm_num : (1 : ℚ) < 2)).mp size
      omega
  have bound : (2 : ℚ) ^ (t - 1) ≤ 2 ^ (970 : Int) :=
    zpow_le_zpow_right₀ (by norm_num) (by omega)
  calc |partsValue u| = |q + (partsValue u - q)| := by rw [add_sub_cancel]
    _ ≤ |q| + |partsValue u - q| := abs_add_le _ _
    _ ≤ |q| + 2 ^ (970 : Int) := add_le_add_right (near.trans bound) _
    _ < overflowThreshold + 2 ^ (970 : Int) := add_lt_add_left below _
    _ = 2 ^ (1024 : Int) := by rw [overflowThreshold, half, top, sub_add_cancel]

end WorkedAlgebra.Rounding
