import WorkedAlgebra.Proofs.Rounding.Format
import WorkedAlgebra.Proofs.Rounding.Packing

/-!
Arithmetic of 64-bit floating point as arithmetic of rational numbers. A finite number denotes a
rational one; each operation gives the exact result rounded, which is stored unless it overflows,
and comparisons compare what is denoted.
-/

namespace WorkedAlgebra.Rounding

open Float.Model Float.Model.UnpackedFloat

section Parts

theorem signFactor_apply (s : Sign) (m : Nat) :
    ((s.apply (m : Int) : Int) : ℚ) = signFactor s * m := by
  cases s <;> simp [Sign.apply, signFactor]

theorem signFactor_neg (s : Sign) : signFactor (-s) = -signFactor s := by
  cases s with
  | negative => exact (neg_neg (1 : ℚ)).symm
  | positive => rfl

theorem signFactor_mul (s t : Sign) : signFactor (s * t) = signFactor s * signFactor t := by
  cases s <;> cases t <;> norm_num [signFactor]

theorem signFactor_div (s t : Sign) : signFactor (s / t) = signFactor s / signFactor t := by
  cases s <;> cases t <;> norm_num [signFactor] <;> rfl

theorem partsValue_neg (u : UnpackedFloat) : partsValue u.neg = -partsValue u := by
  cases u <;> simp [UnpackedFloat.neg, partsValue, signFactor_neg]

theorem Storable.neg {u : UnpackedFloat} (stored : Storable u) : Storable u.neg := by
  cases u <;> exact stored

theorem partsValue_abs (u : UnpackedFloat) : partsValue u.abs = |partsValue u| := by
  cases u with
  | finite s m e positive =>
      simp only [UnpackedFloat.abs, partsValue, abs_mul, abs_signFactor, one_mul]
      rw [abs_of_pos (two_zpow_pos e), abs_of_nonneg (Nat.cast_nonneg m)]
      simp [signFactor]
  | _ => simp [UnpackedFloat.abs, partsValue]

theorem Storable.abs {u : UnpackedFloat} (stored : Storable u) : Storable u.abs := by
  cases u <;> exact stored

/-- Taking an exponent down leaves the number alone. -/
theorem decreaseExponent_value {m : Nat} {e t : Int} (lower : t ≤ e) :
    ((decreaseExponent m e t).1 : ℚ) * 2 ^ t = m * 2 ^ e ∧ (decreaseExponent m e t).2 = t := by
  have shift : ((e - t).toNat : Int) + t = e := by omega
  constructor
  · simp only [decreaseExponent, Nat.shiftLeft_eq]
    push_cast
    rw [mul_assoc, ← zpow_natCast, ← two_zpow_add, shift]
  · simp only [decreaseExponent]
    omega

theorem log2_shiftLeft {m : Nat} (positive : 0 < m) (k : Nat) :
    (m <<< k).log2 = m.log2 + k := by
  rw [Nat.shiftLeft_eq, Nat.log2_eq_iff (by positivity)]
  have power : 0 < 2 ^ k := Nat.two_pow_pos k
  constructor
  · rw [Nat.pow_add]
    exact Nat.mul_le_mul_right _ (Nat.log2_self_le positive.ne')
  · rw [show m.log2 + k + 1 = m.log2 + 1 + k by ring, Nat.pow_add]
    exact Nat.mul_lt_mul_of_pos_right Nat.lt_log2_self power

theorem round_rounded (s : Sign) {m : Nat} (e : Int) (positive : 0 < m) :
    Normalized (UnpackedFloat.round Format.binary64 s m e) ∧
      Rounded (signFactor s * (m * 2 ^ e))
        (partsValue (UnpackedFloat.round Format.binary64 s m e)) := by
  obtain ⟨k, hk⟩ : ∃ k : Nat, (e - step m e).toNat = k := ⟨_, rfl⟩
  have parts : UnpackedFloat.round Format.binary64 s m e =
      roundWithAccuracy Format.binary64 s (m <<< k) (e - k) .exact := by
    rw [← hk]
    rfl
  have value : ((m <<< k : Nat) : ℚ) * 2 ^ (e - k) = m * 2 ^ e := by
    rw [Nat.shiftLeft_eq]
    push_cast
    rw [mul_assoc, ← zpow_natCast, ← two_zpow_add]
    congr 2
    ring
  have enough : e - k ≤ step (m <<< k) (e - k) := by
    rw [step_eq] at hk ⊢
    rw [log2_shiftLeft positive]
    push_cast
    omega
  rw [parts, ← value]
  exact roundWithAccuracy_rounded s (describes_exact _) enough

theorem normalize_rounded (m e : Int) :
    Normalized (UnpackedFloat.normalize Format.binary64 m e .positive) ∧
      Rounded (m * 2 ^ e) (partsValue (UnpackedFloat.normalize Format.binary64 m e .positive)) := by
  unfold UnpackedFloat.normalize
  rcases lt_trichotomy m 0 with negative | rfl | positive
  · rw [Int.compare_eq_lt.mpr negative]
    have digits : ((-m).toNat : ℚ) = -m := by
      have : (((-m).toNat : Int) : ℚ) = ((-m : Int) : ℚ) := by rw [Int.toNat_of_nonneg (by omega)]
      exact_mod_cast this
    have rounded := round_rounded .negative (m := (-m).toNat) e (by omega)
    rw [digits] at rounded
    simpa [signFactor] using rounded
  · rw [Int.compare_eq_eq.mpr rfl]
    refine ⟨trivial, ?_⟩
    simpa [partsValue] using Rounded.refl (u := .zero .positive) trivial
  · rw [Int.compare_eq_gt.mpr positive]
    have digits : (m.toNat : ℚ) = m := by
      have : ((m.toNat : Int) : ℚ) = (m : ℚ) := by rw [Int.toNat_of_nonneg positive.le]
      exact_mod_cast this
    have rounded := round_rounded .positive (m := m.toNat) e (by omega)
    rw [digits] at rounded
    simpa [signFactor] using rounded

theorem add_rounded {a b : UnpackedFloat} (ha : Storable a) (hb : Storable b) :
    Normalized (UnpackedFloat.add Format.binary64 a b) ∧
      Rounded (partsValue a + partsValue b)
        (partsValue (UnpackedFloat.add Format.binary64 a b)) := by
  cases a with
  | infinity s => exact ha.elim
  | notANumber => exact ha.elim
  | zero s =>
      have zero : partsValue (.zero s) = 0 := rfl
      rw [zero, zero_add]
      cases b with
      | infinity t => exact hb.elim
      | notANumber => exact hb.elim
      | zero t =>
          have normalized : Normalized (UnpackedFloat.add Format.binary64 (.zero s) (.zero t)) := by
            cases s <;> cases t <;> trivial
          have value : partsValue (UnpackedFloat.add Format.binary64 (.zero s) (.zero t)) =
              partsValue (.zero t) := by
            cases s <;> cases t <;> rfl
          exact ⟨normalized, value ▸ Rounded.refl (u := .zero t) trivial⟩
      | finite t m e positive => exact ⟨Storable.normalized hb, Rounded.refl hb⟩
  | finite s m e positive =>
      cases b with
      | infinity t => exact hb.elim
      | notANumber => exact hb.elim
      | zero t =>
          have zero : partsValue (.zero t) = 0 := rfl
          rw [zero, add_zero]
          exact ⟨Storable.normalized ha, Rounded.refl ha⟩
      | finite t m' e' positive' =>
          have left := (decreaseExponent_value (m := m) (min_le_left e e')).1
          have right := (decreaseExponent_value (m := m') (min_le_right e e')).1
          have exact : partsValue (.finite s m e positive) +
              partsValue (.finite t m' e' positive') =
              ((s.apply (decreaseExponent m e (min e e')).1 +
                t.apply (decreaseExponent m' e' (min e e')).1 : Int) : ℚ) * 2 ^ min e e' := by
            push_cast
            rw [signFactor_apply, signFactor_apply, add_mul, mul_assoc, mul_assoc, left, right]
            rfl
          rw [exact]
          exact normalize_rounded _ _

theorem sub_eq_add_neg_parts (a b : UnpackedFloat) :
    UnpackedFloat.sub Format.binary64 a b = UnpackedFloat.add Format.binary64 a b.neg := by
  have twice (s : Sign) : - -s = s := by cases s <;> rfl
  have apply (s : Sign) (m : Int) : (-s).apply m = -s.apply m := by
    cases s with
    | negative => exact (Int.neg_neg m).symm
    | positive => rfl
  cases a <;> cases b <;>
    simp [UnpackedFloat.sub, UnpackedFloat.add, UnpackedFloat.neg, apply, Int.sub_eq_add_neg]

theorem mul_rounded {a b : UnpackedFloat} (ha : Storable a) (hb : Storable b) :
    Normalized (UnpackedFloat.mul Format.binary64 a b) ∧
      Rounded (partsValue a * partsValue b)
        (partsValue (UnpackedFloat.mul Format.binary64 a b)) := by
  cases a with
  | infinity s => exact ha.elim
  | notANumber => exact ha.elim
  | zero s =>
      have zero : partsValue (.zero s) = 0 := rfl
      rw [zero, zero_mul]
      cases b with
      | infinity t => exact hb.elim
      | notANumber => exact hb.elim
      | zero t | finite t _ _ _ => exact ⟨trivial, Rounded.refl (u := .zero t) trivial⟩
  | finite s m e positive =>
      cases b with
      | infinity t => exact hb.elim
      | notANumber => exact hb.elim
      | zero t =>
          have zero : partsValue (.zero t) = 0 := rfl
          rw [zero, mul_zero]
          exact ⟨trivial, Rounded.refl (u := .zero t) trivial⟩
      | finite t m' e' positive' =>
          have exact : partsValue (.finite s m e positive) *
              partsValue (.finite t m' e' positive') =
              signFactor (s * t) * (((m * m' : Nat) : ℚ) * 2 ^ (e + e')) := by
            simp only [partsValue, signFactor_mul, two_zpow_add]
            push_cast
            ring
          have enough : e + e' ≤ step (m * m') (e + e') := by
            rw [step_eq]
            rcases ha.normal with long | low
            · have : 52 ≤ (m * m').log2 := (Nat.le_log2 (by positivity)).mpr
                (long.trans (Nat.le_mul_of_pos_right m positive'))
              omega
            rcases hb.normal with long | low'
            · have : 52 ≤ (m * m').log2 := (Nat.le_log2 (by positivity)).mpr
                (long.trans (Nat.le_mul_of_pos_left m' positive))
              omega
            · omega
          rw [exact]
          exact roundWithAccuracy_rounded _ (describes_exact _) enough

theorem divCore_enough {m m' : Nat} (positive : 0 < m) (positive' : 0 < m') (e e' : Int) :
    (divCore Format.binary64 m e m' e').2.1 ≤
      step (divCore Format.binary64 m e m' e').1 (divCore Format.binary64 m e m' e').2.1 := by
  obtain ⟨t, ht⟩ : ∃ t : Int, (divCore Format.binary64 m e m' e').2.1 = t := ⟨_, rfl⟩
  have quotient : (divCore Format.binary64 m e m' e').1 = (m <<< (e - e' - t).toNat) / m' := by
    rw [← ht]
    rfl
  have target : t = min (e - e')
      (max (m.log2 + 1 + e - (m'.log2 + 1 + e') - 53) (-1074)) := by
    rw [← ht]
    simp only [divCore, Format.targetExponent, totalExponent, Format.mantissaBits,
      Format.minExponent]
    norm_num
  rw [quotient, ht, step_eq]
  by_cases low : t ≤ -1074
  · omega
  · have long : 52 ≤ ((m <<< (e - e' - t).toNat) / m').log2 := by
      have room : m'.log2 + 1 + 52 ≤ (m <<< (e - e' - t).toNat).log2 := by
        rw [log2_shiftLeft positive]
        omega
      have enough : 2 ^ 52 ≤ (m <<< (e - e' - t).toNat) / m' := by
        rw [Nat.le_div_iff_mul_le positive']
        have nonzero : m <<< (e - e' - t).toNat ≠ 0 := by
          rw [Nat.shiftLeft_eq]
          positivity
        calc 2 ^ 52 * m' ≤ 2 ^ 52 * 2 ^ (m'.log2 + 1) :=
              Nat.mul_le_mul_left _ Nat.lt_log2_self.le
          _ = 2 ^ (m'.log2 + 1 + 52) := by rw [← Nat.pow_add, Nat.add_comm]
          _ ≤ m <<< (e - e' - t).toNat := (Nat.le_log2 nonzero).mp room
      exact (Nat.le_log2 (by omega)).mpr enough
    omega

/-- The quotient of two significands with what is left over. -/
theorem divCore_describes (m : Nat) {m' : Nat} (positive' : 0 < m') (e e' : Int) :
    ∃ y : ℚ, Describes (ExtendedMantissa.ofMantissaAndAccuracy (divCore Format.binary64 m e m' e').1
        (divCore Format.binary64 m e m' e').2.2) y ∧
      y * 2 ^ (divCore Format.binary64 m e m' e').2.1 = m * 2 ^ e / (m' * 2 ^ e') := by
  obtain ⟨t, ht⟩ : ∃ t : Int, (divCore Format.binary64 m e m' e').2.1 = t := ⟨_, rfl⟩
  obtain ⟨n, hn⟩ : ∃ n : Nat, m <<< (e - e' - t).toNat = n := ⟨_, rfl⟩
  have parts : divCore Format.binary64 m e m' e' = (n / m', t, accuracyOfFraction (n % m') m') := by
    rw [← hn, ← ht]
    rfl
  have lower : t ≤ e - e' := ht ▸ min_le_left _ _
  have divisor : (m' : ℚ) ≠ 0 := by exact_mod_cast positive'.ne'
  have whole : (((n / m' : Nat) : ℚ) + ((n % m' : Nat) : ℚ) / m') * m' = n := by
    rw [add_mul, div_mul_cancel₀ _ divisor]
    exact_mod_cast Nat.div_add_mod' n m'
  have scaled : (n : ℚ) * 2 ^ t = m * 2 ^ (e - e') := by
    rw [← hn]
    exact (decreaseExponent_value (m := m) lower).1
  have powers : (2 : ℚ) ^ (e - e') * 2 ^ e' = 2 ^ e := by rw [← two_zpow_add, sub_add_cancel]
  rw [parts]
  refine ⟨_, describes_fraction _ _ m' (Nat.mod_lt n positive'), ?_⟩
  rw [eq_div_iff (mul_ne_zero divisor (two_zpow_pos e').ne'), ← powers]
  linear_combination (2 : ℚ) ^ t * 2 ^ e' * whole + 2 ^ e' * scaled

theorem div_rounded {a b : UnpackedFloat} (ha : Storable a) (hb : Storable b)
    (nonzero : partsValue b ≠ 0) :
    Normalized (UnpackedFloat.div Format.binary64 a b) ∧
      Rounded (partsValue a / partsValue b)
        (partsValue (UnpackedFloat.div Format.binary64 a b)) := by
  cases b with
  | infinity t => exact hb.elim
  | notANumber => exact hb.elim
  | zero t => exact (nonzero rfl).elim
  | finite t m' e' positive' =>
      cases a with
      | infinity s => exact ha.elim
      | notANumber => exact ha.elim
      | zero s =>
          have zero : partsValue (.zero s) = 0 := rfl
          rw [zero, zero_div]
          exact ⟨trivial, Rounded.refl (u := .zero s) trivial⟩
      | finite s m e positive =>
          obtain ⟨x, described, value⟩ := divCore_describes m positive' e e'
          have exact : partsValue (.finite s m e positive) /
              partsValue (.finite t m' e' positive') =
              signFactor (s / t) * (x * 2 ^ (divCore Format.binary64 m e m' e').2.1) := by
            rw [value, signFactor_div, partsValue, partsValue, mul_div_mul_comm]
          rw [exact]
          exact roundWithAccuracy_rounded _ described (divCore_enough positive positive' e e')

theorem canonical_lt {m m' : Nat} {e e' : Int} (h : Canonical m e) (h' : Canonical m' e')
    (less : e < e') : (m : ℚ) * 2 ^ e < m' * 2 ^ e' := by
  have long : 2 ^ 52 ≤ m' := h'.normal.resolve_right (by have := h.low; omega)
  calc (m : ℚ) * 2 ^ e < 2 ^ 53 * 2 ^ e :=
        mul_lt_mul_of_pos_right (by exact_mod_cast h.fits) (two_zpow_pos e)
    _ = 2 ^ 52 * 2 ^ (e + 1) := by rw [two_zpow_add]; ring
    _ ≤ 2 ^ 52 * 2 ^ e' := by
        refine mul_le_mul_of_nonneg_left ?_ (by norm_num)
        exact zpow_le_zpow_right₀ (by norm_num) (by omega)
    _ ≤ m' * 2 ^ e' := mul_le_mul_of_nonneg_right (by exact_mod_cast long) (two_zpow_pos e').le

theorem compare_canonical {m m' : Nat} {e e' : Int} (h : Canonical m e) (h' : Canonical m' e') :
    (compare e e').then (compare m m') = compare ((m : ℚ) * 2 ^ e) (m' * 2 ^ e') := by
  rcases lt_trichotomy e e' with less | rfl | greater
  · rw [compare_lt_iff_lt.mpr less, compare_lt_iff_lt.mpr (canonical_lt h h' less)]
    rfl
  · have power := two_zpow_pos e
    rw [compare_eq_iff_eq.mpr rfl]
    change compare m m' = _
    rcases lt_trichotomy m m' with less | rfl | greater
    · rw [compare_lt_iff_lt.mpr less, compare_lt_iff_lt.mpr]
      exact mul_lt_mul_of_pos_right (by exact_mod_cast less) power
    · rw [compare_eq_iff_eq.mpr rfl, compare_eq_iff_eq.mpr rfl]
    · rw [compare_gt_iff_gt.mpr greater, compare_gt_iff_gt.mpr]
      exact mul_lt_mul_of_pos_right (by exact_mod_cast greater) power
  · rw [compare_gt_iff_gt.mpr greater, compare_gt_iff_gt.mpr (canonical_lt h' h greater)]
    rfl

theorem compare_neg_rat (p q : ℚ) : compare (-p) (-q) = (compare p q).swap := by
  rcases lt_trichotomy p q with less | rfl | greater
  · rw [compare_lt_iff_lt.mpr less, compare_gt_iff_gt.mpr (neg_lt_neg less)]
    rfl
  · rw [compare_eq_iff_eq.mpr rfl, compare_eq_iff_eq.mpr rfl]
    rfl
  · rw [compare_gt_iff_gt.mpr greater, compare_lt_iff_lt.mpr (neg_lt_neg greater)]
    rfl

theorem compare_parts {a b : UnpackedFloat} (ha : Storable a) (hb : Storable b) :
    a.compare b = some (compare (partsValue a) (partsValue b)) := by
  cases a with
  | infinity s => exact ha.elim
  | notANumber => exact ha.elim
  | zero s =>
      cases b with
      | infinity t => exact hb.elim
      | notANumber => exact hb.elim
      | zero t => rfl
      | finite t m' e' positive' =>
          have := size_pos positive' e'
          cases t with
          | negative =>
              simp only [UnpackedFloat.compare, partsValue, signFactor]
              rw [compare_gt_iff_gt.mpr (by linarith)]
          | positive =>
              simp only [UnpackedFloat.compare, partsValue, signFactor]
              rw [compare_lt_iff_lt.mpr (by linarith)]
  | finite s m e positive =>
      have left := size_pos positive e
      cases b with
      | infinity t => exact hb.elim
      | notANumber => exact hb.elim
      | zero t =>
          cases s with
          | negative =>
              simp only [UnpackedFloat.compare, partsValue, signFactor]
              rw [compare_lt_iff_lt.mpr (by linarith)]
          | positive =>
              simp only [UnpackedFloat.compare, partsValue, signFactor]
              rw [compare_gt_iff_gt.mpr (by linarith)]
      | finite t m' e' positive' =>
          have right := size_pos positive' e'
          cases s <;> cases t <;> simp only [UnpackedFloat.compare, partsValue, signFactor]
          · rw [neg_one_mul, neg_one_mul, compare_neg_rat, compare_canonical ha hb]
          · rw [compare_lt_iff_lt.mpr (by linarith)]
          · rw [compare_gt_iff_gt.mpr (by linarith)]
          · rw [one_mul, one_mul, compare_canonical ha hb]

end Parts

end WorkedAlgebra.Rounding
