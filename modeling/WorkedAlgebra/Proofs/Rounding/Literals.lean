import WorkedAlgebra.Proofs.Rounding.Determined
import WorkedAlgebra.Proofs.Rounding.Words

/-!
Decimals as floating-point numbers. A decimal is rounded correctly whichever way it is computed, so
two decimals with the same value are the same number, and a decimal that is within a relative
distance of `2 ^ (-54)` of a stored number is that number.
-/

namespace WorkedAlgebra.Rounding

open Float.Model Float.Model.UnpackedFloat

theorem RoundsTo.div {m m' : Nat} (positive : 0 < m) (positive' : 0 < m') (e e' : Int) :
    RoundsTo (m * 2 ^ e / (m' * 2 ^ e')) (UnpackedFloat.div Format.binary64
      (.finite .positive m e positive) (.finite .positive m' e' positive')) := by
  obtain ⟨y, described, value⟩ := divCore_describes m positive' e e'
  rw [← value]
  exact .roundWithAccuracy described (divCore_enough positive positive' e e')

theorem exists_positive {u : UnpackedFloat} (unsigned : Unsigned u) (value : 0 < partsValue u) :
    ∃ m e positive, u = .finite .positive m e positive ∧ partsValue u = m * 2 ^ e := by
  cases u with
  | finite s m e positive =>
      cases unsigned
      exact ⟨m, e, positive, rfl, partsValue_positive positive⟩
  | zero s | infinity s | notANumber => exact (lt_irrefl _ value).elim

theorem RoundsTo.div_parts {u v : UnpackedFloat} (hu : Unsigned u) (hv : Unsigned v)
    (positive : 0 < partsValue u) (positive' : 0 < partsValue v) :
    RoundsTo (partsValue u / partsValue v) (UnpackedFloat.div Format.binary64 u v) := by
  obtain ⟨m, e, hm, rfl, value⟩ := exists_positive hu positive
  obtain ⟨m', e', hm', rfl, value'⟩ := exists_positive hv positive'
  rw [value, value']
  exact .div hm hm' e e'

/-- A natural number with at most 53 binary digits is stored as it is. -/
theorem ofNat_parts {n : Nat} (fits : n < 2 ^ 53) :
    Storable (UnpackedFloat.ofNat Format.binary64 n) ∧
      partsValue (UnpackedFloat.ofNat Format.binary64 n) = n := by
  have size : |(((n : Int) : ℚ)) * 2 ^ (0 : Int)| < 2 ^ (1023 : Int) := by
    have : (n : ℚ) < 2 ^ 53 := by exact_mod_cast fits
    rw [zpow_zero, mul_one, Int.cast_natCast, abs_of_nonneg (Nat.cast_nonneg n)]
    exact this.trans (by rw [← zpow_natCast]; exact zpow_lt_zpow_right₀ (by norm_num) (by norm_num))
  obtain ⟨normalized, rounded⟩ := normalize_rounded (n : Int) 0
  refine ⟨normalized.storable_of_rounded rounded (size.trans two_zpow_lt_overflowThreshold), ?_⟩
  have exact := rounded.eq_of_representable ⟨n, 0, ?_, by norm_num, rfl⟩
  · rw [zpow_zero, mul_one] at exact
    exact exact
  · rw [abs_of_nonneg (Int.natCast_nonneg n)]
    exact_mod_cast fits.le

theorem powersOfTen_value :
    ∀ e : Fin Float.exactlyRepresentablePowersOfTen.size,
      partsValue Float.exactlyRepresentablePowersOfTen[e].toModel.unpack = 10 ^ e.val := by
  decide +kernel

theorem roundsTo_whole {m : Nat} (positive : 0 < m) :
    RoundsTo m (UnpackedFloat.roundWithAccuracy Format.binary64 .positive (m <<< 53) (-53) .exact) := by
  have value : ((m <<< 53 : Nat) : ℚ) * 2 ^ (-53 : Int) = m := by
    have inverse : (2 : ℚ) ^ 53 * 2 ^ (-53 : Int) = 1 := by norm_num
    rw [Nat.shiftLeft_eq, Nat.cast_mul, Nat.cast_pow, Nat.cast_ofNat, mul_assoc, inverse, mul_one]
  have enough : (-53 : Int) ≤ step (m <<< 53) (-53) := by
    rw [step_eq, log2_shiftLeft positive]
    omega
  have rounded := RoundsTo.roundWithAccuracy (describes_exact (m <<< 53)) enough
  rwa [value] at rounded

/-- Where computing is cut short because the decimal is tiny. -/
theorem decimal_lt_of_tiny {m e : Nat} (tiny : 2048 + m.log2 < e) :
    (m : ℚ) / 10 ^ e < 2 ^ (-1075 : Int) := by
  have digits : (m : ℚ) < 2 ^ (m.log2 + 1) := by exact_mod_cast Nat.lt_log2_self
  rw [div_lt_iff₀ (by positivity)]
  calc (m : ℚ) < 2 ^ (m.log2 + 1) := digits
    _ ≤ 2 ^ (-1075 : Int) * 2 ^ e := by
        rw [← zpow_natCast, ← zpow_natCast, ← two_zpow_add]
        refine zpow_le_zpow_right₀ (by norm_num) ?_
        push_cast
        omega
    _ ≤ 2 ^ (-1075 : Int) * 10 ^ e := by
        refine mul_le_mul_of_nonneg_left ?_ (two_zpow_pos _).le
        exact pow_le_pow_left₀ (by norm_num) (by norm_num) e

theorem roundsTo_ofScientific (m e : Nat) :
    RoundsTo (m / 10 ^ e) (UnpackedFloat.ofScientific Format.binary64 m (-(e : Int))) := by
  have limit : (2 : Int) ^ Format.binary64.exponentBits = 2048 := rfl
  unfold UnpackedFloat.ofScientific
  rw [limit]
  by_cases zero : m = 0
  · rw [dif_pos zero, zero, Nat.cast_zero, zero_div]
    exact .zero
  have positive : 0 < m := Nat.pos_of_ne_zero zero
  rw [dif_neg zero, if_neg (by omega)]
  split
  · rename_i small
    exact .zero_of_tiny (by positivity) (decimal_lt_of_tiny (by omega))
  · split
    · obtain rfl : e = 0 := by omega
      have bits : Format.binary64.mantissaBits = 53 := rfl
      simp only [UnpackedFloat.mul, CharP.cast_eq_zero, neg_zero, Int.toNat_zero, pow_zero, mul_one,
        div_one, add_zero, bits]
      exact roundsTo_whole positive
    · have power : (- -(e : Int)).toNat = e := by omega
      have rounded := RoundsTo.div positive (show 0 < 10 ^ e by positivity) 0 0
      simp only [zpow_zero, mul_one, Nat.cast_pow, Nat.cast_ofNat] at rounded
      simp only [power]
      exact rounded

/-- The power of ten that a short decimal is divided by. -/
theorem powerOfTen_parts {e : Nat} (short : e < Float.exactlyRepresentablePowersOfTen.size) :
    Unsigned Float.exactlyRepresentablePowersOfTen[e].toModel.unpack ∧
      partsValue Float.exactlyRepresentablePowersOfTen[e].toModel.unpack = 10 ^ e :=
  ⟨unsigned_powersOfTen _ (Array.getElem_mem_toList short), powersOfTen_value ⟨e, short⟩⟩

theorem toFloat_parts {m : Nat} (fits : m < 2 ^ 53) :
    m.toUInt64.toFloat.toModel.unpack = UnpackedFloat.ofNat Format.binary64 m := by
  have same : m.toUInt64.toNat = m := by
    rw [Nat.toUInt64, UInt64.toNat_ofNat']
    omega
  change (Float.Model.pack (UnpackedFloat.ofNat Format.binary64 m.toUInt64.toNat)).unpack = _
  rw [same]
  exact unpack_pack (ofNat_parts fits).1

theorem roundsTo_quotient {m e : Nat} (fits : m < 2 ^ 53) {v : UnpackedFloat} (unsigned : Unsigned v)
    (value : partsValue v = 10 ^ e) : RoundsTo (m / 10 ^ e)
      (UnpackedFloat.div Format.binary64 (UnpackedFloat.ofNat Format.binary64 m) v) := by
  have power : 0 < partsValue v := by
    rw [value]
    positivity
  by_cases zero : m = 0
  · obtain ⟨m', e', positive', rfl, -⟩ := exists_positive unsigned power
    rw [zero, Nat.cast_zero, zero_div]
    exact .zero
  · obtain ⟨-, exact⟩ := ofNat_parts fits
    have positive : (0 : ℚ) < m := by exact_mod_cast Nat.pos_of_ne_zero zero
    have rounded := RoundsTo.div_parts (Unsigned.ofNat m) unsigned (by rwa [exact]) power
    rwa [exact, value] at rounded

end WorkedAlgebra.Rounding

namespace WorkedAlgebra

open Rounding Float.Model

/-- A decimal is rounded correctly. -/
theorem ofDecimal_roundsTo (m e : Nat) :
    ∃ u, RoundsTo (m / 10 ^ e) u ∧
      (Scalar.ofDecimal m e : Float) = Float.ofModel (Float.Model.pack u) := by
  change ∃ u, _ ∧ Float.ofScientific m true e = _
  unfold Float.ofScientific
  split
  · rename_i small
    refine ⟨_, ?_, rfl⟩
    obtain ⟨unsigned, value⟩ := powerOfTen_parts (e := e) (by
      simp [Float.exactlyRepresentablePowersOfTen]
      omega)
    rw [toFloat_parts small.1]
    exact roundsTo_quotient small.1 unsigned value
  · have rounded := roundsTo_ofScientific m e
    rw [show -(e : Int) = Int.negOfNat e from Int.negOfNat_eq.symm] at rounded
    exact ⟨_, rounded, rfl⟩

/-- Decimals with one value are one number. -/
theorem ofDecimal_congr {m e m' e' : Nat} (same : (m : ℚ) / 10 ^ e = m' / 10 ^ e') :
    (Scalar.ofDecimal m e : Float) = Scalar.ofDecimal m' e' := by
  obtain ⟨u, rounds, word⟩ := ofDecimal_roundsTo m e
  obtain ⟨u', rounds', word'⟩ := ofDecimal_roundsTo m' e'
  rw [same] at rounds
  rw [word, word', rounds.unique rounds']

/-- A decimal that differs from a stored number by less than one part in `2 · 10 ^ 16` is read as
that number. -/
theorem ofDecimal_of_close {x : Float} (finite : Scalar.isFinite x = true)
    (unsigned : Unsigned x.toModel.unpack) (positive : 0 < floatValue x) {m e : Nat}
    (close : 2 * 10 ^ 16 * |(m : ℚ) / 10 ^ e - floatValue x| ≤ floatValue x) :
    Scalar.ofDecimal m e = x := by
  obtain ⟨n, k, hn, parts, value⟩ := exists_positive unsigned positive
  have canonical : Canonical n k := by
    have stored := storable_unpack finite
    rwa [parts] at stored
  have power := two_zpow_pos k
  have fits : (n : ℚ) < 2 ^ 53 := by exact_mod_cast canonical.fits
  rw [floatValue, value] at close
  have digits : (n : ℚ) * 2 ^ k < 10 ^ 16 * 2 ^ k :=
    mul_lt_mul_of_pos_right (fits.trans (by norm_num)) power
  obtain ⟨u, rounds, word⟩ := ofDecimal_roundsTo m e
  have same := rounds.of_near canonical (by linarith) fun bottom => by
    rw [bottom] at close ⊢
    push_cast at close ⊢
    linarith
  rw [word, same, ← parts, ofParts_toModel]

end WorkedAlgebra
