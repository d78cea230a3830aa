import WorkedAlgebra.Proofs.DecimalTexts
import WorkedAlgebra.Proofs.Rounding.Decoded

/-!
The shortest decimal of a number reads back as that number. The search always succeeds: on the grid
of seventeen digits the nearer neighbour of the number is close enough to be read as it.
-/

namespace WorkedAlgebra

open Rounding Float.Model

namespace Decimal

namespace Ratio

def value (r : Ratio) : ℚ := r.num / r.den

variable {r : Ratio}

theorem value_shift (positive : 0 < r.den) (k : Int) :
    0 < (r.shift k).den ∧ (r.shift k).value = r.value * 10 ^ k := by
  unfold shift value
  split
  · rename_i up
    obtain ⟨n, rfl⟩ := Int.eq_ofNat_of_zero_le up
    refine ⟨positive, ?_⟩
    rw [Int.natAbs_natCast, zpow_natCast, Nat.pow_eq]
    push_cast
    ring
  · rename_i down
    obtain ⟨n, rfl⟩ : ∃ n : Nat, k = -(n : Int) := ⟨k.natAbs, by omega⟩
    refine ⟨Nat.mul_pos positive (Nat.pow_pos (by decide)), ?_⟩
    rw [Int.natAbs_neg, Int.natAbs_natCast, zpow_neg, zpow_natCast, Nat.pow_eq]
    push_cast
    rw [← div_div, div_eq_mul_inv]

theorem value_ofBinary64 (b : Binary64) :
    0 < (ofBinary64 b).den ∧ (ofBinary64 b).value = b.magnitude := by
  unfold ofBinary64 value Binary64.magnitude
  split
  · rename_i up
    obtain ⟨n, exponent⟩ := Int.eq_ofNat_of_zero_le up
    refine ⟨Nat.one_pos, ?_⟩
    rw [exponent, Int.natAbs_natCast, zpow_natCast, Nat.shiftLeft_eq]
    push_cast
    rw [div_one]
  · rename_i down
    obtain ⟨n, exponent⟩ : ∃ n : Nat, b.exponent = -(n : Int) := ⟨b.exponent.natAbs, by omega⟩
    rw [exponent, Int.natAbs_neg, Int.natAbs_natCast, zpow_neg, zpow_natCast, Nat.one_shiftLeft]
    refine ⟨by positivity, ?_⟩
    push_cast
    rw [div_eq_mul_inv]

theorem lt_pow_width (n : Nat) : n < 10 ^ width n := by
  unfold width
  split
  · omega
  · exact (Nat.length_toDigits_le_iff (by decide) Nat.length_toDigits_pos).mp le_rfl

theorem pow_width_le {n : Nat} (positive : 0 < n) : 10 ^ (width n - 1) ≤ n := by
  unfold width
  rw [if_neg positive.ne']
  rcases Nat.eq_zero_or_pos ((Nat.toDigits 10 n).length - 1) with one | more
  · rw [one]
    exact positive
  · by_contra short
    have := (Nat.length_toDigits_le_iff (by decide) more).mpr (not_le.mp short)
    omega

/-- The magnitude of a ratio is not too large. -/
theorem pow_magnitude_le (positive : 0 < r.num) (positive' : 0 < r.den) :
    (10 : ℚ) ^ (r.magnitude - 1) ≤ r.value := by
  have den : (0 : ℚ) < r.den := by exact_mod_cast positive'
  unfold magnitude value
  split
  · rename_i whole
    have quotient : 0 < r.num / r.den := Nat.div_pos whole positive'
    have digits : 0 < width (r.num / r.den) := by
      rw [width, if_neg quotient.ne']
      exact Nat.length_toDigits_pos
    have exponent : ((width (r.num / r.den) : Nat) : Int) - 1 =
        ((width (r.num / r.den) - 1 : Nat) : Int) := by omega
    have power : (10 : ℚ) ^ (width (r.num / r.den) - 1) ≤ ((r.num / r.den : Nat) : ℚ) := by
      exact_mod_cast pow_width_le quotient
    rw [exponent, zpow_natCast]
    exact power.trans Nat.cast_div_le
  · have bound : (r.den - 1) / r.num < 10 ^ width ((r.den - 1) / r.num) := lt_pow_width _
    obtain ⟨w, hw⟩ : ∃ w, width ((r.den - 1) / r.num) = w := ⟨_, rfl⟩
    rw [hw] at bound ⊢
    have scaled : r.den ≤ r.num * 10 ^ w := by
      have := (Nat.div_lt_iff_lt_mul positive).mp bound
      rw [Nat.mul_comm] at this
      omega
    have exponent : (1 : Int) - (w : Int) - 1 = -(w : Int) := by omega
    rw [exponent, zpow_neg, zpow_natCast, inv_le_iff_one_le_mul₀ (by positivity), ← mul_div_right_comm,
      le_div_iff₀ den, one_mul]
    exact_mod_cast scaled

end Ratio

variable {tie : Tie} {r : Ratio} {x : Float}

/-- Of the two neighbours of a ratio among the natural numbers the nearer one is first. -/
theorem nearer_half {num den : Nat} (positive : 0 < den) {near : Nat}
    (lower : (2 * near) * den ≤ 2 * num + den) (upper : 2 * num ≤ (2 * near + 1) * den) :
    2 * |(near : ℚ) - num / den| ≤ 1 := by
  have step : (0 : ℚ) < den := by exact_mod_cast positive
  have lower' : (2 * (near : ℚ)) * den ≤ 2 * num + den := by exact_mod_cast lower
  have upper' : 2 * (num : ℚ) ≤ (2 * near + 1) * den := by exact_mod_cast upper
  have quotient : (num : ℚ) / den * den = num := div_mul_cancel₀ _ step.ne'
  have apart : |(near : ℚ) - num / den| ≤ 1 / 2 := by
    refine abs_le.mpr ⟨le_of_mul_le_mul_right ?_ step, le_of_mul_le_mul_right ?_ step⟩
    · rw [sub_mul, quotient]
      linarith
    · rw [sub_mul, quotient]
      linarith
  linarith

/-- The neighbour that is preferred is at most half a step away. -/
theorem neighbours_near (tie : Tie) (positive : 0 < r.den) (k : Int) :
    ∃ d rest, neighbours tie r k = d :: rest ∧ 2 * |d.value - r.value| ≤ 10 ^ k := by
  obtain ⟨scaled, hs⟩ : ∃ s, r.shift (-k) = s := ⟨_, rfl⟩
  obtain ⟨den, ratio⟩ := Ratio.value_shift positive (-k)
  rw [hs] at den ratio
  have power : (0 : ℚ) < 10 ^ k := zpow_pos (by norm_num) k
  have value : r.value = scaled.value * 10 ^ k := by
    rw [ratio, mul_assoc, zpow_neg, inv_mul_cancel₀ power.ne', mul_one]
  have below : scaled.num / scaled.den * scaled.den ≤ scaled.num := Nat.div_mul_le_self _ _
  have above : scaled.num < (scaled.num / scaled.den + 1) * scaled.den :=
    Nat.lt_mul_of_div_lt (Nat.lt_succ_self _) den
  have close {n : Nat} (near : 2 * |(n : ℚ) - scaled.value| ≤ 1) :
      2 * |(⟨n, k⟩ : Decimal).value - r.value| ≤ 10 ^ k := by
    rw [value, Decimal.value, ← sub_mul, abs_mul, abs_of_pos power, ← mul_assoc]
    exact mul_le_of_le_one_left power.le near
  unfold neighbours
  rw [hs]
  dsimp only
  split
  · rename_i lower
    have half : 2 * scaled.num ≤ (2 * (scaled.num / scaled.den) + 1) * scaled.den := by
      simp only [Bool.or_eq_true, Bool.and_eq_true, decide_eq_true_eq] at lower
      exact lower.elim Nat.le_of_lt fun tied => tied.1.le
    exact ⟨_, _, rfl, close (nearer_half den (by nlinarith) half)⟩
  · rename_i upper
    have half : (2 * (scaled.num / scaled.den) + 1) * scaled.den ≤ 2 * scaled.num := by
      simp only [Bool.or_eq_true, decide_eq_true_eq, not_or] at upper
      exact not_lt.mp upper.1
    exact ⟨_, _, rfl, close (nearer_half den (by nlinarith) (by nlinarith))⟩

/-- What a search finds reads back. -/
theorem search_found {k : Int} {grids : Nat} {d : Decimal}
    (found : search tie x r k grids = some d) : (d.toFloat == x) = true := by
  induction grids generalizing k with
  | zero => cases found
  | succ grids ih =>
      rw [search] at found
      split at found
      · rename_i here
        cases found
        have reads := List.find?_some here
        exact reads
      · exact ih found

/-- A search that fails has tried all grids. -/
theorem search_none {k : Int} {grids : Nat} (failed : search tie x r k grids = none) :
    ∀ i < grids, ∀ d ∈ neighbours tie r (k - i), (d.toFloat == x) = false := by
  induction grids generalizing k with
  | zero => exact fun i less => absurd less (Nat.not_lt_zero i)
  | succ grids ih =>
      rw [search] at failed
      split at failed
      · cases failed
      · rename_i here
        intro i less d mem
        cases i with
        | zero =>
            rw [Nat.cast_zero, sub_zero] at mem
            exact Bool.eq_false_iff.mpr (List.find?_eq_none.mp here d mem)
        | succ i =>
            refine ih failed i (by omega) d ?_
            rwa [show k - 1 - (i : Int) = k - ((i + 1 : Nat) : Int) by push_cast; ring]

theorem toFloat_dropZero (d : Decimal) : (dropZero d).toFloat = d.toFloat := by
  unfold dropZero
  split
  · rename_i zero
    refine toFloat_congr ?_
    have digits : ((d.digits / 10 : Nat) : ℚ) * 10 = d.digits := by
      exact_mod_cast Nat.div_mul_cancel (Nat.dvd_of_mod_eq_zero zero)
    rw [Decimal.value, Decimal.value, zpow_add_one₀ (by norm_num), ← digits]
    ring
  · rfl

theorem unsigned_toFloat (d : Decimal) : Unsigned d.toFloat.toModel.unpack := by
  obtain ⟨m, e, written⟩ := d.exists_numeral
  rw [← ofDecimal_eq_toFloat written]
  exact unsigned_ofDecimal m e

/-- On the grid of seventeen digits the neighbour that is preferred reads back. -/
theorem neighbour_reads (tie : Tie) (finite : Scalar.isFinite x = true)
    (unsigned : Unsigned x.toModel.unpack) (num : 0 < r.num) (den : 0 < r.den)
    (value : r.value = floatValue x) :
    ∃ d ∈ neighbours tie r (r.magnitude - 17), d.toFloat = x := by
  obtain ⟨d, rest, first, near⟩ := neighbours_near tie den (r.magnitude - 17)
  refine ⟨d, by rw [first]; exact List.mem_cons_self, ?_⟩
  have bottom := Ratio.pow_magnitude_le num den
  have ten : (10 : ℚ) ^ (r.magnitude - 1) = 10 ^ 16 * 10 ^ (r.magnitude - 17) := by
    rw [show r.magnitude - 1 = ((16 : Nat) : Int) + (r.magnitude - 17) by push_cast; ring,
      zpow_add₀ (by norm_num), zpow_natCast]
  have positive : 0 < floatValue x := by
    rw [← value]
    exact div_pos (by exact_mod_cast num) (by exact_mod_cast den)
  obtain ⟨m, e, written⟩ := d.exists_numeral
  rw [← ofDecimal_eq_toFloat written]
  refine ofDecimal_of_close finite unsigned positive ?_
  rw [written, ← value]
  linarith

/-- The shortest decimal of a number that is not negative reads back as the number. -/
theorem shortest_toFloat (tie : Tie) (finite : Scalar.isFinite x = true)
    (unsigned : Unsigned x.toModel.unpack) : (shortest tie x).toFloat = x := by
  obtain ⟨den, value⟩ := Ratio.value_ofBinary64 (Binary64.ofFloat x)
  rw [← (ofFloat_decodes finite).1, abs_of_nonneg (floatValue_nonneg unsigned)] at value
  obtain ⟨r, hr⟩ : ∃ r, Ratio.ofBinary64 (Binary64.ofFloat x) = r := ⟨_, rfl⟩
  rw [hr] at den value
  unfold shortest
  rw [hr]
  dsimp only
  split
  · rename_i zero
    rw [Ratio.value, zero, Nat.cast_zero, zero_div] at value
    exact (eq_zero_of_value finite unsigned value.symm).symm
  · rename_i nonzero
    obtain ⟨d, mem, reads⟩ := neighbour_reads tie finite unsigned (Nat.pos_of_ne_zero nonzero) den value
    cases found : search tie x r (r.magnitude - 1) 17 with
    | some d' =>
        have back := search_found found
        rw [Option.orElse_some, Option.map_some, Option.getD_some, toFloat_dropZero]
        exact eq_of_unsigned finite unsigned (unsigned_toFloat d') back
    | none =>
        have missed := search_none found 16 (by decide) d (by
          rwa [show r.magnitude - 1 - ((16 : Nat) : Int) = r.magnitude - 17 by push_cast; ring])
        rw [reads] at missed
        cases missed.symm.trans (eq_self finite)

end Decimal

end WorkedAlgebra
