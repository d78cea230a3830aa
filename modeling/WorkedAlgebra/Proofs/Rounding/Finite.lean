import WorkedAlgebra.Proofs.Rounding.Words

/-!
Results that are finite. Such a result is the exact one rounded, however large the operands are, so
no bound on their size is needed where finiteness is known.
-/

namespace WorkedAlgebra

namespace Rounding

open Float.Model Float.Model.UnpackedFloat

/-- Parts with a higher exponent are stored as an infinite number. -/
theorem isFinite_pack_of_high (s : Sign) {m : Nat} {e : Int} (positive : 0 < m) (high : 971 < e) :
    (Float.Model.pack (.finite s m e positive)).isFinite = false := by
  have field : 2047 ≤ (e + Format.binary64.exponentBias + (52 : Nat)).toNat := by
    have : (Format.binary64.exponentBias : Int) = 1023 := rfl
    omega
  have packed : UnpackedFloat.pack Format.binary64 (.finite s m e positive) =
      UnpackedFloat.pack Format.binary64 (.infinity s) := by
    simp only [UnpackedFloat.pack]
    rw [if_pos (by change 2048 ≤ _ + 1; omega)]
  have word : Float.Model.pack (.finite s m e positive) = Float.Model.pack (.infinity s) := by
    simp only [Float.Model.pack, packed]
  rw [word]
  exact isFinite_pack rfl

theorem Normalized.storable_of_isFinite {u : UnpackedFloat} (h : Normalized u)
    (finite : (Float.Model.pack u).isFinite = true) : Storable u := by
  cases u with
  | zero s => trivial
  | infinity s | notANumber => exact h.elim
  | finite s m e positive =>
      obtain ⟨fits, low, normal⟩ := h
      refine ⟨positive, fits, low, ?_, normal⟩
      by_contra high
      rw [isFinite_pack_of_high s positive (by omega)] at finite
      cases finite

/-- The largest stored number. -/
theorem Storable.abs_le {u : UnpackedFloat} (stored : Storable u) :
    |partsValue u| ≤ 2 ^ 1024 - 2 ^ 971 := by
  have top : (2 : ℚ) ^ 1024 = 2 ^ 53 * 2 ^ 971 := by rw [← pow_add]
  have steps : (2 : ℚ) ^ (971 : Int) = 2 ^ 971 := zpow_natCast 2 971
  have unit : (0 : ℚ) < 2 ^ 971 := by positivity
  rw [top, ← sub_one_mul]
  cases u with
  | zero s =>
      rw [show partsValue (.zero s) = 0 from rfl, abs_zero]
      exact mul_nonneg (by norm_num) unit.le
  | infinity s | notANumber => exact stored.elim
  | finite s m e positive =>
      have digits : (m : ℚ) ≤ 2 ^ 53 - 1 := by
        have : m + 1 ≤ 2 ^ 53 := stored.fits
        have : ((m + 1 : Nat) : ℚ) ≤ (2 ^ 53 : Nat) := by exact_mod_cast this
        push_cast at this
        linarith
      have longest : (2 : ℚ) ^ e ≤ 2 ^ 971 :=
        steps ▸ zpow_le_zpow_right₀ (by norm_num) stored.high
      rw [abs_partsValue]
      exact mul_le_mul digits longest (two_zpow_pos e).le (by norm_num)

end Rounding

open Rounding Scalar Float.Model

namespace Denotes

variable {x y : Float} {p q : ℚ}

theorem of_finite {u : UnpackedFloat} (word : x = Float.ofModel (Float.Model.pack u))
    (normalized : Normalized u) (rounded : Rounded q (partsValue u)) (finite : isFinite x = true) :
    ∃ v, Denotes x v ∧ Rounded q v := by
  subst word
  exact ⟨_, ofParts (normalized.storable_of_isFinite finite), rounded⟩

theorem add_finite (hx : Denotes x p) (hy : Denotes y q) (finite : isFinite (x + y) = true) :
    ∃ v, Denotes (x + y) v ∧ Rounded (p + q) v := by
  obtain ⟨u, word, normalized, rounded⟩ := hx.add_parts hy
  exact of_finite word normalized rounded finite

theorem sub_finite (hx : Denotes x p) (hy : Denotes y q) (finite : isFinite (x - y) = true) :
    ∃ v, Denotes (x - y) v ∧ Rounded (p - q) v := by
  obtain ⟨u, word, normalized, rounded⟩ := hx.sub_parts hy
  exact of_finite word normalized rounded finite

theorem mul_finite (hx : Denotes x p) (hy : Denotes y q) (finite : isFinite (x * y) = true) :
    ∃ v, Denotes (x * y) v ∧ Rounded (p * q) v := by
  obtain ⟨u, word, normalized, rounded⟩ := hx.mul_parts hy
  exact of_finite word normalized rounded finite

theorem abs_le (h : Denotes x p) : |p| ≤ 2 ^ 1024 - 2 ^ 971 := h.value ▸ h.stored.abs_le

/-- One more than a finite number does not overflow. -/
theorem one_add (h : Denotes x p) (nonneg : 0 ≤ p) :
    ∃ v, Denotes (one + x) v ∧ Rounded (1 + p) v := by
  have below : |1 + p| < overflowThreshold := by
    have bound := h.abs_le
    have half : (2 : ℚ) ^ 971 = 2 ^ 970 * 2 := pow_succ 2 970
    have unit : (1 : ℚ) < 2 ^ 970 := one_lt_pow₀ (by norm_num) (by norm_num)
    rw [abs_of_nonneg nonneg, half] at bound
    rw [abs_of_nonneg (by linarith), overflowThreshold]
    generalize (2 : ℚ) ^ 1024 = top at bound ⊢
    generalize (2 : ℚ) ^ 970 = step at bound unit ⊢
    linarith
  obtain ⟨u, word, rounded⟩ := denotes_one.add_parts h
  exact word ▸ ofRounded rounded below

end Denotes

/-- What is at most a finite number in magnitude is finite. -/
theorem isFinite_of_abs_le {x y : Float} (finite : isFinite y = true)
    (within : le (Scalar.abs x) y = true) : isFinite x = true := by
  have order : le (Scalar.abs x) y =
      ((Scalar.abs x).toModel.unpack.compare y.toModel.unpack).any (·.isLE) := Bool.decide_eq_true
  cases parts : x.toModel.unpack with
  | zero s | finite s m e positive =>
      change x.toModel.unpack.isFinite = true
      rw [parts]
      rfl
  | notANumber =>
      have none : (Scalar.abs x).toModel.unpack = .notANumber := by
        change (Float.Model.pack x.toModel.unpack.abs).unpack = _
        rw [parts]
        rfl
      rw [order, none] at within
      cases within
  | infinity s =>
      have infinite : (Scalar.abs x).toModel.unpack = .infinity .positive := by
        change (Float.Model.pack x.toModel.unpack.abs).unpack = _
        rw [parts]
        cases s <;> rfl
      rw [order, infinite] at within
      rcases finite_parts finite with ⟨t, parts'⟩ | ⟨t, m, e, positive, parts'⟩ <;>
      · rw [parts'] at within
        cases within

end WorkedAlgebra
