import WorkedAlgebra.Proofs.Rounding.Finite

/-!
Error bounds of computed numbers. A sum, difference or product of magnitude at most `m` is off by
at most `slack m`, besides what its operands are off.
-/

namespace WorkedAlgebra

open Rounding

/-- The error of one operation whose result has a magnitude of at most `m`. -/
def slack (m : ℚ) : ℚ := 2 ^ (-53 : Int) * m + 2 ^ (-1075 : Int)

def Near (x : Float) (q ε : ℚ) : Prop := ∃ v, Denotes x v ∧ |v - q| ≤ ε

theorem near_iff {x : Float} {q ε : ℚ} :
    Near x q ε ↔ Scalar.isFinite x = true ∧ |floatValue x - q| ≤ ε := by
  constructor
  · rintro ⟨v, denotes, near⟩
    exact ⟨denotes.finite, denotes.value.symm ▸ near⟩
  · rintro ⟨finite, near⟩
    exact ⟨_, denotes_value finite, near⟩

instance (x : Float) (q ε : ℚ) : Decidable (Near x q ε) := decidable_of_iff _ near_iff.symm

theorem slack_nonneg {m : ℚ} (nonneg : 0 ≤ m) : 0 ≤ slack m :=
  add_nonneg (mul_nonneg (two_zpow_pos _).le nonneg) (two_zpow_pos _).le

theorem Denotes.near {x : Float} {q : ℚ} (h : Denotes x q) : Near x q 0 :=
  ⟨q, h, by rw [sub_self, abs_zero]⟩

namespace Near

variable {x y : Float} {p q ε η m : ℚ}

theorem finite (h : Near x p ε) : Scalar.isFinite x = true := by
  obtain ⟨v, denotes, -⟩ := h
  exact denotes.finite

theorem nonneg (h : Near x p ε) : 0 ≤ ε := by
  obtain ⟨v, -, near⟩ := h
  exact (abs_nonneg _).trans near

theorem mono (h : Near x p ε) (le : ε ≤ η) : Near x p η := by
  obtain ⟨v, denotes, near⟩ := h
  exact ⟨v, denotes, near.trans le⟩

theorem abs_le {v : ℚ} (near : |v - p| ≤ ε) : |v| ≤ |p| + ε := by
  calc |v| = |p + (v - p)| := by rw [add_sub_cancel]
    _ ≤ |p| + |v - p| := abs_add_le p (v - p)
    _ ≤ |p| + ε := add_le_add_right near _

/-- A result of bounded magnitude that was rounded. -/
theorem of_rounded {v r e : ℚ} (denotes : Denotes x r) (rounded : Rounded v r)
    (bound : |v| ≤ m) (near : |v - q| ≤ e) : Near x q (e + slack m) := by
  refine ⟨r, denotes, ?_⟩
  have relative : (2 : ℚ) ^ (-53 : Int) * |v| ≤ 2 ^ (-53 : Int) * m :=
    mul_le_mul_of_nonneg_left bound (two_zpow_pos _).le
  calc |r - q| = |(r - v) + (v - q)| := by rw [sub_add_sub_cancel]
    _ ≤ |r - v| + |v - q| := abs_add_le _ _
    _ ≤ slack m + e := add_le_add (rounded.error.trans (add_le_add_left relative _)) near
    _ = e + slack m := add_comm _ _

section Operations

variable (hx : Near x p ε) (hy : Near y q η)

include hx hy

theorem add (bound : |p + q| + (ε + η) ≤ m)
    (stored : m < 2 ^ (1023 : Int) ∨ Scalar.isFinite (x + y) = true) :
    Near (x + y) (p + q) (ε + η + slack m) := by
  obtain ⟨v, hv, nearX⟩ := hx
  obtain ⟨w, hw, nearY⟩ := hy
  have near : |v + w - (p + q)| ≤ ε + η := by
    rw [add_sub_add_comm]
    exact (abs_add_le _ _).trans (add_le_add nearX nearY)
  have size : |v + w| ≤ m := (abs_le near).trans bound
  obtain ⟨r, denotes, rounded⟩ := stored.elim (fun small => hv.add hw (size.trans_lt small))
    (hv.add_finite hw)
  exact of_rounded denotes rounded size near

theorem sub (bound : |p - q| + (ε + η) ≤ m)
    (stored : m < 2 ^ (1023 : Int) ∨ Scalar.isFinite (x - y) = true) :
    Near (x - y) (p - q) (ε + η + slack m) := by
  obtain ⟨v, hv, nearX⟩ := hx
  obtain ⟨w, hw, nearY⟩ := hy
  have near : |v - w - (p - q)| ≤ ε + η := by
    rw [sub_sub_sub_comm]
    exact (abs_sub _ _).trans (add_le_add nearX nearY)
  have size : |v - w| ≤ m := (abs_le near).trans bound
  obtain ⟨r, denotes, rounded⟩ := stored.elim (fun small => hv.sub hw (size.trans_lt small))
    (hv.sub_finite hw)
  exact of_rounded denotes rounded size near

end Operations

theorem mul (hx : Near x p ε) (hy : Denotes y q) (bound : |p * q| + ε * |q| ≤ m)
    (stored : m < 2 ^ (1023 : Int) ∨ Scalar.isFinite (x * y) = true) :
    Near (x * y) (p * q) (ε * |q| + slack m) := by
  obtain ⟨v, hv, nearX⟩ := hx
  have near : |v * q - p * q| ≤ ε * |q| := by
    rw [← sub_mul, abs_mul]
    exact mul_le_mul_of_nonneg_right nearX (abs_nonneg q)
  have size : |v * q| ≤ m := (abs_le near).trans bound
  obtain ⟨r, denotes, rounded⟩ := stored.elim (fun small => hv.mul hy (size.trans_lt small))
    (hv.mul_finite hy)
  exact of_rounded denotes rounded size near

end Near
end WorkedAlgebra
