import WorkedAlgebra.Proofs.Rounding.Denoted

/-!
Arithmetic without rounding. Numbers on a common grid of multiples of `2 ^ (-s)` add, subtract,
multiply and divide exactly as long as the results stay on a grid and have at most 53 digits.
-/

namespace WorkedAlgebra

open Rounding

/-- At most `limit` steps of the grid `2 ^ (-s)` away from zero. -/
def OnGrid (s limit : Nat) (q : ℚ) : Prop := ∃ n : Int, |n| ≤ limit ∧ q = n / 2 ^ s

theorem onGrid_iff {s limit : Nat} {q : ℚ} :
    OnGrid s limit q ↔ (q * 2 ^ s).den = 1 ∧ |(q * 2 ^ s).num| ≤ limit := by
  have power : (2 : ℚ) ^ s ≠ 0 := by positivity
  constructor
  · rintro ⟨n, bound, rfl⟩
    rw [div_mul_cancel₀ _ power]
    exact ⟨Rat.den_intCast n, by rwa [Rat.num_intCast]⟩
  · rintro ⟨whole, bound⟩
    refine ⟨_, bound, ?_⟩
    rw [Rat.coe_int_num_of_den_eq_one whole, mul_div_cancel_right₀ _ power]

instance (s limit : Nat) (q : ℚ) : Decidable (OnGrid s limit q) :=
  decidable_of_iff _ onGrid_iff.symm

namespace OnGrid

variable {s t a b : Nat} {p q : ℚ}

theorem mono (h : OnGrid s a p) (le : a ≤ b) : OnGrid s b p := by
  obtain ⟨n, bound, value⟩ := h
  exact ⟨n, bound.trans (by exact_mod_cast le), value⟩

theorem neg (h : OnGrid s a p) : OnGrid s a (-p) := by
  obtain ⟨n, bound, value⟩ := h
  exact ⟨-n, by rwa [abs_neg], by rw [value]; push_cast; ring⟩

theorem add (hp : OnGrid s a p) (hq : OnGrid s b q) : OnGrid s (a + b) (p + q) := by
  obtain ⟨n, bound, rfl⟩ := hp
  obtain ⟨k, bound', rfl⟩ := hq
  refine ⟨n + k, (abs_add_le n k).trans ?_, by push_cast; ring⟩
  push_cast
  exact add_le_add bound bound'

theorem sub (hp : OnGrid s a p) (hq : OnGrid s b q) : OnGrid s (a + b) (p - q) := by
  rw [sub_eq_add_neg]
  exact hp.add hq.neg

theorem mul (hp : OnGrid s a p) (hq : OnGrid t b q) : OnGrid (s + t) (a * b) (p * q) := by
  obtain ⟨n, bound, rfl⟩ := hp
  obtain ⟨k, bound', rfl⟩ := hq
  refine ⟨n * k, ?_, by push_cast; rw [pow_add]; ring⟩
  rw [abs_mul]
  push_cast
  exact mul_le_mul bound bound' (abs_nonneg k) (by positivity)

/-- The grid of four times as many points. -/
theorem refine_two (h : OnGrid s a p) : OnGrid (s + 2) (4 * a) p := by
  obtain ⟨n, bound, rfl⟩ := h
  refine ⟨4 * n, ?_, by push_cast; rw [pow_add]; ring⟩
  rw [abs_mul]
  push_cast
  norm_num
  exact bound

theorem one (limit : 2 ^ s ≤ a) : OnGrid s a 1 := by
  refine ⟨2 ^ s, ?_, by push_cast; field_simp⟩
  rw [abs_of_pos (by positivity)]
  exact_mod_cast limit

theorem abs_le (h : OnGrid s a p) : |p| ≤ a / 2 ^ s := by
  obtain ⟨n, bound, rfl⟩ := h
  rw [abs_div, abs_of_pos (by positivity : (0 : ℚ) < 2 ^ s)]
  exact div_le_div_of_nonneg_right (by exact_mod_cast bound) (by positivity)

/-- Numbers of a grid other than zero are at least one step away from it. -/
theorem eq_zero_of_abs_lt (h : OnGrid s a p) (near : |p| < 1 / 2 ^ s) : p = 0 := by
  obtain ⟨n, -, rfl⟩ := h
  rw [abs_div, abs_of_pos (by positivity : (0 : ℚ) < 2 ^ s),
    div_lt_div_iff_of_pos_right (by positivity), ← Int.cast_abs] at near
  have none : n = 0 := Int.abs_lt_one_iff.mp (by exact_mod_cast near)
  rw [none, Int.cast_zero, zero_div]

theorem representable (h : OnGrid s (2 ^ 53) p) (fine : s ≤ 1074) : Representable p := by
  obtain ⟨n, bound, rfl⟩ := h
  refine ⟨n, -s, by exact_mod_cast bound, by omega, ?_⟩
  rw [zpow_neg, zpow_natCast, div_eq_mul_inv]

theorem lt_two_zpow (h : OnGrid s (2 ^ 53) p) {k : Int} (large : 53 < k) : |p| < 2 ^ k := by
  have power : (1 : ℚ) ≤ 2 ^ s := one_le_pow₀ (by norm_num)
  refine h.abs_le.trans_lt ?_
  calc ((2 ^ 53 : Nat) : ℚ) / 2 ^ s ≤ (2 ^ 53 : Nat) := div_le_self (by positivity) power
    _ = 2 ^ (53 : Int) := by norm_num
    _ < 2 ^ k := zpow_lt_zpow_right₀ (by norm_num) large

end OnGrid

namespace Denotes

variable {x y : Float} {p q : ℚ} {s : Nat}

theorem add_exact (hx : Denotes x p) (hy : Denotes y q) (grid : OnGrid s (2 ^ 53) (p + q))
    (fine : s ≤ 1074) : Denotes (x + y) (p + q) := by
  obtain ⟨v, denotes, rounded⟩ := hx.add hy (grid.lt_two_zpow (by norm_num))
  rwa [rounded.eq_of_representable (grid.representable fine)] at denotes

theorem sub_exact (hx : Denotes x p) (hy : Denotes y q) (grid : OnGrid s (2 ^ 53) (p - q))
    (fine : s ≤ 1074) : Denotes (x - y) (p - q) := by
  obtain ⟨v, denotes, rounded⟩ := hx.sub hy (grid.lt_two_zpow (by norm_num))
  rwa [rounded.eq_of_representable (grid.representable fine)] at denotes

theorem mul_exact (hx : Denotes x p) (hy : Denotes y q) (grid : OnGrid s (2 ^ 53) (p * q))
    (fine : s ≤ 1074) : Denotes (x * y) (p * q) := by
  obtain ⟨v, denotes, rounded⟩ := hx.mul hy (grid.lt_two_zpow (by norm_num))
  rwa [rounded.eq_of_representable (grid.representable fine)] at denotes

theorem div_exact (hx : Denotes x p) (hy : Denotes y q) (nonzero : q ≠ 0)
    (grid : OnGrid s (2 ^ 53) (p / q)) (fine : s ≤ 1074) : Denotes (x / y) (p / q) := by
  obtain ⟨v, denotes, rounded⟩ := hx.div hy nonzero (grid.lt_two_zpow (by norm_num))
  rwa [rounded.eq_of_representable (grid.representable fine)] at denotes

end Denotes
end WorkedAlgebra
