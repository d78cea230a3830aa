import WorkedAlgebra.Proofs.ExactReading
import WorkedAlgebra.Proofs.TestMargins

/-!
Sides whose difference probing discerns: it is computed with known errors at the probe points, and
bends there visibly or not at all. Such a difference passes the affine test only if it is that of a
line in exact arithmetic. Where probing does not round at all, and meets numbers of moderate length
only, every difference is discerned.
-/

namespace WorkedAlgebra.Probe

open Rounding Scalar

def exactSlope (probe : Probe Float) (at_ : ℚ → Char → ℚ) : ℚ :=
  probe.exactDifference (at_ 1) - probe.exactDifference (at_ 0)

/-- At the probe points `f` is the difference of the sides up to errors of at most `error`, the
exact difference is at most `size`, and its bends are none or beyond their margin. -/
structure Discerned (probe : Probe Float) (f : Float → Float) (at_ : ℚ → Char → ℚ)
    (size error : ℚ) : Prop where
  defined : ∀ t ∈ exactPoints, probe.DefinedAt (at_ t)
  near : NearAt f (fun t => probe.exactDifference (at_ t)) error
  bounded : ∀ t ∈ exactPoints, |probe.exactDifference (at_ t)| ≤ size
  bends : ∀ t ∈ exactPoints,
    Clear (bendMargin size error) (bend (fun t => probe.exactDifference (at_ t)) t)

theorem discerned_iff {probe : Probe Float} {f : Float → Float} {at_ : ℚ → Char → ℚ}
    {size error : ℚ} :
    probe.Discerned f at_ size error ↔
      (∀ t ∈ exactPoints, probe.DefinedAt (at_ t)) ∧
        NearAt f (fun t => probe.exactDifference (at_ t)) error ∧
          (∀ t ∈ exactPoints, |probe.exactDifference (at_ t)| ≤ size) ∧
            ∀ t ∈ exactPoints,
              Clear (bendMargin size error) (bend (fun t => probe.exactDifference (at_ t)) t) :=
  ⟨fun ⟨defined, near, bounded, bends⟩ => ⟨defined, near, bounded, bends⟩,
    fun ⟨defined, near, bounded, bends⟩ => ⟨defined, near, bounded, bends⟩⟩

instance (probe : Probe Float) (f : Float → Float) (at_ : ℚ → Char → ℚ) (size error : ℚ) :
    Decidable (probe.Discerned f at_ size error) :=
  decidable_of_iff _ discerned_iff.symm

namespace Discerned

variable {probe : Probe Float} {f : Float → Float} {at_ : ℚ → Char → ℚ} {size error : ℚ}
  (discerned : probe.Discerned f at_ size error) {slope : Float}

include discerned

theorem error_nonneg : 0 ≤ error := discerned.near.atZero.nonneg

/-- Only the difference of a line passes the affine test. -/
theorem line (passed : affineSlope f = some slope) {t : ℚ} (ht : t ∈ exactPoints) :
    ∃ l r, probe.ExactAt (at_ t) l r ∧
      l - r = probe.exactDifference (at_ 0) + probe.exactSlope at_ * t := by
  obtain ⟨l, r, exact⟩ := discerned.defined t ht
  refine ⟨l, r, exact, ?_⟩
  rw [← exact.difference]
  exact sub_eq_zero.mp ((discerned.bends t ht).eq_zero
    (discerned.near.abs_bend_le discerned.bounded passed ht))

theorem nearSlope (passed : affineSlope f = some slope) :
    Near slope (probe.exactSlope at_) (slopeError (probe.exactSlope at_) error) :=
  discerned.near.nearSlope passed

end Discerned

section Grid

/-- The numbers of the grid `2 ^ (-s)` that probing meets have 25 digits at most. -/
def stepLimit : Nat := 2 ^ 25

variable {s : Nat}

/-- Quarters of a step are enough for the probe points. -/
theorem onGrid_exactPoint {t : ℚ} (h : t ∈ exactPoints) : OnGrid 2 13 t := by
  simp only [exactPoints, List.mem_cons, List.not_mem_nil, or_false] at h
  rcases h with rfl | rfl | rfl | rfl | rfl
  · exact ⟨0, by norm_num, by norm_num⟩
  · exact ⟨4, by norm_num [abs_le], by norm_num⟩
  · exact ⟨8, by norm_num [abs_le], by norm_num⟩
  · exact ⟨-6, by norm_num [abs_le], by norm_num⟩
  · exact ⟨13, by norm_num [abs_le], by norm_num⟩

theorem clear_of_onGrid {margin q : ℚ} {limit : Nat} (grid : OnGrid s limit q)
    (less : margin < 1 / 2 ^ s) : Clear margin q := by
  by_cases near : |q| < 1 / 2 ^ s
  · exact .inl (grid.eq_zero_of_abs_lt near)
  · exact .inr (less.trans_le (not_lt.mp near))

theorem step_ge (high : s ≤ 23) : (1 : ℚ) / 2 ^ 23 ≤ 1 / 2 ^ s :=
  one_div_le_one_div_of_le (by positivity) (pow_le_pow_right₀ (by norm_num) high)

theorem bendMargin_lt_step (high : s ≤ 23) : bendMargin (2 ^ 26 / 2 ^ s) 0 < 1 / 2 ^ (s + 2) := by
  have unit := step_ge high
  rw [bendMargin, pow_add, ← mul_one_div ((2 : ℚ) ^ 26), ← one_div_mul_one_div]
  linarith

theorem slopeMargin_lt_step (high : s ≤ 23) {a : ℚ} (grid : OnGrid s (2 ^ 27) a) :
    slopeMargin a 0 < 1 / 2 ^ s := by
  have unit := step_ge high
  have bound := grid.abs_le
  push_cast at bound
  rw [← mul_one_div] at bound
  rw [slopeMargin]
  linarith

/-- Bends of values on the grid lie on the grid of quarter steps. -/
theorem onGrid_bend {d : ℚ → ℚ}
    (values : ∀ t ∈ exactPoints, OnGrid s (stepLimit + stepLimit) (d t)) {t : ℚ}
    (ht : t ∈ exactPoints) : OnGrid (s + 2) (2 ^ 33) (bend d t) := by
  have gridZero := values 0 (by simp [exactPoints])
  have gridSlope := (values 1 (by simp [exactPoints])).sub gridZero
  have gridProduct := gridSlope.mul (onGrid_exactPoint ht)
  exact ((values t ht).refine_two.sub (gridZero.refine_two.add gridProduct)).mono (by decide)

variable {probe : Probe Float} {at_ : ℚ → Char → ℚ} {b : Float → Bindings Float}
  (bound : ∀ p t, Denotes p t → ∀ c v, b p c = some v → Denotes v (at_ t c))
  (settled : ∀ t ∈ exactPoints, probe.SettledAt s stepLimit (at_ t))
  (finite : ∀ p ∈ points, isFinite (probe.difference (b p)) = true)

include bound settled finite

/-- Settled sides are probed without rounding. -/
theorem settled_values (high : s ≤ 23) {t : ℚ} (ht : t ∈ exactPoints) :
    probe.DefinedAt (at_ t) ∧ OnGrid s (stepLimit + stepLimit) (probe.exactDifference (at_ t)) ∧
      ∀ p ∈ points, Denotes p t →
        Denotes (probe.difference (b p)) (probe.exactDifference (at_ t)) := by
  have values (p : Float) (mem : p ∈ points) (hp : Denotes p t) :=
    difference_exact (bound p t hp) (by decide) (by omega) (settled t ht) (finite p mem)
  obtain ⟨p, mem, hp⟩ := exists_point ht
  obtain ⟨l, r, exact, grid, -⟩ := values p mem hp
  refine ⟨⟨l, r, exact⟩, exact.difference ▸ grid, fun p mem hp => ?_⟩
  obtain ⟨l, r, exact, -, denotes⟩ := values p mem hp
  exact exact.difference ▸ denotes

theorem onGrid_exactSlope (high : s ≤ 23) : OnGrid s (2 ^ 27) (probe.exactSlope at_) := by
  obtain ⟨-, gridZero, -⟩ :=
    settled_values bound settled finite high (t := 0) (by simp [exactPoints])
  obtain ⟨-, gridOne, -⟩ :=
    settled_values bound settled finite high (t := 1) (by simp [exactPoints])
  exact (gridOne.sub gridZero).mono (by decide)

/-- The slope of settled sides is exact. -/
theorem settled_slope (high : s ≤ 23) {slope : Float}
    (passed : affineSlope (fun p => probe.difference (b p)) = some slope) :
    Denotes slope (probe.exactSlope at_) := by
  have atZero := settled_values bound settled finite high (t := 0) (by simp [exactPoints])
  have atOne := settled_values bound settled finite high (t := 1) (by simp [exactPoints])
  have grid := onGrid_exactSlope bound settled finite high
  rw [← (affineSlope_eq_some_iff.mp passed).2.2]
  exact (atOne.2.2 one (by simp [points]) denotes_one).sub_exact
    (atZero.2.2 zero (by simp [points]) denotes_zero) (grid.mono (by norm_num)) (by omega)

/-- Settled sides are discerned, without any error. -/
theorem Discerned.of_settled (high : s ≤ 23) :
    probe.Discerned (fun p => probe.difference (b p)) at_ (2 ^ 26 / 2 ^ s) 0 := by
  have values {t : ℚ} (ht : t ∈ exactPoints) := settled_values bound settled finite high ht
  constructor
  case defined => exact fun t ht => (values ht).1
  case near =>
    intro p mem t hp
    obtain ⟨u, hu, denotes⟩ := exists_exactPoint mem
    obtain rfl := hp.unique denotes
    exact ((values hu).2.2 p mem hp).near
  case bounded =>
    intro t ht
    refine (values ht).2.1.abs_le.trans_eq ?_
    norm_num [stepLimit]
  case bends =>
    intro t ht
    exact clear_of_onGrid (onGrid_bend (fun u hu => (values hu).2.1) ht) (bendMargin_lt_step high)

end Grid
end WorkedAlgebra.Probe
