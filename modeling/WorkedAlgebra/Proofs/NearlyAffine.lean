import WorkedAlgebra.Proofs.AffineTest

/-!
The two tests of probing do not reject what is off by rounding only. The tolerance is `1e-9` at
least, whatever the numbers, so errors that stay below it are not seen.
-/

namespace WorkedAlgebra.Probe

open Rounding Scalar

section Lines

variable {f : Float → Float} {k a ε b m : ℚ}

def NearLine (f : Float → Float) (k a ε : ℚ) : Prop :=
  ∀ p ∈ points, ∀ t, Denotes p t → Near (f p) (k + a * t) ε

theorem NearLine.nearAt (values : NearLine f k a ε) : NearAt f (fun t => k + a * t) ε := values

theorem NearLine.atZero (values : NearLine f k a ε) : Near (f zero) k ε := by
  simpa using values.nearAt.atZero

theorem NearLine.slope (values : NearLine f k a ε) (size : |a| + 2 * ε ≤ m)
    (small : m < 2 ^ (1023 : Int)) : Near (f one - f zero) a (2 * ε + slack m) := by
  simpa using values.nearAt.slope (by simpa using size) (.inl small)

/-- A line has no bends. -/
theorem bend_line (t : ℚ) : bend (fun t => k + a * t) t = 0 := by
  unfold bend
  ring

/-- A function passes the affine test when all its errors stay below the tolerance. -/
theorem NearLine.affineSlope (values : NearLine f k a ε)
    (line : ∀ t ∈ exactPoints, |k + a * t| ≤ b) (product : ∀ t ∈ exactPoints, |a * t| ≤ b)
    (large : b + 1 ≤ m) (small : m < 2 ^ (1023 : Int))
    (budget : 17 / 2 * ε + 25 / 4 * slack m ≤ leastTolerance) :
    affineSlope f = some (f one - f zero) := by
  have hε := values.atZero.nonneg
  have hb : 0 ≤ b := (abs_nonneg _).trans (line 0 (by simp [exactPoints]))
  have hslack : 0 ≤ slack m := slack_nonneg (by linarith)
  have little : leastTolerance ≤ 1 := by norm_num [leastTolerance]
  have room {t : ℚ} (ht : t ∈ exactPoints) : Room (fun t => k + a * t) t ε m := by
    have slope := product 1 (by simp [exactPoints])
    have bend := bend_line (k := k) (a := a) t
    constructor
    case slope =>
      ring_nf at slope ⊢
      linarith
    case product =>
      have := product t ht
      ring_nf at this ⊢
      linarith
    case line =>
      have := line t ht
      ring_nf at this ⊢
      linarith
    case bend =>
      rw [bend, abs_zero]
      linarith
  obtain ⟨q, maximum, -, nonneg⟩ := values.nearAt.largest line
  obtain ⟨w, tolerated, least, -⟩ := tolerance_bounds maximum nonneg
  refine affineSlope_eq_some_iff.mpr ⟨fun p mem => ?_, fun p mem => ?_, rfl⟩
  · obtain ⟨t, -, hp⟩ := exists_exactPoint mem
    exact (values p mem t hp).finite
  · obtain ⟨t, ht, hp⟩ := exists_exactPoint mem
    obtain ⟨v, denotes, near⟩ := values.nearAt.nearBend mem ht hp (room ht) hslack (.inl small)
    rw [bend_line, sub_zero] at near
    rw [deviation, scale, denotes.abs.le_eq tolerated, decide_eq_true_eq]
    linarith

/-- Slopes that are near the same number agree. -/
theorem agrees_of_near {x y : Float} {η : ℚ} (hx : Near x a ε) (hy : Near y a η)
    (size : |a| + (ε + η) + 1 ≤ m) (small : m < 2 ^ (1023 : Int))
    (budget : ε + η + slack m ≤ leastTolerance) : agrees x y = true := by
  have ha := abs_nonneg a
  obtain ⟨v, difference, near⟩ := hx.sub hy (by rw [sub_self, abs_zero]; linarith) (.inl small)
  rw [sub_self, sub_zero] at near
  obtain ⟨p, hp, -⟩ := hx
  obtain ⟨q, hq, -⟩ := hy
  obtain ⟨w, tolerated, least, -⟩ :=
    tolerance_bounds (hp.abs.larger hq.abs) (le_max_of_le_left (abs_nonneg p))
  rw [agrees, difference.abs.le_eq tolerated, decide_eq_true_eq]
  linarith

end Lines
end WorkedAlgebra.Probe
