import WorkedAlgebra.Proofs.AffineTest

/-!
What the two tests of probing can tell. A function that passes the affine test may still bend, and
slopes that agree may still differ, but only by what the tolerance and the errors of the values
leave room for. A number that is zero or beyond that margin is told from zero.
-/

namespace WorkedAlgebra.Probe

open Rounding Scalar

def Clear (margin q : ℚ) : Prop := q = 0 ∨ margin < |q|

instance (margin q : ℚ) : Decidable (Clear margin q) := inferInstanceAs (Decidable (_ ∨ _))

theorem Clear.eq_zero {margin q : ℚ} (h : Clear margin q) (within : |q| ≤ margin) : q = 0 :=
  h.resolve_right (not_lt.mpr within)

/-- How much a function may bend unseen whose values have magnitudes up to `size` and are computed
with errors up to `error`. -/
def bendMargin (size error : ℚ) : ℚ := 2 / 1000000000 * (1 + size) + 9 * error

/-- How much a slope may differ unseen from another one. -/
def slopeMargin (slope error : ℚ) : ℚ := 2 / 1000000000 * (1 + |slope|) + 5 * error

theorem slopeMargin_zero_le (slope error : ℚ) : slopeMargin 0 error ≤ slopeMargin slope error := by
  unfold slopeMargin
  rw [abs_zero]
  linarith [abs_nonneg slope]

section Bends

variable {f : Float → Float} {d : ℚ → ℚ} {b ε : ℚ}

theorem slack_room (hb : 0 ≤ b) (hε : 0 ≤ ε) :
    0 ≤ slack (9 * (b + ε) + 1) ∧
      slack (9 * (b + ε) + 1) ≤ (b + ε + 1) / 100000000000000 := by
  refine ⟨slack_nonneg (by linarith), ?_⟩
  have tiny := two_zpow_tiny
  rw [slack, two_zpow_neg]
  linarith

theorem room_of_bound (hε : 0 ≤ ε) (bound : ∀ t ∈ exactPoints, |d t| ≤ b) {t : ℚ}
    (ht : t ∈ exactPoints) : Room d t ε (9 * (b + ε) + 1) := by
  have atZero := bound 0 (by simp [exactPoints])
  have atOne := bound 1 (by simp [exactPoints])
  have hb : 0 ≤ b := (abs_nonneg _).trans atZero
  obtain ⟨-, few⟩ := slack_room hb hε
  have slope : |d 1 - d 0| ≤ 2 * b := (abs_sub _ _).trans (by linarith)
  have product : |(d 1 - d 0) * t| ≤ 2 * b * (13 / 4) := by
    rw [abs_mul]
    exact mul_le_mul slope (abs_exactPoint_le ht) (abs_nonneg t) (by linarith)
  have line : |d 0 + (d 1 - d 0) * t| ≤ b + 2 * b * (13 / 4) :=
    (abs_add_le _ _).trans (add_le_add atZero product)
  have bend : |bend d t| ≤ b + (b + 2 * b * (13 / 4)) :=
    (abs_sub _ _).trans (add_le_add (bound t ht) line)
  constructor <;> linarith

/-- A function that passes the affine test bends no more than its margin. -/
theorem NearAt.abs_bend_le (values : NearAt f d ε) (bound : ∀ t ∈ exactPoints, |d t| ≤ b)
    {slope : Float} (passed : affineSlope f = some slope) {t : ℚ} (ht : t ∈ exactPoints) :
    |bend d t| ≤ bendMargin b ε := by
  obtain ⟨p, mem, hp⟩ := exists_point ht
  obtain ⟨q, largest, most, nonneg⟩ := values.largest bound
  obtain ⟨w, tolerated, -, tolerance⟩ := tolerance_bounds largest nonneg
  have within := (affineSlope_eq_some_iff.mp passed).2.1 p mem
  have hε := values.atZero.nonneg
  have hb : 0 ≤ b := (abs_nonneg _).trans (bound t ht)
  obtain ⟨hslack, few⟩ := slack_room hb hε
  obtain ⟨v, denotes, near⟩ := values.nearBend mem ht hp (room_of_bound hε bound ht) hslack
    (.inr (isFinite_deviation passed mem))
  rw [deviation, scale, denotes.abs.le_eq tolerated, decide_eq_true_eq] at within
  have close : |bend d t| ≤ |v| + |v - bend d t| := by
    have := abs_sub v (v - bend d t)
    rwa [sub_sub_cancel] at this
  unfold mostTolerance at tolerance
  unfold bendMargin
  linarith

end Bends

section Slopes

variable {x y : Float} {a b ε η : ℚ}

/-- Slopes that agree differ little. -/
theorem abs_sub_le_of_agrees (hx : Near x a ε) (hy : Near y b η) (agree : agrees x y = true) :
    |a - b| ≤ 3 / 2000000000 * (1 + |b|) + 101 / 100 * (ε + η) := by
  have hε := hx.nonneg
  have hη := hy.nonneg
  obtain ⟨v, hv, nearX⟩ := hx
  obtain ⟨w, hw, nearY⟩ := hy
  obtain ⟨z, tolerated, -, tolerance⟩ :=
    tolerance_bounds (hv.abs.larger hw.abs) (le_max_of_le_left (abs_nonneg v))
  obtain ⟨r, denotes, rounded⟩ :=
    hv.sub_finite hw (isFinite_of_abs_le tolerated.finite agree)
  rw [agrees, denotes.abs.le_eq tolerated, decide_eq_true_eq] at agree
  have computed : |v - w| ≤ |r| + |r - (v - w)| := by
    have := abs_sub r (r - (v - w))
    rwa [sub_sub_cancel] at this
  have apart : |a - b| ≤ |v - w| + (ε + η) := by
    have : |(v - w) - ((v - a) - (w - b))| ≤ |v - w| + (|v - a| + |w - b|) :=
      (abs_sub _ _).trans (add_le_add_right (abs_sub _ _) _)
    rw [show (v - w) - ((v - a) - (w - b)) = a - b by ring] at this
    linarith
  have first : |a| ≤ |b| + |a - b| := by
    have := abs_add_le b (a - b)
    rwa [add_sub_cancel] at this
  have most : max |v| |w| ≤ |b| + |a - b| + ε + η := by
    refine max_le ?_ ?_
    · linarith [Near.abs_le nearX]
    · linarith [Near.abs_le nearY, abs_nonneg (a - b)]
  have error := rounded.error
  have tiny := two_zpow_tiny
  have hb := abs_nonneg b
  rw [two_zpow_neg] at error
  unfold mostTolerance at tolerance
  linarith

/-- The error of a slope: twice that of the values, and the rounding of their difference. -/
def slopeError (slope error : ℚ) : ℚ := 2 * error + slack (|slope| + 2 * error)

theorem slopeError_le (hε : 0 ≤ ε) :
    slopeError a ε ≤ 201 / 100 * ε + (|a| + 1) / 100000000000000 := by
  have tiny := two_zpow_tiny
  have ha := abs_nonneg a
  rw [slopeError, slack, two_zpow_neg]
  linarith

theorem NearAt.nearSlope {f : Float → Float} {d : ℚ → ℚ} (values : NearAt f d ε) {slope : Float}
    (passed : affineSlope f = some slope) :
    Near slope (d 1 - d 0) (slopeError (d 1 - d 0) ε) := by
  have finite := isFinite_slope passed
  obtain rfl := (affineSlope_eq_some_iff.mp passed).2.2
  exact values.slope le_rfl (.inr finite)

/-- Slopes that agree are equal, if the margin tells them apart. -/
theorem eq_of_agrees (hε : 0 ≤ ε) (hx : Near x a (slopeError a ε)) (hy : Near y b (slopeError b ε))
    (agree : agrees x y = true) (clear : Clear (slopeMargin a ε) (a - b)) : a = b := by
  refine sub_eq_zero.mp (clear.eq_zero ?_)
  have near := abs_sub_le_of_agrees hx hy agree
  have errorA := slopeError_le (a := a) hε
  have errorB := slopeError_le (a := b) hε
  have second : |b| ≤ |a| + |a - b| := by
    have := abs_sub a (a - b)
    rwa [sub_sub_cancel] at this
  have ha := abs_nonneg a
  unfold slopeMargin
  linarith

end Slopes
end WorkedAlgebra.Probe
