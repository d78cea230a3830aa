import WorkedAlgebra.Proofs.Rounding.Nearby
import WorkedAlgebra.Resolution.Probe

/-!
The two numerical tests of probing. What they compare is computed from values that are themselves
off by rounding; both the deviations and the tolerance come out near those of exact arithmetic.
-/

namespace WorkedAlgebra.Probe

open Rounding Scalar

section AnyNumbers

variable {α : Type} [Scalar α]

/-- One more than the largest magnitude at the probe points. -/
def scale (f : α → α) : α := one + (points.map f).foldl (fun m v => larger m (Scalar.abs v)) zero

/-- How far a function is from the line through its values at zero and one. -/
def deviation (f : α → α) (p : α) : α := Scalar.abs (f p - (f zero + (f one - f zero) * p))

theorem affineSlope_eq (f : α → α) :
    affineSlope f =
      if (points.map f).all isFinite then
        if points.all fun p => le (deviation f p) (tolerance * scale f) then some (f one - f zero)
        else none
      else none := by
  cases finite : (points.map f).all isFinite with
  | true => simp [affineSlope, finite, deviation, scale]
  | false => simp [affineSlope, finite]

theorem affineSlope_eq_some_iff {f : α → α} {slope : α} :
    affineSlope f = some slope ↔
      (∀ p ∈ points, isFinite (f p) = true) ∧
        (∀ p ∈ points, le (deviation f p) (tolerance * scale f) = true) ∧
          f one - f zero = slope := by
  rw [affineSlope_eq, List.all_map]
  simp only [List.all_eq_true, Function.comp_apply]
  split
  · rename_i finite
    split
    · rename_i near
      exact ⟨fun h => ⟨finite, near, Option.some.inj h⟩, fun h => congrArg some h.2.2⟩
    · rename_i far
      exact ⟨nofun, fun h => (far h.2.1).elim⟩
  · rename_i infinite
    exact ⟨nofun, fun h => (infinite h.1).elim⟩

end AnyNumbers

def exactPoints : List ℚ := [0, 1, 2, -(3 / 2), 13 / 4]

theorem card_exactPoints : exactPoints.toFinset.card = 5 :=
  List.toFinset_card_of_nodup (by norm_num [exactPoints])

theorem exists_exactPoint {p : Float} (h : p ∈ points) : ∃ t ∈ exactPoints, Denotes p t := by
  simp only [points, List.mem_cons, List.not_mem_nil, or_false] at h
  rcases h with rfl | rfl | rfl | rfl | rfl
  · exact ⟨0, by simp [exactPoints], denotes_zero⟩
  · exact ⟨1, by simp [exactPoints], denotes_one⟩
  · exact ⟨2, by simp [exactPoints], denotes_two⟩
  · exact ⟨-(3 / 2), by simp [exactPoints], denotes_threeHalves.neg⟩
  · exact ⟨13 / 4, by simp [exactPoints], denotes_thirteenQuarters⟩

theorem exists_point {t : ℚ} (h : t ∈ exactPoints) :
    ∃ p ∈ (points : List Float), Denotes p t := by
  simp only [exactPoints, List.mem_cons, List.not_mem_nil, or_false] at h
  rcases h with rfl | rfl | rfl | rfl | rfl
  · exact ⟨zero, by simp [points], denotes_zero⟩
  · exact ⟨one, by simp [points], denotes_one⟩
  · exact ⟨two, by simp [points], denotes_two⟩
  · exact ⟨-ofDecimal 15 1, by simp [points], denotes_threeHalves.neg⟩
  · exact ⟨ofDecimal 325 2, by simp [points], denotes_thirteenQuarters⟩

theorem abs_exactPoint_le {t : ℚ} (ht : t ∈ exactPoints) : |t| ≤ 13 / 4 := by
  simp only [exactPoints, List.mem_cons, List.not_mem_nil, or_false] at ht
  rcases ht with rfl | rfl | rfl | rfl | rfl <;> norm_num [abs_le]

section Polynomials

open Polynomial

/-- Five points determine a quotient of polynomials of degrees four and three. -/
theorem eq_line_mul {n d : ℚ[X]} (degN : n.natDegree ≤ 4) (degD : d.natDegree ≤ 3) {k a : ℚ}
    (probed : ∀ t ∈ exactPoints, n.eval t = (k + a * t) * d.eval t) :
    n = (C k + C a * X) * d := by
  have linear : (C k + C a * X : ℚ[X]).natDegree ≤ 1 := by
    rw [add_comm]
    exact natDegree_linear_le
  have degree : (n - (C k + C a * X) * d).natDegree ≤ 4 :=
    (natDegree_sub_le_of_le degN (natDegree_mul_le_of_le linear degD)).trans (by simp)
  have roots (t : ℚ) (ht : t ∈ exactPoints.toFinset) :
      (n - (C k + C a * X) * d).eval t = 0 := by
    simp [probed t (List.mem_toFinset.mp ht)]
  exact sub_eq_zero.mp (eq_zero_of_natDegree_lt_card_of_eval_eq_zero' _ _ roots
    (by rw [card_exactPoints]; omega))

end Polynomials

section Tolerance

theorem two_zpow_neg : (2 : ℚ) ^ (-53 : Int) = 1 / 2 ^ 53 := by norm_num

theorem two_zpow_tiny : (2 : ℚ) ^ (-1075 : Int) ≤ 1 / 2 ^ 100 := by
  rw [one_div, ← zpow_natCast, ← zpow_neg]
  exact zpow_le_zpow_right₀ (by norm_num) (by norm_num)

/-- The tolerance is `1e-9` up to one part in a thousand million, also after rounding. -/
theorem tolerance_mul {x : Float} {m : ℚ} (h : Denotes x m) (nonneg : 0 ≤ m) :
    ∃ v, Denotes (tolerance * x) v ∧ v ≤ m / 999999999 + 2 ^ (-1075 : Int) ∧
      m / 1000000001 ≤ v + 2 ^ (-1075 : Int) := by
  have product : (0 : ℚ) ≤ 4835703278458517 / 2 ^ 82 * m := by positivity
  have below : |(4835703278458517 / 2 ^ 82 : ℚ) * m| < 2 ^ (1023 : Int) := by
    have top : (2 : ℚ) ^ 1024 = 2 ^ 1023 * 2 := pow_succ 2 1023
    have whole : (2 : ℚ) ^ (1023 : Int) = 2 ^ 1023 := zpow_natCast 2 1023
    have unit : (0 : ℚ) < 2 ^ 1023 := by positivity
    have last : (0 : ℚ) < 2 ^ 971 := by positivity
    have bound := h.abs_le
    rw [abs_of_nonneg nonneg, top] at bound
    rw [abs_of_nonneg product, whole]
    generalize (2 : ℚ) ^ 1023 = half at bound unit ⊢
    generalize (2 : ℚ) ^ 971 = step at bound last
    calc (4835703278458517 / 2 ^ 82 : ℚ) * m ≤ 1 / 4 * m :=
          mul_le_mul_of_nonneg_right (by norm_num) nonneg
      _ < half := by linarith
  obtain ⟨v, denotes, rounded⟩ := denotes_nano.mul h below
  have error := rounded.error
  rw [abs_of_nonneg product, abs_le, two_zpow_neg] at error
  refine ⟨v, denotes, ?_, ?_⟩
  · have : (4835703278458517 / 2 ^ 82 + 1 / 2 ^ 53 * (4835703278458517 / 2 ^ 82) : ℚ) * m ≤
        1 / 999999999 * m := mul_le_mul_of_nonneg_right (by norm_num) nonneg
    linarith [error.2]
  · have : (1 / 1000000001 : ℚ) * m ≤
        (4835703278458517 / 2 ^ 82 - 1 / 2 ^ 53 * (4835703278458517 / 2 ^ 82)) * m :=
      mul_le_mul_of_nonneg_right (by norm_num) nonneg
    linarith [error.1]

/-- What either test tolerates at least. -/
def leastTolerance : ℚ := 99 / 100000000000

/-- What either test tolerates at most where the largest magnitude is `m`. -/
def mostTolerance (m : ℚ) : ℚ := 11 / 10000000000 * (1 + m)

theorem tolerance_bounds {x : Float} {m : ℚ} (h : Denotes x m) (nonneg : 0 ≤ m) :
    ∃ v, Denotes (tolerance * (one + x)) v ∧ leastTolerance ≤ v ∧ v ≤ mostTolerance m := by
  obtain ⟨r, scale, rounded⟩ := h.one_add nonneg
  have tiny := two_zpow_tiny
  have error := rounded.error
  rw [abs_of_nonneg (by linarith : (0 : ℚ) ≤ 1 + m), abs_le, two_zpow_neg] at error
  obtain ⟨v, denotes, upper, lower⟩ := tolerance_mul scale (by linarith [error.1])
  unfold leastTolerance mostTolerance
  exact ⟨v, denotes, by linarith [error.1], by linarith [error.2]⟩

/-- The largest magnitude of a list keeps what all magnitudes have in common. -/
theorem foldl_larger {P : ℚ → Prop} (both : ∀ p q, P p → P q → P (max p q)) (values : List Float)
    (each : ∀ v ∈ values, ∃ q, Denotes v q ∧ P |q|) {m : Float} {p : ℚ} (start : Denotes m p)
    (hp : P p) :
    ∃ q, Denotes (values.foldl (fun m v => larger m (Scalar.abs v)) m) q ∧ P q ∧ p ≤ q := by
  induction values generalizing m p with
  | nil => exact ⟨p, start, hp, le_rfl⟩
  | cons v values ih =>
      obtain ⟨q, denotes, hq⟩ := each v List.mem_cons_self
      obtain ⟨r, denotes', hr, le⟩ := ih (fun w hw => each w (List.mem_cons_of_mem v hw))
        (start.larger denotes.abs) (both p |q| hp hq)
      exact ⟨r, denotes', hr, (le_max_left p |q|).trans le⟩

end Tolerance

section Finite

variable {f : Float → Float} {slope : Float}

/-- The tolerance is finite, so a deviation within it is finite, too. -/
theorem isFinite_deviation (passed : affineSlope f = some slope) {p : Float} (mem : p ∈ points) :
    isFinite (f p - (f zero + (f one - f zero) * p)) = true := by
  obtain ⟨finite, near, -⟩ := affineSlope_eq_some_iff.mp passed
  obtain ⟨q, largest, -, nonneg⟩ := foldl_larger (P := fun _ => True) (fun _ _ _ _ => trivial)
    (points.map f) (fun v hv => by
      obtain ⟨p, mem, rfl⟩ := List.mem_map.mp hv
      exact ⟨_, denotes_value (finite p mem), trivial⟩) denotes_zero trivial
  obtain ⟨w, tolerated, -⟩ := tolerance_bounds largest nonneg
  exact isFinite_of_abs_le tolerated.finite (near p mem)

/-- The slope of a function that passes the affine test is finite. -/
theorem isFinite_slope (passed : affineSlope f = some slope) : isFinite slope = true := by
  have finite := isFinite_deviation passed (p := zero) (by simp [points])
  rw [← (affineSlope_eq_some_iff.mp passed).2.2]
  exact (finite_of_mul (finite_of_add (finite_of_sub finite).2).2).1

end Finite

section Deviations

variable {f : Float → Float} {d : ℚ → ℚ} {ε b m : ℚ}

/-- The values of a function at the probe points are those of `d`, up to `ε`. -/
def NearAt (f : Float → Float) (d : ℚ → ℚ) (ε : ℚ) : Prop :=
  ∀ p ∈ points, ∀ t, Denotes p t → Near (f p) (d t) ε

theorem nearAt_iff : NearAt f d ε ↔ ∀ p ∈ points, Near (f p) (d (floatValue p)) ε := by
  refine ⟨fun h p mem => ?_, fun h p mem t hp => hp.value ▸ h p mem⟩
  obtain ⟨t, -, hp⟩ := exists_exactPoint mem
  exact hp.value ▸ h p mem t hp

instance (f : Float → Float) (d : ℚ → ℚ) (ε : ℚ) : Decidable (NearAt f d ε) :=
  have : Decidable (∀ p ∈ (points : List Float), Near (f p) (d (floatValue p)) ε) :=
    List.decidableBAll _ _
  decidable_of_iff _ nearAt_iff.symm

/-- How far `d` is from the line through its values at zero and one. -/
def bend (d : ℚ → ℚ) (t : ℚ) : ℚ := d t - (d 0 + (d 1 - d 0) * t)

theorem NearAt.atZero (values : NearAt f d ε) : Near (f zero) (d 0) ε :=
  values zero (by simp [points]) 0 denotes_zero

theorem NearAt.slope (values : NearAt f d ε) (size : |d 1 - d 0| + 2 * ε ≤ m)
    (stored : m < 2 ^ (1023 : Int) ∨ isFinite (f one - f zero) = true) :
    Near (f one - f zero) (d 1 - d 0) (2 * ε + slack m) := by
  have second : Near (f one) (d 1) ε := values one (by simp [points]) 1 denotes_one
  rw [two_mul] at size ⊢
  exact second.sub values.atZero size stored

/-- The largest magnitude that the affine test meets. -/
theorem NearAt.largest (values : NearAt f d ε) (bound : ∀ t ∈ exactPoints, |d t| ≤ b) :
    ∃ q, Denotes ((points.map f).foldl (fun m v => larger m (Scalar.abs v)) zero) q ∧
      q ≤ b + ε ∧ 0 ≤ q := by
  have nonneg : 0 ≤ b + ε :=
    add_nonneg ((abs_nonneg _).trans (bound 0 (by simp [exactPoints]))) values.atZero.nonneg
  refine foldl_larger (P := fun q => q ≤ b + ε) (fun p q hp hq => max_le hp hq) _ ?_
    denotes_zero nonneg
  intro v hv
  obtain ⟨p, mem, rfl⟩ := List.mem_map.mp hv
  obtain ⟨t, ht, hp⟩ := exists_exactPoint mem
  obtain ⟨q, denotes, near⟩ := values p mem t hp
  exact ⟨q, denotes, (Near.abs_le near).trans (by linarith [bound t ht])⟩

structure Room (d : ℚ → ℚ) (t ε m : ℚ) : Prop where
  slope : |d 1 - d 0| + 2 * ε ≤ m
  product : |(d 1 - d 0) * t| + 13 / 4 * (2 * ε + slack m) ≤ m
  line : |d 0 + (d 1 - d 0) * t| + (15 / 2 * ε + 17 / 4 * slack m) ≤ m
  bend : |bend d t| + (17 / 2 * ε + 21 / 4 * slack m) ≤ m

/-- A deviation is computed near the bend of the function. -/
theorem NearAt.nearBend (values : NearAt f d ε) {p : Float} {t : ℚ} (mem : p ∈ points)
    (ht : t ∈ exactPoints) (hp : Denotes p t) (room : Room d t ε m) (nonneg : 0 ≤ slack m)
    (stored : m < 2 ^ (1023 : Int) ∨
      isFinite (f p - (f zero + (f one - f zero) * p)) = true) :
    Near (f p - (f zero + (f one - f zero) * p)) (bend d t) (17 / 2 * ε + 25 / 4 * slack m) := by
  have storedLine := stored.imp_right fun finite => (finite_of_sub finite).2
  have storedProduct := storedLine.imp_right fun finite => (finite_of_add finite).2
  have storedSlope := storedProduct.imp_right fun finite => (finite_of_mul finite).1
  have hε := values.atZero.nonneg
  have spread : (2 * ε + slack m) * |t| ≤ 13 / 4 * (2 * ε + slack m) := by
    rw [mul_comm]
    exact mul_le_mul_of_nonneg_right (abs_exactPoint_le ht) (by linarith)
  have hslope := values.slope room.slope storedSlope
  have hproduct := (hslope.mul hp (by linarith [room.product]) storedProduct).mono
    (add_le_add_left spread _)
  have hline := values.atZero.add hproduct (by linarith [room.line]) storedLine
  refine ((values p mem t hp).sub hline ?_ stored).mono (by linarith)
  change |bend d t| + _ ≤ m
  linarith [room.bend]

end Deviations
end WorkedAlgebra.Probe
