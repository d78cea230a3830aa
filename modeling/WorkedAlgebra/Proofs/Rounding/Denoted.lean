import WorkedAlgebra.Proofs.Rounding.Arithmetic
import WorkedAlgebra.Scalar.Binary64

/-!
The operations of solving on floating-point numbers, read as operations on the rational numbers
that these denote.
-/

namespace WorkedAlgebra

open Rounding Float.Model

/-- The rational number that a finite floating-point number is; zero for the others. -/
def floatValue (x : Float) : ℚ := partsValue x.toModel.unpack

/-- `x` is finite and has the value `q`. -/
structure Denotes (x : Float) (q : ℚ) : Prop where
  finite : Scalar.isFinite x = true
  value : floatValue x = q

theorem denotes_value {x : Float} (finite : Scalar.isFinite x = true) :
    Denotes x (floatValue x) := ⟨finite, rfl⟩

namespace Denotes

variable {x y : Float} {p q : ℚ}

theorem stored (h : Denotes x p) : Storable x.toModel.unpack := storable_unpack h.finite

theorem unique (h : Denotes x p) (h' : Denotes x q) : p = q := h.value.symm.trans h'.value

/-- The word for parts that can be stored denotes their number. -/
theorem ofParts {u : UnpackedFloat} (stored : Storable u) :
    Denotes (Float.ofModel (Float.Model.pack u)) (partsValue u) := by
  refine ⟨?_, by rw [floatValue, unpack_pack stored]⟩
  change (Float.Model.pack u).isFinite = true
  rw [Float.Model.isFinite, unpack_pack stored]
  cases u with
  | zero s | finite s m e positive => rfl
  | infinity s | notANumber => exact stored.elim

/-- The word for the rounded parts of a number below the overflow threshold. -/
theorem ofRounded {u : UnpackedFloat} {q : ℚ} (h : Normalized u ∧ Rounded q (partsValue u))
    (below : |q| < overflowThreshold) :
    ∃ v, Denotes (Float.ofModel (Float.Model.pack u)) v ∧ Rounded q v :=
  ⟨_, ofParts (h.1.storable_of_rounded h.2 below), h.2⟩

/-- A number given by its word. -/
theorem ofUnpack {u : UnpackedFloat} (parts : x.toModel.unpack = u) (stored : Storable u)
    (value : partsValue u = q) : Denotes x q := by
  refine ⟨?_, by rw [floatValue, parts, value]⟩
  change x.toModel.isFinite = true
  rw [Float.Model.isFinite, parts]
  cases u with
  | zero s | finite s m e positive => rfl
  | infinity s | notANumber => exact stored.elim

theorem neg (h : Denotes x p) : Denotes (-x) (-p) := by
  rw [← h.value]
  exact partsValue_neg _ ▸ ofParts h.stored.neg

theorem abs (h : Denotes x p) : Denotes (Scalar.abs x) |p| := by
  rw [← h.value]
  exact partsValue_abs _ ▸ ofParts h.stored.abs

theorem add_parts (hx : Denotes x p) (hy : Denotes y q) :
    ∃ u, x + y = Float.ofModel (Float.Model.pack u) ∧ Normalized u ∧
      Rounded (p + q) (partsValue u) := by
  rw [← hx.value, ← hy.value]
  exact ⟨_, rfl, add_rounded hx.stored hy.stored⟩

theorem sub_parts (hx : Denotes x p) (hy : Denotes y q) :
    ∃ u, x - y = Float.ofModel (Float.Model.pack u) ∧ Normalized u ∧
      Rounded (p - q) (partsValue u) := by
  have word : x - y = Float.ofModel (Float.Model.pack
      (UnpackedFloat.add Float.Model.Format.binary64 x.toModel.unpack y.toModel.unpack.neg)) := by
    rw [← sub_eq_add_neg_parts]
    rfl
  have difference : p - q = partsValue x.toModel.unpack + partsValue y.toModel.unpack.neg := by
    rw [partsValue_neg, ← sub_eq_add_neg]
    exact congrArg₂ _ hx.value.symm hy.value.symm
  rw [difference]
  exact ⟨_, word, add_rounded hx.stored hy.stored.neg⟩

theorem mul_parts (hx : Denotes x p) (hy : Denotes y q) :
    ∃ u, x * y = Float.ofModel (Float.Model.pack u) ∧ Normalized u ∧
      Rounded (p * q) (partsValue u) := by
  rw [← hx.value, ← hy.value]
  exact ⟨_, rfl, mul_rounded hx.stored hy.stored⟩

theorem div_parts (hx : Denotes x p) (hy : Denotes y q) (nonzero : q ≠ 0) :
    ∃ u, x / y = Float.ofModel (Float.Model.pack u) ∧ Normalized u ∧
      Rounded (p / q) (partsValue u) := by
  rw [← hy.value] at nonzero
  rw [← hx.value, ← hy.value]
  exact ⟨_, rfl, div_rounded hx.stored hy.stored nonzero⟩

theorem add (hx : Denotes x p) (hy : Denotes y q) (small : |p + q| < 2 ^ (1023 : Int)) :
    ∃ v, Denotes (x + y) v ∧ Rounded (p + q) v := by
  obtain ⟨u, word, rounded⟩ := hx.add_parts hy
  exact word ▸ ofRounded rounded (small.trans two_zpow_lt_overflowThreshold)

theorem sub (hx : Denotes x p) (hy : Denotes y q) (small : |p - q| < 2 ^ (1023 : Int)) :
    ∃ v, Denotes (x - y) v ∧ Rounded (p - q) v := by
  obtain ⟨u, word, rounded⟩ := hx.sub_parts hy
  exact word ▸ ofRounded rounded (small.trans two_zpow_lt_overflowThreshold)

theorem mul (hx : Denotes x p) (hy : Denotes y q) (small : |p * q| < 2 ^ (1023 : Int)) :
    ∃ v, Denotes (x * y) v ∧ Rounded (p * q) v := by
  obtain ⟨u, word, rounded⟩ := hx.mul_parts hy
  exact word ▸ ofRounded rounded (small.trans two_zpow_lt_overflowThreshold)

theorem div (hx : Denotes x p) (hy : Denotes y q) (nonzero : q ≠ 0)
    (small : |p / q| < 2 ^ (1023 : Int)) : ∃ v, Denotes (x / y) v ∧ Rounded (p / q) v := by
  obtain ⟨u, word, rounded⟩ := hx.div_parts hy nonzero
  exact word ▸ ofRounded rounded (small.trans two_zpow_lt_overflowThreshold)

theorem compare (hx : Denotes x p) (hy : Denotes y q) :
    x.toModel.compare y.toModel = some (Ord.compare p q) := by
  rw [← hx.value, ← hy.value]
  exact compare_parts hx.stored hy.stored

theorem le_eq (hx : Denotes x p) (hy : Denotes y q) : Scalar.le x y = decide (p ≤ q) := by
  have order : (decide (x.toModel ≤ y.toModel) : Bool) =
      (x.toModel.compare y.toModel).any (·.isLE) := Bool.decide_eq_true
  refine order.trans ?_
  rw [hx.compare hy, Option.any_some]
  rcases lt_trichotomy p q with less | rfl | greater
  · rw [compare_lt_iff_lt.mpr less, decide_eq_true less.le]
    rfl
  · rw [compare_eq_iff_eq.mpr rfl, decide_eq_true le_rfl]
    rfl
  · rw [compare_gt_iff_gt.mpr greater, decide_eq_false (not_le.mpr greater)]
    rfl

theorem lt_eq (hx : Denotes x p) (hy : Denotes y q) : Scalar.lt x y = decide (p < q) := by
  have order : (decide (x.toModel < y.toModel) : Bool) =
      (x.toModel.compare y.toModel == some .lt) := Bool.decide_eq_true
  refine order.trans ?_
  rw [hx.compare hy]
  rcases lt_trichotomy p q with less | rfl | greater
  · rw [compare_lt_iff_lt.mpr less, decide_eq_true less]
    rfl
  · rw [compare_eq_iff_eq.mpr rfl, decide_eq_false (lt_irrefl p)]
    rfl
  · rw [compare_gt_iff_gt.mpr greater, decide_eq_false (not_lt.mpr greater.le)]
    rfl

theorem eq_eq (hx : Denotes x p) (hy : Denotes y q) : Scalar.eq x y = decide (p = q) := by
  change (x.toModel.compare y.toModel == some .eq) = _
  rw [hx.compare hy]
  rcases lt_trichotomy p q with less | rfl | greater
  · rw [compare_lt_iff_lt.mpr less, decide_eq_false less.ne]
    rfl
  · rw [compare_eq_iff_eq.mpr rfl, decide_eq_true rfl]
    rfl
  · rw [compare_gt_iff_gt.mpr greater, decide_eq_false greater.ne']
    rfl

theorem larger (hx : Denotes x p) (hy : Denotes y q) :
    Denotes (Scalar.larger x y) (max p q) := by
  unfold Scalar.larger
  rw [hx.lt_eq hy]
  by_cases less : p < q
  · rw [decide_eq_true less, if_pos rfl, max_eq_right less.le]
    exact hy
  · rw [decide_eq_false less, if_neg Bool.false_ne_true, max_eq_left (not_lt.mp less)]
    exact hx

end Denotes

section Constants

theorem denotes_zero : Denotes Scalar.zero 0 :=
  .ofUnpack (u := .zero .positive) rfl trivial rfl

theorem denotes_one : Denotes Scalar.one 1 := by
  refine .ofUnpack (u := .finite .positive (2 ^ 52) (-52) (by decide)) rfl
    ⟨by decide, by decide, by decide, by decide, .inl le_rfl⟩ ?_
  norm_num [partsValue, signFactor]

theorem denotes_two : Denotes Scalar.two 2 := by
  refine .ofUnpack (u := .finite .positive (2 ^ 52) (-51) (by decide)) rfl
    ⟨by decide, by decide, by decide, by decide, .inl le_rfl⟩ ?_
  norm_num [partsValue, signFactor]

theorem denotes_threeHalves : Denotes (Scalar.ofDecimal 15 1) (3 / 2) := by
  refine .ofUnpack (u := .finite .positive (3 * 2 ^ 51) (-52) (by decide)) rfl
    ⟨by decide, by decide, by decide, by decide, .inl (by decide)⟩ ?_
  norm_num [partsValue, signFactor]

theorem denotes_thirteenQuarters : Denotes (Scalar.ofDecimal 325 2) (13 / 4) := by
  refine .ofUnpack (u := .finite .positive (13 * 2 ^ 49) (-51) (by decide)) rfl
    ⟨by decide, by decide, by decide, by decide, .inl (by decide)⟩ ?_
  norm_num [partsValue, signFactor]

theorem denotes_nano : Denotes (Scalar.ofDecimal 1 9) (4835703278458517 / 2 ^ 82) := by
  refine .ofUnpack (u := .finite .positive 4835703278458517 (-82) (by decide)) rfl
    ⟨by decide, by decide, by decide, by decide, .inl (by decide)⟩ ?_
  norm_num [partsValue, signFactor]

theorem isZero_eq {x : Float} {p : ℚ} (h : Denotes x p) :
    Scalar.isZero x = decide (p = 0) := h.eq_eq denotes_zero

end Constants

end WorkedAlgebra
