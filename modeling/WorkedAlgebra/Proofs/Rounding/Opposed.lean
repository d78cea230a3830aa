import WorkedAlgebra.Proofs.NumberTexts

/-!
Opposed numbers: each is the other one with its sign changed, except that zeros of either sign
count as opposed. Computing with opposed numbers gives opposed results, since rounding does not see
signs and only an exact zero loses its own.
-/

namespace WorkedAlgebra

open Float.Model Float.Model.UnpackedFloat Scalar

namespace Rounding

def OpposedParts (u v : UnpackedFloat) : Prop :=
  v = u.neg ∨ ∃ s t, u = .zero s ∧ v = .zero t

theorem opposedParts_neg (u : UnpackedFloat) : OpposedParts u u.neg := .inl rfl

theorem opposedParts_zero (s t : Sign) : OpposedParts (.zero s) (.zero t) := .inr ⟨s, t, rfl, rfl⟩

theorem round_neg (s : Sign) (m : Nat) (e : Int) :
    UnpackedFloat.round Format.binary64 (-s) m e =
      (UnpackedFloat.round Format.binary64 s m e).neg := by
  unfold UnpackedFloat.round
  exact roundWithAccuracy_neg s _ _ _

theorem opposedParts_normalize (m e : Int) :
    OpposedParts (UnpackedFloat.normalize Format.binary64 m e .positive)
      (UnpackedFloat.normalize Format.binary64 (-m) e .positive) := by
  unfold UnpackedFloat.normalize
  rcases lt_trichotomy m 0 with negative | rfl | positive
  · rw [Int.compare_eq_lt.mpr negative, Int.compare_eq_gt.mpr (by omega : -m > 0)]
    exact .inl (round_neg .negative _ e)
  · exact opposedParts_zero .positive .positive
  · rw [Int.compare_eq_gt.mpr positive, Int.compare_eq_lt.mpr (by omega : -m < 0), Int.neg_neg]
    exact .inl (round_neg .positive _ e)

theorem apply_neg (s : Sign) (m : Int) : (-s).apply m = -s.apply m := by
  cases s with
  | negative => exact (Int.neg_neg m).symm
  | positive => rfl

theorem add_comm_parts (u v : UnpackedFloat) :
    UnpackedFloat.add Format.binary64 u v = UnpackedFloat.add Format.binary64 v u := by
  cases u with
  | notANumber => cases v <;> rfl
  | zero s => cases v with
    | zero t => cases s <;> cases t <;> rfl
    | infinity t | notANumber | finite t m' e' positive' => rfl
  | infinity s => cases v with
    | infinity t => cases s <;> cases t <;> rfl
    | zero t | notANumber | finite t m' e' positive' => rfl
  | finite s m e positive => cases v with
    | infinity t | notANumber | zero t => rfl
    | finite t m' e' positive' =>
        simp only [UnpackedFloat.add]
        rw [min_comm e e', Int.add_comm (s.apply _)]

theorem opposedParts_add_neg (u v : UnpackedFloat) :
    OpposedParts (UnpackedFloat.add Format.binary64 u v)
      (UnpackedFloat.add Format.binary64 u.neg v.neg) := by
  cases u with
  | notANumber => exact .inl rfl
  | zero s => cases v with
    | zero t => cases s <;> cases t <;> exact .inr ⟨_, _, rfl, rfl⟩
    | infinity t | notANumber | finite t m' e' positive' => exact .inl rfl
  | infinity s => cases v with
    | infinity t => cases s <;> cases t <;> exact .inl rfl
    | zero t | notANumber | finite t m' e' positive' => exact .inl rfl
  | finite s m e positive => cases v with
    | infinity t | notANumber | zero t => exact .inl rfl
    | finite t m' e' positive' =>
        simp only [UnpackedFloat.add, UnpackedFloat.neg, apply_neg]
        rw [← Int.neg_add]
        exact opposedParts_normalize _ _

/-- Zeros of any sign beside opposed numbers. -/
theorem opposedParts_add_zero (s t : Sign) {v v' : UnpackedFloat} (h : OpposedParts v v') :
    OpposedParts (UnpackedFloat.add Format.binary64 (.zero s) v)
      (UnpackedFloat.add Format.binary64 (.zero t) v') := by
  rcases h with rfl | ⟨p, q, rfl, rfl⟩
  · cases v with
    | zero p => cases s <;> cases t <;> cases p <;> exact .inr ⟨_, _, rfl, rfl⟩
    | infinity p | notANumber | finite p m e positive => exact .inl rfl
  · cases s <;> cases t <;> cases p <;> cases q <;> exact .inr ⟨_, _, rfl, rfl⟩

theorem OpposedParts.add {u u' v v' : UnpackedFloat} (hu : OpposedParts u u')
    (hv : OpposedParts v v') : OpposedParts (UnpackedFloat.add Format.binary64 u v)
      (UnpackedFloat.add Format.binary64 u' v') := by
  rcases hu with rfl | ⟨s, t, rfl, rfl⟩
  · rcases hv with rfl | ⟨s, t, rfl, rfl⟩
    · exact opposedParts_add_neg u v
    · rw [add_comm_parts u, add_comm_parts u.neg]
      exact opposedParts_add_zero s t (opposedParts_neg u)
  · exact opposedParts_add_zero s t hv

theorem mul_comm_parts (u v : UnpackedFloat) :
    UnpackedFloat.mul Format.binary64 u v = UnpackedFloat.mul Format.binary64 v u := by
  have signs (s t : Sign) : s * t = t * s := by cases s <;> cases t <;> rfl
  cases u <;> cases v <;> simp [UnpackedFloat.mul, signs, Nat.mul_comm, Int.add_comm]

theorem OpposedParts.pack {u v : UnpackedFloat} (h : OpposedParts u v) :
    OpposedParts (Float.Model.pack u).unpack (Float.Model.pack v).unpack := by
  rcases h with rfl | ⟨s, t, rfl, rfl⟩
  · exact .inl (unpack_pack_neg u)
  · rw [unpack_pack (u := .zero s) trivial, unpack_pack (u := .zero t) trivial]
    exact opposedParts_zero s t

/-- The fields of a number are not those of a word that is none. -/
theorem exists_fields {u : UnpackedFloat} (number : u ≠ .notANumber) :
    ∃ s exponent mantissa, UnpackedFloat.pack Format.binary64 u =
      packComponents Format.binary64 s exponent mantissa ∧ (exponent = -1#11 → mantissa = 0#52) := by
  cases u with
  | notANumber => exact (number rfl).elim
  | infinity s => exact ⟨s, _, _, rfl, fun _ => rfl⟩
  | zero s => exact ⟨s, _, _, rfl, fun _ => rfl⟩
  | finite s m e positive =>
      simp only [UnpackedFloat.pack]
      split
      · exact ⟨s, _, _, rfl, fun _ => rfl⟩
      · rename_i small
        split
        · refine ⟨s, _, _, rfl, fun top => (small ?_).elim⟩
          have field := congrArg BitVec.toNat top
          rw [BitVec.toNat_ofNat] at field
          change 2048 ≤ _ + 1
          change _ % 2048 = 2047 at field
          omega
        · exact ⟨s, _, _, rfl, fun top => absurd top (by decide)⟩

/-- Storing keeps a number a number. -/
theorem unpack_pack_number {u : UnpackedFloat} (number : u ≠ .notANumber) :
    (Float.Model.pack u).unpack ≠ .notANumber := by
  obtain ⟨s, exponent, mantissa, packed, fields⟩ := exists_fields number
  simp only [Float.Model.unpack, Float.Model.pack, packed, UnpackedFloat.unpack,
    unpackMantissa_packComponents, unpackExponent_packComponents, unpackSign_packComponents]
  intro none
  split at none
  · rename_i top
    rw [if_pos (fields top)] at none
    cases none
  · split at none
    · split at none <;> cases none
    · cases none

end Rounding

open Rounding

/-- Numbers that differ in their sign only, or two zeros. -/
def Opposed (x y : Float) : Prop := OpposedParts x.toModel.unpack y.toModel.unpack

theorem opposed_neg (x : Float) : Opposed x (-x) := .inl (unpack_neg x)

theorem opposed_undefined : Opposed undefined undefined := .inl rfl

/-- Differences taken the other way round. -/
theorem opposed_sub_comm (x y : Float) : Opposed (x - y) (y - x) := by
  have parts := opposedParts_add_neg x.toModel.unpack y.toModel.unpack.neg
  rw [neg_neg_parts, add_comm_parts x.toModel.unpack.neg, ← sub_eq_add_neg_parts,
    ← sub_eq_add_neg_parts] at parts
  exact parts.pack

theorem mul_comm_word (x y : Float) : x * y = y * x :=
  congrArg (fun u => Float.ofModel (Float.Model.pack u)) (mul_comm_parts _ _)

namespace Opposed

variable {x x' y y' : Float}

theorem cases_word (h : Opposed x x') : x' = -x ∨ (IsZeroWord x ∧ IsZeroWord x') := by
  rcases h with turned | ⟨s, t, zero, zero'⟩
  · refine .inl ?_
    rw [← ofParts_toModel x', turned, ← neg_ofParts, ofParts_toModel]
  · exact .inr ⟨⟨s, zero⟩, ⟨t, zero'⟩⟩

theorem of_zero (zero : IsZeroWord x) (zero' : IsZeroWord x') : Opposed x x' := by
  obtain ⟨s, parts⟩ := zero
  obtain ⟨t, parts'⟩ := zero'
  exact .inr ⟨s, t, parts, parts'⟩

theorem neg (h : Opposed x x') : Opposed (-x) (-x') := by
  rcases h.cases_word with rfl | ⟨zero, zero'⟩
  · exact opposed_neg (-x)
  · exact of_zero zero.neg zero'.neg

theorem add (hx : Opposed x x') (hy : Opposed y y') : Opposed (x + y) (x' + y') :=
  (OpposedParts.add hx hy).pack

theorem sub (hx : Opposed x x') (hy : Opposed y y') : Opposed (x - y) (x' - y') := by
  rw [← signLaws_float.add_neg, ← signLaws_float.add_neg]
  exact hx.add hy.neg

theorem mul_right (h : Opposed x x') {p : Float} (finite : isFinite p = true) :
    Opposed (x * p) (x' * p) := by
  rcases h.cases_word with rfl | ⟨zero, zero'⟩
  · rw [signLaws_float.neg_mul]
    exact opposed_neg (x * p)
  · rw [mul_comm_word x, mul_comm_word x']
    exact of_zero (isZeroWord_mul finite zero) (isZeroWord_mul finite zero')

/-- Opposed numbers have one magnitude. -/
theorem abs_eq (h : Opposed x x') : Scalar.abs x' = Scalar.abs x := by
  have parts : x'.toModel.unpack.abs = x.toModel.unpack.abs := by
    rcases h with turned | ⟨s, t, zero, zero'⟩
    · rw [turned]
      cases x.toModel.unpack <;> rfl
    · rw [zero, zero']
      rfl
  exact congrArg (fun u => Float.ofModel (Float.Model.pack u)) parts

theorem isFinite_eq (h : Opposed x x') : isFinite x' = isFinite x := by
  change x'.toModel.unpack.isFinite = x.toModel.unpack.isFinite
  rcases h with turned | ⟨s, t, zero, zero'⟩
  · rw [turned]
    cases x.toModel.unpack <;> rfl
  · rw [zero, zero']
    rfl

/-- The sign changes, unless there is none. -/
theorem floatValue_eq (h : Opposed x x') : floatValue x' = -floatValue x := by
  unfold floatValue
  rcases h with turned | ⟨s, t, zero, zero'⟩
  · rw [turned, partsValue_neg]
  · rw [zero, zero']
    exact neg_zero.symm

theorem isZero_eq (h : Opposed x x') : isZero x' = isZero x := by
  by_cases finite : isFinite x = true
  · rw [WorkedAlgebra.isZero_eq (denotes_value finite),
      WorkedAlgebra.isZero_eq (denotes_value (h.isFinite_eq.trans finite)), h.floatValue_eq]
    exact decide_eq_decide.mpr neg_eq_zero
  · have infinite : ¬ isFinite x' = true := h.isFinite_eq ▸ finite
    rw [isZero_of_infinite finite, isZero_of_infinite infinite]

/-- The other side of zero. -/
theorem isNegative_eq (h : Opposed x x') (finite : isFinite x = true) (nonzero : isZero x = false) :
    isNegative x' = !isNegative x := by
  rw [WorkedAlgebra.isZero_eq (denotes_value finite), decide_eq_false_iff_not] at nonzero
  rw [WorkedAlgebra.isNegative_eq finite,
    WorkedAlgebra.isNegative_eq (h.isFinite_eq.trans finite), h.floatValue_eq]
  rcases lt_or_gt_of_ne nonzero with negative | positive
  · rw [decide_eq_true negative, decide_eq_false (by linarith : ¬ -floatValue x < 0)]
    rfl
  · rw [decide_eq_true (by linarith : -floatValue x < 0), decide_eq_false (not_lt.mpr positive.le)]
    rfl

end Opposed

section Undefined

variable {x y : Float}

theorem number_roundWithAccuracy (s : Sign) (m : Nat) (e : Int) (a : Accuracy) :
    roundWithAccuracy Format.binary64 s m e a ≠ .notANumber := by
  simp only [roundWithAccuracy]
  split <;> nofun

theorem number_normalize (m e : Int) :
    UnpackedFloat.normalize Format.binary64 m e .positive ≠ .notANumber := by
  unfold UnpackedFloat.normalize UnpackedFloat.round
  split
  · exact number_roundWithAccuracy _ _ _ _
  · nofun
  · exact number_roundWithAccuracy _ _ _ _

theorem number_sub (hx : isFinite x = true) (hy : isFinite y = true) :
    (x - y).toModel.unpack ≠ .notANumber := by
  have difference : UnpackedFloat.sub Format.binary64 x.toModel.unpack y.toModel.unpack ≠
      .notANumber := by
    rw [sub_eq_add_neg_parts]
    rcases finite_parts hx with ⟨s, parts⟩ | ⟨s, m, e, positive, parts⟩ <;>
    rcases finite_parts hy with ⟨t, parts'⟩ | ⟨t, m', e', positive', parts'⟩ <;>
    rw [parts, parts']
    · cases s <;> cases t <;> nofun
    · nofun
    · nofun
    · exact number_normalize _ _
  exact unpack_pack_number difference

theorem undefined_sub (none : x.toModel.unpack = .notANumber) :
    (x - y).toModel.unpack = .notANumber := by
  have difference : UnpackedFloat.sub Format.binary64 x.toModel.unpack y.toModel.unpack =
      .notANumber := by
    rw [sub_eq_add_neg_parts, none]
    cases y.toModel.unpack <;> rfl
  change (Float.Model.pack _).unpack = _
  rw [difference]
  rfl

theorem undefined_abs (none : x.toModel.unpack = .notANumber) :
    (Scalar.abs x).toModel.unpack = .notANumber := by
  change (Float.Model.pack x.toModel.unpack.abs).unpack = _
  rw [none]
  rfl

/-- Nothing is at least an undefined value. -/
theorem le_of_undefined (none : x.toModel.unpack = .notANumber) : le x y = false := by
  have order : (decide (x.toModel ≤ y.toModel) : Bool) =
      (x.toModel.unpack.compare y.toModel.unpack).any (·.isLE) := Bool.decide_eq_true
  refine order.trans ?_
  rw [none]
  rfl

end Undefined
section Quotients

variable {x x' y y' : Float}

theorem eq_self_of_number (number : x.toModel.unpack ≠ .notANumber) : Scalar.eq x x = true := by
  cases parts : x.toModel.unpack with
  | notANumber => exact (number parts).elim
  | zero s | finite s m e positive =>
      refine eq_self ?_
      change x.toModel.unpack.isFinite = true
      rw [parts]
      rfl
  | infinity s =>
      change (x.toModel.unpack.compare x.toModel.unpack == some .eq) = true
      rw [parts]
      cases s <;> rfl

theorem eq_of_zeros (zero : IsZeroWord x) (zero' : IsZeroWord y) : Scalar.eq x y = true :=
  (zero.denotes.eq_eq zero'.denotes).trans (decide_eq_true rfl)

/-- A divisor is infinite or has a significand, if it is a number other than zero. -/
theorem divisor_cases (nonzero : isZero y = false) (number : y.toModel.unpack ≠ .notANumber) :
    (∃ s, y.toModel.unpack = .infinity s) ∨
      ∃ s m e positive, y.toModel.unpack = .finite s m e positive := by
  cases parts : y.toModel.unpack with
  | notANumber => exact (number parts).elim
  | infinity s => exact .inl ⟨s, rfl⟩
  | finite s m e positive => exact .inr ⟨s, m, e, positive, rfl⟩
  | zero s =>
      have zero : isZero y = true := eq_of_zeros ⟨s, parts⟩ isZeroWord_zero
      rw [zero] at nonzero
      cases nonzero

theorem isZeroWord_div (zero : IsZeroWord x) (nonzero : isZero y = false)
    (number : y.toModel.unpack ≠ .notANumber) : IsZeroWord (x / y) := by
  obtain ⟨s, parts⟩ := zero
  have quotient : ∃ t, UnpackedFloat.div Format.binary64 x.toModel.unpack y.toModel.unpack =
      .zero t := by
    rcases divisor_cases nonzero number with ⟨t, divisor⟩ | ⟨t, m, e, positive, divisor⟩ <;>
    · rw [parts, divisor]
      exact ⟨_, rfl⟩
  obtain ⟨t, quotient⟩ := quotient
  have word : (x / y).toModel = Float.Model.pack (.zero t) := congrArg Float.Model.pack quotient
  exact ⟨t, by rw [word]; exact unpack_pack (u := .zero t) trivial⟩

theorem number_div (finite : isFinite x = true) (nonzero : isZero y = false)
    (number : y.toModel.unpack ≠ .notANumber) : (x / y).toModel.unpack ≠ .notANumber := by
  have quotient : UnpackedFloat.div Format.binary64 x.toModel.unpack y.toModel.unpack ≠
      .notANumber := by
    rcases finite_parts finite with ⟨s, parts⟩ | ⟨s, m, e, positive, parts⟩
    · rcases divisor_cases nonzero number with ⟨t, divisor⟩ | ⟨t, m, e, positive, divisor⟩ <;>
      · rw [parts, divisor]
        nofun
    · rcases divisor_cases nonzero number with ⟨t, divisor⟩ | ⟨t, m', e', positive', divisor⟩
      · rw [parts, divisor]
        nofun
      · rw [parts, divisor]
        exact number_roundWithAccuracy _ _ _ _
  exact unpack_pack_number quotient

theorem div_neg_neg_parts (u v : UnpackedFloat) :
    UnpackedFloat.div Format.binary64 u.neg v.neg = UnpackedFloat.div Format.binary64 u v := by
  have signs (s t : Sign) : -s / -t = s / t := by cases s <;> cases t <;> rfl
  cases u <;> cases v <;> simp [UnpackedFloat.div, UnpackedFloat.neg, signs]

/-- Opposed numbers have equal quotients, up to the sign of a zero. -/
theorem Opposed.div (hx : Opposed x x') (hy : Opposed y y') (finite : isFinite x = true)
    (nonzero : isZero y = false) (number : y.toModel.unpack ≠ .notANumber) :
    Scalar.eq (x / y) (x' / y') = true := by
  have number' : y'.toModel.unpack ≠ .notANumber := by
    rcases divisor_cases nonzero number with ⟨s, parts⟩ | ⟨s, m, e, positive, parts⟩ <;>
    · rcases hy with turned | ⟨t, t', zero, -⟩
      · rw [turned, parts]
        nofun
      · rw [parts] at zero
        cases zero
  have nonzero' : isZero y' = false := hy.isZero_eq.trans nonzero
  rcases hx.cases_word with rfl | ⟨zero, zero'⟩
  · rcases hy.cases_word with rfl | ⟨zero, -⟩
    · have same : -x / -y = x / y := by
        have parts := div_neg_neg_parts x.toModel.unpack y.toModel.unpack
        rw [← unpack_neg, ← unpack_neg] at parts
        exact congrArg (fun u => Float.ofModel (Float.Model.pack u)) parts
      rw [same]
      exact eq_self_of_number (number_div finite nonzero number)
    · rw [show isZero y = true from eq_of_zeros zero isZeroWord_zero] at nonzero
      cases nonzero
  · exact eq_of_zeros (isZeroWord_div zero nonzero number) (isZeroWord_div zero' nonzero' number')

end Quotients

end WorkedAlgebra
