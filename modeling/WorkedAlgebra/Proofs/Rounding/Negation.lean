import WorkedAlgebra.Proofs.Rounding.Words

/-!
Changing the sign of a number. Rounding does not see signs, and storing keeps them apart from the
magnitude, so a sign can be moved through products and quotients, overflow included.
-/

namespace WorkedAlgebra

structure SignLaws (α : Type) [Scalar α] : Prop where
  neg_neg (a : α) : - -a = a
  sub_neg (a b : α) : a - -b = a + b
  add_neg (a b : α) : a + -b = a - b
  neg_mul (a b : α) : -a * b = -(a * b)
  neg_div (a b : α) : -a / b = -(a / b)

namespace Rounding

open Float.Model Float.Model.UnpackedFloat

theorem neg_neg_sign (s : Sign) : - -s = s := by
  cases s <;> rfl

theorem neg_neg_parts (u : UnpackedFloat) : u.neg.neg = u := by
  cases u <;> simp [UnpackedFloat.neg, neg_neg_sign]

theorem unpack_packComponents_neg (s : Sign) (exponent : BitVec 11) (mantissa : BitVec 52) :
    UnpackedFloat.unpack Format.binary64 (packComponents Format.binary64 (-s) exponent mantissa) =
      (UnpackedFloat.unpack Format.binary64
        (packComponents Format.binary64 s exponent mantissa)).neg := by
  simp only [UnpackedFloat.unpack, unpackMantissa_packComponents, unpackExponent_packComponents,
    unpackSign_packComponents, ofBitVec_toBitVec]
  split
  · split <;> rfl
  · split
    · split <;> rfl
    · rfl

/-- The word of a number but for its sign. -/
theorem exists_packComponents {u : UnpackedFloat} (number : u ≠ .notANumber) :
    ∃ s exponent mantissa, UnpackedFloat.pack Format.binary64 u =
        packComponents Format.binary64 s exponent mantissa ∧
      UnpackedFloat.pack Format.binary64 u.neg =
        packComponents Format.binary64 (-s) exponent mantissa := by
  cases u with
  | notANumber => exact (number rfl).elim
  | infinity s => exact ⟨s, _, _, rfl, rfl⟩
  | zero s => exact ⟨s, _, _, rfl, rfl⟩
  | finite s m e positive =>
      simp only [UnpackedFloat.neg, UnpackedFloat.pack]
      split
      · exact ⟨s, _, _, rfl, rfl⟩
      · split
        · exact ⟨s, _, _, rfl, rfl⟩
        · exact ⟨s, _, _, rfl, rfl⟩

theorem unpack_pack_neg (u : UnpackedFloat) :
    (Float.Model.pack u.neg).unpack = (Float.Model.pack u).unpack.neg := by
  by_cases number : u = .notANumber
  · subst number
    rfl
  · obtain ⟨s, exponent, mantissa, plain, turned⟩ := exists_packComponents number
    simp only [Float.Model.unpack, Float.Model.pack, plain, turned]
    exact unpack_packComponents_neg s exponent mantissa

theorem roundWithAccuracy_neg (s : Sign) (m : Nat) (e : Int) (accuracy : Accuracy) :
    roundWithAccuracy Format.binary64 (-s) m e accuracy =
      (roundWithAccuracy Format.binary64 s m e accuracy).neg := by
  unfold roundWithAccuracy
  dsimp only
  split <;> rfl

theorem neg_mul_sign (s t : Sign) : -s * t = -(s * t) := by
  cases s <;> cases t <;> rfl

theorem neg_div_sign (s t : Sign) : -s / t = -(s / t) := by
  cases s <;> cases t <;> rfl

theorem mul_neg_parts (a b : UnpackedFloat) :
    UnpackedFloat.mul Format.binary64 a.neg b = (UnpackedFloat.mul Format.binary64 a b).neg := by
  cases a <;> cases b <;>
    simp [UnpackedFloat.mul, UnpackedFloat.neg, neg_mul_sign, roundWithAccuracy_neg]

theorem div_neg_parts (a b : UnpackedFloat) :
    UnpackedFloat.div Format.binary64 a.neg b = (UnpackedFloat.div Format.binary64 a b).neg := by
  cases a <;> cases b <;>
    simp [UnpackedFloat.div, UnpackedFloat.neg, neg_div_sign, roundWithAccuracy_neg]

end Rounding

open Rounding Float.Model

theorem unpack_neg (x : Float) : (-x).toModel.unpack = x.toModel.unpack.neg := by
  change (Float.Model.pack x.toModel.unpack.neg).unpack = _
  rw [unpack_pack_neg, pack_unpack]

theorem neg_ofParts (u : UnpackedFloat) :
    -Float.ofModel (Float.Model.pack u) = Float.ofModel (Float.Model.pack u.neg) := by
  change Float.ofModel (Float.Model.pack (Float.Model.pack u).unpack.neg) = _
  rw [← unpack_pack_neg, pack_unpack]

theorem signLaws_float : SignLaws Float where
  neg_neg a := by
    rw [← ofParts_toModel a, neg_ofParts, neg_ofParts, neg_neg_parts]
  sub_neg a b := by
    have parts : UnpackedFloat.sub Format.binary64 a.toModel.unpack (-b).toModel.unpack =
        UnpackedFloat.add Format.binary64 a.toModel.unpack b.toModel.unpack := by
      rw [sub_eq_add_neg_parts, unpack_neg, neg_neg_parts]
    exact congrArg (fun u => Float.ofModel (Float.Model.pack u)) parts
  add_neg a b := by
    have parts : UnpackedFloat.add Format.binary64 a.toModel.unpack (-b).toModel.unpack =
        UnpackedFloat.sub Format.binary64 a.toModel.unpack b.toModel.unpack := by
      rw [sub_eq_add_neg_parts, unpack_neg]
    exact congrArg (fun u => Float.ofModel (Float.Model.pack u)) parts
  neg_mul a b := by
    have parts : UnpackedFloat.mul Format.binary64 (-a).toModel.unpack b.toModel.unpack =
        (UnpackedFloat.mul Format.binary64 a.toModel.unpack b.toModel.unpack).neg := by
      rw [unpack_neg, mul_neg_parts]
    exact (congrArg (fun u => Float.ofModel (Float.Model.pack u)) parts).trans (neg_ofParts _).symm
  neg_div a b := by
    have parts : UnpackedFloat.div Format.binary64 (-a).toModel.unpack b.toModel.unpack =
        (UnpackedFloat.div Format.binary64 a.toModel.unpack b.toModel.unpack).neg := by
      rw [unpack_neg, div_neg_parts]
    exact (congrArg (fun u => Float.ofModel (Float.Model.pack u)) parts).trans (neg_ofParts _).symm

end WorkedAlgebra
