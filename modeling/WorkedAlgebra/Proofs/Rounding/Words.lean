import WorkedAlgebra.Proofs.Rounding.Denoted

/-!
Floating-point numbers as words: a finite one is given by its parts, adding zero to it changes
nothing, and only finite operands have a finite result.
-/

namespace WorkedAlgebra.Rounding

open Float.Model Float.Model.UnpackedFloat

theorem toBitVec_ofBitVec (b : BitVec 1) : (Sign.ofBitVec b).toBitVec = b := by
  revert b
  decide

/-- A word consists of its three fields. -/
theorem packComponents_unpack (b : BitVec 64) :
    packComponents Format.binary64 (Sign.ofBitVec (@unpackSign Format.binary64 b))
      (@unpackExponent Format.binary64 b) (@unpackMantissa Format.binary64 b) = b := by
  rw [packComponents, toBitVec_ofBitVec]
  change (b.extractLsb' 63 1 ++ b.extractLsb' 52 11 ++ b.extractLsb' 0 52 : BitVec 64) = b
  ext i hi
  simp only [BitVec.getElem_append, BitVec.getElem_extractLsb']
  split
  · simp [BitVec.getLsbD_eq_getElem hi]
  · split
    · rw [show 52 + (i - 52) = i by omega, BitVec.getLsbD_eq_getElem hi]
    · rw [show 63 + (i - 52 - 11) = i by omega, BitVec.getLsbD_eq_getElem hi]

theorem pack_normal (s : Sign) (exponent : BitVec 11) (mantissa : BitVec 52)
    (notBottom : exponent ≠ 0#11) (notTop : exponent ≠ -1#11) (positive : 0 < (1#1 ++ mantissa).toNat) :
    UnpackedFloat.pack Format.binary64 (.finite s (1#1 ++ mantissa).toNat
      ((exponent.toNat : Int) - (Format.binary64.exponentBias + (52 : Nat))) positive) =
      packComponents Format.binary64 s exponent mantissa := by
  have low : exponent.toNat ≠ 0 := fun h => notBottom (BitVec.eq_of_toNat_eq h)
  have high : exponent.toNat ≠ 2047 := fun h => notTop (BitVec.eq_of_toNat_eq h)
  have exponentRange := exponent.isLt
  have mantissaRange := mantissa.isLt
  have field : ((exponent.toNat : Int) - (Format.binary64.exponentBias + (52 : Nat)) +
      Format.binary64.exponentBias + (52 : Nat)).toNat = exponent.toNat := by
    omega
  have digits : (1#1 ++ mantissa).toNat.log2 = 52 := by
    rw [Nat.log2_eq_iff positive.ne', toNat_implicit_append]
    omega
  simp only [UnpackedFloat.pack, field, digits]
  rw [if_neg (by change ¬ 2048 ≤ exponent.toNat + 1; omega),
    if_pos (show 52 + 1 = Format.binary64.mantissaBits from rfl)]
  congr 1
  · simp
  · refine BitVec.eq_of_toNat_eq ?_
    rw [BitVec.toNat_ofNat, toNat_implicit_append]
    omega

theorem pack_subnormal (s : Sign) (mantissa : BitVec 52) {e : Int} (low : e = -1074)
    (positive : 0 < mantissa.toNat) :
    UnpackedFloat.pack Format.binary64 (.finite s mantissa.toNat e positive) =
      packComponents Format.binary64 s 0#11 mantissa := by
  subst low
  have short : mantissa.toNat.log2 < 52 := (Nat.log2_lt positive.ne').mpr mantissa.isLt
  have field : ((-1074 : Int) + Format.binary64.exponentBias + (52 : Nat)).toNat = 1 := rfl
  simp only [UnpackedFloat.pack, field]
  rw [if_neg (by decide), if_neg (by change ¬ mantissa.toNat.log2 + 1 = 53; omega)]
  congr 1
  simp

/-- Reading a number and storing it again. Not a number has one word only. -/
theorem pack_unpack (x : Float.Model) : Float.Model.pack x.unpack = x := by
  obtain ⟨⟨bits⟩, valid⟩ := x
  have fields := packComponents_unpack bits
  suffices UnpackedFloat.pack Format.binary64 (UnpackedFloat.unpack Format.binary64 bits) = bits by
    simpa [Float.Model.pack, Float.Model.unpack] using congrArg UInt64.ofBitVec this
  unfold UnpackedFloat.unpack
  dsimp only
  split
  · rename_i top
    split
    · rename_i infinite
      rw [top, infinite] at fields
      exact fields
    · rename_i other
      exact (valid.eq_packedNaN top other).symm
  · rename_i notTop
    split
    · rename_i bottom
      split
      · rename_i zero
        rw [bottom, zero] at fields
        exact fields
      · rename_i nonzero
        have positive : 0 < (@unpackMantissa Format.binary64 bits).toNat :=
          Nat.pos_of_ne_zero fun h => nonzero (BitVec.eq_of_toNat_eq h)
        have exponent : ((@unpackExponent Format.binary64 bits).toNat : Int) -
            (Format.binary64.exponentBias + (52 : Nat)) + 1 = -1074 := by
          rw [bottom]
          rfl
        rw [bottom] at fields
        exact (pack_subnormal _ _ exponent positive).trans fields
    · rename_i notBottom
      have packed := pack_normal (Sign.ofBitVec (@unpackSign Format.binary64 bits)) _
        (@unpackMantissa Format.binary64 bits) notBottom notTop
        (by rw [toNat_implicit_append]; omega)
      rwa [fields] at packed

section Finite

theorem isFinite_pack {u : UnpackedFloat} (infinite : u.isFinite = false) :
    (Float.Model.pack u).isFinite = false := by
  cases u with
  | infinity s => cases s <;> rfl
  | notANumber => rfl
  | zero s | finite s m e positive => cases infinite

theorem isFinite_add {a b : UnpackedFloat}
    (finite : (UnpackedFloat.add Format.binary64 a b).isFinite = true) :
    a.isFinite = true ∧ b.isFinite = true := by
  cases a with
  | notANumber => cases finite
  | infinity s =>
      cases b with
      | infinity t =>
          unfold UnpackedFloat.add at finite
          dsimp only at finite
          split at finite <;> cases finite
      | notANumber | zero t | finite t m e positive => cases finite
  | zero s | finite s m e positive =>
      cases b with
      | infinity t | notANumber => cases finite
      | zero t | finite t m' e' positive' => exact ⟨rfl, rfl⟩

theorem isFinite_neg (a : UnpackedFloat) : a.neg.isFinite = a.isFinite := by
  cases a <;> rfl

theorem isFinite_mul {a b : UnpackedFloat}
    (finite : (UnpackedFloat.mul Format.binary64 a b).isFinite = true) :
    a.isFinite = true ∧ b.isFinite = true := by
  cases a <;> cases b <;> simp_all [UnpackedFloat.mul, UnpackedFloat.isFinite]

end Finite

section Unsigned

def Unsigned : UnpackedFloat → Prop
  | .zero s | .finite s _ _ _ | .infinity s => s = .positive
  | .notANumber => True

instance : (u : UnpackedFloat) → Decidable (Unsigned u)
  | .zero .positive | .finite .positive _ _ _ | .infinity .positive => isTrue rfl
  | .zero .negative | .finite .negative _ _ _ | .infinity .negative => isFalse nofun
  | .notANumber => isTrue trivial

theorem Unsigned.pack {u : UnpackedFloat} (h : Unsigned u) :
    ∃ exponent mantissa, UnpackedFloat.pack Format.binary64 u =
      packComponents Format.binary64 .positive exponent mantissa := by
  cases u with
  | notANumber => exact ⟨_, _, rfl⟩
  | infinity s =>
      cases h
      exact ⟨_, _, rfl⟩
  | zero s =>
      cases h
      exact ⟨_, _, rfl⟩
  | finite s m e positive =>
      cases h
      simp only [UnpackedFloat.pack]
      split
      · exact ⟨_, _, rfl⟩
      · split
        · exact ⟨_, _, rfl⟩
        · exact ⟨_, _, rfl⟩

theorem Unsigned.unpack_pack {u : UnpackedFloat} (h : Unsigned u) :
    Unsigned (Float.Model.pack u).unpack := by
  obtain ⟨exponent, mantissa, packed⟩ := h.pack
  unfold Float.Model.unpack Float.Model.pack
  simp only [packed, UnpackedFloat.unpack, unpackSign_packComponents, ofBitVec_toBitVec]
  split
  · split
    · rfl
    · trivial
  · split
    · split
      · rfl
      · rfl
    · rfl

theorem Unsigned.roundWithAccuracy (m : Nat) (e : Int) (accuracy : Accuracy) :
    Unsigned (roundWithAccuracy Format.binary64 .positive m e accuracy) := by
  unfold UnpackedFloat.roundWithAccuracy
  dsimp only
  split <;> rfl

theorem Unsigned.mul {a b : UnpackedFloat} (ha : Unsigned a) (hb : Unsigned b) :
    Unsigned (UnpackedFloat.mul Format.binary64 a b) := by
  cases a <;> cases b <;> cases ha <;> cases hb <;>
    first
    | trivial
    | rfl
    | exact Unsigned.roundWithAccuracy _ _ _

theorem Unsigned.div {a b : UnpackedFloat} (ha : Unsigned a) (hb : Unsigned b) :
    Unsigned (UnpackedFloat.div Format.binary64 a b) := by
  cases a <;> cases b <;> cases ha <;> cases hb <;>
    first
    | trivial
    | rfl
    | exact Unsigned.roundWithAccuracy _ _ _

theorem Unsigned.ofNat (n : Nat) : Unsigned (UnpackedFloat.ofNat Format.binary64 n) := by
  unfold UnpackedFloat.ofNat UnpackedFloat.ofInt UnpackedFloat.normalize
  split
  · rename_i negative
    have := Int.compare_eq_lt.mp negative
    omega
  · rfl
  · exact Unsigned.roundWithAccuracy _ _ _

theorem Unsigned.ofScientific (m : Nat) (e : Int) :
    Unsigned (UnpackedFloat.ofScientific Format.binary64 m e) := by
  unfold UnpackedFloat.ofScientific
  split
  · rfl
  · split
    · rfl
    · split
      · rfl
      · split
        · exact Unsigned.mul rfl rfl
        · exact Unsigned.div rfl rfl

end Unsigned

end WorkedAlgebra.Rounding

namespace WorkedAlgebra

open Rounding Float.Model

section Operands

variable {x y : Float}

theorem isFinite_ofModel {u : UnpackedFloat}
    (finite : Scalar.isFinite (Float.ofModel (Float.Model.pack u)) = true) : u.isFinite = true := by
  by_contra infinite
  have packed : (Float.Model.pack u).isFinite = true := finite
  rw [isFinite_pack (Bool.eq_false_iff.mpr infinite)] at packed
  cases packed

/-- Only finite operands have a finite sum. -/
theorem finite_of_add (finite : Scalar.isFinite (x + y) = true) :
    Scalar.isFinite x = true ∧ Scalar.isFinite y = true :=
  isFinite_add (isFinite_ofModel finite)

theorem finite_of_sub (finite : Scalar.isFinite (x - y) = true) :
    Scalar.isFinite x = true ∧ Scalar.isFinite y = true := by
  have parts : UnpackedFloat.isFinite (UnpackedFloat.sub Format.binary64 x.toModel.unpack
      y.toModel.unpack) = true := isFinite_ofModel finite
  rw [sub_eq_add_neg_parts] at parts
  obtain ⟨left, right⟩ := isFinite_add parts
  exact ⟨left, (isFinite_neg _).symm.trans right⟩

theorem finite_of_mul (finite : Scalar.isFinite (x * y) = true) :
    Scalar.isFinite x = true ∧ Scalar.isFinite y = true :=
  isFinite_mul (isFinite_ofModel finite)

end Operands

section Literals

theorem unsigned_powersOfTen :
    ∀ x ∈ Float.exactlyRepresentablePowersOfTen.toList, Unsigned x.toModel.unpack := by
  decide +kernel

/-- A decimal is not negative, nor negative zero. -/
theorem unsigned_ofDecimal (mantissa places : Nat) :
    Unsigned (Scalar.ofDecimal mantissa places : Float).toModel.unpack := by
  change Unsigned (Float.ofScientific mantissa true places).toModel.unpack
  unfold Float.ofScientific
  split
  · exact Unsigned.unpack_pack (Unsigned.div (Unsigned.unpack_pack (Unsigned.ofNat _))
      (unsigned_powersOfTen _ (Array.getElem_mem_toList _)))
  · exact Unsigned.unpack_pack (Unsigned.ofScientific _ _)

end Literals

section Words

variable {x z : Float}

/-- A number is what its parts are stored as. -/
theorem ofParts_toModel (x : Float) : Float.ofModel (Float.Model.pack x.toModel.unpack) = x :=
  congrArg Float.ofModel (pack_unpack x.toModel)

theorem eq_of_parts {u : UnpackedFloat} (parts : u = x.toModel.unpack) :
    Float.ofModel (Float.Model.pack u) = x := by
  rw [parts, ofParts_toModel]

/-- A finite number is a zero or has a significand. -/
theorem finite_parts (finite : Scalar.isFinite x = true) :
    (∃ s, x.toModel.unpack = .zero s) ∨
      ∃ s m e positive, x.toModel.unpack = .finite s m e positive := by
  have stored := storable_unpack finite
  cases parts : x.toModel.unpack with
  | zero s => exact .inl ⟨s, rfl⟩
  | finite s m e positive => exact .inr ⟨s, m, e, positive, rfl⟩
  | infinity s | notANumber =>
      rw [parts] at stored
      exact stored.elim

/-- Adding a finite number without a negative sign to zero. -/
theorem zero_add_word (finite : Scalar.isFinite x = true)
    (unsigned : Unsigned x.toModel.unpack) (zero : z.toModel.unpack = .zero .positive) :
    z + x = x := by
  have sum : UnpackedFloat.add Format.binary64 z.toModel.unpack x.toModel.unpack =
      x.toModel.unpack := by
    rw [zero]
    rcases finite_parts finite with ⟨s, parts⟩ | ⟨s, m, e, positive, parts⟩
    · rw [parts] at unsigned ⊢
      rw [show s = .positive from unsigned]
      rfl
    · rw [parts]
      rfl
  exact eq_of_parts sum

theorem sub_zero_word (finite : Scalar.isFinite x = true)
    (zero : z.toModel.unpack = .zero .positive) : x - z = x := by
  have difference : UnpackedFloat.sub Format.binary64 x.toModel.unpack z.toModel.unpack =
      x.toModel.unpack := by
    rw [zero]
    rcases finite_parts finite with ⟨s, parts⟩ | ⟨s, m, e, positive, parts⟩
    · rw [parts]
      cases s <;> rfl
    · rw [parts]
      rfl
  exact eq_of_parts difference

theorem mul_zero_parts (finite : Scalar.isFinite x = true)
    (unsigned : Unsigned x.toModel.unpack) (zero : z.toModel.unpack = .zero .positive) :
    (x * z).toModel.unpack = .zero .positive := by
  have product : UnpackedFloat.mul Format.binary64 x.toModel.unpack z.toModel.unpack =
      .zero .positive := by
    rw [zero]
    rcases finite_parts finite with ⟨s, parts⟩ | ⟨s, m, e, positive, parts⟩ <;>
    · rw [parts] at unsigned ⊢
      rw [show s = .positive from unsigned]
      rfl
  have word : (x * z).toModel = Float.Model.pack (.zero .positive) :=
    congrArg Float.Model.pack product
  rw [word]
  rfl

end Words

end WorkedAlgebra
