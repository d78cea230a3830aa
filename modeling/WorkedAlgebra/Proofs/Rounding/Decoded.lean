import WorkedAlgebra.Proofs.Rounding.Negation

/-!
Finite numbers decoded from their words: sign, significand and exponent are those of the number
that the word denotes. A number without a negative sign is determined by its value.
-/

namespace WorkedAlgebra

open Rounding Float.Model Float.Model.UnpackedFloat

section Fields

theorem toNat_unpackExponent (b : BitVec 64) :
    (@unpackExponent Format.binary64 b).toNat = (b.toNat >>> 52) % (1 <<< 11) :=
  BitVec.extractLsb'_toNat 52 11 b

theorem toNat_unpackMantissa (b : BitVec 64) :
    (@unpackMantissa Format.binary64 b).toNat = b.toNat % (1 <<< 52) :=
  BitVec.extractLsb'_toNat 0 52 b

theorem toNat_unpackSign (b : BitVec 64) :
    (@unpackSign Format.binary64 b).toNat = b.toNat >>> 63 := by
  refine (BitVec.extractLsb'_toNat 63 1 b).trans (Nat.mod_eq_of_lt ?_)
  have := b.isLt
  rw [Nat.shiftRight_eq_div_pow]
  omega

/-- Decoding reads the fields of the word. -/
theorem ofFloat_fields (x : Float) :
    Binary64.ofFloat x =
      if @unpackExponent Format.binary64 x.toModel.toBits.toBitVec = 0#11 then
        ⟨(@unpackSign Format.binary64 x.toModel.toBits.toBitVec).toNat == 1,
          (@unpackMantissa Format.binary64 x.toModel.toBits.toBitVec).toNat, -1074⟩
      else
        ⟨(@unpackSign Format.binary64 x.toModel.toBits.toBitVec).toNat == 1,
          (@unpackMantissa Format.binary64 x.toModel.toBits.toBitVec).toNat + 1 <<< 52,
          (@unpackExponent Format.binary64 x.toModel.toBits.toBitVec).toNat - 1075⟩ := by
  have bottom : @unpackExponent Format.binary64 x.toModel.toBits.toBitVec = 0#11 ↔
      (x.toBits.toNat >>> 52) % (1 <<< 11) = 0 := by
    rw [← BitVec.toNat_inj, toNat_unpackExponent]
    rfl
  simp only [bottom, toNat_unpackExponent, toNat_unpackMantissa, toNat_unpackSign]
  rfl

end Fields

def Binary64.magnitude (b : Binary64) : ℚ := b.significand * 2 ^ b.exponent

variable {x : Float}

/-- The sign that decoding reads off a word is that of the number. -/
theorem ofFloat_negative_iff (number : x.toModel.unpack ≠ .notANumber) :
    (Binary64.ofFloat x).negative = true ↔ ¬ Unsigned x.toModel.unpack := by
  rw [ofFloat_fields]
  obtain ⟨bits, word⟩ : ∃ bits, x.toModel.toBits.toBitVec = bits := ⟨_, rfl⟩
  change UnpackedFloat.unpack Format.binary64 x.toModel.toBits.toBitVec ≠ _ at number
  change _ ↔ ¬ Unsigned (UnpackedFloat.unpack Format.binary64 x.toModel.toBits.toBitVec)
  rw [word] at number ⊢
  have sign (bit : BitVec 1) : (bit.toNat == 1) = true ↔ ¬ Sign.ofBitVec bit = .positive := by
    rcases BitVec.eq_zero_or_eq_one bit with rfl | rfl
    · exact iff_of_false Bool.false_ne_true fun turned => turned rfl
    · exact iff_of_true rfl fun same => by cases same
  have negative : ∀ {b : Bool} {n m : Nat} {e f : Int} {c : Prop} [Decidable c],
      (if c then (⟨b, n, e⟩ : Binary64) else ⟨b, m, f⟩).negative = b := by
    intros
    split <;> rfl
  rw [negative, sign]
  unfold UnpackedFloat.unpack at number ⊢
  dsimp only at number ⊢
  split
  · rename_i top
    rw [if_pos top] at number
    split
    · rfl
    · rename_i nonzero
      rw [if_neg nonzero] at number
      exact absurd rfl number
  · split
    · split <;> rfl
    · rfl

/-- The parts of a finite number, read off the fields of its word. -/
theorem ofFloat_decodes (finite : Scalar.isFinite x = true) :
    |floatValue x| = (Binary64.ofFloat x).magnitude ∧
      (Unsigned x.toModel.unpack → (Binary64.ofFloat x).negative = false) := by
  have stored : Storable x.toModel.unpack := storable_unpack finite
  have number : x.toModel.unpack ≠ .notANumber := by
    intro undefined
    rw [undefined] at stored
    exact stored
  refine ⟨?_, fun unsigned => Bool.eq_false_iff.mpr fun negative =>
    (ofFloat_negative_iff number).mp negative unsigned⟩
  rw [ofFloat_fields, floatValue]
  obtain ⟨bits, word⟩ : ∃ bits, x.toModel.toBits.toBitVec = bits := ⟨_, rfl⟩
  change Storable (UnpackedFloat.unpack Format.binary64 x.toModel.toBits.toBitVec) at stored
  change |partsValue (UnpackedFloat.unpack Format.binary64 x.toModel.toBits.toBitVec)| = _
  rw [word] at stored ⊢
  unfold UnpackedFloat.unpack at stored ⊢
  dsimp only at stored ⊢
  split
  · rename_i top
    rw [if_pos top] at stored
    split at stored <;> exact stored.elim
  · rename_i notTop
    split
    · rename_i bottom
      split
      · rename_i zero
        rw [zero]
        simp [partsValue, Binary64.magnitude]
      · have exponent : ((@unpackExponent Format.binary64 bits).toNat : Int) -
            (Format.binary64.exponentBias + (52 : Nat)) + 1 = -1074 := by
          rw [bottom]
          rfl
        rw [abs_partsValue, exponent, Binary64.magnitude]
    · rw [abs_partsValue, toNat_implicit_append, Nat.add_comm, Binary64.magnitude]
      rfl

theorem canonical_unique {m m' : Nat} {e e' : Int} (h : Canonical m e) (h' : Canonical m' e')
    (same : (m : ℚ) * 2 ^ e = m' * 2 ^ e') : m = m' ∧ e = e' := by
  rcases lt_trichotomy e e' with less | rfl | greater
  · exact ((canonical_lt h h' less).ne same).elim
  · have numbers := mul_right_cancel₀ (two_zpow_pos e).ne' same
    exact ⟨by exact_mod_cast numbers, rfl⟩
  · exact ((canonical_lt h' h greater).ne' same).elim

theorem parts_unique {u v : UnpackedFloat} (stored : Storable u) (stored' : Storable v)
    (unsigned : Unsigned u) (unsigned' : Unsigned v) (same : partsValue u = partsValue v) :
    u = v := by
  cases u with
  | infinity s | notANumber => exact stored.elim
  | zero s =>
      cases unsigned
      cases v with
      | infinity s | notANumber => exact stored'.elim
      | zero s =>
          cases unsigned'
          rfl
      | finite s m e positive =>
          cases unsigned'
          rw [partsValue_positive] at same
          exact ((size_pos positive e).ne same).elim
  | finite s m e positive =>
      cases unsigned
      rw [partsValue_positive] at same
      cases v with
      | infinity s | notANumber => exact stored'.elim
      | zero s => exact ((size_pos positive e).ne' same).elim
      | finite s m' e' positive' =>
          cases unsigned'
          rw [partsValue_positive] at same
          obtain ⟨rfl, rfl⟩ := canonical_unique stored stored' same
          rfl

variable {y : Float}

theorem finite_of_eq (finite : Scalar.isFinite x = true) (same : Scalar.eq y x = true) :
    Scalar.isFinite y = true := by
  have stored := storable_unpack finite
  have equal : (y.toModel.unpack.compare x.toModel.unpack == some .eq) = true := same
  change y.toModel.unpack.isFinite = true
  cases left : y.toModel.unpack with
  | zero s | finite s m e positive => rfl
  | infinity s | notANumber =>
      cases right : x.toModel.unpack with
      | zero t | finite t m' e' positive' =>
          rw [left, right] at equal
          first | cases equal | (cases s <;> cases equal)
      | infinity t | notANumber =>
          rw [right] at stored
          exact stored.elim

/-- Numbers without a negative sign are equal only to themselves. -/
theorem eq_of_unsigned (finite : Scalar.isFinite x = true) (unsigned : Unsigned x.toModel.unpack)
    (unsigned' : Unsigned y.toModel.unpack) (same : Scalar.eq y x = true) : y = x := by
  have finite' := finite_of_eq finite same
  rw [(denotes_value finite').eq_eq (denotes_value finite), decide_eq_true_iff] at same
  have parts := parts_unique (storable_unpack finite') (storable_unpack finite) unsigned' unsigned
    same
  rw [← ofParts_toModel y, eq_of_parts parts]

theorem eq_self (finite : Scalar.isFinite x = true) : Scalar.eq x x = true := by
  rw [(denotes_value finite).eq_eq (denotes_value finite), decide_eq_true_iff]

theorem floatValue_nonneg (unsigned : Unsigned x.toModel.unpack) : 0 ≤ floatValue x := by
  rw [floatValue]
  cases parts : x.toModel.unpack with
  | finite s m e positive =>
      rw [parts] at unsigned
      cases unsigned
      rw [partsValue_positive]
      exact (size_pos positive e).le
  | zero s | infinity s | notANumber => exact le_rfl

theorem eq_zero_of_value (finite : Scalar.isFinite x = true) (unsigned : Unsigned x.toModel.unpack)
    (value : floatValue x = 0) : x = Scalar.zero := by
  refine (eq_of_unsigned finite unsigned (unsigned_ofDecimal 0 0) ?_).symm
  exact (denotes_zero.eq_eq ⟨finite, value⟩).trans (decide_eq_true rfl)

end WorkedAlgebra
