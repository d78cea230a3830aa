import WorkedAlgebra.Proofs.Rounding.Nearest

/-!
Storing numbers as words of 64 bits. What a word decodes to can be stored again, and storing it
loses nothing.
-/

namespace WorkedAlgebra.Rounding

open Float.Model Float.Model.UnpackedFloat

theorem unpackSign_packComponents (s : Sign) (exponent : BitVec 11) (mantissa : BitVec 52) :
    unpackSign (packComponents Format.binary64 s exponent mantissa) = s.toBitVec := by
  change (s.toBitVec ++ exponent ++ mantissa).extractLsb' 63 1 = s.toBitVec
  rw [BitVec.extractLsb'_append_eq_of_le (by decide), BitVec.extractLsb'_append_eq_of_le (by decide)]
  cases s <;> rfl

theorem ofBitVec_toBitVec (s : Sign) : Sign.ofBitVec s.toBitVec = s := by
  cases s <;> rfl

theorem toNat_implicit_append (mantissa : BitVec 52) :
    (1#1 ++ mantissa).toNat = 2 ^ 52 + mantissa.toNat := by
  rw [BitVec.toNat_append, ← Nat.shiftLeft_add_eq_or_of_lt mantissa.isLt]
  simp [Nat.shiftLeft_eq]

theorem ofNat_eq_iff {w n k : Nat} (hn : n < 2 ^ w) (hk : k < 2 ^ w) :
    BitVec.ofNat w n = BitVec.ofNat w k ↔ n = k := by
  rw [← BitVec.toNat_inj, BitVec.toNat_ofNat, BitVec.toNat_ofNat, Nat.mod_eq_of_lt hn,
    Nat.mod_eq_of_lt hk]

theorem unpack_pack_normal (s : Sign) {m : Nat} {e : Int} (h : Canonical m e)
    (long : 2 ^ 52 ≤ m) :
    (Float.Model.pack (.finite s m e h.positive)).unpack = .finite s m e h.positive := by
  obtain ⟨biased, hb⟩ : ∃ biased : Nat, (e + 1075).toNat = biased := ⟨_, rfl⟩
  have range : 0 < biased ∧ biased < 2047 := by
    have := h.low
    have := h.high
    omega
  have digits : m.log2 = 52 := (Nat.log2_eq_iff h.positive.ne').mpr ⟨long, h.fits⟩
  have packed : UnpackedFloat.pack Format.binary64 (.finite s m e h.positive) =
      packComponents Format.binary64 s (BitVec.ofNat 11 biased) (BitVec.ofNat 52 m) := by
    have field : (e + Format.binary64.exponentBias + (52 : Nat)).toNat = biased := by
      rw [← hb, show (Format.binary64.exponentBias : Int) = 1023 from rfl]
      congr 1
      push_cast
      ring
    simp only [UnpackedFloat.pack, field, digits]
    rw [if_neg (by change ¬ 2048 ≤ biased + 1; omega),
      if_pos (show 52 + 1 = Format.binary64.mantissaBits from rfl)]
  have exponentField : (BitVec.ofNat 11 biased).toNat = biased := by
    rw [BitVec.toNat_ofNat, Nat.mod_eq_of_lt (by omega)]
  have notTop : BitVec.ofNat 11 biased ≠ -1#11 := by
    rw [show (-1#11 : BitVec 11) = BitVec.ofNat 11 2047 by decide, Ne,
      ofNat_eq_iff (by omega) (by omega)]
    omega
  have notBottom : BitVec.ofNat 11 biased ≠ 0#11 := by
    rw [Ne, ofNat_eq_iff (by omega) (by omega)]
    omega
  have mantissaField : (1#1 ++ BitVec.ofNat 52 m).toNat = m := by
    rw [toNat_implicit_append, BitVec.toNat_ofNat]
    have := h.fits
    omega
  unfold Float.Model.unpack Float.Model.pack
  simp only [packed, UnpackedFloat.unpack, unpackMantissa_packComponents,
    unpackExponent_packComponents, unpackSign_packComponents, ofBitVec_toBitVec, exponentField,
    mantissaField, notTop, notBottom, ↓reduceIte]
  congr 1
  rw [show (Format.binary64.exponentBias : Int) = 1023 from rfl]
  push_cast
  omega

theorem unpack_pack_subnormal (s : Sign) {m : Nat} (positive : 0 < m) (short : m < 2 ^ 52) :
    (Float.Model.pack (.finite s m (-1074) positive)).unpack = .finite s m (-1074) positive := by
  have digits : m.log2 < 52 := (Nat.log2_lt positive.ne').mpr short
  have packed : UnpackedFloat.pack Format.binary64 (.finite s m (-1074) positive) =
      packComponents Format.binary64 s 0#11 (BitVec.ofNat 52 m) := by
    have field : ((-1074 : Int) + Format.binary64.exponentBias + (52 : Nat)).toNat = 1 := rfl
    simp only [UnpackedFloat.pack, field]
    rw [if_neg (by decide), if_neg (by change ¬ m.log2 + 1 = 53; omega)]
  have mantissaField : (BitVec.ofNat 52 m).toNat = m := by
    rw [BitVec.toNat_ofNat, Nat.mod_eq_of_lt short]
  have nonzero : BitVec.ofNat 52 m ≠ 0#52 := by
    rw [Ne, ofNat_eq_iff short (by omega)]
    omega
  have notTop : (0#11 : BitVec 11) ≠ -1#11 := by decide
  unfold Float.Model.unpack Float.Model.pack
  simp only [packed, UnpackedFloat.unpack, unpackMantissa_packComponents,
    unpackExponent_packComponents, unpackSign_packComponents, ofBitVec_toBitVec, mantissaField,
    notTop, nonzero, ↓reduceIte, ↓reduceDIte]
  rfl

/-- Storing a number and reading it back. -/
theorem unpack_pack {u : UnpackedFloat} (stored : Storable u) :
    (Float.Model.pack u).unpack = u := by
  cases u with
  | zero s => cases s <;> rfl
  | finite s m e positive =>
      by_cases long : 2 ^ 52 ≤ m
      · exact unpack_pack_normal s stored long
      · obtain rfl : e = -1074 := stored.normal.resolve_left long
        exact unpack_pack_subnormal s positive (by omega)
  | infinity s => exact stored.elim
  | notANumber => exact stored.elim

/-- What a finite word decodes to can be stored. -/
theorem storable_unpack {x : Float.Model} (finite : x.isFinite = true) : Storable x.unpack := by
  unfold Float.Model.isFinite at finite
  cases parts : x.unpack with
  | zero s => trivial
  | infinity s => simp [parts, UnpackedFloat.isFinite] at finite
  | notANumber => simp [parts, UnpackedFloat.isFinite] at finite
  | finite s m e positive =>
      unfold Float.Model.unpack UnpackedFloat.unpack at parts
      have bias : (Format.binary64.exponentBias : Int) = 1023 := rfl
      dsimp only at parts
      split at parts
      · split at parts <;> cases parts
      · rename_i notTop
        split at parts
        · rename_i bottom
          split at parts
          · cases parts
          · cases parts
            have fits := (@unpackMantissa Format.binary64 x.toBits.toBitVec).isLt
            simp only [bottom, bias]
            change _ < 2 ^ 52 at fits
            exact ⟨positive, by omega, by simp, by simp, .inr (by simp)⟩
        · rename_i notBottom
          cases parts
          have fits := (@unpackMantissa Format.binary64 x.toBits.toBitVec).isLt
          have field := (@unpackExponent Format.binary64 x.toBits.toBitVec).isLt
          change _ < 2 ^ 52 at fits
          change _ < 2 ^ 11 at field
          have belowTop : (@unpackExponent Format.binary64 x.toBits.toBitVec).toNat ≠
              2047 := fun h => notTop (BitVec.eq_of_toNat_eq h)
          have aboveBottom : (@unpackExponent Format.binary64 x.toBits.toBitVec).toNat ≠
              0 := fun h => notBottom (BitVec.eq_of_toNat_eq h)
          rw [bias] at *
          refine ⟨positive, ?_, ?_, ?_, .inl ?_⟩
          · rw [toNat_implicit_append]
            omega
          · push_cast
            omega
          · push_cast
            omega
          · rw [toNat_implicit_append]
            omega

end WorkedAlgebra.Rounding
