import WorkedAlgebra.Scalar

/-!
Binary floating point of 64 bits as a number type for solving. Rounding to whole numbers is done
exactly on the decoded significand and exponent.
-/

namespace WorkedAlgebra

/-- A finite floating-point number as `± significand · 2 ^ exponent`. -/
structure Binary64 where
  negative : Bool
  significand : Nat
  exponent : Int
deriving DecidableEq, Repr

namespace Binary64

/-- The parts of a finite number; subnormal numbers have no implicit leading bit. -/
def ofFloat (x : Float) : Binary64 :=
  let bits := x.toBits.toNat
  let biased : Nat := (bits >>> 52) % (1 <<< 11)
  let fraction := bits % (1 <<< 52)
  let negative := bits >>> 63 == 1
  if biased = 0 then ⟨negative, fraction, -1074⟩
  else ⟨negative, fraction + (1 <<< 52), biased - 1075⟩

/-- The nearest whole number to the magnitude of `x`, where `shift` is how far the binary point
stands inside the significand; a half goes up. -/
def roundedMagnitude (significand shift : Nat) : Nat :=
  (2 * significand + (1 <<< shift)) >>> (shift + 1)

/-- The nearest whole number, a half going away from zero. Numbers without a fractional part and
those that are not finite are their own rounding. -/
def round (x : Float) : Float :=
  let parts := ofFloat x
  if x.isFinite && decide (parts.exponent < 0) then
    let magnitude := Float.ofNat (roundedMagnitude parts.significand parts.exponent.natAbs)
    if parts.negative then -magnitude else magnitude
  else x

end Binary64

instance : Scalar Float where
  ofDecimal mantissa places := Float.ofScientific mantissa true places
  undefined := 0.0 / 0.0
  infinity := 1.0 / 0.0
  abs := Float.abs
  isFinite := Float.isFinite
  eq := Float.beq
  le := Float.le
  lt := Float.lt
  leSqrt r t := r.le t.sqrt
  round := Binary64.round

end WorkedAlgebra
