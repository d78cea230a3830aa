/-!
The numbers that equations are solved over.

A run of the solver uses the four operations, comparison, absolute value and a test for
finiteness, and nothing else of its numbers. `Scalar` collects these operations without any law,
so the same definitions run on binary floating point and can be read over exact arithmetic;
which laws a number type satisfies is a separate obligation.
-/

namespace WorkedAlgebra

/-- The operations that solving needs. No law is part of the class. -/
class Scalar (α : Type) extends Add α, Sub α, Mul α, Div α, Neg α where
  /-- The number for the decimal `mantissa · 10 ^ (-places)`. -/
  ofDecimal (mantissa places : Nat) : α
  /-- The value of an expression that has none. -/
  undefined : α
  /-- A magnitude above that of every finite number. -/
  infinity : α
  /-- The magnitude of a number. -/
  abs : α → α
  /-- Whether the number is a proper finite value. -/
  isFinite : α → Bool
  /-- Equality of numbers; an undefined value equals nothing. -/
  eq : α → α → Bool
  /-- At most, as numbers; no undefined value is related to anything. -/
  le : α → α → Bool
  /-- Less than, as numbers; no undefined value is related to anything. -/
  lt : α → α → Bool
  /-- `leSqrt r t` holds when `r` is at most the square root of `t`. -/
  leSqrt : α → α → Bool
  /-- The nearest whole number; a half goes away from zero. -/
  round : α → α

namespace Scalar

variable {α : Type} [Scalar α]

def ofNat (n : Nat) : α := ofDecimal n 0

def zero : α := ofNat 0

def one : α := ofNat 1

def two : α := ofNat 2

/-- The larger of two numbers; the first when they are equal. -/
def larger (a b : α) : α := if lt a b then b else a

def isZero (a : α) : Bool := eq a zero

def isNegative (a : α) : Bool := lt a zero

/-- The multiple of `10 ^ (-places)` nearest to `a`. -/
def toPlaces (places : Nat) (a : α) : α :=
  let scale : α := ofNat (Nat.pow 10 places)
  round (a * scale) / scale

end Scalar

class Printable (α : Type) extends Scalar α where
  /-- Positional decimal text that reads back as the same number. -/
  text : α → String

end WorkedAlgebra
