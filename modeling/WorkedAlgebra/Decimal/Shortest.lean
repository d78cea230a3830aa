import WorkedAlgebra.Scalar.Binary64

/-!
The shortest decimal that reads back as a given floating-point number.

For one digit, two digits and so on, the two neighbours of the value on that decimal grid are
tried; the first grid on which one of them reads back gives the digits, and of two that do the
nearer is taken. Seventeen digits always suffice. Formats differ in what they do when both
neighbours are as near, so that choice is a parameter.
-/

namespace WorkedAlgebra

/-- The number `digits · 10 ^ exponent`. -/
structure Decimal where
  digits : Nat
  exponent : Int
deriving DecidableEq, Repr

namespace Decimal

def toFloat (d : Decimal) : Float :=
  if 0 ≤ d.exponent then Scalar.ofDecimal (d.digits * Nat.pow 10 d.exponent.natAbs) 0
  else Scalar.ofDecimal d.digits d.exponent.natAbs

structure Ratio where
  num : Nat
  den : Nat

def Ratio.shift (r : Ratio) (k : Int) : Ratio :=
  if 0 ≤ k then ⟨r.num * Nat.pow 10 k.natAbs, r.den⟩
  else ⟨r.num, r.den * Nat.pow 10 k.natAbs⟩

def Ratio.ofBinary64 (x : Binary64) : Ratio :=
  if 0 ≤ x.exponent then ⟨x.significand <<< x.exponent.natAbs, 1⟩
  else ⟨x.significand, 1 <<< x.exponent.natAbs⟩

/-- How many decimal digits a natural number has; zero has none. -/
def width (n : Nat) : Nat := if n = 0 then 0 else (Nat.toDigits 10 n).length

/-- The `p` with `10 ^ (p - 1) ≤ r < 10 ^ p`, for a positive ratio. -/
def Ratio.magnitude (r : Ratio) : Int :=
  if r.den ≤ r.num then width (r.num / r.den)
  else 1 - (width ((r.den - 1) / r.num) : Int)

inductive Tie where
  | upper
  | even
deriving DecidableEq, Repr

def Tie.takesLower : Tie → Nat → Bool
  | .upper, _ => false
  | .even, below => below % 2 == 0

/-- The neighbours of `r` on the grid of multiples of `10 ^ k`, the one to be preferred first. -/
def neighbours (tie : Tie) (r : Ratio) (k : Int) : List Decimal :=
  let scaled := r.shift (-k)
  let below := scaled.num / scaled.den
  let double := 2 * scaled.num
  let middle := (2 * below + 1) * scaled.den
  if double < middle || (double = middle && tie.takesLower below) then
    [⟨below, k⟩, ⟨below + 1, k⟩]
  else [⟨below + 1, k⟩, ⟨below, k⟩]

/-- Drops a final zero. Only the upper neighbour ten on the coarsest grid has one: on a finer grid
such a point is a neighbour on the grid before. -/
def dropZero (d : Decimal) : Decimal :=
  if d.digits % 10 = 0 then ⟨d.digits / 10, d.exponent + 1⟩ else d

def search (tie : Tie) (x : Float) (r : Ratio) (k : Int) : Nat → Option Decimal
  | 0 => none
  | grids + 1 =>
    match (neighbours tie r k).find? fun d => d.toFloat == x with
    | some d => some d
    | none => search tie x r (k - 1) grids

/-- The shortest decimal that reads back as the finite non-negative number `x`. -/
def shortest (tie : Tie) (x : Float) : Decimal :=
  let r := Ratio.ofBinary64 (Binary64.ofFloat x)
  if r.num = 0 then ⟨0, 0⟩
  else
    let p := r.magnitude
    let found := (search tie x r (p - 1) 17).orElse fun _ => (neighbours tie r (p - 17)).head?
    (found.map dropZero).getD ⟨0, 0⟩

end Decimal
end WorkedAlgebra
