import WorkedAlgebra.Resolution

/-!
Probing an equation: both sides are evaluated at fixed points to see whether their difference is
affine in a letter. The tests are numerical and have a tolerance, so they can err.
-/

namespace WorkedAlgebra

structure Probe (α : Type) where
  left : Expr α
  right : Expr α

namespace Probe

variable {α : Type} [Scalar α]

open Scalar

def ofSides (sides : Sides) : Except SolveError (Probe α) := do
  let left ← Expr.ofSide 0 sides.left
  let right ← Expr.ofSide sides.rightOffset sides.rightOrZero
  return ⟨left, right⟩

/-- The difference of the sides; undefined where one of them has no value. -/
def difference (probe : Probe α) (b : Bindings α) : α :=
  match probe.left.evaluate b, probe.right.evaluate b with
  | .ok l, .ok r => l - r
  | _, _ => undefined

/-- The difference as a function of one letter over given values of the others. -/
def along (probe : Probe α) (base : Bindings α) (letter : Char) (value : α) : α :=
  probe.difference (base.set letter value)

/-- The points at which sides are evaluated: `0`, `1`, `2`, `-1.5` and `3.25`. -/
def points : List α := [zero, one, two, -ofDecimal 15 1, ofDecimal 325 2]

def tolerance : α := ofDecimal 1 9

def agrees (a b : α) : Bool :=
  le (Scalar.abs (a - b)) (tolerance * (one + larger (Scalar.abs a) (Scalar.abs b)))

/-- The slope of a function that is finite and affine at all points, up to the tolerance. -/
def affineSlope (f : α → α) : Option α :=
  let values := points.map f
  if !values.all isFinite then none
  else
    let f0 := f zero
    let slope := f one - f0
    let scale := one + values.foldl (fun m v => larger m (Scalar.abs v)) zero
    if points.all fun p => le (Scalar.abs (f p - (f0 + slope * p))) (tolerance * scale) then
      some slope
    else none

/-- Whether the difference is affine in a letter, with the same slope whether the other letters
are all zero or all one. -/
def isLinearIn (probe : Probe α) (letters : List Char) (letter : Char) : Bool :=
  match affineSlope (probe.along (Bindings.all letters zero) letter),
    affineSlope (probe.along (Bindings.all letters one) letter) with
  | some a, some b => agrees a b
  | _, _ => false

def firstNonlinear (probe : Probe α) (letters : List Char) : Option Char :=
  letters.find? fun letter => !probe.isLinearIn letters letter

end Probe
end WorkedAlgebra
