import WorkedAlgebra.Fault

/-!
Expression trees and their values.
-/

namespace WorkedAlgebra

inductive Expr (α : Type) where
  | number (value : α)
  | letter (name : Char)
  | unary (operator : Symbol) (operand : Expr α)
  | binary (operator : Symbol) (left right : Expr α)
deriving DecidableEq, Repr

abbrev Bindings (α : Type) := Char → Option α

namespace Bindings

variable {α : Type}

def empty : Bindings α := fun _ => none

def all (names : List Char) (value : α) : Bindings α :=
  fun c => if names.contains c then some value else none

def set (b : Bindings α) (name : Char) (value : α) : Bindings α :=
  fun c => if c == name then some value else b c

end Bindings

namespace Expr

variable {α : Type}

def mentions (name : Char) : Expr α → Bool
  | .number _ => false
  | .letter v => v == name
  | .unary _ e => e.mentions name
  | .binary _ l r => l.mentions name || r.mentions name

section Value

variable [Scalar α]

/-- The effect of a sign. Only a minus sign has one. -/
def applySign (operator : Symbol) (v : α) : α :=
  match operator with
  | .minus => -v
  | _ => v

/-- The result of an operation. Division by zero is left to the numbers. -/
def applyOperator (operator : Symbol) (l r : α) : Except ExpressionFault α :=
  match operator with
  | .plus => .ok (l + r)
  | .minus => .ok (l - r)
  | .star => .ok (l * r)
  | .slash => .ok (l / r)
  | other => .error (.unsupported other)

/-- The value of a tree. Operands are evaluated from left to right, so the first fault wins. -/
def evaluate (b : Bindings α) : Expr α → Except ExpressionFault α
  | .number v => .ok v
  | .letter name => match b name with
    | some v => .ok v
    | none => .error (.unbound name)
  | .unary operator e => do
    let v ← e.evaluate b
    return applySign operator v
  | .binary operator left right => do
    let l ← left.evaluate b
    let r ← right.evaluate b
    applyOperator operator l r

def evaluateFinite (b : Bindings α) (e : Expr α) : Except ExpressionFault α := do
  let v ← e.evaluate b
  if Scalar.isFinite v then return v else throw .notFinite

end Value
end Expr
end WorkedAlgebra
