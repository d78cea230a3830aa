import WorkedAlgebra.Equation.LinearForm

/-!
Numbers and sums of terms as they are shown. Numbers are rounded for display only, and only here.
-/

namespace WorkedAlgebra

variable {α : Type} [Printable α]

open Scalar

/-- From this many places on numbers are shown exactly. -/
def fullPrecision : Nat := 17

/-- A number rounded to a number of decimal places, of which at most fifteen count; never a
negative zero. A number that rounding would lead out of the finite range is shown exactly. -/
def numberText (places : Nat) (value : α) : String :=
  if !isFinite value then Printable.text value
  else if fullPrecision ≤ places then Printable.text (value + zero)
  else
    let rounded := toPlaces (min places 15) value
    Printable.text ((if isFinite rounded then rounded else value) + zero)

/-- A number as an operand: a negative one stands in brackets. -/
def operandText (places : Nat) (value : α) : String :=
  let text := numberText places value
  if text.toList.head? == some '-' then s!"({text})" else text

/-- A coefficient with its letter; one and minus one are not written. -/
def termText (places : Nat) (coefficient : α) (letter : Char) : String :=
  if eq coefficient one then s!"{letter}"
  else if eq coefficient (-one) then s!"-{letter}"
  else s!"{numberText places coefficient}{letter}"

structure Term (α : Type) where
  coefficient : α
  letter : Option Char
deriving DecidableEq, Repr

namespace Term

def magnitudeText (places : Nat) (term : Term α) : String :=
  match term.letter with
  | some letter => termText places (abs term.coefficient) letter
  | none => numberText places (abs term.coefficient)

def shown (terms : List (Term α)) : List (Term α) :=
  terms.filter fun term => !isZero term.coefficient

/-- Joins shown terms by their signs; `write` gives the text of a term without its sign. -/
def joinWith (write : Term α → String) : List (Term α) → String
  | [] => "0"
  | first :: rest =>
    rest.foldl
      (fun text term =>
        text ++ (if isNegative term.coefficient then " - " else " + ") ++ write term)
      ((if isNegative first.coefficient then "-" else "") ++ write first)

/-- A sum such as `3x - y + 2`; a sum without a term is `0`. -/
def sumText (places : Nat) (terms : List (Term α)) : String :=
  joinWith (magnitudeText places) (shown terms)

/-- A sum with every term divided on its own, such as `7 / 2 - 3y / 2`. -/
def quotientText (places : Nat) (divisor : α) (terms : List (Term α)) : String :=
  joinWith (fun term => s!"{magnitudeText places term} / {operandText places divisor}")
    (shown terms)

end Term

def LinearForm.text (letter : Char) (form : LinearForm α) : String :=
  Term.sumText fullPrecision [⟨form.coefficient, some letter⟩, ⟨form.constant, none⟩]

end WorkedAlgebra
