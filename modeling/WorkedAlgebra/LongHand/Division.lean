import WorkedAlgebra.Decimal.Numeral
import WorkedAlgebra.LongHand

/-!
Long division, digit by digit: with decimals, of which at most ten are produced, or with a
remainder, which is never negative.
-/

namespace WorkedAlgebra.LongHand

/-- Decimal places after which a quotient that goes on is cut. -/
def decimalPlaces : Nat := 10

structure DivisionStep where
  /-- The digit brought down; zeros are appended behind the point. -/
  digit : Nat
  current : Nat
  quotient : Nat
  remainder : Nat
deriving DecidableEq, Repr

def DivisionStep.bring (divisor remainder digit : Nat) : DivisionStep :=
  let current := 10 * remainder + digit
  ⟨digit, current, current / divisor, current % divisor⟩

def bringDown (divisor : Nat) (remainder : Nat) : List Nat → List DivisionStep
  | [] => []
  | digit :: digits =>
    let step := DivisionStep.bring divisor remainder digit
    step :: bringDown divisor step.remainder digits

def appendZeros (divisor : Nat) (remainder : Nat) : Nat → List DivisionStep
  | 0 => []
  | count + 1 =>
    if remainder = 0 then []
    else
      let step := DivisionStep.bring divisor remainder 0
      step :: appendZeros divisor step.remainder count

def digitsOf (n : Nat) : List Nat := (Nat.toDigits 10 n).map Numeral.digitValue

def lastRemainder (start : Nat) (steps : List DivisionStep) : Nat :=
  (steps.getLast?.map (·.remainder)).getD start

def quotientOf (steps : List DivisionStep) : Nat :=
  steps.foldl (fun n step => 10 * n + step.quotient) 0

def bringDownText (divisor : Nat) (s : DivisionStep) : String :=
  s!"Bring down {s.digit}: {s.current} ÷ {divisor} = {s.quotient}, remainder {s.remainder}"

def appendText (divisor : Nat) (s : DivisionStep) : String :=
  s!"Append 0: {s.current} ÷ {divisor} = {s.quotient}, remainder {s.remainder}"

/-- The quotient in decimals. A quotient that goes on is cut and marked. -/
def divide (a b : Int) : Except ArithmeticError Worked :=
  if b = 0 then .error .divisionByZero
  else
    let divisor := b.natAbs
    let whole := bringDown divisor 0 (digitsOf a.natAbs)
    let quotient := quotientOf whole
    let fraction := appendZeros divisor (lastRemainder 0 whole) decimalPlaces
    let decimals := "".intercalate (fraction.map fun s => toString s.quotient)
    let negative := decide (a < 0) != decide (b < 0) && (quotient != 0 || !fraction.isEmpty)
    let sign := if negative then "-" else ""
    let point := if fraction.isEmpty then "" else "."
    let mark := if lastRemainder (lastRemainder 0 whole) fraction = 0 then "" else "≈"
    let result := s!"{mark}{sign}{quotient}{point}{decimals}"
    .ok
      { operation := .division
        steps := [s!"Divide {a} ÷ {b}"] ++ whole.map (bringDownText divisor) ++
          fraction.map (appendText divisor) ++ [s!"Answer: {a} ÷ {b} = {result}"]
        result := result
        column := none }

def divideWithRemainder (a b : Int) : Except ArithmeticError Worked :=
  if b = 0 then .error .divisionByZero
  else
    let divisor := b.natAbs
    let whole := bringDown divisor 0 (digitsOf a.natAbs)
    let quotient := a / b
    let remainder := a % b
    let check := quotient * b + remainder
    let signStep :=
      if a < 0 ∨ b < 0 then
        ["Adjust for the signs so the remainder is not negative: " ++
          s!"quotient {quotient}, remainder {remainder}"]
      else []
    let result := s!"{quotient} remainder {remainder}"
    .ok
      { operation := .divisionWithRemainder
        steps := [s!"Divide {a} ÷ {b} with remainder"] ++ whole.map (bringDownText divisor) ++
          signStep ++ [s!"Check: {quotient} × {b} + {remainder} = {check}",
            s!"Answer: {a} ÷ {b} = {result}"]
        result := result
        column := none }

end WorkedAlgebra.LongHand
