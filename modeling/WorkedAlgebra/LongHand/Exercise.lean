import WorkedAlgebra.LongHand.Division
import WorkedAlgebra.LongHand.Multiplication

/-!
Working an exercise whose operands may be missing.
-/

namespace WorkedAlgebra.LongHand

/-- An operand as typed: digits behind an optional sign, within 64 bits. -/
def operand? (text : List Char) : Option Int :=
  let digits := match text with
    | '-' :: rest | '+' :: rest => rest
    | _ => text
  let magnitude : Int := Numeral.ofDigits digits
  let value := if text.head? == some '-' then -magnitude else magnitude
  if digits.isEmpty || !digits.all Char.isDigit || value < Int64.minValue.toInt ||
    Int64.maxValue.toInt < value then none
  else some value

def work (operation : Operation) (a b : Option Int) : Except ArithmeticError Worked :=
  match a, b with
  | some a, some b =>
    match operation with
    | .multiplication => .ok (multiply a b)
    | .division => divide a b
    | .divisionWithRemainder => divideWithRemainder a b
  | _, _ => .error .missingOperand

end WorkedAlgebra.LongHand
