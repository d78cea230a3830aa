/-!
Worked integer arithmetic: what an exercise consists of and what can go wrong with it.
-/

namespace WorkedAlgebra

inductive Operation where
  | multiplication
  | division
  | divisionWithRemainder
deriving DecidableEq, Repr

def Operation.name : Operation → String
  | .multiplication => "multiplication"
  | .division => "division"
  | .divisionWithRemainder => "division with remainder"

structure Worked where
  operation : Operation
  steps : List String
  result : String
  /-- The written layout in columns, for operations that have one. -/
  column : Option String
deriving DecidableEq, Repr

inductive ArithmeticError where
  | divisionByZero
  | missingOperand
deriving DecidableEq, Repr

def ArithmeticError.message : ArithmeticError → String
  | .divisionByZero => "Arithmetic error: division by zero is impossible"
  | .missingOperand => "Arithmetic error: both numbers are required"

end WorkedAlgebra
