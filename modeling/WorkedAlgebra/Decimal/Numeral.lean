/-!
Decimal numerals: runs of digits with at most one point. A numeral denotes
`mantissa · 10 ^ (-places)`; which number that becomes is left to the number type.
-/

namespace WorkedAlgebra

/-- A decimal as written: all its digits as one natural number, and how many follow the point. -/
structure Numeral where
  mantissa : Nat
  places : Nat
deriving DecidableEq, Repr, Inhabited

namespace Numeral

def isMark (c : Char) : Bool := c.isDigit || c == '.'

def digitValue (c : Char) : Nat := c.toNat - '0'.toNat

/-- The natural number that a list of digits shows, most significant digit first. -/
def ofDigits (digits : List Char) : Nat :=
  digits.foldl (fun n c => 10 * n + digitValue c) 0

/-- Reads a run of marks. It needs at least one digit and at most one point. -/
def ofMarks? (run : List Char) : Option Numeral :=
  let whole := run.takeWhile (· != '.')
  match run.dropWhile (· != '.') with
  | [] => if whole.isEmpty then none else some ⟨ofDigits whole, 0⟩
  | _ :: fraction =>
    if fraction.contains '.' || (whole.isEmpty && fraction.isEmpty) then none
    else some ⟨ofDigits (whole ++ fraction), fraction.length⟩

end Numeral
end WorkedAlgebra
