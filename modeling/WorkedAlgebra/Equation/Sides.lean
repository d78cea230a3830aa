import WorkedAlgebra.Fault
import WorkedAlgebra.Text.Pieces

/-!
The two sides of a normalized equation, and the letters in it.
-/

namespace WorkedAlgebra

/-- Two side texts; `rightOffset` counts the characters before the right one, the equals sign
included. -/
structure Sides where
  left : List Char
  right : List Char
  rightOffset : Nat
deriving DecidableEq, Repr

namespace Sides

def rightOrZero (sides : Sides) : List Char :=
  if sides.right.isEmpty then ['0'] else sides.right

def split (equation : List Char) : Except Malformation Sides :=
  match pieces '=' equation with
  | [left, right] =>
    if left.isEmpty then .error .emptyLeft else .ok ⟨left, right, left.length + 1⟩
  | _ :: _ :: _ => .error .severalEquals
  | _ => .error .noEquals

end Sides

def distinct : List Char → List Char
  | [] => []
  | c :: cs => c :: (distinct cs).filter (· != c)

/-- The letters of a text in lower case, as often as they occur. -/
def lettersOf (text : List Char) : List Char := (text.filter Char.isAlpha).map Char.toLower

def detectLetters (text : List Char) : List Char := distinct (lettersOf text)

end WorkedAlgebra
