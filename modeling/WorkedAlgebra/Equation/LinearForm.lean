import WorkedAlgebra.Equation.Sides
import WorkedAlgebra.Expr.Reading
import WorkedAlgebra.Text.Cleanup

/-!
One side as `coefficient · unknown + constant`. The coefficient is read off the text, by summing
the numerals in front of the unknown; the constant is the value of the side with all letters zero.
Whether that describes the side is not decided here.
-/

namespace WorkedAlgebra

structure LinearForm (α : Type) where
  coefficient : α
  constant : α
deriving DecidableEq, Repr

namespace LinearForm

variable {α : Type} [Scalar α]

def valueAt (form : LinearForm α) (value : α) : α := form.coefficient * value + form.constant

def isLetter (letter c : Char) : Bool := c.toLower == letter.toLower

/-- The coefficient written in front of a letter. `before` is all text before the letter, the
nearest character first; no digits mean one. The fault carries the column where the coefficient
starts. -/
def coefficientBefore (letter : Char) (before : List Char) :
    Except (Located ExpressionFault) α :=
  let digits := (before.takeWhile Numeral.isMark).reverse
  let rest := before.dropWhile Numeral.isMark
  let sign := (rest.take 1).filter Text.isSign
  let magnitude : Except (Located ExpressionFault) α :=
    if digits.isEmpty then .ok Scalar.one
    else
      match Numeral.ofMarks? digits with
      | some n => .ok (Scalar.ofDecimal n.mantissa n.places)
      | none => .error ⟨.coefficient (String.ofList (sign ++ digits)) letter,
          rest.length - sign.length + 1⟩
  magnitude.map fun m => if sign == ['-'] then -m else m

/-- Adds the coefficients of a letter in `text` to `sum`; `before` is the text before it, the
nearest character first. -/
def scanFrom (letter : Char) (before : List Char) (sum : α) :
    List Char → Except (Located ExpressionFault) α
  | [] => .ok sum
  | c :: cs =>
    if isLetter letter c then
      match coefficientBefore letter before with
      | .ok coefficient => scanFrom letter (c :: before) (sum + coefficient) cs
      | .error fault => .error fault
    else scanFrom letter (c :: before) sum cs

def scanCoefficient (letter : Char) (text : List Char) : Except SolveError α :=
  match scanFrom letter [] (Scalar.zero : α) text with
  | .ok sum => .ok sum
  | .error ⟨fault, column⟩ => .error (.expression fault (some column))

def constantPart (offset : Nat) (text : List Char) : Except SolveError α := do
  let e : Expr α ← Expr.ofSide offset text
  match e.evaluateFinite (Bindings.all (lettersOf text) Scalar.zero) with
  | .ok v => .ok v
  | .error fault => .error (.expression fault none)

/-- The linear form of a side for a letter; columns of faults are shifted by `offset`. -/
def decompose (letter : Char) (offset : Nat) (side : List Char) :
    Except SolveError (LinearForm α) := do
  let text := Text.collapseSigns side
  let coefficient ← (scanCoefficient letter text).mapError (.offset offset)
  let constant ← constantPart offset text
  return ⟨coefficient, constant⟩

def ofText [Unicode.Form] (letter : Char) (text : List Char) : Except SolveError (LinearForm α) :=
  decompose letter 0 (Text.normalize text)

end LinearForm
end WorkedAlgebra
