import WorkedAlgebra.Token

/-!
What can go wrong with an equation: the causes, where they are, and their wording.
-/

namespace WorkedAlgebra

/-- A fault at a column of the normalized equation, counted from one. -/
structure Located (φ : Type) where
  fault : φ
  column : Nat
deriving DecidableEq, Repr

inductive TokenFault where
  /-- A character that no token starts with. -/
  | character (c : Char)
  /-- A run of digits and points without a digit or with several points. -/
  | numeral (run : String)
deriving DecidableEq, Repr

def TokenFault.message : TokenFault → String
  | .character c => s!"unexpected character '{c}'"
  | .numeral run => s!"invalid number literal '{run}'"

inductive SyntaxFault where
  /-- There is no token at all. -/
  | expectedExpression
  | unexpected (symbol : Symbol)
  | endsUnexpectedly
  | expectedClose
deriving DecidableEq, Repr

def SyntaxFault.message : SyntaxFault → String
  | .expectedExpression => "Expected an expression"
  | .unexpected symbol => s!"Unexpected '{symbol.name}'"
  | .endsUnexpectedly => "Expression ends unexpectedly"
  | .expectedClose => "Expected ')'"

def Located.tokenText (f : Located TokenFault) : String :=
  s!"{f.fault.message.capitalize} at column {f.column}"

def Located.syntaxText (f : Located SyntaxFault) : String :=
  s!"{f.fault.message} at column {f.column}"

inductive ExpressionFault where
  | token (fault : TokenFault)
  | shape (fault : SyntaxFault)
  /-- The digits before a letter are no numeral. -/
  | coefficient (digits : String) (letter : Char)
  /-- A letter has no value. -/
  | unbound (letter : Char)
  /-- A symbol stands between two operands but does not operate on them. -/
  | unsupported (operator : Symbol)
  | notFinite
  /-- The equation is not linear in a letter, so the main one cannot be isolated. -/
  | notLinear (letter main : Char)
  /-- A fault described in words of its own. -/
  | worded (message : String)
deriving DecidableEq, Repr

def ExpressionFault.message : ExpressionFault → String
  | .token fault => fault.message
  | .shape fault => fault.message
  | .coefficient digits letter => s!"cannot read coefficient '{digits}' of '{letter}'"
  | .unbound letter => s!"no value for variable '{letter}'"
  | .unsupported operator => s!"unsupported operator '{operator.name}'"
  | .notFinite => "expression does not evaluate to a finite number"
  | .notLinear letter main =>
    s!"the equation is not linear in {letter}, so {main} cannot be isolated"
  | .worded message => message

inductive Malformation where
  | noEquals
  | severalEquals
  | emptyLeft
  /-- A malformation described in words of its own. -/
  | worded (message : String)
deriving DecidableEq, Repr

def Malformation.message : Malformation → String
  | .noEquals => "the equation must contain an '=' sign"
  | .severalEquals => "the equation must contain exactly one '=' sign"
  | .emptyLeft => "the left side of '=' is empty"
  | .worded message => message

inductive SolveError where
  /-- No letter is left after cleanup. -/
  | noVariable
  | malformed (cause : Malformation)
  /-- A side that cannot be used, with the column where that shows, if there is one. -/
  | expression (fault : ExpressionFault) (column : Option Nat)
deriving DecidableEq, Repr

namespace SolveError

def message : SolveError → String
  | .noVariable => "Equation contains no variable (expected a letter such as x, y, t)"
  | .malformed cause => s!"Malformed equation: {cause.message}"
  | .expression fault (some column) => s!"Expression error: {fault.message} at column {column}"
  | .expression fault none => s!"Expression error: {fault.message}"

def column? : SolveError → Option Nat
  | .expression _ column => column
  | _ => none

/-- Moves the column of an error by the characters that stand before the text it came from. -/
def offset (shift : Nat) : SolveError → SolveError
  | .expression fault (some column) => .expression fault (some (column + shift))
  | error => error

def ofToken (f : Located TokenFault) : SolveError := .expression (.token f.fault) (some f.column)

def ofSyntax (f : Located SyntaxFault) : SolveError := .expression (.shape f.fault) (some f.column)

end SolveError
end WorkedAlgebra
