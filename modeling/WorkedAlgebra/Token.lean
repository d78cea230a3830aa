import WorkedAlgebra.Scalar

/-!
Tokens of one side of an equation, over any type of numbers.
-/

namespace WorkedAlgebra

/-- What a token is, apart from the number or letter it carries. Operators of expressions are
symbols too. -/
inductive Symbol where
  | number
  | letter
  | plus
  | minus
  | star
  | slash
  | equals
  | openParen
  | closeParen
  | endOfInput
deriving DecidableEq, Repr, Inhabited

def Symbol.name : Symbol → String
  | .number => "number"
  | .letter => "variable"
  | .plus => "+"
  | .minus => "-"
  | .star => "*"
  | .slash => "/"
  | .equals => "="
  | .openParen => "("
  | .closeParen => ")"
  | .endOfInput => "end of input"

inductive TokenKind (α : Type) where
  | number (value : α)
  | letter (name : Char)
  | plus
  | minus
  | star
  | slash
  | equals
  | openParen
  | closeParen
  | endOfInput
deriving DecidableEq, Repr

def TokenKind.symbol {α : Type} : TokenKind α → Symbol
  | .number _ => .number
  | .letter _ => .letter
  | .plus => .plus
  | .minus => .minus
  | .star => .star
  | .slash => .slash
  | .equals => .equals
  | .openParen => .openParen
  | .closeParen => .closeParen
  | .endOfInput => .endOfInput

/-- A token and the column of its first character, counted from one. -/
structure Token (α : Type) where
  kind : TokenKind α
  column : Nat
deriving DecidableEq, Repr

def Token.text {α : Type} [Printable α] (token : Token α) : String :=
  let name := match token.kind with
    | .number value => s!"Number({Printable.text value})"
    | .letter name => s!"Variable('{name}')"
    | other => other.symbol.name
  s!"{name} @{token.column}"

end WorkedAlgebra
