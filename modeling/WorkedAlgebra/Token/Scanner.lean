import WorkedAlgebra.Token.Scan

/-!
Tokens from a text call by call. A call takes the next lexeme, whether it is a token or not, so that
calls can go on behind a fault.
-/

namespace WorkedAlgebra

/-- What is left of a text, and how many characters stand before that. -/
structure Scanner where
  rest : List Char
  column : Nat
  /-- The end of the input has been given. -/
  ended : Bool
deriving DecidableEq, Repr

namespace Scanner

variable {α : Type} [Scalar α]

def ofText (offset : Nat) (text : List Char) : Scanner := ⟨text, offset, false⟩

/-- The lexeme at the start of a text: all numeral marks up to another character, or that one. -/
def lexemeAt (c : Char) (cs : List Char) : List Char :=
  if Numeral.isMark c then c :: cs.takeWhile Numeral.isMark else [c]

/-- The next token, or none once the end of the input has been given. -/
def next : Scanner → Except (Located TokenFault) (Option (Token α)) × Scanner
  | ⟨rest, column, true⟩ => (.ok none, ⟨rest, column, true⟩)
  | ⟨[], column, false⟩ => (.ok (some ⟨.endOfInput, column + 1⟩), ⟨[], column, true⟩)
  | ⟨c :: cs, column, false⟩ =>
    let lexeme := lexemeAt c cs
    let others := ⟨(c :: cs).drop lexeme.length, column + lexeme.length, false⟩
    match Token.ofLexeme lexeme with
    | .ok kind => (.ok (some ⟨kind, column + 1⟩), others)
    | .error fault => (.error ⟨fault, column + 1⟩, others)

def answers : Nat → Scanner → List (Except (Located TokenFault) (Option (Token α)))
  | 0, _ => []
  | calls + 1, s =>
    let (answer, others) := s.next (α := α)
    answer :: answers calls others

end Scanner
end WorkedAlgebra
