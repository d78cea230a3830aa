import WorkedAlgebra.Decimal.Numeral
import WorkedAlgebra.Fault

/-!
Tokens from text. The text is cut into lexemes: maximal runs of digits and points, and single
other characters. Each lexeme is a token or a fault of its own, so scanning goes on behind a
fault.
-/

namespace WorkedAlgebra

/-- Cuts a text into maximal runs of numeral marks and single other characters. -/
def lexemes : List Char → List (List Char)
  | [] => []
  | c :: cs =>
    match lexemes cs with
    | (d :: ds) :: rest =>
      if Numeral.isMark c && Numeral.isMark d then (c :: d :: ds) :: rest
      else [c] :: (d :: ds) :: rest
    | rest => [c] :: rest

namespace Token

variable {α : Type} [Scalar α]

/-- The token of a single character other than a numeral mark. Letters lose their case, so that
`X` and `x` name the same variable. -/
def kindOf? (c : Char) : Option (TokenKind α) :=
  match c with
  | '+' => some .plus
  | '-' => some .minus
  | '*' => some .star
  | '/' => some .slash
  | '=' => some .equals
  | '(' => some .openParen
  | ')' => some .closeParen
  | c => if c.isAlpha then some (.letter c.toLower) else none

def ofLexeme (lexeme : List Char) : Except TokenFault (TokenKind α) :=
  match lexeme with
  | [] => .error (.numeral "")
  | c :: _ =>
    if Numeral.isMark c then
      match Numeral.ofMarks? lexeme with
      | some n => .ok (.number (Scalar.ofDecimal n.mantissa n.places))
      | none => .error (.numeral (String.ofList lexeme))
    else
      match kindOf? c with
      | some kind => .ok kind
      | none => .error (.character c)

/-- The outcomes of all lexemes in order, and the end of the input behind them. `offset` counts
the characters before the first lexeme. -/
def scanLexemes (offset : Nat) : List (List Char) → List (Except (Located TokenFault) (Token α))
  | [] => [.ok ⟨.endOfInput, offset + 1⟩]
  | lexeme :: rest =>
    let outcome := match ofLexeme lexeme with
      | .ok kind => .ok ⟨kind, offset + 1⟩
      | .error fault => .error ⟨fault, offset + 1⟩
    outcome :: scanLexemes (offset + lexeme.length) rest

def scan (offset : Nat) (text : List Char) : List (Except (Located TokenFault) (Token α)) :=
  scanLexemes offset (lexemes text)

def tokenize (offset : Nat) (text : List Char) : Except (Located TokenFault) (List (Token α)) :=
  (scan offset text).mapM id

end Token
end WorkedAlgebra
