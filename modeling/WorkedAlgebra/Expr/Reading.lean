import WorkedAlgebra.Expr
import WorkedAlgebra.Text.Signs
import WorkedAlgebra.Token.Scan

/-!
Expressions from tokens.

```text
expr    := term (('+' | '-') term)*
term    := unary (('*' | '/') unary | unary)*
unary   := ('+' | '-') unary | primary
primary := NUMBER | VARIABLE | '(' expr ')'
```

A factor without operator multiplies; it starts with a letter or a bracket. Tokens are read one
by one: what has been read is kept as the operands that still wait for their right neighbour, one
level for each open bracket. In every such state the next token alone decides how to go on.
-/

namespace WorkedAlgebra

/-- One bracket level before an operand: the sum so far with its sign, the product so far with its
operator, and the signs in front of the operand, the nearest one first. -/
structure Pending (α : Type) where
  sum : Option (Expr α × Symbol)
  product : Option (Expr α × Symbol)
  signs : List Symbol

/-- One bracket level behind an operand: the sum so far with its sign, and the term so far. -/
structure Settled (α : Type) where
  sum : Option (Expr α × Symbol)
  term : Expr α

namespace Pending

variable {α : Type}

def start : Pending α := ⟨none, none, []⟩

/-- Takes the operand. Its signs bind first, then the product. -/
def take (p : Pending α) (operand : Expr α) : Settled α :=
  let signed := p.signs.foldl (fun e sign => .unary sign e) operand
  match p.product with
  | none => ⟨p.sum, signed⟩
  | some (left, operator) => ⟨p.sum, .binary operator left signed⟩

end Pending

namespace Settled

variable {α : Type}

def value (s : Settled α) : Expr α :=
  match s.sum with
  | none => s.term
  | some (left, sign) => .binary sign left s.term

def addTerm (s : Settled α) (sign : Symbol) : Pending α := ⟨some (s.value, sign), none, []⟩

def addFactor (s : Settled α) (operator : Symbol) : Pending α :=
  ⟨s.sum, some (s.term, operator), []⟩

end Settled

/-- What has been read of an expression; `outer` are the levels around the current one, the
innermost first. -/
inductive Reading (α : Type) where
  | before (level : Pending α) (outer : List (Pending α))
  | after (level : Settled α) (outer : List (Pending α))

namespace Reading

variable {α : Type}

def start : Reading α := .before .start []

/-- Reads one token, unless no expression goes on with it. -/
def step? : Reading α → TokenKind α → Option (Reading α)
  | .before p outer, .number v => some (.after (p.take (.number v)) outer)
  | .before p outer, .letter v => some (.after (p.take (.letter v)) outer)
  | .before p outer, .openParen => some (.before .start (p :: outer))
  | .before p outer, .plus => some (.before { p with signs := .plus :: p.signs } outer)
  | .before p outer, .minus => some (.before { p with signs := .minus :: p.signs } outer)
  | .after s outer, .plus => some (.before (s.addTerm .plus) outer)
  | .after s outer, .minus => some (.before (s.addTerm .minus) outer)
  | .after s outer, .star => some (.before (s.addFactor .star) outer)
  | .after s outer, .slash => some (.before (s.addFactor .slash) outer)
  | .after s outer, .letter v => some (.after ((s.addFactor .star).take (.letter v)) outer)
  | .after s outer, .openParen => some (.before .start (s.addFactor .star :: outer))
  | .after s (p :: outer), .closeParen => some (.after (p.take s.value) outer)
  | _, _ => none

def run (r : Reading α) : List (Token α) → Reading α × List (Token α)
  | [] => (r, [])
  | token :: rest =>
    match r.step? token.kind with
    | some next => next.run rest
    | none => (r, token :: rest)

end Reading

/-- A place in a list of tokens: those that are left before the first end of input, and the column
of that end. -/
structure Cursor (α : Type) where
  tokens : List (Token α)
  endColumn : Nat

namespace Cursor

variable {α : Type}

def isEnd (token : Token α) : Bool := token.kind.symbol == .endOfInput

/-- The column of the end of input. Where it is missing it stands right behind the last token. -/
def endColumnOf (tokens : List (Token α)) : Nat :=
  match tokens.find? isEnd with
  | some token => token.column
  | none => match tokens.getLast? with
    | some token => token.column + 1
    | none => 1

def ofTokens (tokens : List (Token α)) : Cursor α :=
  ⟨tokens.takeWhile fun token => !isEnd token, endColumnOf tokens⟩

def column (c : Cursor α) : Nat :=
  match c.tokens with
  | token :: _ => token.column
  | [] => c.endColumn

/-- Reads one expression and stands behind it, whatever follows. Where an operand was expected the
token in its place is passed over. -/
def parseExpression (c : Cursor α) : Except (Located SyntaxFault) (Expr α) × Cursor α :=
  let (reading, rest) := Reading.start.run c.tokens
  let stopped : Cursor α := { c with tokens := rest }
  match reading, rest with
  | .after level [], _ => (.ok level.value, stopped)
  | .after _ (_ :: _), _ => (.error ⟨.expectedClose, stopped.column⟩, stopped)
  | .before _ _, token :: others =>
    (.error ⟨.unexpected token.kind.symbol, token.column⟩, { c with tokens := others })
  | .before _ _, [] => (.error ⟨.endsUnexpectedly, c.endColumn⟩, stopped)

def parse (c : Cursor α) : Except (Located SyntaxFault) (Expr α) × Cursor α :=
  if c.tokens.isEmpty then (.error ⟨.expectedExpression, c.endColumn⟩, c)
  else
    match c.parseExpression with
    | (.error fault, rest) => (.error fault, rest)
    | (.ok e, rest) =>
      match rest.tokens with
      | [] => (.ok e, rest)
      | token :: _ => (.error ⟨.unexpected token.kind.symbol, token.column⟩, rest)

end Cursor

namespace Expr

variable {α : Type}

def ofTokens (tokens : List (Token α)) : Except (Located SyntaxFault) (Expr α) :=
  (Cursor.ofTokens tokens).parse.1

def ofText [Scalar α] (offset : Nat) (text : List Char) : Except SolveError (Expr α) :=
  match Token.tokenize offset text with
  | .error fault => .error (.ofToken fault)
  | .ok tokens =>
    match ofTokens tokens with
    | .error fault => .error (.ofSyntax fault)
    | .ok e => .ok e

def ofSide [Scalar α] (offset : Nat) (text : List Char) : Except SolveError (Expr α) :=
  ofText offset (Text.collapseSigns text)

def calculate [Scalar α] (text : List Char) : Except SolveError α := do
  let e : Expr α ← ofSide 0 text
  match e.evaluateFinite Bindings.empty with
  | .ok v => .ok v
  | .error fault => .error (.expression fault none)

end Expr
end WorkedAlgebra
