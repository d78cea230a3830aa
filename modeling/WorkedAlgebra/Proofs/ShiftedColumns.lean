import WorkedAlgebra.Equation.LinearForm
import WorkedAlgebra.Proofs.Parsing

/-!
What stands before a side only shifts the columns of its faults. Scanning, reading and the linear
form of a side behind more characters have the same outcome, and a fault with a column is found that
many characters further on.
-/

namespace WorkedAlgebra

variable {α : Type}

section Definitions

variable (k : Nat)

def Located.shift {φ : Type} (f : Located φ) : Located φ := { f with column := f.column + k }

def Token.shift (token : Token α) : Token α := { token with column := token.column + k }

def Cursor.shift (c : Cursor α) : Cursor α := ⟨c.tokens.map (Token.shift k), c.endColumn + k⟩

/-- What becomes of a stage behind more characters: its result is changed by `f`, and a fault moves
along. -/
def shiftResult {φ β γ : Type} (f : β → γ) : Except (Located φ) β → Except (Located φ) γ
  | .ok b => .ok (f b)
  | .error fault => .error (fault.shift k)

end Definitions

variable {k : Nat}

namespace SolveError

theorem offset_offset (m n : Nat) (error : SolveError) :
    (error.offset m).offset n = error.offset (m + n) := by
  cases error with
  | noVariable | malformed cause => rfl
  | expression fault column =>
      cases column with
      | none => rfl
      | some c => simp [offset, Nat.add_assoc]

theorem column_offset (k : Nat) (error : SolveError) :
    (error.offset k).column? = error.column?.map (· + k) := by
  cases error with
  | noVariable | malformed cause => rfl
  | expression fault column => cases column <;> rfl

/-- An error without a column is nowhere to be moved. -/
theorem offset_of_columnless {error : SolveError} (none : error.column? = none) (k : Nat) :
    error.offset k = error := by
  cases error with
  | noVariable | malformed cause => rfl
  | expression fault column =>
      cases none
      rfl

end SolveError

namespace Token

theorem mapM_shift (outcomes : List (Except (Located TokenFault) (Token α))) :
    (outcomes.map (shiftResult k (Token.shift k))).mapM id =
      shiftResult k (List.map (Token.shift k)) (outcomes.mapM id) := by
  induction outcomes with
  | nil => rfl
  | cons first rest ih =>
      rw [List.map_cons, mapM_cons, mapM_cons, ih]
      cases first with
      | error fault => rfl
      | ok token => cases rest.mapM id <;> rfl

variable [Scalar α]

/-- Scanning goes on alike behind more characters. -/
theorem scanLexemes_shift (offset : Nat) (pieces : List (List Char)) :
    scanLexemes (α := α) (offset + k) pieces =
      (scanLexemes offset pieces).map (shiftResult k (Token.shift k)) := by
  induction pieces generalizing offset with
  | nil => simp [scanLexemes, shiftResult, shift, Nat.add_right_comm]
  | cons lexeme rest ih =>
      have behind : offset + k + lexeme.length = offset + lexeme.length + k :=
        Nat.add_right_comm _ _ _
      rw [scanLexemes, scanLexemes, List.map_cons, behind, ih]
      cases ofLexeme (α := α) lexeme with
      | error fault => simp [shiftResult, Located.shift, Nat.add_right_comm]
      | ok kind => simp [shiftResult, shift, Nat.add_right_comm]

theorem tokenize_shift (offset : Nat) (text : List Char) :
    tokenize (α := α) (offset + k) text =
      shiftResult k (List.map (Token.shift k)) (tokenize offset text) := by
  rw [tokenize, scan, scanLexemes_shift, mapM_shift]
  rfl

end Token

namespace Cursor

theorem run_shift (r : Reading α) (tokens : List (Token α)) :
    r.run (tokens.map (Token.shift k)) =
      ((r.run tokens).1, (r.run tokens).2.map (Token.shift k)) := by
  induction tokens generalizing r with
  | nil => rfl
  | cons token rest ih =>
      have same : (token.shift k).kind = token.kind := rfl
      rw [List.map_cons, Reading.run, Reading.run, same]
      cases r.step? token.kind with
      | none => rfl
      | some next => exact ih next

/-- Shifted tokens are the same expression, or have the same fault further on. -/
theorem parse_shift (c : Cursor α) : (c.shift k).parse.1 = shiftResult k id c.parse.1 := by
  obtain ⟨tokens, endColumn⟩ := c
  cases tokens with
  | nil => rfl
  | cons token rest =>
      have run := run_shift (k := k) .start (token :: rest)
      simp only [parse, parseExpression, shift, run]
      generalize Reading.start.run (token :: rest) = out
      obtain ⟨reading, others⟩ := out
      cases reading with
      | before level outer => cases others <;> rfl
      | after level outer =>
          cases outer with
          | nil => cases others <;> rfl
          | cons p outer => cases others <;> rfl

/-- Only an end of input that is there moves with the tokens. -/
theorem ofTokens_shift {tokens : List (Token α)} (ended : ∃ token ∈ tokens, isEnd token = true) :
    ofTokens (tokens.map (Token.shift k)) = (ofTokens tokens).shift k := by
  obtain ⟨last, found⟩ := Option.isSome_iff_exists.mp (List.find?_isSome.mpr ended)
  have ends : isEnd ∘ Token.shift k = (isEnd : Token α → Bool) := rfl
  have column : endColumnOf (tokens.map (Token.shift k)) = endColumnOf tokens + k := by
    rw [endColumnOf, endColumnOf, List.find?_map, ends, found]
    rfl
  rw [ofTokens, ofTokens, column, List.takeWhile_map]
  rfl

end Cursor

section Sides

variable [Scalar α]

theorem Expr.ofText_shift (offset : Nat) (text : List Char) :
    ofText (α := α) (offset + k) text = (ofText offset text).mapError (.offset k) := by
  rw [ofText, ofText, Token.tokenize_shift]
  cases tokenized : Token.tokenize (α := α) offset text with
  | error fault => rfl
  | ok tokens =>
      obtain ⟨kinds, -, joined⟩ := Token.tokenize_ok_iff.mp tokenized
      have ended : ∃ token ∈ tokens, Cursor.isEnd token = true :=
        ⟨⟨.endOfInput, offset + text.length + 1⟩, by simp [joined], rfl⟩
      simp only [shiftResult, ofTokens, Cursor.ofTokens_shift ended, Cursor.parse_shift]
      cases (Cursor.ofTokens tokens).parse.1 <;> rfl

theorem LinearForm.constantPart_shift (offset : Nat) (text : List Char) :
    constantPart (α := α) (offset + k) text = (constantPart offset text).mapError (.offset k) := by
  rw [constantPart, constantPart, Expr.ofSide, Expr.ofSide, Expr.ofText_shift]
  cases Expr.ofText (α := α) offset (Text.collapseSigns text) with
  | error error => rfl
  | ok e =>
      simp only [bind, Except.bind, Except.mapError]
      cases e.evaluateFinite (Bindings.all (lettersOf text) (Scalar.zero : α)) <;> rfl

theorem LinearForm.decompose_shift (letter : Char) (offset : Nat) (side : List Char) :
    decompose (α := α) letter (offset + k) side =
      (decompose letter offset side).mapError (.offset k) := by
  rw [decompose, decompose, constantPart_shift]
  cases scanCoefficient (α := α) letter (Text.collapseSigns side) with
  | error error => exact congrArg Except.error (error.offset_offset offset k).symm
  | ok coefficient =>
      cases constantPart (α := α) offset (Text.collapseSigns side) <;> rfl

/-- A side behind `k` characters has the tree and the linear form of the side alone. When it has
none, the error is the same, `k` columns further on if it has a column at all. -/
theorem side_shifted (k : Nat) (side : List Char) (letter : Char) :
    Expr.ofSide (α := α) k side = (Expr.ofSide 0 side).mapError (.offset k) ∧
      LinearForm.decompose (α := α) letter k side =
        (LinearForm.decompose letter 0 side).mapError (.offset k) ∧
        ∀ error : SolveError, (error.offset k).column? = error.column?.map (· + k) ∧
          (error.column? = none → error.offset k = error) := by
  refine ⟨?_, ?_, fun error =>
    ⟨error.column_offset k, fun none => error.offset_of_columnless none k⟩⟩
  · have shifted := Expr.ofText_shift (α := α) (k := k) 0 (Text.collapseSigns side)
    rwa [Nat.zero_add] at shifted
  · have shifted := LinearForm.decompose_shift (α := α) (k := k) letter 0 side
    rwa [Nat.zero_add] at shifted

end Sides

end WorkedAlgebra
