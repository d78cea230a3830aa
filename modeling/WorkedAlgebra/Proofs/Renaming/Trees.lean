import WorkedAlgebra.Expr.Reading
import WorkedAlgebra.Proofs.Renaming.Texts

/-!
Exchanging the letters of tokens, trees and faults. Scanning and reading commute with the exchange,
and a renamed tree has the value of the tree where the letters have the values of those they stand
for.
-/

namespace WorkedAlgebra

variable {α : Type} (σ : Renaming)

section Definitions

def TokenKind.rename : TokenKind α → TokenKind α
  | .letter c => .letter (σ.map c)
  | other => other

def Token.rename (token : Token α) : Token α := { token with kind := token.kind.rename σ }

def Expr.rename : Expr α → Expr α
  | .number v => .number v
  | .letter c => .letter (σ.map c)
  | .unary operator e => .unary operator e.rename
  | .binary operator l r => .binary operator l.rename r.rename

def renameLeft (left : Option (Expr α × Symbol)) : Option (Expr α × Symbol) :=
  left.map fun p => (p.1.rename σ, p.2)

def Pending.rename (p : Pending α) : Pending α :=
  ⟨renameLeft σ p.sum, renameLeft σ p.product, p.signs⟩

def Settled.rename (s : Settled α) : Settled α := ⟨renameLeft σ s.sum, s.term.rename σ⟩

def Reading.rename : Reading α → Reading α
  | .before level outer => .before (level.rename σ) (outer.map (Pending.rename σ))
  | .after level outer => .after (level.rename σ) (outer.map (Pending.rename σ))

def Cursor.rename (c : Cursor α) : Cursor α := { c with tokens := c.tokens.map (Token.rename σ) }

def ExpressionFault.rename : ExpressionFault → ExpressionFault
  | .coefficient digits letter => .coefficient digits (σ.map letter)
  | .unbound letter => .unbound (σ.map letter)
  | .notLinear letter main => .notLinear (σ.map letter) (σ.map main)
  | other => other

def SolveError.rename : SolveError → SolveError
  | .expression fault column => .expression (fault.rename σ) column
  | other => other

/-- What becomes of a stage: its result is changed by `f`, and a failure names the new letters. -/
def Renaming.result {β γ : Type} (f : β → γ) : Except SolveError β → Except SolveError γ
  | .ok b => .ok (f b)
  | .error error => .error (error.rename σ)

end Definitions

variable {σ}

theorem Renaming.result_bind {β γ β' γ' : Type} {f : β → β'} {g : γ → γ'}
    {x : Except SolveError β} {x' : Except SolveError β'} (first : x' = σ.result f x)
    {next : β → Except SolveError γ} {next' : β' → Except SolveError γ'}
    (second : ∀ b, next' (f b) = σ.result g (next b)) :
    x' >>= next' = σ.result g (x >>= next) := by
  subst first
  cases x with
  | error error => rfl
  | ok b => exact second b

theorem SolveError.rename_offset (shift : Nat) (error : SolveError) :
    (error.offset shift).rename σ = (error.rename σ).offset shift := by
  cases error with
  | noVariable => rfl
  | malformed cause => rfl
  | expression fault column => cases column <;> rfl

section Lexemes

/-- Numeral marks are not exchanged. -/
theorem Renaming.Renames.eq_of_marks {text text' : List Char} (renames : σ.Renames text text')
    (marks : ∀ c ∈ text, Numeral.isMark c = true) : text' = text := by
  induction renames with
  | nil => rfl
  | cons replaces _ ih =>
      obtain ⟨mark, marks⟩ := List.forall_mem_cons.mp marks
      rw [ih marks, replaces.eq_of_other (not_isAlpha_of_isMark mark)]

end Lexemes

namespace Token

theorem rename_kindOf? {c : Char} (other : c.isAlpha = false) {kind : TokenKind α}
    (found : kindOf? c = some kind) : kind.rename σ = kind := by
  unfold kindOf? at found
  split at found
  all_goals first | cases found; rfl | (rw [other] at found; cases found)

variable [Scalar α]

/-- A lexeme that starts with no letter is no letter. -/
theorem rename_ofLexeme {lexeme : List Char} (other : ∀ c ∈ lexeme.head?, c.isAlpha = false) :
    (ofLexeme (α := α) lexeme).map (TokenKind.rename σ) = ofLexeme lexeme := by
  cases lexeme with
  | nil => rfl
  | cons c cs =>
      simp only [ofLexeme]
      split
      · cases Numeral.ofMarks? (c :: cs) <;> rfl
      · cases found : kindOf? (α := α) c with
        | none => rfl
        | some kind => exact congrArg Except.ok (rename_kindOf? (other c rfl) found)

theorem ofLexeme_renames {lexeme lexeme' : List Char} (renames : σ.Renames lexeme lexeme')
    (shape : (∃ c, lexeme = [c]) ∨ ∀ c ∈ lexeme, Numeral.isMark c = true) :
    ofLexeme (α := α) lexeme' = (ofLexeme lexeme).map (TokenKind.rename σ) := by
  rcases shape with ⟨c, rfl⟩ | marks
  · rcases renames with - | ⟨replaces, - | -⟩
    cases replaces with
    | kept other => exact (rename_ofLexeme (by simpa using other)).symm
    | letter alpha alpha' same =>
        simp only [ofLexeme, isMark_of_isAlpha alpha, isMark_of_isAlpha alpha',
          kindOf?_letter alpha, kindOf?_letter alpha', same]
        rfl
  · rw [renames.eq_of_marks marks]
    refine (rename_ofLexeme fun c head => ?_).symm
    exact not_isAlpha_of_isMark (marks c (List.mem_of_mem_head? head))

theorem scanLexemes_renames {pieces pieces' : List (List Char)}
    (renames : σ.RenamesAll pieces pieces')
    (shape : ∀ lexeme ∈ pieces, (∃ c, lexeme = [c]) ∨ ∀ c ∈ lexeme, Numeral.isMark c = true)
    (offset : Nat) :
    scanLexemes (α := α) offset pieces' =
      (scanLexemes offset pieces).map (Except.map (Token.rename σ)) := by
  induction renames generalizing offset with
  | nil => rfl
  | @cons lexeme lexeme' rest rest' first _ ih =>
      obtain ⟨headShape, restShape⟩ := List.forall_mem_cons.mp shape
      rw [scanLexemes, scanLexemes, List.map_cons, ih restShape, first.length_eq,
        ofLexeme_renames first headShape]
      cases ofLexeme (α := α) lexeme <;> rfl

theorem mapM_map {ε β γ : Type} (f : β → γ) (items : List (Except ε β)) :
    (items.map (Except.map f)).mapM id = (items.mapM id).map (List.map f) := by
  induction items with
  | nil => rfl
  | cons first rest ih =>
      rw [List.map_cons, mapM_cons, mapM_cons, ih]
      cases first with
      | error fault => rfl
      | ok b => cases rest.mapM id <;> rfl

/-- Texts with exchanged letters have the same tokens but for the letters, at the same columns, or
the same fault. -/
theorem tokenize_renames {text text' : List Char} (renames : σ.Renames text text')
    (offset : Nat) :
    tokenize (α := α) offset text' = (tokenize offset text).map (List.map (Token.rename σ)) := by
  rw [tokenize, scan, scanLexemes_renames renames.lexemes (lexemes_shape text), mapM_map]
  rfl

end Token

section Reading

theorem Pending.rename_take (p : Pending α) (e : Expr α) :
    (p.take e).rename σ = (p.rename σ).take (e.rename σ) := by
  obtain ⟨sum, product, signs⟩ := p
  have signed (e : Expr α) : (signs.foldl (fun e sign => .unary sign e) e).rename σ =
      signs.foldl (fun e sign => .unary sign e) (e.rename σ) := by
    induction signs generalizing e with
    | nil => rfl
    | cons sign signs ih => exact ih _
  cases product with
  | none => simp [take, Settled.rename, Pending.rename, renameLeft, signed]
  | some factor => simp [take, Settled.rename, Pending.rename, renameLeft, signed, Expr.rename]

theorem Settled.rename_value (s : Settled α) : s.value.rename σ = (s.rename σ).value := by
  obtain ⟨sum, term⟩ := s
  cases sum <;> rfl

theorem Settled.rename_addTerm (s : Settled α) (sign : Symbol) :
    (s.addTerm sign).rename σ = (s.rename σ).addTerm sign := by
  simp [addTerm, Pending.rename, renameLeft, rename_value]

theorem Settled.rename_addFactor (s : Settled α) (operator : Symbol) :
    (s.addFactor operator).rename σ = (s.rename σ).addFactor operator := rfl

namespace Reading

/-- Reading a token commutes with the exchange. -/
theorem step?_rename (r : Reading α) (kind : TokenKind α) :
    (r.rename σ).step? (kind.rename σ) = (r.step? kind).map (Reading.rename σ) := by
  cases r with
  | before level outer =>
      cases kind with
      | number v | letter c =>
          simp [step?, TokenKind.rename, Reading.rename, Pending.rename_take, Expr.rename]
      | openParen | plus | minus => rfl
      | star | slash | equals | closeParen | endOfInput => rfl
  | after level outer =>
      cases kind with
      | plus | minus =>
          simp [step?, TokenKind.rename, Reading.rename, Settled.rename_addTerm]
      | letter c =>
          simp [step?, TokenKind.rename, Reading.rename, Pending.rename_take, Expr.rename,
            Settled.rename_addFactor]
      | closeParen =>
          cases outer with
          | nil => rfl
          | cons p outer =>
              simp [step?, TokenKind.rename, Reading.rename, Pending.rename_take,
                Settled.rename_value]
      | star | slash | openParen | number v | equals | endOfInput => rfl

theorem run_rename (r : Reading α) (tokens : List (Token α)) :
    (r.rename σ).run (tokens.map (Token.rename σ)) =
      ((r.run tokens).1.rename σ, (r.run tokens).2.map (Token.rename σ)) := by
  induction tokens generalizing r with
  | nil => rfl
  | cons token rest ih =>
      have step : (r.rename σ).step? (token.rename σ).kind =
        (r.step? token.kind).map (Reading.rename σ) := step?_rename r token.kind
      rw [List.map_cons, run, run, step]
      cases r.step? token.kind with
      | none => rfl
      | some next => exact ih next

end Reading

namespace Cursor

theorem isEnd_rename (token : Token α) : isEnd (token.rename σ) = isEnd token := by
  obtain ⟨kind, column⟩ := token
  cases kind <;> rfl

theorem ofTokens_rename (tokens : List (Token α)) :
    ofTokens (tokens.map (Token.rename σ)) = (ofTokens tokens).rename σ := by
  have ends : isEnd ∘ Token.rename σ = (isEnd : Token α → Bool) := funext isEnd_rename
  have notEnds : (fun token => !isEnd token) ∘ Token.rename σ =
      fun token : Token α => !isEnd token := funext fun token => by simp [isEnd_rename]
  have column : endColumnOf (tokens.map (Token.rename σ)) = endColumnOf tokens := by
    rw [endColumnOf, endColumnOf, List.find?_map, ends, List.getLast?_map]
    cases tokens.find? isEnd with
    | some token => rfl
    | none => cases tokens.getLast? <;> rfl
  rw [ofTokens, ofTokens, column, List.takeWhile_map, notEnds]
  rfl

theorem symbol_rename (kind : TokenKind α) : (kind.rename σ).symbol = kind.symbol := by
  cases kind <;> rfl

/-- The same expression but for its letters, or the same fault. -/
theorem parse_rename (c : Cursor α) :
    (c.rename σ).parse.1 = c.parse.1.map (Expr.rename σ) := by
  have unexpected (token : Token α) :
      (.error ⟨.unexpected (token.rename σ).kind.symbol, token.column⟩ :
        Except (Located SyntaxFault) (Expr α)) =
          .error ⟨.unexpected token.kind.symbol, token.column⟩ := by
    rw [Token.rename, symbol_rename]
  obtain ⟨tokens, endColumn⟩ := c
  cases tokens with
  | nil => rfl
  | cons token rest =>
      have run := Reading.run_rename (σ := σ) .start (token :: rest)
      change Reading.start.run _ = _ at run
      simp only [parse, parseExpression, Cursor.rename, run]
      generalize Reading.start.run (token :: rest) = out
      obtain ⟨reading, others⟩ := out
      cases reading with
      | before level outer =>
          cases others with
          | nil => rfl
          | cons other others => exact unexpected other
      | after level outer =>
          cases outer with
          | cons p outer => cases others <;> rfl
          | nil =>
              cases others with
              | nil => exact congrArg Except.ok (Settled.rename_value level).symm
              | cons other others => exact unexpected other

end Cursor
end Reading

theorem Expr.mentions_rename (name : Char) (e : Expr α) :
    (e.rename σ).mentions (σ.map name) = e.mentions name := by
  induction e with
  | number v => rfl
  | letter c => exact decide_eq_decide.mpr σ.injective.eq_iff
  | unary operator e ih => exact ih
  | binary operator l r ihl ihr => rw [rename, mentions, mentions, ihl, ihr]

section Expressions

variable [Scalar α] {text text' : List Char}

theorem Expr.ofText_renames (renames : σ.Renames text text') (offset : Nat) :
    ofText (α := α) offset text' = σ.result (Expr.rename σ) (ofText offset text) := by
  rw [ofText, ofText, Token.tokenize_renames renames]
  cases Token.tokenize (α := α) offset text with
  | error fault => rfl
  | ok tokens =>
      simp only [Except.map, ofTokens, Cursor.ofTokens_rename, Cursor.parse_rename]
      cases (Cursor.ofTokens tokens).parse.1 <;> rfl

/-- Sides with exchanged letters have the same tree but for the letters, or the same fault at the
same column. -/
theorem Expr.ofSide_renames (renames : σ.Renames text text') (offset : Nat) :
    ofSide (α := α) offset text' = σ.result (Expr.rename σ) (ofSide offset text) :=
  ofText_renames renames.collapseSigns offset

variable {b b' : Bindings α}

/-- Letters have the values of those they stand for. -/
def Renaming.Binds (σ : Renaming) (b b' : Bindings α) : Prop := ∀ c, b' (σ.map c) = b c

theorem Expr.evaluate_rename (binds : σ.Binds b b') (e : Expr α) :
    (e.rename σ).evaluate b' = (e.evaluate b).mapError (ExpressionFault.rename σ) := by
  induction e with
  | number v => rfl
  | letter c =>
      rw [rename, evaluate, evaluate, binds c]
      cases b c <;> rfl
  | unary operator e ih =>
      rw [rename, evaluate, evaluate, ih]
      cases e.evaluate b <;> rfl
  | binary operator l r ihl ihr =>
      rw [rename, evaluate, evaluate, ihl, ihr]
      cases l.evaluate b with
      | error fault => rfl
      | ok u =>
          cases r.evaluate b with
          | error fault => rfl
          | ok v => cases operator <;> rfl

theorem Expr.evaluateFinite_rename (binds : σ.Binds b b') (e : Expr α) :
    (e.rename σ).evaluateFinite b' = (e.evaluateFinite b).mapError (ExpressionFault.rename σ) := by
  rw [evaluateFinite, evaluateFinite, evaluate_rename binds]
  cases e.evaluate b with
  | error fault => rfl
  | ok v =>
      change (if Scalar.isFinite v then _ else _) = Except.mapError _ (if _ then _ else _)
      split <;> rfl

end Expressions

section Values

theorem Renaming.binds_empty : σ.Binds (Bindings.empty : Bindings α) Bindings.empty :=
  fun _ => rfl

theorem Renaming.Binds.set {b b' : Bindings α} (binds : σ.Binds b b') (name : Char) (value : α) :
    σ.Binds (b.set name value) (b'.set (σ.map name) value) := by
  intro c
  simp only [Bindings.set, beq_iff_eq, σ.injective.eq_iff, binds c]

theorem Renaming.binds_all (names : List Char) (value : α) :
    σ.Binds (Bindings.all names value) (Bindings.all (names.map σ.map) value) := by
  intro c
  simp only [Bindings.all, List.contains_iff_mem, List.mem_map_of_injective σ.injective]

end Values
end WorkedAlgebra
