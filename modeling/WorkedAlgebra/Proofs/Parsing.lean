import WorkedAlgebra.Expr.Reading
import WorkedAlgebra.Proofs.Lexing

/-!
Reading tokens as a machine on their kinds: a text is an expression exactly when all its tokens
are read and the machine stands behind an operand with no bracket open.
-/

namespace WorkedAlgebra

variable {α : Type}

namespace Reading

def advance : Reading α → List (TokenKind α) → Option (Reading α)
  | r, [] => some r
  | r, kind :: kinds => (r.step? kind).bind fun next => next.advance kinds

theorem advance_append (r : Reading α) (first second : List (TokenKind α)) :
    r.advance (first ++ second) = (r.advance first).bind fun next => next.advance second := by
  induction first generalizing r with
  | nil => rfl
  | cons kind first ih =>
      cases next : r.step? kind with
      | none => simp [advance, next]
      | some s => simp [advance, next, ih]

/-- Reading stops in front of the first token with which no expression goes on. -/
theorem run_spec (r : Reading α) (tokens : List (Token α)) :
    ∃ done, tokens = done ++ (r.run tokens).2 ∧
      r.advance (done.map Token.kind) = some (r.run tokens).1 ∧
        ∀ token ∈ (r.run tokens).2.head?, (r.run tokens).1.step? token.kind = none := by
  induction tokens generalizing r with
  | nil => exact ⟨[], rfl, rfl, nofun⟩
  | cons token rest ih =>
      cases next : r.step? token.kind with
      | none =>
          refine ⟨[], by simp [run, next], by simp [run, next, advance], ?_⟩
          simp [run, next]
      | some s =>
          obtain ⟨done, joined, advanced, stopped⟩ := ih s
          refine ⟨token :: done, ?_, ?_, ?_⟩
          · simpa [run, next] using joined
          · simpa [run, next, advance] using advanced
          · simpa [run, next] using stopped

theorem run_of_advance {r s : Reading α} {tokens : List (Token α)}
    (advanced : r.advance (tokens.map Token.kind) = some s) : r.run tokens = (s, []) := by
  induction tokens generalizing r with
  | nil =>
      cases advanced
      rfl
  | cons token rest ih =>
      cases next : r.step? token.kind with
      | none => simp [advance, next] at advanced
      | some t =>
          rw [run, next]
          exact ih (by simpa [advance, next] using advanced)

end Reading

namespace Token

variable [Scalar α]

/-- A lexeme is a decimal, a letter in lower case, or a single operator. -/
theorem ofLexeme_cases {lexeme : List Char} {kind : TokenKind α}
    (read : ofLexeme lexeme = .ok kind) :
    (∃ mantissa places, kind = .number (Scalar.ofDecimal mantissa places)) ∨
      (∃ c ∈ lexeme, c.isAlpha = true ∧ kind = .letter c.toLower) ∨
        kind ∈ [.plus, .minus, .star, .slash, .equals, .openParen, .closeParen] := by
  cases lexeme with
  | nil => cases read
  | cons c cs =>
      simp only [ofLexeme] at read
      split at read
      · split at read
        · cases read
          exact .inl ⟨_, _, rfl⟩
        · cases read
      · split at read
        · rename_i found
          cases read
          unfold kindOf? at found
          split at found
          case h_8 =>
            split at found
            · rename_i alpha
              cases found
              exact .inr (.inl ⟨c, List.mem_cons_self, alpha, rfl⟩)
            · cases found
          all_goals
            cases found
            exact .inr (.inr (by simp))
        · cases read

theorem ofLexeme_ne_endOfInput {lexeme : List Char} {kind : TokenKind α}
    (read : ofLexeme lexeme = .ok kind) : kind.symbol ≠ .endOfInput := by
  rcases ofLexeme_cases read with ⟨_, _, rfl⟩ | ⟨_, -, -, rfl⟩ | operator
  · nofun
  · nofun
  · rintro isEnd
    cases kind <;> simp [TokenKind.symbol] at isEnd operator

end Token

namespace Cursor

theorem ofTokens_end {tokens : List (Token α)} (proper : ∀ token ∈ tokens, isEnd token = false)
    (column : Nat) : ofTokens (tokens ++ [⟨.endOfInput, column⟩]) = ⟨tokens, column⟩ := by
  have found : List.find? isEnd (tokens ++ [(⟨.endOfInput, column⟩ : Token α)]) =
      some ⟨.endOfInput, column⟩ := by
    rw [List.find?_append, List.find?_eq_none.mpr (by simpa using proper)]
    rfl
  have taken : List.takeWhile (fun token => !isEnd token)
      (tokens ++ [(⟨.endOfInput, column⟩ : Token α)]) = tokens := by
    rw [List.takeWhile_append_of_pos (by simpa using proper)]
    exact List.append_nil tokens
  rw [ofTokens, endColumnOf, found, taken]

theorem isEnd_placed [Scalar α] {pieces : List (List Char)} {kinds : List (TokenKind α)}
    (reads : Token.Reads pieces kinds) {offset : Nat} {token : Token α}
    (mem : token ∈ Token.placed offset pieces kinds) : isEnd token = false := by
  have kind : token.kind ∈ kinds := by
    rw [← Token.kinds_placed reads offset]
    exact List.mem_map_of_mem mem
  obtain ⟨lexeme, -, read⟩ := reads.exists_lexeme kind
  exact beq_false_of_ne (Token.ofLexeme_ne_endOfInput read)

/-- What reading comes to: an expression when all tokens are read and no operand or bracket is
missing, and otherwise a fault at the token in front of which reading stopped, or at the end. -/
theorem parse_spec (c : Cursor α) :
    ∃ done rest state, c.tokens = done ++ rest ∧
      Reading.start.advance (done.map Token.kind) = some state ∧
        (∀ token ∈ rest.head?, state.step? token.kind = none) ∧
          ((rest = [] ∧ ∃ level, state = .after level [] ∧ c.parse.1 = .ok level.value) ∨
            ((rest = [] → ∀ level, state ≠ .after level []) ∧
              ∃ fault, c.parse.1 = .error ⟨fault, Cursor.column ⟨rest, c.endColumn⟩⟩)) := by
  obtain ⟨done, joined, advanced, stopped⟩ := Reading.run_spec (α := α) .start c.tokens
  refine ⟨done, _, _, joined, advanced, stopped, ?_⟩
  cases empty : c.tokens with
  | nil => exact .inr ⟨fun _ _ => nofun, .expectedExpression, by simp [parse, empty, column, Reading.run]⟩
  | cons token rest =>
      rw [← empty]
      simp only [parse, parseExpression, show c.tokens.isEmpty = false by simp [empty]]
      cases Reading.start.run c.tokens with
      | mk state left =>
          cases state with
          | before level outer =>
              refine .inr ⟨fun _ _ => nofun, ?_⟩
              cases left with
              | nil => exact ⟨_, rfl⟩
              | cons token rest => exact ⟨_, rfl⟩
          | after level outer =>
              cases outer with
              | nil =>
                  cases left with
                  | nil => exact .inl ⟨rfl, level, rfl, rfl⟩
                  | cons token rest => exact .inr ⟨nofun, _, rfl⟩
              | cons level' outer => exact .inr ⟨fun _ _ => nofun, _, rfl⟩

/-- A list of tokens is an expression exactly when reading them all ends behind an operand with
no bracket open. -/
theorem parse_ok_iff {c : Cursor α} {e : Expr α} :
    c.parse.1 = .ok e ↔
      ∃ level, Reading.start.advance (c.tokens.map Token.kind) = some (.after level []) ∧
        level.value = e := by
  constructor
  · intro h
    obtain ⟨done, rest, state, joined, advanced, -, ⟨rfl, level, rfl, parsed⟩ | ⟨-, fault, parsed⟩⟩ :=
      parse_spec c
    · rw [parsed] at h
      exact ⟨level, by simpa [joined] using advanced, Except.ok.inj h⟩
    · rw [parsed] at h
      cases h
  · rintro ⟨level, advanced, rfl⟩
    have nonempty : c.tokens.isEmpty = false := by
      cases empty : c.tokens with
      | nil => simp [empty, Reading.advance, Reading.start] at advanced
      | cons token rest => rfl
    simp [parse, parseExpression, nonempty, Reading.run_of_advance advanced]

end Cursor

/-- A text is an expression exactly when its lexemes are tokens that read as one. -/
theorem Expr.ofText_ok_iff [Scalar α] {offset : Nat} {text : List Char} {e : Expr α} :
    Expr.ofText offset text = .ok e ↔
      ∃ kinds level, Token.Reads (lexemes text) kinds ∧
        Reading.start.advance kinds = some (.after level []) ∧ level.value = e := by
  constructor
  · intro h
    unfold Expr.ofText at h
    split at h
    · cases h
    · rename_i tokens tokenized
      obtain ⟨kinds, reads, rfl⟩ := Token.tokenize_ok_iff.mp tokenized
      split at h
      · cases h
      · rename_i tree parsed
        cases h
        rw [Expr.ofTokens, Cursor.ofTokens_end fun _ => Cursor.isEnd_placed reads] at parsed
        obtain ⟨level, advanced, value⟩ := Cursor.parse_ok_iff.mp parsed
        rw [Token.kinds_placed reads] at advanced
        exact ⟨kinds, level, reads, advanced, value⟩
  · rintro ⟨kinds, level, reads, advanced, value⟩
    have tokenized : Token.tokenize offset text = .ok _ :=
      Token.tokenize_ok_iff.mpr ⟨kinds, reads, rfl⟩
    have parsed : Expr.ofTokens (Token.placed offset (lexemes text) kinds ++
        [⟨.endOfInput, offset + text.length + 1⟩]) = .ok e := by
      rw [Expr.ofTokens, Cursor.ofTokens_end fun _ => Cursor.isEnd_placed reads]
      exact Cursor.parse_ok_iff.mpr ⟨level, by rwa [Token.kinds_placed reads], value⟩
    simp [Expr.ofText, tokenized, parsed]

section Numbers

def Expr.HasNumber (v : α) : Expr α → Prop
  | .number w => w = v
  | .letter _ => False
  | .unary _ e => e.HasNumber v
  | .binary _ left right => left.HasNumber v ∨ right.HasNumber v

def leftHasNumber (v : α) : Option (Expr α × Symbol) → Prop
  | some (e, _) => e.HasNumber v
  | none => False

def Pending.HasNumber (v : α) (p : Pending α) : Prop :=
  leftHasNumber v p.sum ∨ leftHasNumber v p.product

def Settled.HasNumber (v : α) (s : Settled α) : Prop :=
  leftHasNumber v s.sum ∨ s.term.HasNumber v

def Reading.HasNumber (v : α) : Reading α → Prop
  | .before p outer => p.HasNumber v ∨ ∃ q ∈ outer, q.HasNumber v
  | .after s outer => s.HasNumber v ∨ ∃ q ∈ outer, q.HasNumber v

theorem hasNumber_signs {v : α} (signs : List Symbol) (e : Expr α) :
    (signs.foldl (fun e sign => .unary sign e) e).HasNumber v ↔ e.HasNumber v := by
  induction signs generalizing e with
  | nil => rfl
  | cons sign signs ih => exact ih (.unary sign e)

theorem Pending.hasNumber_take {v : α} (p : Pending α) (e : Expr α) :
    (p.take e).HasNumber v ↔ p.HasNumber v ∨ e.HasNumber v := by
  cases product : p.product with
  | none =>
      simp [take, product, Settled.HasNumber, Pending.HasNumber, leftHasNumber, hasNumber_signs]
  | some left =>
      simp [take, product, Settled.HasNumber, Pending.HasNumber, leftHasNumber, hasNumber_signs,
        Expr.HasNumber, or_assoc]

theorem Settled.hasNumber_value {v : α} (s : Settled α) :
    s.value.HasNumber v ↔ s.HasNumber v := by
  cases sum : s.sum with
  | none => simp [value, sum, Settled.HasNumber, leftHasNumber]
  | some left => simp [value, sum, Settled.HasNumber, leftHasNumber, Expr.HasNumber]

theorem Pending.not_hasNumber_start (v : α) : ¬ (start : Pending α).HasNumber v := by
  simp [start, HasNumber, leftHasNumber]

theorem Settled.hasNumber_addTerm {v : α} (s : Settled α) (sign : Symbol) :
    (s.addTerm sign).HasNumber v ↔ s.HasNumber v := by
  simp [addTerm, Pending.HasNumber, leftHasNumber, hasNumber_value]

theorem Settled.hasNumber_addFactor {v : α} (s : Settled α) (operator : Symbol) :
    (s.addFactor operator).HasNumber v ↔ s.HasNumber v := by
  simp [addFactor, Pending.HasNumber, Settled.HasNumber, leftHasNumber]

namespace Reading

/-- Reading a token keeps the numbers that were read before, and adds its own. -/
theorem step_hasNumber {v : α} {r next : Reading α} {kind : TokenKind α}
    (step : r.step? kind = some next) (old : r.HasNumber v ∨ kind = .number v) :
    next.HasNumber v := by
  unfold step? at step
  split at step <;> cases step <;>
    simp_all [HasNumber, Pending.hasNumber_take, Settled.hasNumber_value, Settled.hasNumber_addTerm,
      Settled.hasNumber_addFactor, Pending.not_hasNumber_start, Expr.HasNumber]
  all_goals first
    | exact old
    | tauto

theorem advance_hasNumber {v : α} {r final : Reading α} {kinds : List (TokenKind α)}
    (advanced : r.advance kinds = some final) (old : r.HasNumber v ∨ .number v ∈ kinds) :
    final.HasNumber v := by
  induction kinds generalizing r with
  | nil =>
      cases advanced
      simpa using old
  | cons kind kinds ih =>
      cases next : r.step? kind with
      | none => simp [advance, next] at advanced
      | some s =>
          refine ih (by simpa [advance, next] using advanced) ?_
          rcases old with read | mem
          · exact .inl (step_hasNumber next (.inl read))
          · rcases List.mem_cons.mp mem with rfl | later
            · exact .inl (step_hasNumber next (.inr rfl))
            · exact .inr later

end Reading

/-- Every numeral of an expression is a leaf of its tree. -/
theorem Expr.hasNumber_of_lexeme [Scalar α] {offset : Nat} {text : List Char} {e : Expr α}
    (parsed : Expr.ofText offset text = .ok e) {lexeme : List Char} {v : α}
    (mem : lexeme ∈ lexemes text) (read : Token.ofLexeme lexeme = .ok (.number v)) :
    e.HasNumber v := by
  obtain ⟨kinds, level, reads, advanced, rfl⟩ := Expr.ofText_ok_iff.mp parsed
  obtain ⟨kind, hkind, same⟩ := reads.exists_kind mem
  obtain rfl : kind = .number v := Except.ok.inj (same.symm.trans read)
  have final := Reading.advance_hasNumber advanced (.inr hkind)
  simpa [Reading.HasNumber, Settled.hasNumber_value] using final

end Numbers
end WorkedAlgebra
