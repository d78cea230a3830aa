import WorkedAlgebra.Proofs.OffendingItems

/-!
Where tokens stop being the beginning of an expression. A rejected list is reported at exactly that
token; it is the end of input when the tokens before it are an expression only in part.
-/

namespace WorkedAlgebra

variable {α : Type}

/-- The tokens before this one begin an expression, and together with it they do not. -/
structure BreaksAt (tokens before : List (Token α)) (item : Token α) : Prop where
  cut : ∃ after, tokens = before ++ item :: after
  viable : Viable (symbols (before.map Token.kind))
  stuck : ¬ Viable (symbols ((before ++ [item]).map Token.kind))

theorem symbols_snoc (before : List (Token α)) (item : Token α) :
    symbols ((before ++ [item]).map Token.kind) =
      symbols (before.map Token.kind) ++ [item.kind.symbol] := by
  simp [symbols]

namespace BreaksAt

variable {tokens before before' : List (Token α)} {item item' : Token α}

/-- Tokens that go on behind the break do not begin an expression any more. -/
theorem not_viable (breaks : BreaksAt tokens before item) (between : List (Token α)) :
    ¬ Viable (symbols ((before ++ item :: between).map Token.kind)) := by
  intro viable
  have longer : Viable (symbols ((before ++ [item]).map Token.kind) ++
      symbols (between.map Token.kind)) := by
    simpa [symbols] using viable
  exact breaks.stuck longer.of_append

/-- There is one such token at most, so it is the first one. -/
theorem unique (first : BreaksAt tokens before item) (second : BreaksAt tokens before' item') :
    before' = before ∧ item' = item := by
  obtain ⟨after, joined⟩ := first.cut
  obtain ⟨after', joined'⟩ := second.cut
  rcases cut_cases (joined.symm.trans joined') with rfl | ⟨between, rfl⟩ | ⟨between, rfl⟩
  · rw [joined, List.append_cancel_left_eq] at joined'
    exact ⟨rfl, (List.cons.inj joined').1.symm⟩
  · exact (first.not_viable between second.viable).elim
  · exact (second.not_viable between first.viable).elim

end BreaksAt

/-- No expression goes on with the end of input. -/
theorem not_viable_endOfInput (before : List Symbol) : ¬ Viable (before ++ [.endOfInput]) := by
  intro viable
  obtain ⟨place, advanced⟩ := Option.isSome_iff_exists.mp (viable_iff.mp viable.of_append)
  rw [viable_iff, Place.advance_snoc advanced] at viable
  obtain ⟨operand, depth⟩ := place
  cases operand <;> cases viable

/-- Tokens that begin an expression break at the end of input. -/
theorem BreaksAt.ending {tokens : List (Token α)}
    (viable : Viable (symbols (tokens.map Token.kind))) (column : Nat) :
    BreaksAt (tokens ++ [⟨.endOfInput, column⟩]) tokens ⟨.endOfInput, column⟩ := by
  refine ⟨⟨[], rfl⟩, viable, ?_⟩
  rw [symbols_snoc]
  exact not_viable_endOfInput _

/-- A rejected list of tokens breaks at one token, and this is the one that is reported. -/
theorem Cursor.parse_error_breaks {tokens : List (Token α)} {column : Nat}
    {fault : Located SyntaxFault}
    (rejected : (⟨tokens, column⟩ : Cursor α).parse.1 = .error fault) :
    ¬ Phrase .expr (symbols (tokens.map Token.kind)) ∧
      ∃ before item, BreaksAt (tokens ++ [⟨.endOfInput, column⟩]) before item ∧
        fault.column = item.column := by
  obtain ⟨before, rest, state, joined, advanced, stopped, spec⟩ :=
    parse_spec (⟨tokens, column⟩ : Cursor α)
  have joined : tokens = before ++ rest := joined
  have viable := Reading.viable_of_advance advanced
  rcases spec with ⟨-, level, -, parsed⟩ | ⟨open_, cause, parsed⟩
  · rw [parsed] at rejected
    cases rejected
  rw [parsed] at rejected
  obtain rfl := Except.error.inj rejected
  cases rest with
  | nil =>
      rw [List.append_nil] at joined
      subst joined
      exact ⟨Reading.partial_of_advance advanced (open_ rfl), tokens, _, .ending viable column, rfl⟩
  | cons item rest =>
      have stuck := Reading.stuck_of_advance advanced (stopped item rfl)
      rw [← symbols_snoc] at stuck
      have breaks : BreaksAt (tokens ++ [⟨.endOfInput, column⟩]) before item :=
        ⟨⟨rest ++ [⟨.endOfInput, column⟩], by rw [joined]; simp⟩, viable, stuck⟩
      refine ⟨fun phrase => ?_, before, item, breaks, rfl⟩
      refine breaks.not_viable rest ⟨[], ?_⟩
      rwa [List.append_nil, ← joined]

/-- Tokens in front of the only end of input that are no expression are reported at the first token
with which they stop being the beginning of one. It is the end of input just when all the others
still begin an expression, without being one. -/
theorem Expr.ofTokens_error_column {tokens : List (Token α)}
    (proper : ∀ token ∈ tokens, token.kind.symbol ≠ .endOfInput) (column : Nat)
    {fault : Located SyntaxFault}
    (rejected : ofTokens (tokens ++ [⟨.endOfInput, column⟩]) = .error fault) :
    ∃ before item, BreaksAt (tokens ++ [⟨.endOfInput, column⟩]) before item ∧
      fault.column = item.column ∧
        (∀ before' item', BreaksAt (tokens ++ [⟨.endOfInput, column⟩]) before' item' →
          before' = before ∧ item' = item) ∧
          (item.kind = .endOfInput ↔ Viable (symbols (tokens.map Token.kind)) ∧
            ¬ Phrase .expr (symbols (tokens.map Token.kind))) := by
  rw [ofTokens, Cursor.ofTokens_end fun token mem => beq_false_of_ne (proper token mem)] at rejected
  obtain ⟨incomplete, before, item, breaks, reported⟩ := Cursor.parse_error_breaks rejected
  refine ⟨before, item, breaks, reported, fun _ _ other => breaks.unique other, ?_, ?_⟩
  · intro isEnd
    obtain ⟨after, joined⟩ := breaks.cut
    rcases cut_cases joined with rfl | ⟨between, rfl⟩ | ⟨between, rfl⟩
    · exact ⟨breaks.viable, incomplete⟩
    · simp at joined
    · exact (proper item (by simp) (by rw [isEnd]; rfl)).elim
  · rintro ⟨viable, -⟩
    rw [← (breaks.unique (.ending viable column)).2]

/-- The closing bracket in `(x+)2` stands where a term is missing. -/
theorem Expr.ofTokens_error_column_bracket :
    let tokens : List (Token Nat) := [⟨.openParen, 1⟩, ⟨.letter 'x', 2⟩, ⟨.plus, 3⟩,
      ⟨.closeParen, 4⟩, ⟨.number 2, 5⟩]
    (∀ token ∈ tokens, token.kind.symbol ≠ .endOfInput) ∧
      ofTokens (tokens ++ [⟨.endOfInput, 6⟩]) = .error ⟨.unexpected .closeParen, 4⟩ ∧
        BreaksAt (tokens ++ [⟨.endOfInput, 6⟩]) (tokens.take 3) ⟨.closeParen, 4⟩ := by
  intro tokens
  have proper : ∀ token ∈ tokens, token.kind.symbol ≠ .endOfInput := by decide
  have rejected : ofTokens (tokens ++ [⟨.endOfInput, 6⟩]) =
      .error ⟨.unexpected .closeParen, 4⟩ := rfl
  obtain ⟨before, item, breaks, -, only, -⟩ := ofTokens_error_column proper 6 rejected
  have here : BreaksAt (tokens ++ [⟨.endOfInput, 6⟩]) (tokens.take 3) ⟨.closeParen, 4⟩ :=
    ⟨⟨_, rfl⟩, viable_iff.mpr rfl, by rw [viable_iff]; decide⟩
  obtain ⟨rfl, rfl⟩ := only _ _ here
  exact ⟨proper, rejected, breaks⟩

end WorkedAlgebra
