import WorkedAlgebra.Proofs.CollapsedLexemes

/-!
Where a text that is no expression goes wrong, as the grammar tells. Reading rejects a side at that
place of the side with its runs of signs collapsed.
-/

namespace WorkedAlgebra

open Text

section Sides

variable (α : Type) [Scalar α]

def IsExpression (text : List Char) : Prop :=
  ∃ kinds : List (TokenKind α), Token.Reads (lexemes text) kinds ∧ Phrase .expr (symbols kinds)

/-- What is wrong with a text stands behind this number of characters. A lexeme that is no token
comes first, then a token with which no expression goes on, then a missing end. -/
inductive Offends (text : List Char) : Nat → Prop where
  | lexeme {good rest : List (List Char)} {bad : List Char} {kinds : List (TokenKind α)}
      (cut : lexemes text = good ++ bad :: rest) (reads : Token.Reads good kinds)
      (faulty : ∀ kind : TokenKind α, Token.ofLexeme bad ≠ .ok kind) :
      Offends text good.flatten.length
  | token {done rest : List (List Char)} {item : List Char} {kind : TokenKind α}
      {kinds others : List (TokenKind α)} (cut : lexemes text = done ++ item :: rest)
      (reads : Token.Reads done kinds) (read : Token.ofLexeme item = .ok kind)
      (readsRest : Token.Reads rest others) (viable : Viable (symbols kinds))
      (stuck : ¬ Viable (symbols kinds ++ [kind.symbol])) :
      Offends text done.flatten.length
  | ending {kinds : List (TokenKind α)} (reads : Token.Reads (lexemes text) kinds)
      (viable : Viable (symbols kinds)) (partial_ : ¬ Phrase .expr (symbols kinds)) :
      Offends text text.length

end Sides

theorem Viable.of_append {first second : List Symbol} (h : Viable (first ++ second)) :
    Viable first := by
  obtain ⟨more, expr⟩ := h
  exact ⟨second ++ more, by rwa [← List.append_assoc]⟩

namespace Reading

variable {α : Type} {kinds : List (TokenKind α)} {state : Reading α}

theorem viable_of_advance (advanced : start.advance kinds = some state) :
    Viable (symbols kinds) := by
  rw [viable_iff, place_of_advance advanced]
  rfl

theorem stuck_of_advance (advanced : start.advance kinds = some state) {kind : TokenKind α}
    (stopped : state.step? kind = none) : ¬ Viable (symbols kinds ++ [kind.symbol]) := by
  intro further
  have step := state.step_place kind
  rw [stopped] at step
  rw [viable_iff, Place.advance_snoc (place_of_advance advanced), ← step] at further
  cases further

theorem partial_of_advance (advanced : start.advance kinds = some state)
    (open_ : ∀ level, state ≠ .after level []) : ¬ Phrase .expr (symbols kinds) := by
  intro expr
  have whole := phrase_expr_iff.mp expr
  rw [place_of_advance advanced, Option.some.injEq] at whole
  cases state with
  | before level outer => cases whole
  | after level outer =>
      cases outer with
      | nil => exact open_ level rfl
      | cons level' outer => cases whole

end Reading

section Texts

variable {α : Type} [Scalar α]

theorem reads_unique {pieces : List (List Char)} {kinds kinds' : List (TokenKind α)}
    (reads : Token.Reads pieces kinds) (reads' : Token.Reads pieces kinds') : kinds = kinds' := by
  induction reads generalizing kinds' with
  | nil =>
      cases reads'
      rfl
  | cons read _ ih =>
      cases reads' with
      | cons read' rest =>
          rw [Except.ok.inj (read.symm.trans read'), ih rest]

theorem reads_append {first second : List (List Char)} {kinds : List (TokenKind α)}
    (reads : Token.Reads (first ++ second) kinds) :
    ∃ kinds₁ kinds₂, kinds = kinds₁ ++ kinds₂ ∧ Token.Reads first kinds₁ ∧
      Token.Reads second kinds₂ := by
  induction first generalizing kinds with
  | nil => exact ⟨[], kinds, rfl, .nil, reads⟩
  | cons lexeme first ih =>
      cases reads with
      | cons read rest =>
          obtain ⟨kinds₁, kinds₂, rfl, reads₁, reads₂⟩ := ih rest
          exact ⟨_ :: kinds₁, kinds₂, rfl, .cons read reads₁, reads₂⟩

theorem placed_cut {offset : Nat} {pieces : List (List Char)} {kinds : List (TokenKind α)}
    (reads : Token.Reads pieces kinds) {done others : List (Token α)} {token : Token α}
    (cut : Token.placed offset pieces kinds = done ++ token :: others) :
    ∃ first item rest, ∃ kinds₂ : List (TokenKind α), pieces = first ++ item :: rest ∧
      Token.Reads first (done.map Token.kind) ∧ Token.ofLexeme item = .ok token.kind ∧
        Token.Reads rest kinds₂ ∧ token.column = offset + first.flatten.length + 1 := by
  induction reads generalizing offset done with
  | nil => simp [Token.placed] at cut
  | @cons lexeme kind pieces kinds read rest ih =>
      rw [Token.placed] at cut
      cases done with
      | nil =>
          obtain ⟨rfl, -⟩ := List.cons.inj cut
          exact ⟨[], lexeme, pieces, kinds, rfl, .nil, read, rest, rfl⟩
      | cons first done =>
          obtain ⟨rfl, same⟩ := List.cons.inj cut
          obtain ⟨before, item, after, kinds₂, rfl, reads₁, read', reads₂, column⟩ := ih same
          refine ⟨lexeme :: before, item, after, kinds₂, rfl, .cons read reads₁, read', reads₂, ?_⟩
          rw [column, List.flatten_cons, List.length_append]
          omega

/-- A text that is no expression is rejected at the item that offends. -/
theorem ofText_error {offset : Nat} {text : List Char} {error : SolveError}
    (failed : Expr.ofText (α := α) offset text = .error error) :
    ∃ fault p, error = .expression fault (some (offset + p + 1)) ∧ Offends α text p := by
  unfold Expr.ofText at failed
  split at failed
  · rename_i fault scanned
    obtain ⟨good, bad, rest, cut, ⟨kinds, reads⟩, faulty, column⟩ :=
      Token.tokenize_error_iff.mp scanned
    obtain rfl := Except.error.inj failed
    refine ⟨.token fault.fault, good.flatten.length, ?_, .lexeme cut reads fun kind read => ?_⟩
    · rw [SolveError.ofToken, column]
    · rw [faulty] at read
      cases read
  · rename_i tokens scanned
    obtain ⟨kinds, reads, rfl⟩ := Token.tokenize_ok_iff.mp scanned
    rw [Expr.ofTokens, Cursor.ofTokens_end fun _ => Cursor.isEnd_placed reads] at failed
    obtain ⟨done, rest, state, joined, advanced, stopped, spec⟩ := Cursor.parse_spec
      (⟨Token.placed offset (lexemes text) kinds, offset + text.length + 1⟩ : Cursor α)
    rcases spec with ⟨-, level, -, parsed⟩ | ⟨open_, fault, parsed⟩
    · rw [parsed] at failed
      cases failed
    · rw [parsed] at failed
      obtain rfl := Except.error.inj failed
      have viable := Reading.viable_of_advance advanced
      cases rest with
      | nil =>
          rw [List.append_nil] at joined
          have same : done.map Token.kind = kinds :=
            (congrArg (List.map Token.kind) joined).symm.trans (Token.kinds_placed reads offset)
          have incomplete := Reading.partial_of_advance advanced (open_ rfl)
          rw [same] at viable incomplete
          exact ⟨.shape fault, text.length, rfl, .ending reads viable incomplete⟩
      | cons token others =>
          obtain ⟨first, item, after, kinds₂, cut, reads₁, read, reads₂, column⟩ :=
            placed_cut reads joined
          have stuck := Reading.stuck_of_advance advanced (stopped token rfl)
          refine ⟨.shape fault, first.flatten.length, ?_, .token cut reads₁ read reads₂ viable stuck⟩
          rw [← column]
          rfl

/-- Collapsing what stands before a lexeme. -/
theorem collapseSigns_take {text : List Char} {before rest : List (List Char)}
    (cut : lexemes text = before ++ rest) :
    collapseSigns (text.take before.flatten.length) = (collapseLexemes before).flatten := by
  have joined : text = before.flatten ++ rest.flatten := by
    rw [← List.flatten_append, ← cut, flatten_lexemes]
  have taken : text.take before.flatten.length = before.flatten := by
    rw [joined, List.take_left]
  rw [taken, ← flatten_lexemes (collapseSigns before.flatten), lexemes_collapseSigns,
    lexemes_flatten cut]

theorem viable_congr {first second : List Symbol}
    (same : Place.start.advance first = Place.start.advance second) (more : List Symbol) :
    Viable (first ++ more) ↔ Viable (second ++ more) := by
  rw [viable_iff, viable_iff, Place.advance_append, Place.advance_append, same]

theorem signOf_of_faulty {lexeme : List Char}
    (faulty : ∀ kind : TokenKind α, Token.ofLexeme lexeme ≠ .ok kind) : signOf? lexeme = none := by
  cases found : signOf? lexeme with
  | none => rfl
  | some c =>
      obtain ⟨rfl, sign⟩ := signOf_eq_some_iff.mp found
      obtain ⟨kind, read, -⟩ := ofLexeme_sign (α := α) sign
      exact (faulty kind read).elim

/-- An expression can always go on with a sign. -/
theorem signOf_of_stuck {lexeme : List Char} {kind : TokenKind α} {before : List Symbol}
    (read : Token.ofLexeme lexeme = .ok kind) (viable : Viable before)
    (stuck : ¬ Viable (before ++ [kind.symbol])) : signOf? lexeme = none := by
  cases found : signOf? lexeme with
  | none => rfl
  | some c =>
      obtain ⟨rfl, sign⟩ := signOf_eq_some_iff.mp found
      obtain ⟨kind', read', steps⟩ := ofLexeme_sign (α := α) sign
      obtain rfl := Except.ok.inj (read.symm.trans read')
      obtain ⟨place, advanced⟩ := Option.isSome_iff_exists.mp (viable_iff.mp viable)
      refine (stuck (viable_iff.mpr ?_)).elim
      rw [Place.advance_snoc advanced, steps]
      rfl

/-- What offends in a text whose signs are collapsed offends in the text as written. -/
theorem Offends.of_collapseSigns {text : List Char} {p : Nat}
    (offends : Offends α (collapseSigns text) p) :
    ∃ q, Offends α text q ∧ (collapseSigns (text.take q)).length = p := by
  cases offends with
  | lexeme cut reads faulty =>
      rw [lexemes_collapseSigns] at cut
      obtain ⟨before, after, whole, rfl, rfl⟩ :=
        exists_of_collapseLexemes (signOf_of_faulty faulty) cut
      obtain ⟨others, reads', -⟩ := reads_of_collapseLexemes reads
      exact ⟨_, .lexeme whole reads' faulty, congrArg List.length (collapseSigns_take whole)⟩
  | token cut reads read readsRest viable stuck =>
      rw [lexemes_collapseSigns] at cut
      obtain ⟨before, after, whole, rfl, rfl⟩ :=
        exists_of_collapseLexemes (signOf_of_stuck read viable stuck) cut
      obtain ⟨kinds', reads', same⟩ := reads_of_collapseLexemes reads
      obtain ⟨others', readsRest', -⟩ := reads_of_collapseLexemes readsRest
      refine ⟨_, .token whole reads' read readsRest' ?_ ?_,
        congrArg List.length (collapseSigns_take whole)⟩
      · rw [viable_iff] at viable ⊢
        rwa [same]
      · rwa [viable_congr (same .start)]
  | ending reads viable partial_ =>
      rw [lexemes_collapseSigns] at reads
      obtain ⟨kinds', reads', same⟩ := reads_of_collapseLexemes reads
      refine ⟨text.length, .ending reads' ?_ ?_, by rw [List.take_length]⟩
      · rw [viable_iff] at viable ⊢
        rwa [same]
      · rw [phrase_expr_iff] at partial_ ⊢
        rwa [same]

theorem cut_cases {β : Type} {first first' rest rest' : List β} {b b' : β}
    (same : first ++ b :: rest = first' ++ b' :: rest') :
    first = first' ∨ (∃ between, first' = first ++ b :: between) ∨
      ∃ between, first = first' ++ b' :: between := by
  induction first generalizing first' with
  | nil =>
      cases first' with
      | nil => exact .inl rfl
      | cons c first' =>
          obtain ⟨rfl, -⟩ := List.cons.inj same
          exact .inr (.inl ⟨first', rfl⟩)
  | cons c first ih =>
      cases first' with
      | nil =>
          obtain ⟨rfl, -⟩ := List.cons.inj same
          exact .inr (.inr ⟨first, rfl⟩)
      | cons c' first' =>
          obtain ⟨rfl, tails⟩ := List.cons.inj same
          rcases ih tails with rfl | ⟨between, rfl⟩ | ⟨between, rfl⟩
          · exact .inl rfl
          · exact .inr (.inl ⟨between, rfl⟩)
          · exact .inr (.inr ⟨between, rfl⟩)

theorem not_reads_of_faulty {good rest : List (List Char)} {bad : List Char}
    (faulty : ∀ kind : TokenKind α, Token.ofLexeme bad ≠ .ok kind) (kinds : List (TokenKind α)) :
    ¬ Token.Reads (good ++ bad :: rest) kinds := by
  intro reads
  obtain ⟨kinds₁, kinds₂, -, -, readsRest⟩ := reads_append reads
  cases readsRest with
  | cons read _ => exact faulty _ read

theorem not_viable_of_stuck {done rest : List (List Char)} {item : List Char} {kind : TokenKind α}
    {kinds all : List (TokenKind α)} (reads : Token.Reads done kinds)
    (read : Token.ofLexeme item = .ok kind) (stuck : ¬ Viable (symbols kinds ++ [kind.symbol]))
    (whole : Token.Reads (done ++ item :: rest) all) : ¬ Viable (symbols all) := by
  obtain ⟨kinds₁, kinds₂, rfl, reads₁, readsRest⟩ := reads_append whole
  obtain rfl := reads_unique reads reads₁
  cases readsRest with
  | @cons _ kind' _ others read' _ =>
      obtain rfl := Except.ok.inj (read.symm.trans read')
      intro viable
      have further : Viable ((symbols kinds ++ [kind.symbol]) ++ symbols others) := by
        simpa [symbols] using viable
      exact stuck further.of_append

/-- There is one place at most where a text goes wrong. -/
theorem Offends.unique {text : List Char} {p q : Nat} (hp : Offends α text p)
    (hq : Offends α text q) : p = q := by
  have joined {done rest : List (List Char)} {item : List Char} {kind : TokenKind α}
      {kinds others : List (TokenKind α)} (reads : Token.Reads done kinds)
      (read : Token.ofLexeme item = .ok kind) (readsRest : Token.Reads rest others) :
      Token.Reads (done ++ item :: rest) (kinds ++ kind :: others) :=
    List.rel_append reads (.cons read readsRest)
  cases hp with
  | lexeme cut reads faulty =>
      cases hq with
      | lexeme cut' reads' faulty' =>
          rcases cut_cases (cut.symm.trans cut') with rfl | ⟨between, rfl⟩ | ⟨between, rfl⟩
          · rfl
          · exact (not_reads_of_faulty faulty _ reads').elim
          · exact (not_reads_of_faulty faulty' _ reads).elim
      | token cut' reads' read readsRest _ _ =>
          have whole := joined reads' read readsRest
          rw [← cut', cut] at whole
          exact (not_reads_of_faulty faulty _ whole).elim
      | ending whole _ _ =>
          rw [cut] at whole
          exact (not_reads_of_faulty faulty _ whole).elim
  | token cut reads read readsRest viable stuck =>
      have whole := joined reads read readsRest
      rw [← cut] at whole
      cases hq with
      | lexeme cut' _ faulty' =>
          rw [cut'] at whole
          exact (not_reads_of_faulty faulty' _ whole).elim
      | token cut' reads' read' _ viable' stuck' =>
          rcases cut_cases (cut.symm.trans cut') with rfl | ⟨between, rfl⟩ | ⟨between, rfl⟩
          · rfl
          · exact (not_viable_of_stuck reads read stuck reads' viable').elim
          · exact (not_viable_of_stuck reads' read' stuck' reads viable).elim
      | ending whole' viable' _ =>
          rw [cut] at whole'
          exact (not_viable_of_stuck reads read stuck whole' viable').elim
  | ending whole viable _ =>
      cases hq with
      | lexeme cut' _ faulty' =>
          rw [cut'] at whole
          exact (not_reads_of_faulty faulty' _ whole).elim
      | token cut' reads' read' _ _ stuck' =>
          rw [cut'] at whole
          exact (not_viable_of_stuck reads' read' stuck' whole viable).elim
      | ending _ _ _ => rfl

theorem Offends.le_length {text : List Char} {p : Nat} (offends : Offends α text p) :
    p ≤ text.length := by
  have before {first rest : List (List Char)} (cut : lexemes text = first ++ rest) :
      first.flatten.length ≤ text.length := by
    rw [← flatten_lexemes text, cut, List.flatten_append, List.length_append]
    exact Nat.le_add_right _ _
  cases offends with
  | lexeme cut | token cut => exact before cut
  | ending => exact le_rfl

theorem Offends.not_isExpression {text : List Char} {p : Nat} (offends : Offends α text p) :
    ¬ IsExpression α text := by
  rintro ⟨all, whole, expr⟩
  have viable : Viable (symbols all) := ⟨[], by rwa [List.append_nil]⟩
  cases offends with
  | lexeme cut _ faulty =>
      rw [cut] at whole
      exact not_reads_of_faulty faulty _ whole
  | token cut reads read _ _ stuck =>
      rw [cut] at whole
      exact not_viable_of_stuck reads read stuck whole viable
  | ending reads _ partial_ =>
      rw [reads_unique reads whole] at partial_
      exact partial_ expr

theorem isExpression_of_ofSide {offset : Nat} {text : List Char} {e : Expr α}
    (parsed : Expr.ofSide offset text = .ok e) : IsExpression α text := by
  obtain ⟨kinds, level, reads, advanced, -⟩ := Expr.ofText_ok_iff.mp parsed
  rw [lexemes_collapseSigns] at reads
  obtain ⟨kinds', reads', same⟩ := reads_of_collapseLexemes reads
  refine ⟨kinds', reads', phrase_expr_iff.mpr ?_⟩
  rw [same, Reading.place_of_advance advanced]
  rfl

theorem ofSide_error {offset : Nat} {text : List Char} {error : SolveError}
    (failed : Expr.ofSide (α := α) offset text = .error error) :
    ∃ fault p, error =
        .expression fault (some (offset + (collapseSigns (text.take p)).length + 1)) ∧
      Offends α text p := by
  obtain ⟨fault, p, same, offends⟩ := ofText_error failed
  obtain ⟨q, offends', rfl⟩ := offends.of_collapseSigns
  exact ⟨fault, q, same, offends'⟩

end Texts
end WorkedAlgebra
