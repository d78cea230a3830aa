import WorkedAlgebra.Proofs.Grammar

/-!
The trees of the grammar. A derivation carries its tree along, and reading the tokens of a phrase
builds exactly that tree, so a list of tokens has at most one.
-/

namespace WorkedAlgebra

variable {α : Type}

def StartsFactor (kinds : List (TokenKind α)) : Prop :=
  (symbols kinds).head? = some .letter ∨ (symbols kinds).head? = some .openParen

def EndsOperand (kinds : List (TokenKind α)) : Prop :=
  ∃ kind, kinds.getLast? = some kind ∧ kind.symbol ∈ [Symbol.number, .letter, .closeParen]

/-- The phrases of the grammar with their trees. Operators group to the left, a factor without
operator multiplies, and brackets leave no node. -/
inductive Derives : Category → List (TokenKind α) → Expr α → Prop where
  | number (v : α) : Derives .primary [.number v] (.number v)
  | letter (c : Char) : Derives .primary [.letter c] (.letter c)
  | group {w : List (TokenKind α)} {e : Expr α} (inner : Derives .expr w e) :
      Derives .primary (.openParen :: (w ++ [.closeParen])) e
  | primary {w : List (TokenKind α)} {e : Expr α} (inner : Derives .primary w e) :
      Derives .unary w e
  | plus {w : List (TokenKind α)} {e : Expr α} (operand : Derives .unary w e) :
      Derives .unary (.plus :: w) (.unary .plus e)
  | minus {w : List (TokenKind α)} {e : Expr α} (operand : Derives .unary w e) :
      Derives .unary (.minus :: w) (.unary .minus e)
  | unary {w : List (TokenKind α)} {e : Expr α} (inner : Derives .unary w e) : Derives .term w e
  | product {v w : List (TokenKind α)} {l r : Expr α} (left : Derives .term v l)
      (right : Derives .unary w r) : Derives .term (v ++ .star :: w) (.binary .star l r)
  | quotient {v w : List (TokenKind α)} {l r : Expr α} (left : Derives .term v l)
      (right : Derives .unary w r) : Derives .term (v ++ .slash :: w) (.binary .slash l r)
  | implicit {v w : List (TokenKind α)} {l r : Expr α} (left : Derives .term v l)
      (right : Derives .unary w r) (starts : StartsFactor w) :
      Derives .term (v ++ w) (.binary .star l r)
  | term {w : List (TokenKind α)} {e : Expr α} (inner : Derives .term w e) : Derives .expr w e
  | sum {v w : List (TokenKind α)} {l r : Expr α} (left : Derives .expr v l)
      (right : Derives .term w r) : Derives .expr (v ++ .plus :: w) (.binary .plus l r)
  | difference {v w : List (TokenKind α)} {l r : Expr α} (left : Derives .expr v l)
      (right : Derives .term w r) : Derives .expr (v ++ .minus :: w) (.binary .minus l r)

theorem exists_infix {kinds : List (TokenKind α)} {left right : List Symbol} {s : Symbol}
    (same : symbols kinds = left ++ s :: right) :
    ∃ v kind w, kinds = v ++ kind :: w ∧ symbols v = left ∧ kind.symbol = s ∧
      symbols w = right := by
  obtain ⟨v, rest, rfl, before, same⟩ := List.map_eq_append_iff.mp same
  obtain ⟨kind, w, rfl, symbol, behind⟩ := List.map_eq_cons_iff.mp same
  exact ⟨v, kind, w, rfl, before, symbol, behind⟩

/-- Every phrase has a tree. -/
theorem Phrase.exists_derives {category : Category} {u : List Symbol} (phrase : Phrase category u)
    {kinds : List (TokenKind α)} (same : symbols kinds = u) : ∃ e, Derives category kinds e := by
  induction phrase generalizing kinds with
  | number =>
      obtain ⟨kind, rfl, symbol⟩ := List.map_eq_singleton_iff.mp same
      cases kind with
      | number v => exact ⟨_, .number v⟩
      | _ => cases symbol
  | letter =>
      obtain ⟨kind, rfl, symbol⟩ := List.map_eq_singleton_iff.mp same
      cases kind with
      | letter c => exact ⟨_, .letter c⟩
      | _ => cases symbol
  | group _ ih =>
      obtain ⟨first, rest, rfl, opened, same⟩ := List.map_eq_cons_iff.mp same
      obtain ⟨w, last, rest, rfl, inner, closed, none⟩ := exists_infix same
      obtain rfl := List.map_eq_nil_iff.mp none
      cases first <;> cases opened
      cases last <;> cases closed
      obtain ⟨e, derived⟩ := ih inner
      exact ⟨e, .group derived⟩
  | plus _ ih =>
      obtain ⟨kind, w, rfl, symbol, operand⟩ := List.map_eq_cons_iff.mp same
      cases kind <;> cases symbol
      obtain ⟨e, derived⟩ := ih operand
      exact ⟨_, .plus derived⟩
  | minus _ ih =>
      obtain ⟨kind, w, rfl, symbol, operand⟩ := List.map_eq_cons_iff.mp same
      cases kind <;> cases symbol
      obtain ⟨e, derived⟩ := ih operand
      exact ⟨_, .minus derived⟩
  | primary _ ih =>
      obtain ⟨e, derived⟩ := ih same
      exact ⟨e, .primary derived⟩
  | unary _ ih =>
      obtain ⟨e, derived⟩ := ih same
      exact ⟨e, .unary derived⟩
  | term _ ih =>
      obtain ⟨e, derived⟩ := ih same
      exact ⟨e, .term derived⟩
  | implicit _ _ starts ihl ihr =>
      obtain ⟨v, w, rfl, left, right⟩ := List.map_eq_append_iff.mp same
      obtain ⟨l, derivedl⟩ := ihl left
      obtain ⟨r, derivedr⟩ := ihr right
      refine ⟨_, .implicit derivedl derivedr ?_⟩
      rw [StartsFactor, symbols, right]
      exact starts
  | product _ _ ihl ihr | quotient _ _ ihl ihr | sum _ _ ihl ihr | difference _ _ ihl ihr =>
      obtain ⟨v, kind, w, rfl, left, symbol, right⟩ := exists_infix same
      obtain ⟨l, derivedl⟩ := ihl left
      obtain ⟨r, derivedr⟩ := ihr right
      cases kind <;> cases symbol
      first
        | exact ⟨_, .product derivedl derivedr⟩
        | exact ⟨_, .quotient derivedl derivedr⟩
        | exact ⟨_, .sum derivedl derivedr⟩
        | exact ⟨_, .difference derivedl derivedr⟩

namespace Reading

/-- What reading a phrase does: an operand is taken, a term takes the place of the product and an
expression that of the whole level. -/
def Builds : Category → List (TokenKind α) → Expr α → Prop
  | .primary, w, e | .unary, w, e =>
      ∀ p outer, advance (.before p outer) w = some (.after (p.take e) outer)
  | .term, w, e =>
      ∀ sum outer, advance (.before ⟨sum, none, []⟩ outer) w = some (.after ⟨sum, e⟩ outer)
  | .expr, w, e =>
      ∀ outer, ∃ level, advance (.before .start outer) w = some (.after level outer) ∧
        level.value = e

/-- Behind an operand a factor without operator reads as it does behind a written star. -/
theorem advance_implicit (level : Settled α) (outer : List (Pending α)) {w : List (TokenKind α)}
    (starts : StartsFactor w) :
    advance (.after level outer) w = advance (.before (level.addFactor .star) outer) w := by
  cases w with
  | nil => simp [StartsFactor, symbols] at starts
  | cons kind w =>
      cases kind with
      | letter _ | openParen => rfl
      | _ => simp [StartsFactor, symbols, TokenKind.symbol] at starts

theorem Builds.factor {w : List (TokenKind α)} {r : Expr α} (h : Builds .unary w r)
    (sum : Option (Expr α × Symbol)) (l : Expr α) (operator : Symbol)
    (outer : List (Pending α)) :
    advance (.before (Settled.addFactor ⟨sum, l⟩ operator) outer) w =
      some (.after ⟨sum, .binary operator l r⟩ outer) :=
  h _ outer

theorem Builds.summand {w : List (TokenKind α)} {r : Expr α} (h : Builds .term w r)
    (level : Settled α) (sign : Symbol) (outer : List (Pending α)) :
    ∃ next, advance (.before (level.addTerm sign) outer) w = some (.after next outer) ∧
      next.value = .binary sign level.value r :=
  ⟨_, h _ outer, rfl⟩

theorem builds_of_derives {category : Category} {w : List (TokenKind α)} {e : Expr α}
    (derived : Derives category w e) : Builds category w e := by
  induction derived with
  | number | letter => exact fun p outer => rfl
  | group _ ih =>
      intro p outer
      obtain ⟨level, advanced, rfl⟩ := ih (p :: outer)
      change advance (.before .start (p :: outer)) (_ ++ [.closeParen]) = _
      rw [advance_append, advanced]
      rfl
  | primary _ ih => exact ih
  | plus _ ih | minus _ ih => exact fun p outer => ih _ outer
  | unary _ ih => exact fun sum outer => ih _ outer
  | product _ _ ihl ihr | quotient _ _ ihl ihr =>
      intro sum outer
      rw [advance_append, ihl sum outer]
      exact ihr.factor sum _ _ outer
  | implicit _ _ starts ihl ihr =>
      intro sum outer
      rw [advance_append, ihl sum outer, Option.bind_some, advance_implicit _ _ starts]
      exact ihr.factor sum _ _ outer
  | term _ ih => exact fun outer => ⟨_, ih none outer, rfl⟩
  | sum _ _ ihl ihr | difference _ _ ihl ihr =>
      intro outer
      obtain ⟨level, advanced, rfl⟩ := ihl outer
      rw [advance_append, advanced]
      exact ihr.summand level _ outer

end Reading

/-- The tree of an expression is the one that reading its tokens builds. -/
theorem derives_expr_iff {kinds : List (TokenKind α)} {e : Expr α} :
    Derives .expr kinds e ↔
      ∃ level, Reading.start.advance kinds = some (.after level []) ∧ level.value = e := by
  constructor
  · exact fun derived => Reading.builds_of_derives derived []
  · rintro ⟨level, advanced, rfl⟩
    have phrase := phrase_expr_iff.mpr (Reading.place_of_advance advanced)
    obtain ⟨e, derived⟩ := phrase.exists_derives rfl
    obtain ⟨level', advanced', rfl⟩ := Reading.builds_of_derives derived []
    cases advanced.symm.trans advanced'
    exact derived

theorem Derives.unique {kinds : List (TokenKind α)} {e e' : Expr α}
    (first : Derives .expr kinds e) (second : Derives .expr kinds e') : e = e' := by
  obtain ⟨level, advanced, rfl⟩ := derives_expr_iff.mp first
  obtain ⟨level', advanced', rfl⟩ := derives_expr_iff.mp second
  cases advanced.symm.trans advanced'
  rfl

theorem Derives.phrase {category : Category} {w : List (TokenKind α)} {e : Expr α}
    (derived : Derives category w e) : Phrase category (symbols w) := by
  induction derived with
  | number => exact .number
  | letter => exact .letter
  | group _ ih => simpa [symbols, TokenKind.symbol] using Phrase.group ih
  | primary _ ih => exact .primary ih
  | plus _ ih => exact .plus ih
  | minus _ ih => exact .minus ih
  | unary _ ih => exact .unary ih
  | product _ _ ihl ihr => simpa [symbols, TokenKind.symbol] using Phrase.product ihl ihr
  | quotient _ _ ihl ihr => simpa [symbols, TokenKind.symbol] using Phrase.quotient ihl ihr
  | implicit _ _ starts ihl ihr => simpa [symbols] using Phrase.implicit ihl ihr starts
  | term _ ih => exact .term ih
  | sum _ _ ihl ihr => simpa [symbols, TokenKind.symbol] using Phrase.sum ihl ihr
  | difference _ _ ihl ihr => simpa [symbols, TokenKind.symbol] using Phrase.difference ihl ihr

section Leaves

def Expr.leaves : Expr α → List (TokenKind α)
  | .number v => [.number v]
  | .letter c => [.letter c]
  | .unary _ e => e.leaves
  | .binary _ l r => l.leaves ++ r.leaves

def TokenKind.isLeaf : TokenKind α → Bool
  | .number _ | .letter _ => true
  | _ => false

/-- A tree has the numbers and letters of its tokens as leaves, in their order. -/
theorem Derives.leaves {category : Category} {w : List (TokenKind α)} {e : Expr α}
    (derived : Derives category w e) : e.leaves = w.filter TokenKind.isLeaf := by
  induction derived with
  | number | letter => rfl
  | group _ ih => simpa [TokenKind.isLeaf] using ih
  | primary _ ih | unary _ ih | term _ ih => exact ih
  | plus _ ih | minus _ ih => simpa [TokenKind.isLeaf, Expr.leaves] using ih
  | product _ _ ihl ihr | quotient _ _ ihl ihr | implicit _ _ _ ihl ihr | sum _ _ ihl ihr
  | difference _ _ ihl ihr => simp [TokenKind.isLeaf, Expr.leaves, ihl, ihr]

theorem Expr.mentions_iff {name : Char} {e : Expr α} :
    e.mentions name = true ↔ .letter name ∈ e.leaves := by
  induction e with
  | number v => simp [mentions, leaves]
  | letter c =>
      simp only [mentions, leaves, beq_iff_eq, List.mem_singleton, TokenKind.letter.injEq]
      exact eq_comm
  | unary operator e ih => exact ih
  | binary operator l r ihl ihr => simp [mentions, leaves, ihl, ihr]

end Leaves

section Stars

theorem Reading.after_of_step {r next : Reading α} {kind : TokenKind α}
    (step : r.step? kind = some next)
    (operand : kind.symbol ∈ [Symbol.number, .letter, .closeParen]) :
    ∃ level outer, next = .after level outer := by
  unfold step? at step
  split at step <;> cases step <;>
    first
    | exact ⟨_, _, rfl⟩
    | simp [TokenKind.symbol] at operand

theorem Reading.after_of_advance {v : List (TokenKind α)} (ends : EndsOperand v)
    {r state : Reading α} (advanced : r.advance v = some state) :
    ∃ level outer, state = .after level outer := by
  obtain ⟨kind, last, operand⟩ := ends
  obtain ⟨before, rfl⟩ := List.getLast?_eq_some_iff.mp last
  rw [advance_append] at advanced
  obtain ⟨middle, -, step⟩ := Option.bind_eq_some_iff.mp advanced
  obtain ⟨next, step, ⟨⟩⟩ := Option.bind_eq_some_iff.mp step
  exact after_of_step step operand

/-- A star between an operand and the factor behind it changes nothing. -/
theorem derives_star_iff {v w : List (TokenKind α)} (ends : EndsOperand v)
    (starts : StartsFactor w) {e : Expr α} :
    Derives .expr (v ++ .star :: w) e ↔ Derives .expr (v ++ w) e := by
  rw [derives_expr_iff, derives_expr_iff, Reading.advance_append, Reading.advance_append]
  cases advanced : Reading.start.advance v with
  | none => rfl
  | some state =>
      obtain ⟨level, outer, rfl⟩ := Reading.after_of_advance ends advanced
      rw [Option.bind_some, Option.bind_some, Reading.advance_implicit level outer starts]
      rfl

end Stars

theorem Expr.ofTokens_ok_iff {tokens : List (Token α)}
    (proper : ∀ token ∈ tokens, token.kind.symbol ≠ .endOfInput) (column : Nat) {e : Expr α} :
    ofTokens (tokens ++ [⟨.endOfInput, column⟩]) = .ok e ↔
      Derives .expr (tokens.map Token.kind) e := by
  rw [ofTokens, Cursor.ofTokens_end (fun token mem => beq_false_of_ne (proper token mem)),
    derives_expr_iff]
  exact Cursor.parse_ok_iff

/-- Tokens in front of the only end of input are accepted just when they are an expression of the
grammar, and the result is its tree. There is no other tree, its leaves are the operands in their
order, and a star written where a factor follows an operand makes no difference. -/
theorem Expr.ofTokens_grammar {tokens : List (Token α)}
    (proper : ∀ token ∈ tokens, token.kind.symbol ≠ .endOfInput) (column : Nat) :
    let kinds := tokens.map Token.kind
    let parsed := ofTokens (tokens ++ [⟨.endOfInput, column⟩])
    (∀ e, parsed = .ok e ↔ Derives .expr kinds e) ∧
      ((∃ e, parsed = .ok e) ↔ Phrase .expr (symbols kinds)) ∧
      ((∃ e, parsed = .ok e) → ∃! e, Derives .expr kinds e) ∧
      (∀ e, parsed = .ok e → e.leaves = kinds.filter TokenKind.isLeaf) ∧
      ∀ v w : List (Token α), tokens = v ++ w → EndsOperand (v.map Token.kind) →
        StartsFactor (w.map Token.kind) → ∀ (c : Nat) (e : Expr α),
          ofTokens (v ++ ⟨.star, c⟩ :: w ++ [⟨.endOfInput, column⟩]) = .ok e ↔
            parsed = .ok e := by
  intro kinds parsed
  have derives (e : Expr α) : parsed = .ok e ↔ Derives .expr kinds e := ofTokens_ok_iff proper column
  refine ⟨derives, ⟨?_, ?_⟩, ?_, ?_, ?_⟩
  · rintro ⟨e, ok⟩
    exact ((derives e).mp ok).phrase
  · intro phrase
    obtain ⟨e, derived⟩ := phrase.exists_derives rfl
    exact ⟨e, (derives e).mpr derived⟩
  · rintro ⟨e, ok⟩
    exact ⟨e, (derives e).mp ok, fun e' other => other.unique ((derives e).mp ok)⟩
  · exact fun e ok => ((derives e).mp ok).leaves
  · rintro v w rfl ends starts c e
    have starred : ∀ token ∈ v ++ ⟨.star, c⟩ :: w, token.kind.symbol ≠ .endOfInput := by
      intro token mem
      rcases List.mem_append.mp mem with mem | mem
      · exact proper token (List.mem_append_left w mem)
      · rcases List.mem_cons.mp mem with rfl | mem
        · nofun
        · exact proper token (List.mem_append_right v mem)
    rw [derives, ofTokens_ok_iff starred column, List.map_append, List.map_cons,
      derives_star_iff ends starts]
    rw [← List.map_append]

/-- Two factors without operator, the second in brackets. -/
theorem Expr.ofTokens_grammar_factors :
    let tokens : List (Token Nat) := [⟨.number 2, 1⟩, ⟨.letter 'x', 2⟩, ⟨.openParen, 3⟩,
      ⟨.number 3, 4⟩, ⟨.minus, 5⟩, ⟨.letter 'y', 6⟩, ⟨.closeParen, 7⟩]
    (∀ token ∈ tokens, token.kind.symbol ≠ .endOfInput) ∧
      ofTokens (tokens ++ [⟨.endOfInput, 8⟩]) = .ok (.binary .star
        (.binary .star (.number 2) (.letter 'x')) (.binary .minus (.number 3) (.letter 'y'))) := by
  have proper : ∀ token ∈ ([⟨.number 2, 1⟩, ⟨.letter 'x', 2⟩, ⟨.openParen, 3⟩, ⟨.number 3, 4⟩,
      ⟨.minus, 5⟩, ⟨.letter 'y', 6⟩, ⟨.closeParen, 7⟩] : List (Token Nat)),
      token.kind.symbol ≠ .endOfInput := by decide
  refine ⟨proper, ((ofTokens_grammar proper 8).1 _).mpr (.term ?_)⟩
  have scaled : Derives .term [.number 2, .letter 'x']
      (Expr.binary .star (.number 2) (.letter 'x')) :=
    .implicit (.unary (.primary (.number 2))) (.primary (.letter 'x')) (.inl rfl)
  have inner : Derives .expr [.number 3, .minus, .letter 'y']
      (Expr.binary .minus (.number 3) (.letter 'y')) :=
    .difference (.term (.unary (.primary (.number 3)))) (.unary (.primary (.letter 'y')))
  exact .implicit scaled (.primary (.group inner)) (.inr rfl)

end WorkedAlgebra
