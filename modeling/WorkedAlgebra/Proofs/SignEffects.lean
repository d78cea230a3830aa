import WorkedAlgebra.Proofs.OffendingItems
import WorkedAlgebra.Proofs.Rounding.Negation

/-!
Collapsing runs of signs does not change what an expression is worth. The trees differ: the first
sign of a run may join two terms while the others stand in front of an operand, where after
collapsing one sign does all of it. What agrees all along is the value of a level, with the term at
its end taken the other way round where its sign is.
-/

namespace WorkedAlgebra

open Text

variable {α : Type} [Scalar α]

section Values

variable (b : Bindings α)

def SameValue (e e' : Expr α) : Prop := e.evaluate b = e'.evaluate b

/-- The outcome of the first tree is that of the second with the other sign. -/
def OppositeValue (e e' : Expr α) : Prop := e.evaluate b = (e'.evaluate b).map (- ·)

variable {b}

theorem evaluate_unary (operator : Symbol) (e : Expr α) :
    (Expr.unary operator e).evaluate b = (e.evaluate b).map (Expr.applySign operator) := by
  rw [Expr.evaluate]
  cases e.evaluate b <;> rfl

theorem SameValue.unary {e e' : Expr α} (same : SameValue b e e') (operator : Symbol) :
    SameValue b (.unary operator e) (.unary operator e') := by
  rw [SameValue, evaluate_unary, evaluate_unary, same]

theorem SameValue.signs {e e' : Expr α} (same : SameValue b e e') (signs : List Symbol) :
    SameValue b (signs.foldl (fun e sign => .unary sign e) e)
      (signs.foldl (fun e sign => .unary sign e) e') := by
  induction signs generalizing e e' with
  | nil => exact same
  | cons sign signs ih => exact ih (same.unary sign)

theorem SameValue.binary {l l' r r' : Expr α} (left : SameValue b l l') (right : SameValue b r r')
    (operator : Symbol) : SameValue b (.binary operator l r) (.binary operator l' r') := by
  rw [SameValue, Expr.evaluate, Expr.evaluate, left, right]

theorem OppositeValue.factor (laws : SignLaws α) {l l' r r' : Expr α}
    (left : OppositeValue b l l') (right : SameValue b r r') {operator : Symbol}
    (isFactor : operator = .star ∨ operator = .slash) :
    OppositeValue b (.binary operator l r) (.binary operator l' r') := by
  rw [OppositeValue, Expr.evaluate, Expr.evaluate, left, right]
  cases l'.evaluate b with
  | error fault => rfl
  | ok u =>
      cases r'.evaluate b with
      | error fault => rfl
      | ok v =>
          rcases isFactor with rfl | rfl
          · exact congrArg Except.ok (laws.neg_mul u v)
          · exact congrArg Except.ok (laws.neg_div u v)

/-- Adding the opposite is subtracting, and the other way round. -/
theorem OppositeValue.summand (laws : SignLaws α) {l l' r r' : Expr α}
    (left : SameValue b l l') (right : OppositeValue b r r') :
    SameValue b (.binary .plus l r) (.binary .minus l' r') ∧
      SameValue b (.binary .minus l r) (.binary .plus l' r') := by
  simp only [SameValue, Expr.evaluate]
  rw [left, right]
  cases l'.evaluate b with
  | error fault => exact ⟨rfl, rfl⟩
  | ok u =>
      cases r'.evaluate b with
      | error fault => exact ⟨rfl, rfl⟩
      | ok v => exact ⟨congrArg Except.ok (laws.add_neg u v), congrArg Except.ok (laws.sub_neg u v)⟩

end Values

section Levels

variable (b : Bindings α)

/-- Two levels behind an operand that come to the same, whatever follows. In the last case the
term is counted the other way round. -/
inductive Settled.Alike : Settled α → Settled α → Prop where
  | first {t t' : Expr α} (term : SameValue b t t') : Alike ⟨none, t⟩ ⟨none, t'⟩
  | joined {l l' t t' : Expr α} (left : SameValue b l l') (term : SameValue b t t')
      (sign : Symbol) : Alike ⟨some (l, sign), t⟩ ⟨some (l', sign), t'⟩
  | turned {l l' t t' : Expr α} {sign sign' : Symbol} (left : SameValue b l l')
      (term : OppositeValue b t t')
      (signs : (sign = .plus ∧ sign' = .minus) ∨ (sign = .minus ∧ sign' = .plus)) :
      Alike ⟨some (l, sign), t⟩ ⟨some (l', sign'), t'⟩

def Pending.Alike (p p' : Pending α) : Prop :=
  ∀ e e', SameValue b e e' → Settled.Alike b (p.take e) (p'.take e')

inductive Reading.Alike : Reading α → Reading α → Prop where
  | before {p p' : Pending α} {outer outer' : List (Pending α)} (level : p.Alike b p')
      (around : List.Forall₂ (Pending.Alike b) outer outer') :
      Alike (.before p outer) (.before p' outer')
  | after {s s' : Settled α} {outer outer' : List (Pending α)} (level : s.Alike b s')
      (around : List.Forall₂ (Pending.Alike b) outer outer') :
      Alike (.after s outer) (.after s' outer')

variable {b}

theorem Settled.Alike.value (laws : SignLaws α) {s s' : Settled α} (alike : s.Alike b s') :
    SameValue b s.value s'.value := by
  cases alike with
  | first term => exact term
  | joined left term sign => exact left.binary term sign
  | turned left term signs =>
      rcases signs with ⟨rfl, rfl⟩ | ⟨rfl, rfl⟩
      · exact (term.summand laws left).1
      · exact (term.summand laws left).2

theorem Settled.Alike.addTerm (laws : SignLaws α) {s s' : Settled α} (alike : s.Alike b s')
    (sign : Symbol) : (s.addTerm sign).Alike b (s'.addTerm sign) :=
  fun _ _ operand => .joined (alike.value laws) operand sign

theorem Settled.Alike.addFactor (laws : SignLaws α) {s s' : Settled α} (alike : s.Alike b s')
    {operator : Symbol} (isFactor : operator = .star ∨ operator = .slash) :
    (s.addFactor operator).Alike b (s'.addFactor operator) := by
  intro e e' operand
  cases alike with
  | first term => exact .first (term.binary operand operator)
  | joined left term sign => exact .joined left (term.binary operand operator) sign
  | turned left term signs => exact .turned left (term.factor laws operand isFactor) signs

theorem Pending.Alike.refl (p : Pending α) : p.Alike b p := by
  intro e e' operand
  obtain ⟨sum, product, signs⟩ := p
  have signed := operand.signs signs
  cases product with
  | none =>
      cases sum with
      | none => exact .first signed
      | some left => exact .joined rfl signed left.2
  | some factor =>
      have term : SameValue b factor.1 factor.1 := rfl
      cases sum with
      | none => exact .first (term.binary signed factor.2)
      | some left => exact .joined rfl (term.binary signed factor.2) left.2

theorem Pending.Alike.sign {p p' : Pending α} (alike : p.Alike b p') (sign : Symbol) :
    Pending.Alike b { p with signs := sign :: p.signs } { p' with signs := sign :: p'.signs } :=
  fun e e' operand => alike (.unary sign e) (.unary sign e') (operand.unary sign)

theorem alike_outer (outer : List (Pending α)) :
    List.Forall₂ (Pending.Alike b) outer outer :=
  List.forall₂_same.mpr fun p _ => Pending.Alike.refl p

/-- Readings that are alike go on with the same tokens and stay alike. -/
theorem Reading.Alike.step (laws : SignLaws α) {r r' : Reading α} (alike : r.Alike b r')
    (kind : TokenKind α) : Option.Rel (Reading.Alike b) (r.step? kind) (r'.step? kind) := by
  cases alike with
  | before level around =>
      cases kind with
      | number v => exact .some (.after (level _ _ rfl) around)
      | letter c => exact .some (.after (level _ _ rfl) around)
      | openParen => exact .some (.before (.refl _) (.cons level around))
      | plus => exact .some (.before (level.sign .plus) around)
      | minus => exact .some (.before (level.sign .minus) around)
      | star | slash | equals | closeParen | endOfInput => exact .none
  | after level around =>
      have times := level.addFactor laws (.inl rfl)
      cases kind with
      | plus => exact .some (.before (level.addTerm laws .plus) around)
      | minus => exact .some (.before (level.addTerm laws .minus) around)
      | star => exact .some (.before times around)
      | slash => exact .some (.before (level.addFactor laws (.inr rfl)) around)
      | letter c => exact .some (.after (times _ _ rfl) around)
      | openParen => exact .some (.before (.refl _) (.cons times around))
      | closeParen =>
          cases around with
          | nil => exact .none
          | cons outer around => exact .some (.after (outer _ _ (level.value laws)) around)
      | number v => exact .none
      | equals | endOfInput => exact .none

end Levels

namespace Reading

variable (b : Bindings α)

def outcome (r : Reading α) (kinds : List (TokenKind α)) : Option (Except ExpressionFault α) :=
  match r.advance kinds with
  | some (.after level []) => some (level.value.evaluate b)
  | _ => none

variable {b}

theorem outcome_cons (r : Reading α) (kind : TokenKind α) (kinds : List (TokenKind α)) :
    r.outcome b (kind :: kinds) = (r.step? kind).bind fun next => next.outcome b kinds := by
  rw [outcome, advance]
  cases r.step? kind <;> rfl

theorem outcome_of_rel {o o' : Option (Reading α)} (related : Option.Rel (Reading.Alike b) o o')
    {kinds kinds' : List (TokenKind α)}
    (same : ∀ r r' : Reading α, r.Alike b r' → r.outcome b kinds = r'.outcome b kinds') :
    (o.bind fun next => next.outcome b kinds) = o'.bind fun next => next.outcome b kinds' := by
  cases related with
  | none => rfl
  | some alike => exact same _ _ alike

theorem Alike.outcome (laws : SignLaws α) {r r' : Reading α} (alike : r.Alike b r')
    (kinds : List (TokenKind α)) : r.outcome b kinds = r'.outcome b kinds := by
  induction kinds generalizing r r' with
  | nil =>
      cases alike with
      | before level around => rfl
      | after level around =>
          cases around with
          | nil => exact congrArg some (level.value laws)
          | cons _ _ => rfl
  | cons kind kinds ih =>
      rw [outcome_cons, outcome_cons]
      exact outcome_of_rel (alike.step laws kind) fun r r' alike => ih alike

end Reading

section Signs

def signKind {α : Type} (c : Char) : TokenKind α := if c = '-' then .minus else .plus

theorem signs_cases {c : Char} (sign : isSign c = true) : c = '+' ∨ c = '-' := by
  simpa [isSign] using sign

theorem ofLexeme_signKind {c : Char} (sign : isSign c = true) :
    Token.ofLexeme [c] = .ok (signKind c : TokenKind α) := by
  rcases signs_cases sign with rfl | rfl <;> rfl

variable {b : Bindings α}

/-- Two signs in front of an operand. -/
theorem sameValue_signs (laws : SignLaws α) {c d : Char} (sign_c : isSign c = true)
    (sign_d : isSign d = true) {e e' : Expr α} (same : SameValue b e e') :
    SameValue b (.unary (signKind c : TokenKind α).symbol (.unary (signKind d : TokenKind α).symbol e))
      (.unary (signKind (signProduct c d) : TokenKind α).symbol e') := by
  simp only [SameValue, evaluate_unary]
  rw [same]
  cases e'.evaluate b with
  | error fault => rfl
  | ok v =>
      rcases signs_cases sign_c with rfl | rfl <;> rcases signs_cases sign_d with rfl | rfl
      · rfl
      · rfl
      · rfl
      · exact congrArg Except.ok (laws.neg_neg v)

/-- A sign that joins a term and one in front of that term. -/
theorem Settled.alike_signs {c d : Char} (sign_c : isSign c = true) (sign_d : isSign d = true)
    (left : Expr α) {e e' : Expr α} (same : SameValue b e e') :
    Settled.Alike b
      ⟨some (left, (signKind c : TokenKind α).symbol), .unary (signKind d : TokenKind α).symbol e⟩
      ⟨some (left, (signKind (signProduct c d) : TokenKind α).symbol), e'⟩ := by
  rcases signs_cases sign_d with rfl | rfl
  · have unchanged : SameValue b (.unary .plus e) e' := by
      rw [SameValue, evaluate_unary, same]
      cases e'.evaluate b <;> rfl
    rcases signs_cases sign_c with rfl | rfl
    · exact .joined rfl unchanged .plus
    · exact .joined rfl unchanged .minus
  · have turned : OppositeValue b (.unary .minus e) e' := by
      rw [OppositeValue, evaluate_unary, same]
      rfl
    rcases signs_cases sign_c with rfl | rfl
    · exact .turned rfl turned (.inl ⟨rfl, rfl⟩)
    · exact .turned rfl turned (.inr ⟨rfl, rfl⟩)

namespace Reading

theorem step_before_sign {α : Type} {c : Char} (sign : isSign c = true) (p : Pending α)
    (outer : List (Pending α)) : step? (.before p outer) (signKind c) =
      some (.before { p with signs := (signKind c : TokenKind α).symbol :: p.signs } outer) := by
  rcases signs_cases sign with rfl | rfl <;> rfl

theorem step_after_sign {α : Type} {c : Char} (sign : isSign c = true) (s : Settled α)
    (outer : List (Pending α)) : step? (.after s outer) (signKind c) =
      some (.before (s.addTerm (signKind c : TokenKind α).symbol) outer) := by
  rcases signs_cases sign with rfl | rfl <;> rfl

/-- Two adjacent signs come to the single one with their effect. -/
theorem outcome_signs (laws : SignLaws α) {c d : Char} (sign_c : isSign c = true)
    (sign_d : isSign d = true) (r : Reading α) (kinds : List (TokenKind α)) :
    r.outcome b (signKind c :: signKind d :: kinds) =
      r.outcome b (signKind (signProduct c d) :: kinds) := by
  have product := isSign_signProduct c d
  cases r with
  | before p outer =>
      have level : Pending.Alike b
          { p with signs := (signKind d : TokenKind α).symbol :: (signKind c : TokenKind α).symbol ::
            p.signs }
          { p with signs := (signKind (signProduct c d) : TokenKind α).symbol :: p.signs } :=
        fun e e' same => Pending.Alike.refl p _ _ (sameValue_signs laws sign_c sign_d same)
      rw [outcome_cons, step_before_sign sign_c, Option.bind_some, outcome_cons,
        step_before_sign sign_d, outcome_cons, step_before_sign product]
      exact (Alike.before level (alike_outer outer)).outcome laws kinds
  | after s outer =>
      have level : Pending.Alike b
          { s.addTerm (signKind c : TokenKind α).symbol with
            signs := [(signKind d : TokenKind α).symbol] }
          (s.addTerm (signKind (signProduct c d) : TokenKind α).symbol) :=
        fun e e' same => Settled.alike_signs sign_c sign_d s.value same
      rw [outcome_cons, step_after_sign sign_c, Option.bind_some, outcome_cons,
        step_before_sign sign_d, outcome_cons, step_after_sign product]
      exact (Alike.before level (alike_outer outer)).outcome laws kinds

theorem outcome_cons_congr {kinds kinds' : List (TokenKind α)}
    (same : ∀ r : Reading α, r.outcome b kinds = r.outcome b kinds') (kind : TokenKind α)
    (r : Reading α) : r.outcome b (kind :: kinds) = r.outcome b (kind :: kinds') := by
  rw [outcome_cons, outcome_cons]
  exact congrArg (Option.bind _) (funext same)

end Reading

end Signs

section Texts

theorem exists_reads_prependLexeme (laws : SignLaws α) {c : Char} (sign : isSign c = true)
    {pieces : List (List Char)} {kinds : List (TokenKind α)} (reads : Token.Reads pieces kinds) :
    ∃ others : List (TokenKind α), Token.Reads (prependLexeme c pieces) others ∧
      ∀ (b : Bindings α) (r : Reading α),
        r.outcome b (signKind c :: kinds) = r.outcome b others := by
  cases reads with
  | nil => exact ⟨[signKind c], .cons (ofLexeme_signKind sign) .nil, fun b r => rfl⟩
  | @cons lexeme kind pieces kinds read rest =>
      rw [prependLexeme]
      cases found : signOf? lexeme with
      | none => exact ⟨_, .cons (ofLexeme_signKind sign) (.cons read rest), fun b r => rfl⟩
      | some d =>
          obtain ⟨rfl, sign_d⟩ := signOf_eq_some_iff.mp found
          obtain rfl := Except.ok.inj (read.symm.trans (ofLexeme_signKind sign_d))
          exact ⟨_, .cons (ofLexeme_signKind (isSign_signProduct c d)) rest,
            fun b r => r.outcome_signs laws sign sign_d kinds⟩

/-- The lexemes of a collapsed text are tokens that come to the same. -/
theorem exists_reads_collapseLexemes (laws : SignLaws α) {pieces : List (List Char)}
    {kinds : List (TokenKind α)} (reads : Token.Reads pieces kinds) :
    ∃ others : List (TokenKind α), Token.Reads (collapseLexemes pieces) others ∧
      ∀ (b : Bindings α) (r : Reading α), r.outcome b kinds = r.outcome b others := by
  induction reads with
  | nil => exact ⟨[], .nil, fun b r => rfl⟩
  | @cons lexeme kind pieces kinds read _ ih =>
      obtain ⟨middle, reads, same⟩ := ih
      rw [collapseLexemes]
      cases found : signOf? lexeme with
      | none =>
          exact ⟨kind :: middle, .cons read reads, fun b => Reading.outcome_cons_congr (same b) kind⟩
      | some c =>
          obtain ⟨rfl, sign⟩ := signOf_eq_some_iff.mp found
          obtain rfl := Except.ok.inj (read.symm.trans (ofLexeme_signKind sign))
          obtain ⟨others, reads', behind⟩ := exists_reads_prependLexeme laws sign reads
          refine ⟨others, reads', fun b r => ?_⟩
          rw [Reading.outcome_cons_congr (same b), behind]

theorem Expr.outcome_of_ofText {offset : Nat} {text : List Char} {e : Expr α}
    (parsed : ofText offset text = .ok e) :
    ∃ kinds, Token.Reads (lexemes text) kinds ∧
      ∀ b, Reading.start.outcome b kinds = some (e.evaluate b) := by
  obtain ⟨kinds, level, reads, advanced, rfl⟩ := ofText_ok_iff.mp parsed
  exact ⟨kinds, reads, fun b => by rw [Reading.outcome, advanced]⟩

theorem Expr.exists_ofText {text : List Char} {kinds : List (TokenKind α)}
    (reads : Token.Reads (lexemes text) kinds) {b : Bindings α}
    {value : Except ExpressionFault α} (outcome : Reading.start.outcome b kinds = some value)
    (offset : Nat) : ∃ e : Expr α, ofText offset text = .ok e := by
  unfold Reading.outcome at outcome
  split at outcome
  · rename_i level advanced
    exact ⟨level.value, ofText_ok_iff.mpr ⟨kinds, level, reads, advanced, rfl⟩⟩
  · cases outcome

/-- A text and its collapsed form are expressions together, and have the same outcome. -/
theorem evaluate_ofSide (laws : SignLaws α) (offset : Nat) (text : List Char) :
    ((∃ e : Expr α, Expr.ofText offset text = .ok e) ↔
        ∃ e : Expr α, Expr.ofSide offset text = .ok e) ∧
      ∀ e e' : Expr α, Expr.ofText offset text = .ok e → Expr.ofSide offset text = .ok e' →
        ∀ b, e.evaluate b = e'.evaluate b := by
  have collapsed := lexemes_collapseSigns text
  refine ⟨⟨?_, ?_⟩, ?_⟩
  · rintro ⟨e, parsed⟩
    obtain ⟨kinds, reads, outcome⟩ := Expr.outcome_of_ofText parsed
    obtain ⟨others, reads', same⟩ := exists_reads_collapseLexemes laws reads
    rw [← collapsed] at reads'
    exact Expr.exists_ofText reads' ((same .empty .start).symm.trans (outcome .empty)) offset
  · rintro ⟨e', parsed⟩
    obtain ⟨others, reads', outcome⟩ := Expr.outcome_of_ofText parsed
    rw [collapsed] at reads'
    obtain ⟨kinds, reads, -⟩ := reads_of_collapseLexemes reads'
    obtain ⟨others', reads'', same⟩ := exists_reads_collapseLexemes laws reads
    obtain rfl := reads_unique reads' reads''
    exact Expr.exists_ofText reads ((same .empty .start).trans (outcome .empty)) offset
  · intro e e' parsed parsed' b
    obtain ⟨kinds, reads, outcome⟩ := Expr.outcome_of_ofText parsed
    obtain ⟨others, reads', outcome'⟩ := Expr.outcome_of_ofText parsed'
    rw [collapsed] at reads'
    obtain ⟨others', reads'', same⟩ := exists_reads_collapseLexemes laws reads
    obtain rfl := reads_unique reads' reads''
    exact Option.some.inj ((outcome b).symm.trans ((same b .start).trans (outcome' b)))

/-- Binary floating point satisfies the laws of signs, infinities and undefined values included. -/
theorem collapseSigns_meaning (offset : Nat) (text : List Char) :
    ((∃ e : Expr Float, Expr.ofText offset text = .ok e) ↔
        ∃ e : Expr Float, Expr.ofSide offset text = .ok e) ∧
      ∀ e e' : Expr Float, Expr.ofText offset text = .ok e → Expr.ofSide offset text = .ok e' →
        ∀ b, e.evaluate b = e'.evaluate b :=
  evaluate_ofSide signLaws_float offset text

end Texts

end WorkedAlgebra
