import WorkedAlgebra.Proofs.OffendingItems
import WorkedAlgebra.Proofs.ParseTrees

/-!
Values of trees. The letters of a tree are those of its side, in the same order; the tree has a value
wherever they all have one, the first of them that has none is to blame otherwise, and nothing but
their values matters.
-/

namespace WorkedAlgebra

open Text

section Letters

variable {α : Type}

def TokenKind.letter? : TokenKind α → Option Char
  | .letter c => some c
  | _ => none

/-- The letters of a tree from left to right, as often as they occur. -/
def Expr.letters (e : Expr α) : List Char := e.leaves.filterMap TokenKind.letter?

theorem Expr.mem_letters {e : Expr α} {c : Char} : c ∈ e.letters ↔ .letter c ∈ e.leaves := by
  have found (kind : TokenKind α) : kind.letter? = some c ↔ kind = .letter c := by
    cases kind <;> simp [TokenKind.letter?]
  simp [letters, found]

theorem Expr.letters_binary (operator : Symbol) (l r : Expr α) :
    (binary operator l r).letters = l.letters ++ r.letters :=
  List.filterMap_append

/-- A tree has the letters of its tokens, in their order. -/
theorem Derives.letters {category : Category} {w : List (TokenKind α)} {e : Expr α}
    (derived : Derives category w e) : e.letters = w.filterMap TokenKind.letter? := by
  rw [Expr.letters, derived.leaves, List.filterMap_filter]
  refine List.filterMap_congr fun kind _ => ?_
  cases kind <;> rfl

end Letters

variable {α : Type} {b b' : Bindings α}

section Values

/-- What evaluating something with these letters comes to: it has a value when they all have one,
and otherwise the first that has none is to blame. -/
def Bindings.Yields (b : Bindings α) (letters : List Char)
    (outcome : Except ExpressionFault α) : Prop :=
  match letters.find? fun c => (b c).isNone with
  | none => ∃ v, outcome = .ok v
  | some c => outcome = .error (.unbound c)

namespace Bindings.Yields

variable {letters letters' : List Char} {outcome outcome' : Except ExpressionFault α}

/-- Operands are evaluated from left to right. -/
theorem binary (left : b.Yields letters outcome) (right : b.Yields letters' outcome')
    {operate : α → α → Except ExpressionFault α} (operates : ∀ u v, ∃ w, operate u v = .ok w) :
    b.Yields (letters ++ letters')
      (outcome >>= fun u => outcome' >>= fun v => operate u v) := by
  unfold Yields at left right ⊢
  rw [List.find?_append]
  split at left
  · rename_i bound
    obtain ⟨u, rfl⟩ := left
    rw [bound, Option.none_or]
    split at right
    · obtain ⟨v, rfl⟩ := right
      exact operates u v
    · rw [right]
      rfl
  · rename_i c unbound
    rw [unbound, Option.some_or, left]
    rfl

theorem ok_iff (yields : b.Yields letters outcome) :
    (∃ v, outcome = .ok v) ↔ ∀ c ∈ letters, ∃ v, b c = some v := by
  unfold Yields at yields
  split at yields
  · rename_i bound
    refine iff_of_true yields fun c mem => ?_
    exact Option.ne_none_iff_exists'.mp (by simpa using List.find?_eq_none.mp bound c mem)
  · rename_i c unbound
    refine iff_of_false (by simp [yields]) fun bound => ?_
    obtain ⟨v, given⟩ := bound c (List.mem_of_find?_eq_some unbound)
    simpa [given] using List.find?_some unbound

theorem error_iff (yields : b.Yields letters outcome) {fault : ExpressionFault} :
    outcome = .error fault ↔
      ∃ c, fault = .unbound c ∧ letters.find? (fun c => (b c).isNone) = some c := by
  unfold Yields at yields
  split at yields
  · rename_i bound
    obtain ⟨v, rfl⟩ := yields
    simp [bound]
  · rename_i c unbound
    rw [yields, unbound]
    simp [eq_comm]

variable [Scalar α]

theorem letter (b : Bindings α) (c : Char) : b.Yields [c] ((Expr.letter c).evaluate b) := by
  rw [Yields, Expr.evaluate, List.find?_singleton]
  cases b c with
  | none => rfl
  | some v => exact ⟨v, rfl⟩

theorem unary (operand : b.Yields letters outcome) (operator : Symbol) :
    b.Yields letters (outcome >>= fun v => pure (Expr.applySign operator v)) := by
  unfold Yields at operand ⊢
  split at operand
  · obtain ⟨v, rfl⟩ := operand
    exact ⟨_, rfl⟩
  · rw [operand]
    rfl

end Bindings.Yields

variable [Scalar α]

/-- Of a tree of the grammar nothing but its letters can lack a value. -/
theorem Derives.yields {category : Category} {w : List (TokenKind α)} {e : Expr α}
    (derived : Derives category w e) (b : Bindings α) : b.Yields e.letters (e.evaluate b) := by
  induction derived with
  | number v => exact ⟨v, rfl⟩
  | letter c => exact .letter b c
  | group _ ih | primary _ ih | unary _ ih | term _ ih => exact ih
  | plus _ ih | minus _ ih => exact ih.unary _
  | product _ _ ihl ihr | quotient _ _ ihl ihr | implicit _ _ _ ihl ihr | sum _ _ ihl ihr
  | difference _ _ ihl ihr =>
      rw [Expr.letters_binary]
      exact ihl.binary ihr fun _ _ => ⟨_, rfl⟩

/-- The value of a tree depends on its letters only. -/
theorem Expr.evaluate_congr {e : Expr α} (same : ∀ c ∈ e.letters, b c = b' c) :
    e.evaluate b = e.evaluate b' := by
  induction e with
  | number v => rfl
  | letter c => rw [evaluate, evaluate, same c List.mem_cons_self]
  | unary operator e ih => rw [evaluate, evaluate, ih same]
  | binary operator l r ihl ihr =>
      rw [letters_binary] at same
      rw [evaluate, evaluate, ihl fun c mem => same c (List.mem_append_left _ mem),
        ihr fun c mem => same c (List.mem_append_right _ mem)]

end Values

section Sides

variable [Scalar α]

theorem letter_of_ofLexeme {lexeme : List Char} {c : Char}
    (read : Token.ofLexeme lexeme = .ok (.letter c : TokenKind α)) :
    ∃ d ∈ lexeme, d.isAlpha = true ∧ d.toLower = c := by
  rcases Token.ofLexeme_cases read with ⟨_, _, ⟨⟩⟩ | ⟨d, mem, alpha, ⟨⟩⟩ | operator
  · exact ⟨d, mem, alpha, rfl⟩
  · simp at operator

/-- A lexeme is a letter exactly if it is one in the text. -/
theorem letter?_of_ofLexeme {lexeme : List Char}
    (shape : (∃ c, lexeme = [c]) ∨ ∀ c ∈ lexeme, Numeral.isMark c = true) {kind : TokenKind α}
    (read : Token.ofLexeme lexeme = .ok kind) : kind.letter?.toList = lettersOf lexeme := by
  by_cases letter : ∃ c ∈ lexeme, c.isAlpha = true
  · obtain ⟨c, mem, alpha⟩ := letter
    rcases shape with ⟨d, rfl⟩ | marks
    · obtain rfl := List.mem_singleton.mp mem
      simp only [Token.ofLexeme, isMark_of_isAlpha alpha, Token.kindOf?_letter alpha] at read
      cases read
      simp [lettersOf, alpha, TokenKind.letter?]
    · rw [not_isAlpha_of_isMark (marks c mem)] at alpha
      cases alpha
  · have none : lettersOf lexeme = [] :=
      List.eq_nil_iff_forall_not_mem.mpr fun c mem => by
        obtain ⟨d, there, alpha, -⟩ := mem_lettersOf.mp mem
        exact letter ⟨d, there, alpha⟩
    rw [none]
    cases kind with
    | letter c =>
        obtain ⟨d, there, alpha, -⟩ := letter_of_ofLexeme read
        exact (letter ⟨d, there, alpha⟩).elim
    | _ => rfl

theorem Token.Reads.letters {pieces : List (List Char)} {kinds : List (TokenKind α)}
    (reads : Reads pieces kinds)
    (shape : ∀ lexeme ∈ pieces, (∃ c, lexeme = [c]) ∨ ∀ c ∈ lexeme, Numeral.isMark c = true) :
    kinds.filterMap TokenKind.letter? = lettersOf pieces.flatten := by
  induction reads with
  | nil => rfl
  | @cons lexeme kind pieces kinds read _ ih =>
      obtain ⟨first, rest⟩ := List.forall_mem_cons.mp shape
      rw [List.flatten_cons, lettersOf_append, ← letter?_of_ofLexeme first read, ← ih rest,
        List.filterMap_cons]
      cases kind.letter? <;> rfl

theorem filter_prependSign {c : Char} (sign : isSign c = true) (text : List Char) :
    (prependSign c text).filter Char.isAlpha = text.filter Char.isAlpha := by
  have other {d : Char} (sign_d : isSign d = true) : d.isAlpha = false :=
    Bool.eq_false_iff.mpr fun alpha => by simp [isSign_of_isAlpha alpha] at sign_d
  cases text with
  | nil => simp [prependSign, other sign]
  | cons d ds =>
      rw [prependSign]
      split
      · rename_i sign_d
        simp [other sign_d, other (isSign_signProduct c d)]
      · simp [other sign]

/-- Collapsing signs keeps the letters. -/
theorem lettersOf_collapseSigns (text : List Char) :
    lettersOf (collapseSigns text) = lettersOf text := by
  have kept : (collapseSigns text).filter Char.isAlpha = text.filter Char.isAlpha := by
    induction text with
    | nil => rfl
    | cons c cs ih =>
        rw [collapseSigns]
        split
        · rename_i sign
          have other : c.isAlpha = false :=
            Bool.eq_false_iff.mpr fun alpha => by simp [isSign_of_isAlpha alpha] at sign
          simp [filter_prependSign sign, ih, other]
        · simp [List.filter_cons, ih]
  rw [lettersOf, kept, lettersOf]

/-- The tree of a side has the letters of the side, in their order. -/
theorem Expr.letters_of_ofSide {offset : Nat} {side : List Char} {e : Expr α}
    (parsed : ofSide offset side = .ok e) : e.letters = lettersOf side := by
  obtain ⟨kinds, level, reads, advanced, value⟩ := ofText_ok_iff.mp parsed
  rw [(derives_expr_iff.mpr ⟨level, advanced, value⟩).letters, reads.letters (lexemes_shape _),
    flatten_lexemes, lettersOf_collapseSigns]

/-- A side has a value where all its letters do; otherwise the first of them that has none is to
blame. -/
theorem Expr.yields_of_ofSide {offset : Nat} {side : List Char} {e : Expr α}
    (parsed : ofSide offset side = .ok e) (b : Bindings α) :
    b.Yields (lettersOf side) (e.evaluate b) := by
  obtain ⟨kinds, level, reads, advanced, value⟩ := ofText_ok_iff.mp parsed
  rw [← letters_of_ofSide parsed]
  exact (derives_expr_iff.mpr ⟨level, advanced, value⟩).yields b

theorem Expr.evaluate_side_ok {offset : Nat} {side : List Char} {e : Expr α}
    (parsed : ofSide offset side = .ok e) (bound : ∀ c ∈ lettersOf side, ∃ v, b c = some v) :
    ∃ v, e.evaluate b = .ok v :=
  (yields_of_ofSide parsed b).ok_iff.mpr bound

theorem Expr.evaluate_side_congr {offset : Nat} {side : List Char} {e : Expr α}
    (parsed : ofSide offset side = .ok e) (same : ∀ c ∈ lettersOf side, b c = b' c) :
    e.evaluate b = e.evaluate b' :=
  evaluate_congr (letters_of_ofSide parsed ▸ same)

/-- A text is an expression of the grammar just when it has a tree. -/
theorem isExpression_iff {text : List Char} (offset : Nat) :
    IsExpression α text ↔ ∃ e : Expr α, Expr.ofText offset text = .ok e := by
  constructor
  · rintro ⟨kinds, reads, phrase⟩
    obtain ⟨e, derived⟩ := phrase.exists_derives rfl
    obtain ⟨level, advanced, value⟩ := derives_expr_iff.mp derived
    exact ⟨e, Expr.ofText_ok_iff.mpr ⟨kinds, level, reads, advanced, value⟩⟩
  · rintro ⟨e, parsed⟩
    obtain ⟨kinds, level, reads, advanced, value⟩ := Expr.ofText_ok_iff.mp parsed
    exact ⟨kinds, reads, (derives_expr_iff.mpr ⟨level, advanced, value⟩).phrase⟩

end Sides

end WorkedAlgebra
