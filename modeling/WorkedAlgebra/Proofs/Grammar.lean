import WorkedAlgebra.Proofs.Parsing

/-!
The grammar of expressions, apart from how they are read. Whether symbols begin an expression, and
whether they are one, depends only on whether an operand has just ended and on how many brackets are
open; reading keeps exactly that.
-/

namespace WorkedAlgebra

inductive Category where
  | expr
  | term
  | unary
  | primary

/-- The phrases of the grammar. A factor without operator starts with a letter or a bracket. -/
inductive Phrase : Category → List Symbol → Prop where
  | number : Phrase .primary [.number]
  | letter : Phrase .primary [.letter]
  | group {e : List Symbol} (inner : Phrase .expr e) :
      Phrase .primary (.openParen :: (e ++ [.closeParen]))
  | primary {p : List Symbol} (inner : Phrase .primary p) : Phrase .unary p
  | plus {u : List Symbol} (operand : Phrase .unary u) : Phrase .unary (.plus :: u)
  | minus {u : List Symbol} (operand : Phrase .unary u) : Phrase .unary (.minus :: u)
  | unary {u : List Symbol} (inner : Phrase .unary u) : Phrase .term u
  | product {t u : List Symbol} (left : Phrase .term t) (right : Phrase .unary u) :
      Phrase .term (t ++ .star :: u)
  | quotient {t u : List Symbol} (left : Phrase .term t) (right : Phrase .unary u) :
      Phrase .term (t ++ .slash :: u)
  | implicit {t u : List Symbol} (left : Phrase .term t) (right : Phrase .unary u)
      (starts : u.head? = some .letter ∨ u.head? = some .openParen) : Phrase .term (t ++ u)
  | term {t : List Symbol} (inner : Phrase .term t) : Phrase .expr t
  | sum {e t : List Symbol} (left : Phrase .expr e) (right : Phrase .term t) :
      Phrase .expr (e ++ .plus :: t)
  | difference {e t : List Symbol} (left : Phrase .expr e) (right : Phrase .term t) :
      Phrase .expr (e ++ .minus :: t)

def Viable (symbols : List Symbol) : Prop := ∃ more, Phrase .expr (symbols ++ more)

/-- A place between symbols: whether an operand ends there, and how many brackets are open. -/
structure Place where
  operand : Bool
  depth : Nat
deriving DecidableEq

namespace Place

def start : Place := ⟨false, 0⟩

def step? : Place → Symbol → Option Place
  | ⟨false, d⟩, .number => some ⟨true, d⟩
  | ⟨_, d⟩, .letter => some ⟨true, d⟩
  | ⟨_, d⟩, .openParen => some ⟨false, d + 1⟩
  | ⟨_, d⟩, .plus => some ⟨false, d⟩
  | ⟨_, d⟩, .minus => some ⟨false, d⟩
  | ⟨true, d⟩, .star => some ⟨false, d⟩
  | ⟨true, d⟩, .slash => some ⟨false, d⟩
  | ⟨true, d + 1⟩, .closeParen => some ⟨true, d⟩
  | _, _ => none

def advance : Place → List Symbol → Option Place
  | p, [] => some p
  | p, s :: symbols => (p.step? s).bind fun next => next.advance symbols

theorem advance_append (p : Place) (first second : List Symbol) :
    p.advance (first ++ second) = (p.advance first).bind fun next => next.advance second := by
  induction first generalizing p with
  | nil => rfl
  | cons s first ih =>
      cases next : p.step? s with
      | none => simp [advance, next]
      | some q => simp [advance, next, ih]

theorem advance_snoc {p q : Place} {symbols : List Symbol} (advanced : p.advance symbols = some q)
    (s : Symbol) : p.advance (symbols ++ [s]) = q.step? s := by
  rw [advance_append, advanced, Option.bind_some, advance]
  cases q.step? s <;> rfl

/-- What starts a factor without operator can stand behind an operand as well as before one. -/
theorem advance_implicit {d : Nat} {u : List Symbol}
    (starts : u.head? = some .letter ∨ u.head? = some .openParen) :
    advance ⟨true, d⟩ u = advance ⟨false, d⟩ u := by
  cases u with
  | nil => simp at starts
  | cons s u =>
      rcases starts with letter | bracket
      · cases letter
        rfl
      · cases bracket
        rfl

theorem advance_phrase {category : Category} {w : List Symbol} (phrase : Phrase category w)
    (d : Nat) : advance ⟨false, d⟩ w = some ⟨true, d⟩ := by
  induction phrase generalizing d with
  | number | letter => rfl
  | group _ ih =>
      rw [advance]
      change advance ⟨false, d + 1⟩ (_ ++ [Symbol.closeParen]) = _
      rw [advance_snoc (ih (d + 1))]
      rfl
  | primary _ ih | unary _ ih | term _ ih => exact ih d
  | plus _ ih | minus _ ih => exact ih d
  | product _ _ ihl ihr | quotient _ _ ihl ihr =>
      rw [advance_append, ihl d, Option.bind_some]
      exact ihr d
  | implicit _ _ starts ihl ihr =>
      rw [advance_append, ihl d, Option.bind_some, advance_implicit starts]
      exact ihr d
  | sum _ _ ihl ihr | difference _ _ ihl ihr =>
      rw [advance_append, ihl d, Option.bind_some]
      exact ihr d

end Place

section Levels

/-- Symbols of one bracket level that end with a term, which any other term could replace. -/
def BehindOperand (w : List Symbol) : Prop :=
  ∃ pre t, w = pre ++ t ∧ Phrase .term t ∧ ∀ t', Phrase .term t' → Phrase .expr (pre ++ t')

def BeforeOperand (w : List Symbol) : Prop :=
  ∃ pre cur, w = pre ++ cur ∧ (∀ t, Phrase .term t → Phrase .expr (pre ++ t)) ∧
    ∀ u, Phrase .unary u → Phrase .term (cur ++ u)

theorem BehindOperand.expr {w : List Symbol} (h : BehindOperand w) : Phrase .expr w := by
  obtain ⟨pre, t, rfl, term, context⟩ := h
  exact context t term

theorem BeforeOperand.start : BeforeOperand [] :=
  ⟨[], [], rfl, fun _ term => .term term, fun _ unary => .unary unary⟩

theorem BeforeOperand.take {w q : List Symbol} (h : BeforeOperand w) (operand : Phrase .unary q) :
    BehindOperand (w ++ q) := by
  obtain ⟨pre, cur, rfl, context, factor⟩ := h
  exact ⟨pre, cur ++ q, List.append_assoc _ _ _, factor q operand, context⟩

theorem BeforeOperand.sign {w : List Symbol} (h : BeforeOperand w) {s : Symbol}
    (signs : ∀ u, Phrase .unary u → Phrase .unary (s :: u)) : BeforeOperand (w ++ [s]) := by
  obtain ⟨pre, cur, rfl, context, factor⟩ := h
  refine ⟨pre, cur ++ [s], List.append_assoc _ _ _, context, fun u unary => ?_⟩
  rw [List.append_assoc]
  exact factor _ (signs u unary)

theorem BehindOperand.addTerm {w : List Symbol} (h : BehindOperand w) {s : Symbol}
    (joins : ∀ e t, Phrase .expr e → Phrase .term t → Phrase .expr (e ++ s :: t)) :
    BeforeOperand (w ++ [s]) := by
  refine ⟨w ++ [s], [], (List.append_nil _).symm, fun t term => ?_, fun u unary => .unary unary⟩
  rw [List.append_assoc]
  exact joins w t h.expr term

theorem BehindOperand.addFactor {w : List Symbol} (h : BehindOperand w) {s : Symbol}
    (joins : ∀ t u, Phrase .term t → Phrase .unary u → Phrase .term (t ++ s :: u)) :
    BeforeOperand (w ++ [s]) := by
  obtain ⟨pre, t, rfl, term, context⟩ := h
  refine ⟨pre, t ++ [s], List.append_assoc _ _ _, context, fun u unary => ?_⟩
  rw [List.append_assoc]
  exact joins t u term unary

theorem BehindOperand.juxtapose {w q : List Symbol} (h : BehindOperand w)
    (operand : Phrase .unary q) (starts : q.head? = some .letter ∨ q.head? = some .openParen) :
    BehindOperand (w ++ q) := by
  obtain ⟨pre, t, rfl, term, context⟩ := h
  exact ⟨pre, t ++ q, List.append_assoc _ _ _, .implicit term operand starts, context⟩

inductive Nested : Nat → List Symbol → Prop where
  | outermost : Nested 0 []
  | opened {d : Nat} {v w : List Symbol} (outer : Nested d v)
      (takes : ∀ e, Phrase .expr e → BehindOperand (w ++ .openParen :: (e ++ [.closeParen]))) :
      Nested (d + 1) (v ++ (w ++ [.openParen]))

def Reached (p : Place) (symbols : List Symbol) : Prop :=
  ∃ v w, symbols = v ++ w ∧ Nested p.depth v ∧
    if p.operand = true then BehindOperand w else BeforeOperand w

theorem Nested.eq_nil {v : List Symbol} (h : Nested 0 v) : v = [] := by
  cases h
  rfl

theorem Nested.exists_outer {d : Nat} {v : List Symbol} (h : Nested (d + 1) v) :
    ∃ v' w, v = v' ++ (w ++ [.openParen]) ∧ Nested d v' ∧
      ∀ e, Phrase .expr e → BehindOperand (w ++ .openParen :: (e ++ [.closeParen])) := by
  cases h with
  | opened outer takes => exact ⟨_, _, rfl, outer, takes⟩

theorem Reached.before {d : Nat} {symbols : List Symbol} (h : Reached ⟨false, d⟩ symbols) :
    ∃ v w, symbols = v ++ w ∧ Nested d v ∧ BeforeOperand w := h

theorem Reached.behind {d : Nat} {symbols : List Symbol} (h : Reached ⟨true, d⟩ symbols) :
    ∃ v w, symbols = v ++ w ∧ Nested d v ∧ BehindOperand w := h

/-- One more symbol keeps that shape. -/
theorem Reached.step {p next : Place} {symbols : List Symbol} (h : Reached p symbols) {s : Symbol}
    (step : p.step? s = some next) : Reached next (symbols ++ [s]) := by
  obtain ⟨operand, d⟩ := p
  cases operand with
  | false =>
      obtain ⟨v, w, rfl, nested, before⟩ := h.before
      cases s with
      | number =>
          cases step
          exact ⟨v, w ++ [.number], List.append_assoc _ _ _, nested, before.take (.primary .number)⟩
      | letter =>
          cases step
          exact ⟨v, w ++ [.letter], List.append_assoc _ _ _, nested, before.take (.primary .letter)⟩
      | plus =>
          cases step
          exact ⟨v, w ++ [.plus], List.append_assoc _ _ _, nested, before.sign fun _ => .plus⟩
      | minus =>
          cases step
          exact ⟨v, w ++ [.minus], List.append_assoc _ _ _, nested, before.sign fun _ => .minus⟩
      | openParen =>
          cases step
          refine ⟨v ++ (w ++ [.openParen]), [], by simp, .opened nested fun e expr => ?_, .start⟩
          exact before.take (.primary (.group expr))
      | star | slash | equals | closeParen | endOfInput => cases step
  | true =>
      obtain ⟨v, w, rfl, nested, behind⟩ := h.behind
      cases s with
      | letter =>
          cases step
          exact ⟨v, w ++ [.letter], List.append_assoc _ _ _, nested,
            behind.juxtapose (.primary .letter) (.inl rfl)⟩
      | plus =>
          cases step
          exact ⟨v, w ++ [.plus], List.append_assoc _ _ _, nested,
            behind.addTerm fun _ _ => .sum⟩
      | minus =>
          cases step
          exact ⟨v, w ++ [.minus], List.append_assoc _ _ _, nested,
            behind.addTerm fun _ _ => .difference⟩
      | star =>
          cases step
          exact ⟨v, w ++ [.star], List.append_assoc _ _ _, nested,
            behind.addFactor fun _ _ => .product⟩
      | slash =>
          cases step
          exact ⟨v, w ++ [.slash], List.append_assoc _ _ _, nested,
            behind.addFactor fun _ _ => .quotient⟩
      | openParen =>
          cases step
          refine ⟨v ++ (w ++ [.openParen]), [], by simp, .opened nested fun e expr => ?_, .start⟩
          exact behind.juxtapose (.primary (.group expr)) (.inr rfl)
      | closeParen =>
          cases d with
          | zero => cases step
          | succ d =>
              cases step
              obtain ⟨v', w', rfl, outer, takes⟩ := nested.exists_outer
              exact ⟨v', w' ++ Symbol.openParen :: (w ++ [Symbol.closeParen]), by simp, outer,
                takes w behind.expr⟩
      | number | equals | endOfInput => cases step

theorem Reached.advance {p q : Place} {symbols more : List Symbol} (h : Reached p symbols)
    (advanced : p.advance more = some q) : Reached q (symbols ++ more) := by
  induction more generalizing p symbols with
  | nil =>
      cases advanced
      rwa [List.append_nil]
  | cons s more ih =>
      cases next : p.step? s with
      | none => simp [Place.advance, next] at advanced
      | some r =>
          have rest := ih (h.step next) (by simpa [Place.advance, next] using advanced)
          rwa [List.append_assoc] at rest

end Levels

/-- Symbols are an expression just when they lead behind an operand with no bracket open. -/
theorem phrase_expr_iff {symbols : List Symbol} :
    Phrase .expr symbols ↔ Place.start.advance symbols = some ⟨true, 0⟩ := by
  constructor
  · exact fun expr => Place.advance_phrase expr 0
  · intro advanced
    have start : Reached .start [] := ⟨[], [], rfl, .outermost, BeforeOperand.start⟩
    obtain ⟨v, w, same, nested, behind⟩ := (start.advance advanced).behind
    obtain rfl := nested.eq_nil
    rw [List.nil_append, List.nil_append] at same
    rw [same]
    exact behind.expr

theorem Place.advance_close (d : Nat) :
    advance ⟨true, d⟩ (List.replicate d .closeParen) = some ⟨true, 0⟩ := by
  induction d with
  | zero => rfl
  | succ d ih => exact ih

/-- From every place an operand and closing brackets lead to the end of an expression. -/
theorem viable_iff {symbols : List Symbol} :
    Viable symbols ↔ (Place.start.advance symbols).isSome = true := by
  constructor
  · rintro ⟨more, expr⟩
    have advanced := phrase_expr_iff.mp expr
    rw [Place.advance_append] at advanced
    cases place : Place.start.advance symbols with
    | none => simp [place] at advanced
    | some p => rfl
  · intro some_
    obtain ⟨⟨operand, d⟩, place⟩ := Option.isSome_iff_exists.mp some_
    cases operand with
    | true =>
        refine ⟨List.replicate d .closeParen, phrase_expr_iff.mpr ?_⟩
        rw [Place.advance_append, place, Option.bind_some, Place.advance_close]
    | false =>
        refine ⟨.letter :: List.replicate d .closeParen, phrase_expr_iff.mpr ?_⟩
        rw [Place.advance_append, place, Option.bind_some]
        exact Place.advance_close d

def symbols {α : Type} (kinds : List (TokenKind α)) : List Symbol := kinds.map TokenKind.symbol

namespace Reading

variable {α : Type}

def place : Reading α → Place
  | .before _ outer => ⟨false, outer.length⟩
  | .after _ outer => ⟨true, outer.length⟩

theorem step_place (r : Reading α) (kind : TokenKind α) :
    (r.step? kind).map place = r.place.step? kind.symbol := by
  cases r with
  | before level outer => cases kind <;> rfl
  | after level outer =>
      cases kind with
      | closeParen => cases outer <;> rfl
      | _ => rfl

/-- Reading stands where the symbols lead. -/
theorem advance_place (r : Reading α) (kinds : List (TokenKind α)) :
    (r.advance kinds).map place = r.place.advance (symbols kinds) := by
  induction kinds generalizing r with
  | nil => rfl
  | cons kind kinds ih =>
      have step := r.step_place kind
      rw [symbols, List.map_cons, advance, Place.advance, ← step]
      cases r.step? kind with
      | none => rfl
      | some next => exact ih next

theorem place_of_advance {kinds : List (TokenKind α)} {state : Reading α}
    (advanced : start.advance kinds = some state) :
    Place.start.advance (symbols kinds) = some state.place := by
  have places := start.advance_place kinds
  rw [advanced] at places
  exact places.symm

end Reading
end WorkedAlgebra
