import WorkedAlgebra.Proofs.Grammar
import WorkedAlgebra.Proofs.Letters
import WorkedAlgebra.Proofs.SignRuns

/-!
Lexemes of a text whose runs of signs are collapsed. They are those of the text itself, with every
run of sign lexemes replaced by one, and they lead to the same places of the grammar.
-/

namespace WorkedAlgebra

open Numeral Text

theorem isMark_of_isSign {c : Char} (sign : isSign c = true) : isMark c = false := by
  rw [← Bool.not_eq_true]
  intro mark
  rw [isSign_of_isMark mark] at sign
  cases sign

def signOf? : List Char → Option Char
  | [c] => if isSign c then some c else none
  | _ => none

def prependLexeme (sign : Char) : List (List Char) → List (List Char)
  | [] => [[sign]]
  | lexeme :: rest =>
    match signOf? lexeme with
    | some d => [signProduct sign d] :: rest
    | none => [sign] :: lexeme :: rest

/-- Replaces every run of sign lexemes by the single one with its effect. -/
def collapseLexemes : List (List Char) → List (List Char)
  | [] => []
  | lexeme :: rest =>
    match signOf? lexeme with
    | some c => prependLexeme c (collapseLexemes rest)
    | none => lexeme :: collapseLexemes rest

theorem signOf_eq_some_iff {lexeme : List Char} {c : Char} :
    signOf? lexeme = some c ↔ lexeme = [c] ∧ isSign c = true := by
  unfold signOf?
  split
  · rename_i d
    constructor
    · intro h
      split at h
      · rename_i sign
        obtain rfl := Option.some.inj h
        exact ⟨rfl, sign⟩
      · cases h
    · rintro ⟨same, sign⟩
      cases same
      rw [if_pos sign]
  · rename_i other
    exact ⟨nofun, fun h => (other c h.1).elim⟩

theorem signOf_cons {c : Char} (cs : List Char) (other : isSign c = false) :
    signOf? (c :: cs) = none := by
  cases found : signOf? (c :: cs) with
  | none => rfl
  | some d =>
      obtain ⟨same, sign⟩ := signOf_eq_some_iff.mp found
      cases same
      rw [other] at sign
      cases sign

section Text

theorem lexemes_prependSign {c : Char} (sign : isSign c = true) (text : List Char) :
    lexemes (prependSign c text) = prependLexeme c (lexemes text) := by
  cases text with
  | nil => rfl
  | cons d ds =>
      have first := lexemes_single (isMark_of_isSign sign) (d :: ds)
      cases other : isSign d with
      | true =>
          have product := isMark_of_isSign (isSign_signProduct c d)
          rw [prependSign, if_pos other, lexemes_single product,
            lexemes_single (isMark_of_isSign other), prependLexeme,
            signOf_eq_some_iff.mpr ⟨rfl, other⟩]
      | false =>
          obtain ⟨es, rest, cut⟩ := exists_lexeme d ds
          rw [prependSign, other, if_neg Bool.false_ne_true, first, cut, prependLexeme,
            signOf_cons es other]

theorem head_collapseSigns {c : Char} (cs : List Char) (other : isSign c = false) :
    collapseSigns (c :: cs) = c :: collapseSigns cs := by
  rw [collapseSigns, other, if_neg Bool.false_ne_true]

theorem isSign_head_prependSign {c : Char} (sign : isSign c = true) (text : List Char) :
    ∀ d ∈ (prependSign c text).head?, isSign d = true := by
  intro d hd
  cases text with
  | nil =>
      obtain rfl : c = d := by simpa [prependSign] using hd
      exact sign
  | cons e es =>
      rw [prependSign] at hd
      split at hd
      · obtain rfl : signProduct c e = d := by simpa using hd
        exact isSign_signProduct c e
      · obtain rfl : c = d := by simpa using hd
        exact sign

theorem apart_collapseSigns {c : Char} {cs : List Char} (apart : Apart [c] cs) :
    Apart [c] (collapseSigns cs) := by
  cases cs with
  | nil => exact apart
  | cons d ds =>
      cases sign : isSign d with
      | true =>
          refine apart_of_head fun e first => ?_
          rw [collapseSigns, sign, if_pos rfl] at first
          exact isMark_of_isSign (isSign_head_prependSign sign _ e first)
      | false =>
          rw [head_collapseSigns ds sign]
          simpa [Apart] using apart

/-- Cutting a text into lexemes and collapsing its signs can be done in either order. -/
theorem lexemes_collapseSigns (text : List Char) :
    lexemes (collapseSigns text) = collapseLexemes (lexemes text) := by
  induction text with
  | nil => rfl
  | cons c cs ih =>
      cases sign : isSign c with
      | true =>
          rw [collapseSigns, sign, if_pos rfl, lexemes_prependSign sign, ih,
            lexemes_single (isMark_of_isSign sign), collapseLexemes,
            signOf_eq_some_iff.mpr ⟨rfl, sign⟩]
      | false =>
          rw [head_collapseSigns cs sign]
          by_cases apart : Apart [c] cs
          · rw [lexemes_cons apart, lexemes_cons (apart_collapseSigns apart), collapseLexemes,
              signOf_cons [] sign, ih]
          · obtain ⟨d, ds, rfl, markHere, markNext⟩ := exists_of_not_apart apart
            obtain ⟨es, rest, cut⟩ := exists_lexeme d ds
            have collapsed : lexemes (collapseSigns (d :: ds)) =
                (d :: es) :: collapseLexemes rest := by
              rw [ih, cut, collapseLexemes, signOf_cons es (isSign_of_isMark markNext)]
            rw [lexemes, lexemes, collapsed, cut]
            simp only [markHere, markNext, Bool.and_self, if_true]
            rw [collapseLexemes, signOf_cons _ sign]

/-- The first lexemes of a text are the lexemes of their own text. -/
theorem lexemes_flatten {text : List Char} {first rest : List (List Char)}
    (cut : lexemes text = first ++ rest) : lexemes first.flatten = first := by
  induction text generalizing first with
  | nil =>
      obtain ⟨rfl, rfl⟩ := List.append_eq_nil_iff.mp cut.symm
      rfl
  | cons c cs ih =>
      cases first with
      | nil => rfl
      | cons lexeme first =>
          rw [lexemes] at cut
          split at cut
          · rename_i d ds others head
            split at cut
            · rename_i marks
              obtain ⟨rfl, rfl⟩ := List.cons.inj cut
              have inner := ih (show lexemes cs = ((d :: ds) :: first) ++ rest from head)
              change lexemes (d :: (ds ++ first.flatten)) = _ at inner
              change lexemes (c :: d :: (ds ++ first.flatten)) = _
              rw [lexemes, inner]
              simp [marks]
            · rename_i apart
              obtain ⟨rfl, same⟩ := List.cons.inj cut
              have inner := ih (head.trans same)
              change lexemes (c :: first.flatten) = _
              rw [lexemes, inner]
              cases first with
              | nil => rfl
              | cons lexeme first =>
                  obtain ⟨rfl, -⟩ := List.cons.inj same
                  simp [apart]
          · rename_i others
            obtain ⟨rfl, same⟩ := List.cons.inj cut
            have inner := ih same
            change lexemes (c :: first.flatten) = _
            rw [lexemes, inner]
            cases first with
            | nil => rfl
            | cons lexeme first =>
                cases lexeme with
                | nil => rfl
                | cons d ds => exact (others d ds _ same).elim

end Text

section Cuts

theorem exists_of_prependLexeme {c : Char} {pieces done rest : List (List Char)} {item : List Char}
    (sign : isSign c = true) (other : signOf? item = none)
    (cut : prependLexeme c pieces = done ++ item :: rest) :
    ∃ before, pieces = before ++ item :: rest ∧ prependLexeme c before = done := by
  have isSign_item {d : Char} (sign_d : isSign d = true) : item ≠ [d] := by
    rintro rfl
    rw [signOf_eq_some_iff.mpr ⟨rfl, sign_d⟩] at other
    cases other
  cases pieces with
  | nil =>
      cases done with
      | nil => exact (isSign_item sign (List.cons.inj cut).1.symm).elim
      | cons lexeme done => simp [prependLexeme] at cut
  | cons first more =>
      rw [prependLexeme] at cut
      cases found : signOf? first with
      | some d =>
          rw [found] at cut
          cases done with
          | nil =>
              exact (isSign_item (isSign_signProduct c d) (List.cons.inj cut).1.symm).elim
          | cons lexeme done =>
              obtain ⟨rfl, rfl⟩ := List.cons.inj cut
              exact ⟨first :: done, rfl, by rw [prependLexeme, found]⟩
      | none =>
          rw [found] at cut
          cases done with
          | nil => exact (isSign_item sign (List.cons.inj cut).1.symm).elim
          | cons lexeme done =>
              obtain ⟨rfl, same⟩ := List.cons.inj cut
              refine ⟨done, same, ?_⟩
              cases done with
              | nil => rfl
              | cons lexeme done =>
                  obtain ⟨rfl, -⟩ := List.cons.inj same
                  rw [prependLexeme, found]

/-- A lexeme that is no sign stands between the same lexemes before and after collapsing. -/
theorem exists_of_collapseLexemes {pieces done rest : List (List Char)} {item : List Char}
    (other : signOf? item = none) (cut : collapseLexemes pieces = done ++ item :: rest) :
    ∃ before after, pieces = before ++ item :: after ∧ collapseLexemes before = done ∧
      collapseLexemes after = rest := by
  induction pieces generalizing done with
  | nil => simp [collapseLexemes] at cut
  | cons lexeme pieces ih =>
      rw [collapseLexemes] at cut
      cases found : signOf? lexeme with
      | some c =>
          rw [found] at cut
          obtain ⟨before, same, rfl⟩ :=
            exists_of_prependLexeme (signOf_eq_some_iff.mp found).2 other cut
          obtain ⟨before', after, rfl, rfl, rfl⟩ := ih same
          exact ⟨lexeme :: before', after, rfl, by rw [collapseLexemes, found], rfl⟩
      | none =>
          rw [found] at cut
          cases done with
          | nil =>
              obtain ⟨rfl, rfl⟩ := List.cons.inj cut
              exact ⟨[], pieces, rfl, rfl, rfl⟩
          | cons first done =>
              obtain ⟨rfl, same⟩ := List.cons.inj cut
              obtain ⟨before, after, rfl, rfl, rfl⟩ := ih same
              exact ⟨lexeme :: before, after, rfl, by rw [collapseLexemes, found], rfl⟩

end Cuts

section Kinds

variable {α : Type} [Scalar α]

/-- A sign can stand anywhere, and an operand has to follow it. -/
theorem ofLexeme_sign {c : Char} (sign : isSign c = true) :
    ∃ kind : TokenKind α, Token.ofLexeme [c] = .ok kind ∧
      ∀ p : Place, p.step? kind.symbol = some ⟨false, p.depth⟩ := by
  rcases Bool.or_eq_true _ _ |>.mp sign with plus | minus
  · rw [beq_iff_eq.mp plus]
    exact ⟨.plus, rfl, fun ⟨operand, d⟩ => by cases operand <;> rfl⟩
  · rw [beq_iff_eq.mp minus]
    exact ⟨.minus, rfl, fun ⟨operand, d⟩ => by cases operand <;> rfl⟩

theorem reads_of_prependLexeme {c : Char} (sign : isSign c = true) {pieces : List (List Char)}
    {kinds : List (TokenKind α)} (reads : Token.Reads (prependLexeme c pieces) kinds) :
    ∃ others : List (TokenKind α), Token.Reads pieces others ∧
      ∀ p : Place, p.advance (symbols kinds) = Place.advance ⟨false, p.depth⟩ (symbols others) := by
  have same {d : Char} (sign_d : isSign d = true) {kind : TokenKind α}
      (read : Token.ofLexeme [d] = .ok kind) (p : Place) :
      p.step? kind.symbol = some ⟨false, p.depth⟩ := by
    obtain ⟨kind', read', steps⟩ := ofLexeme_sign (α := α) sign_d
    obtain rfl := Except.ok.inj (read.symm.trans read')
    exact steps p
  cases pieces with
  | nil =>
      cases reads with
      | cons read rest =>
          cases rest
          exact ⟨[], .nil, fun p => by simp [symbols, Place.advance, same sign read]⟩
  | cons first more =>
      rw [prependLexeme] at reads
      cases found : signOf? first with
      | none =>
          rw [found] at reads
          cases reads with
          | cons read rest =>
              exact ⟨_, rest, fun p => by simp [symbols, Place.advance, same sign read]⟩
      | some d =>
          rw [found] at reads
          obtain ⟨rfl, sign_d⟩ := signOf_eq_some_iff.mp found
          obtain ⟨kind, read_d, steps⟩ := ofLexeme_sign (α := α) sign_d
          cases reads with
          | cons read rest =>
              refine ⟨kind :: _, .cons read_d rest, fun p => ?_⟩
              simp [symbols, Place.advance, same (isSign_signProduct c d) read, steps]

/-- Lexemes are tokens when they are after collapsing, and then they lead to the same places. -/
theorem reads_of_collapseLexemes {pieces : List (List Char)} {kinds : List (TokenKind α)}
    (reads : Token.Reads (collapseLexemes pieces) kinds) :
    ∃ others : List (TokenKind α), Token.Reads pieces others ∧
      ∀ p : Place, p.advance (symbols others) = p.advance (symbols kinds) := by
  induction pieces generalizing kinds with
  | nil =>
      cases reads
      exact ⟨[], .nil, fun _ => rfl⟩
  | cons lexeme pieces ih =>
      rw [collapseLexemes] at reads
      cases found : signOf? lexeme with
      | none =>
          rw [found] at reads
          cases reads with
          | cons read rest =>
              obtain ⟨others, reads', same⟩ := ih rest
              refine ⟨_ :: others, .cons read reads', fun p => ?_⟩
              exact congrArg (Option.bind _) (funext same)
      | some c =>
          rw [found] at reads
          obtain ⟨rfl, sign⟩ := signOf_eq_some_iff.mp found
          obtain ⟨kind, read, steps⟩ := ofLexeme_sign (α := α) sign
          obtain ⟨middle, reads', behind⟩ := reads_of_prependLexeme sign reads
          obtain ⟨others, reads'', same⟩ := ih reads'
          refine ⟨kind :: others, .cons read reads'', fun p => ?_⟩
          rw [behind p, ← same]
          simp [symbols, Place.advance, steps]

end Kinds
end WorkedAlgebra
