import WorkedAlgebra.Proofs.Lexing
import WorkedAlgebra.Token.Scanner

/-!
How a scanner cuts a text. The answers to its calls are the outcomes of the pieces of the text,
which are determined by the text alone, and of the end of the input.
-/

namespace WorkedAlgebra

open Numeral

section Cuts

/-- A run of numeral marks, or a single other character. -/
inductive IsPiece : List Char → Prop
  | run {piece : List Char} (nonempty : piece ≠ []) (marks : ∀ c ∈ piece, isMark c = true) :
      IsPiece piece
  | single {c : Char} (other : isMark c = false) : IsPiece [c]

/-- A text cut into pieces. Two marks never meet where pieces do, so that all runs are maximal. -/
structure Cut (text : List Char) (pieces : List (List Char)) : Prop where
  joined : pieces.flatten = text
  shapes : ∀ piece ∈ pieces, IsPiece piece
  maximal : pieces.IsChain Apart

variable {piece rest : List Char}

theorem IsPiece.ne_nil (shape : IsPiece piece) : piece ≠ [] := by
  cases shape with
  | run nonempty _ => exact nonempty
  | single _ => exact List.cons_ne_nil _ _

theorem IsPiece.lexemes_append (shape : IsPiece piece) (apart : Apart piece rest) :
    lexemes (piece ++ rest) = piece :: lexemes rest := by
  rw [WorkedAlgebra.lexemes_append apart]
  cases shape with
  | run nonempty marks => rw [lexemes_marks nonempty marks, List.singleton_append]
  | single _ => rfl

/-- A text that is not empty starts with a piece. -/
theorem exists_piece (c : Char) (cs : List Char) :
    ∃ rest, c :: cs = Scanner.lexemeAt c cs ++ rest ∧ IsPiece (Scanner.lexemeAt c cs) ∧
      Apart (Scanner.lexemeAt c cs) rest := by
  cases mark : isMark c with
  | true =>
      rw [Scanner.lexemeAt, if_pos mark]
      refine ⟨cs.dropWhile isMark, by simp, .run (List.cons_ne_nil _ _) ?_, apart_of_head ?_⟩
      · exact List.forall_mem_cons.mpr ⟨mark, fun d mem => List.mem_takeWhile_imp mem⟩
      · intro d head
        have stopped := List.head?_dropWhile_not isMark cs
        rw [Option.mem_def.mp head] at stopped
        simpa using stopped
  | false =>
      rw [Scanner.lexemeAt, if_neg (by simp [mark])]
      exact ⟨cs, rfl, .single mark, apart_of_last (by simpa using mark)⟩

/-- Texts piece by piece from the start. -/
theorem piece_induction {motive : List Char → Prop} (empty : motive [])
    (piece : ∀ piece rest, IsPiece piece → Apart piece rest → motive rest → motive (piece ++ rest))
    (text : List Char) : motive text := by
  induction size : text.length using Nat.strong_induction_on generalizing text with
  | _ n ih =>
      cases text with
      | nil => exact empty
      | cons c cs =>
          obtain ⟨rest, joined, shape, apart⟩ := exists_piece c cs
          have shorter : rest.length < n := by
            have nonempty := List.length_pos_iff.mpr shape.ne_nil
            rw [← size, joined, List.length_append]
            omega
          rw [joined]
          exact piece _ _ shape apart (ih _ shorter rest rfl)

theorem cut_lexemes (text : List Char) : Cut text (lexemes text) := by
  induction text using piece_induction with
  | empty => exact ⟨rfl, nofun, .nil⟩
  | piece piece rest shape apart ih =>
      refine ⟨flatten_lexemes _, ?_, ?_⟩
      · rw [shape.lexemes_append apart]
        exact List.forall_mem_cons.mpr ⟨shape, ih.shapes⟩
      · rw [shape.lexemes_append apart]
        refine List.isChain_cons.mpr ⟨fun next head => ?_, ih.maximal⟩
        cases rest with
        | nil => cases head
        | cons d ds =>
            obtain ⟨es, others, first⟩ := exists_lexeme d ds
            rw [first] at head
            cases head
            simpa [Apart] using apart

/-- The lexemes of a text are the only way to cut it. -/
theorem cut_iff {text : List Char} {pieces : List (List Char)} :
    Cut text pieces ↔ pieces = lexemes text := by
  constructor
  · rintro ⟨rfl, shapes, maximal⟩
    induction pieces with
    | nil => rfl
    | cons piece others ih =>
        obtain ⟨shape, shapes⟩ := List.forall_mem_cons.mp shapes
        obtain ⟨apart, maximal⟩ := List.isChain_cons.mp maximal
        have separate : Apart piece others.flatten := by
          cases others with
          | nil => exact apart_of_head nofun
          | cons next others =>
              have nonempty := (shapes next List.mem_cons_self).ne_nil
              simpa [Apart, List.head?_append_of_ne_nil _ nonempty] using apart next rfl
        rw [List.flatten_cons, shape.lexemes_append separate, ← ih shapes maximal]
  · rintro rfl
    exact cut_lexemes text

end Cuts

namespace Numeral

def Valid (run : List Char) : Prop := (∃ c ∈ run, c.isDigit = true) ∧ run.count '.' ≤ 1

variable {run whole fraction : List Char}

theorem isDigit_of_isMark {c : Char} (mark : isMark c = true) (other : c ≠ '.') :
    c.isDigit = true := by
  simpa [isMark, other] using mark

/-- Marks are digits, or digits with a point behind them. -/
theorem digits_or_point (marks : ∀ c ∈ run, isMark c = true) :
    (∀ c ∈ run, c.isDigit = true) ∨
      ∃ whole fraction, run = whole ++ '.' :: fraction ∧ ∀ c ∈ whole, c.isDigit = true := by
  by_cases point : '.' ∈ run
  · obtain ⟨whole, fraction, rfl, absent⟩ := List.eq_append_cons_of_mem point
    refine .inr ⟨whole, fraction, rfl, fun c mem => ?_⟩
    exact isDigit_of_isMark (marks c (by simp [mem])) fun same => absent (same ▸ mem)
  · refine .inl fun c mem => ?_
    exact isDigit_of_isMark (marks c mem) fun same => point (same ▸ mem)

theorem count_point_of_digits (digits : ∀ c ∈ run, c.isDigit = true) : run.count '.' = 0 := by
  rw [List.count_eq_zero]
  intro mem
  cases digits '.' mem

theorem valid_of_digits (digits : ∀ c ∈ run, c.isDigit = true) : Valid run ↔ run ≠ [] := by
  rw [Valid, count_point_of_digits digits]
  constructor
  · rintro ⟨⟨c, mem, -⟩, -⟩
    exact List.ne_nil_of_mem mem
  · intro nonempty
    obtain ⟨c, mem⟩ := List.exists_mem_of_ne_nil run nonempty
    exact ⟨⟨c, mem, digits c mem⟩, Nat.zero_le 1⟩

theorem valid_point (digits : ∀ c ∈ whole, c.isDigit = true)
    (marks : ∀ c ∈ fraction, isMark c = true) :
    Valid (whole ++ '.' :: fraction) ↔ '.' ∉ fraction ∧ (whole ≠ [] ∨ fraction ≠ []) := by
  have points : (whole ++ '.' :: fraction).count '.' = fraction.count '.' + 1 := by
    rw [List.count_append, count_point_of_digits digits, Nat.zero_add, List.count_cons_self]
  have single : fraction.count '.' + 1 ≤ 1 ↔ '.' ∉ fraction := by
    rw [← List.count_eq_zero]
    omega
  rw [Valid, points, single, and_comm]
  refine and_congr_right fun absent => ⟨?_, ?_⟩
  · rintro ⟨c, mem, digit⟩
    by_contra empty
    obtain ⟨rfl, rfl⟩ : whole = [] ∧ fraction = [] := by simpa using empty
    obtain rfl := List.mem_singleton.mp mem
    cases digit
  · rintro (nonempty | nonempty)
    · obtain ⟨c, mem⟩ := List.exists_mem_of_ne_nil whole nonempty
      exact ⟨c, by simp [mem], digits c mem⟩
    · obtain ⟨c, mem⟩ := List.exists_mem_of_ne_nil fraction nonempty
      exact ⟨c, by simp [mem], isDigit_of_isMark (marks c mem) fun same => absent (same ▸ mem)⟩

/-- The digits of a valid run are those of the mantissa, and those behind the point are its
places. -/
theorem ofMarks?_eq (marks : ∀ c ∈ run, isMark c = true) (valid : Valid run) :
    ofMarks? run = some ⟨ofDigits (run.filter Char.isDigit),
      (run.dropWhile (· != '.')).tail.length⟩ := by
  rcases digits_or_point marks with digits | ⟨whole, fraction, rfl, digits⟩
  · have pointless : run.dropWhile (· != '.') = [] :=
      List.dropWhile_eq_nil_iff.mpr fun c mem => ne_point_of_isDigit (digits c mem)
    rw [ofMarks?_whole digits ((valid_of_digits digits).mp valid), List.filter_eq_self.mpr digits,
      pointless]
    rfl
  · have behind (c : Char) (mem : c ∈ fraction) : isMark c = true := marks c (by simp [mem])
    obtain ⟨absent, nonempty⟩ := (valid_point digits behind).mp valid
    have digits' (c : Char) (mem : c ∈ fraction) : c.isDigit = true :=
      isDigit_of_isMark (behind c mem) fun same => absent (same ▸ mem)
    have kept : (whole ++ '.' :: fraction).filter Char.isDigit = whole ++ fraction := by
      rw [List.filter_append, List.filter_eq_self.mpr digits,
        List.filter_cons_of_neg (by decide), List.filter_eq_self.mpr digits']
    have dropped : (whole ++ '.' :: fraction).dropWhile (· != '.') = '.' :: fraction := by
      rw [List.dropWhile_append_of_pos fun c mem => ne_point_of_isDigit (digits c mem)]
      simp
    rw [ofMarks?_number digits absent nonempty, kept, dropped, List.tail_cons]

theorem ofMarks?_eq_none (marks : ∀ c ∈ run, isMark c = true) (invalid : ¬ Valid run) :
    ofMarks? run = none := by
  rcases digits_or_point marks with digits | ⟨whole, fraction, rfl, digits⟩
  · have empty : run = [] := by simpa [valid_of_digits digits] using invalid
    rw [empty]
    rfl
  · rw [valid_point digits fun c mem => marks c (by simp [mem])] at invalid
    rw [ofMarks?_append_point digits, if_pos]
    by_contra other
    simp only [Bool.or_eq_true, List.contains_iff_mem, Bool.and_eq_true, List.isEmpty_iff, not_or,
      not_and_or] at other
    exact invalid other

end Numeral

section Scanning

variable {α : Type}

namespace Token

/-- The characters that are tokens of their own, letters apart. -/
def symbolKinds : List (Char × TokenKind α) :=
  [('+', .plus), ('-', .minus), ('*', .star), ('/', .slash), ('=', .equals), ('(', .openParen),
    (')', .closeParen)]

theorem kindOf?_symbol {c : Char} {kind : TokenKind α} (listed : (c, kind) ∈ symbolKinds) :
    kindOf? c = some kind := by
  simp only [symbolKinds, List.mem_cons, Prod.mk.injEq, List.not_mem_nil, or_false] at listed
  rcases listed with ⟨rfl, rfl⟩ | ⟨rfl, rfl⟩ | ⟨rfl, rfl⟩ | ⟨rfl, rfl⟩ | ⟨rfl, rfl⟩ | ⟨rfl, rfl⟩ |
    ⟨rfl, rfl⟩ <;> rfl

theorem kindOf?_eq_none {c : Char} (alpha : c.isAlpha = false)
    (unlisted : ∀ kind : TokenKind α, (c, kind) ∉ symbolKinds) : kindOf? (α := α) c = none := by
  unfold kindOf?
  split
  all_goals first
    | exact (unlisted _ (by simp [symbolKinds]; rfl)).elim
    | rw [alpha]; rfl

end Token

variable [Scalar α]

/-- What a piece that starts in this column gives: a run its number, or a fault with the whole run
where it has no digit or several points; a single character its symbol or lower-case letter, or a
fault with that character. -/
inductive PieceOutcome (column : Nat) : List Char → Except (Located TokenFault) (Token α) → Prop
  | number {run : List Char} (marks : ∀ c ∈ run, isMark c = true) (valid : Valid run) :
      PieceOutcome column run (.ok ⟨.number (Scalar.ofDecimal (ofDigits (run.filter Char.isDigit))
        (run.dropWhile (· != '.')).tail.length), column⟩)
  | numeral {run : List Char} (nonempty : run ≠ []) (marks : ∀ c ∈ run, isMark c = true)
      (invalid : ¬ Valid run) :
      PieceOutcome column run (.error ⟨.numeral (String.ofList run), column⟩)
  | symbol {c : Char} {kind : TokenKind α} (listed : (c, kind) ∈ Token.symbolKinds) :
      PieceOutcome column [c] (.ok ⟨kind, column⟩)
  | letter {c : Char} (alpha : c.isAlpha = true) :
      PieceOutcome column [c] (.ok ⟨.letter c.toLower, column⟩)
  | character {c : Char} (mark : isMark c = false) (alpha : c.isAlpha = false)
      (unlisted : ∀ kind : TokenKind α, (c, kind) ∉ Token.symbolKinds) :
      PieceOutcome column [c] (.error ⟨.character c, column⟩)

/-- The outcomes of all pieces behind `offset` characters, each at the column of the first character
of its piece, and the end of the input behind them. -/
structure PieceOutcomes (offset : Nat) (pieces : List (List Char))
    (outcomes : List (Except (Located TokenFault) (Token α))) : Prop where
  count : outcomes.length = pieces.length + 1
  each : ∀ before piece after, pieces = before ++ piece :: after →
    ∃ outcome, outcomes[before.length]? = some outcome ∧
      PieceOutcome (offset + 1 + before.flatten.length) piece outcome
  ending : outcomes[pieces.length]? = some (.ok ⟨.endOfInput, offset + pieces.flatten.length + 1⟩)

namespace Token

theorem pieceOutcome_located {piece : List Char} (shape : IsPiece piece) (column : Nat) :
    PieceOutcome column piece (located (α := α) column piece) := by
  cases shape with
  | run nonempty marks =>
      obtain ⟨c, cs, rfl⟩ := List.exists_cons_of_ne_nil nonempty
      have mark : isMark c = true := marks c List.mem_cons_self
      rw [located, ofLexeme, if_pos mark]
      by_cases valid : Valid (c :: cs)
      · rw [ofMarks?_eq marks valid]
        exact .number marks valid
      · rw [ofMarks?_eq_none marks valid]
        exact .numeral nonempty marks valid
  | @single c other =>
      rw [located, ofLexeme, if_neg (by simp [other])]
      cases alpha : c.isAlpha with
      | true =>
          rw [kindOf?_letter alpha]
          exact .letter alpha
      | false =>
          by_cases listed : ∃ kind : TokenKind α, (c, kind) ∈ symbolKinds
          · obtain ⟨kind, listed⟩ := listed
            rw [kindOf?_symbol listed]
            exact .symbol listed
          · rw [kindOf?_eq_none alpha (not_exists.mp listed)]
            exact .character other alpha (not_exists.mp listed)

/-- Behind some lexemes scanning goes on with the others. -/
theorem drop_scanLexemes (offset : Nat) (before after : List (List Char)) :
    (scanLexemes (α := α) offset (before ++ after)).drop before.length =
      scanLexemes (offset + before.flatten.length) after := by
  induction before generalizing offset with
  | nil => rfl
  | cons lexeme before ih =>
      rw [List.cons_append, scanLexemes, List.length_cons, List.drop_succ_cons, ih,
        List.flatten_cons, List.length_append, Nat.add_assoc]

theorem length_scanLexemes (offset : Nat) (pieces : List (List Char)) :
    (scanLexemes (α := α) offset pieces).length = pieces.length + 1 := by
  induction pieces generalizing offset with
  | nil => rfl
  | cons lexeme rest ih => rw [scanLexemes, List.length_cons, ih, List.length_cons]

theorem pieceOutcomes_scan (offset : Nat) (text : List Char) :
    PieceOutcomes (α := α) offset (lexemes text) (scan offset text) := by
  refine ⟨length_scanLexemes _ _, fun before piece after joined => ?_, ?_⟩
  · have shape : IsPiece piece := (cut_lexemes text).shapes piece (by simp [joined])
    refine ⟨located (offset + 1 + before.flatten.length) piece, ?_, pieceOutcome_located shape _⟩
    rw [scan, joined, ← List.head?_drop, drop_scanLexemes, Nat.add_right_comm]
    rfl
  · have behind := drop_scanLexemes (α := α) offset (lexemes text) []
    rw [List.append_nil] at behind
    rw [scan, ← List.head?_drop, behind]
    rfl

end Token

namespace Scanner

theorem answers_succ (calls : Nat) (s : Scanner) :
    answers (α := α) (calls + 1) s = (next s).1 :: answers calls (next (α := α) s).2 := rfl

theorem answers_ended (calls : Nat) (rest : List Char) (column : Nat) :
    answers (α := α) calls ⟨rest, column, true⟩ = List.replicate calls (.ok none) := by
  induction calls with
  | zero => rfl
  | succ calls ih => rw [answers_succ, next, ih, List.replicate_succ]

/-- A call gives the outcome of the first lexeme and leaves the text behind it. -/
theorem next_cons (c : Char) (cs : List Char) (column : Nat) :
    ∃ lexeme rest, lexemes (c :: cs) = lexeme :: lexemes rest ∧
      next (α := α) ⟨c :: cs, column, false⟩ =
        ((Token.located (column + 1) lexeme).map some, ⟨rest, column + lexeme.length, false⟩) := by
  obtain ⟨rest, joined, shape, apart⟩ := exists_piece c cs
  refine ⟨lexemeAt c cs, rest, ?_, ?_⟩
  · rw [← shape.lexemes_append apart, ← joined]
  · have left : (c :: cs).drop (lexemeAt c cs).length = rest := by
      rw [joined, List.drop_left]
    simp only [next, left, Token.located]
    cases Token.ofLexeme (α := α) (lexemeAt c cs) <;> rfl

/-- The answers to any number of calls are the outcomes of the text, and nothing behind them. -/
theorem answers_scan (calls : Nat) (column : Nat) (text : List Char) :
    answers calls ⟨text, column, false⟩ =
      ((Token.scan (α := α) column text).take calls).map (Except.map some) ++
        List.replicate (calls - (Token.scan (α := α) column text).length) (.ok none) := by
  induction calls generalizing column text with
  | zero => rw [answers, List.take_zero, Nat.zero_sub]; rfl
  | succ calls ih =>
      cases text with
      | nil =>
          have scanned : Token.scan (α := α) column [] = [.ok ⟨.endOfInput, column + 1⟩] := rfl
          rw [answers_succ, next, answers_ended, scanned]
          simp [Except.map]
      | cons c cs =>
          obtain ⟨lexeme, rest, first, answer⟩ := next_cons (α := α) c cs column
          have scanned : Token.scan (α := α) column (c :: cs) =
              Token.located (column + 1) lexeme :: Token.scan (column + lexeme.length) rest := by
            rw [Token.scan, first, Token.scanLexemes_cons]
            rfl
          rw [answers_succ, answer, scanned, ih, List.take_succ_cons, List.map_cons, List.cons_append,
            List.length_cons, Nat.add_sub_add_right]

/-- A text is cut in exactly one way. Any number of calls gives the outcomes of its pieces in order,
then the end of the input, and nothing ever after; faults are no reason to stop. The tokens of the
text are these outcomes if all of them are tokens, and otherwise its fault is the first of them. -/
theorem answers_ofText (offset : Nat) (text : List Char) :
    ∃ pieces outcomes, (∀ others, Cut text others ↔ others = pieces) ∧
      PieceOutcomes (α := α) offset pieces outcomes ∧
      (∀ calls, answers calls (ofText offset text) =
        (outcomes.take calls).map (Except.map some) ++
          List.replicate (calls - outcomes.length) (.ok none)) ∧
      (∀ tokens, Token.tokenize offset text = .ok tokens ↔ outcomes = tokens.map .ok) ∧
      ∀ fault, Token.tokenize (α := α) offset text = .error fault ↔
        ∃ (before : List (Token α)) (after : List (Except (Located TokenFault) (Token α))),
          outcomes = before.map .ok ++ .error fault :: after :=
  ⟨lexemes text, Token.scan offset text, fun _ => cut_iff, Token.pieceOutcomes_scan offset text,
    fun calls => answers_scan calls offset text, fun _ => mapM_ok_iff, fun _ => mapM_error_iff⟩

example : answers (α := α) 6 (ofText 2 "1..2X^".toList) =
    [.error ⟨.numeral "1..2", 3⟩, .ok (some ⟨.letter 'x', 7⟩), .error ⟨.character '^', 8⟩,
      .ok (some ⟨.endOfInput, 9⟩), .ok none, .ok none] := rfl

end Scanner

end Scanning
end WorkedAlgebra
