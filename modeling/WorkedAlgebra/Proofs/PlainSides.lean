import WorkedAlgebra.Proofs.Letters
import WorkedAlgebra.Proofs.Parsing
import WorkedAlgebra.Proofs.SignRuns

/-!
Plain sides: chains of terms joined by single signs, where a term is a numeral, a letter, or a
numeral directly followed by a letter. Such a side is read as a sum that grows to the right.
-/

namespace WorkedAlgebra

open Numeral

structure Written where
  marks : List Char
  value : Numeral
  all_isMark : marks.all isMark = true
  reads : ofMarks? marks = some value

structure Letter where
  written : Char
  isAlpha : written.isAlpha = true

inductive TermSign where
  | plus
  | minus
deriving DecidableEq

inductive PlainTerm where
  | number (numeral : Written)
  | letter (letter : Letter)
  | product (numeral : Written) (letter : Letter)

structure PlainSide where
  /-- The sign in front of the first term, if one is written. -/
  lead : Option TermSign
  first : PlainTerm
  rest : List (TermSign × PlainTerm)

theorem Written.isMark_of_mem (n : Written) : ∀ c ∈ n.marks, isMark c = true :=
  List.all_eq_true.mp n.all_isMark

theorem Written.marks_ne_nil (n : Written) : n.marks ≠ [] := by
  intro empty
  have reads := n.reads
  rw [empty] at reads
  cases reads

def Letter.name (l : Letter) : Char := l.written.toLower

namespace TermSign

def char : TermSign → Char
  | .plus => '+'
  | .minus => '-'

def symbol : TermSign → Symbol
  | .plus => .plus
  | .minus => .minus

def kind {α : Type} : TermSign → TokenKind α
  | .plus => .plus
  | .minus => .minus

theorem isSign_char (s : TermSign) : Text.isSign s.char = true := by
  cases s <;> rfl

theorem isMark_char (s : TermSign) : isMark s.char = false := by
  cases s <;> decide

end TermSign

namespace PlainTerm

def text : PlainTerm → List Char
  | .number n => n.marks
  | .letter l => [l.written]
  | .product n l => n.marks ++ [l.written]

def pieces : PlainTerm → List (List Char)
  | .number n => [n.marks]
  | .letter l => [[l.written]]
  | .product n l => [n.marks, [l.written]]

theorem lexemes_text (t : PlainTerm) : lexemes t.text = t.pieces := by
  cases t with
  | number n => exact lexemes_marks n.marks_ne_nil n.isMark_of_mem
  | letter l => rfl
  | product n l =>
      have apart : Apart n.marks [l.written] :=
        apart_of_head (by simpa using isMark_of_isAlpha l.isAlpha)
      rw [text, lexemes_append apart, lexemes_marks n.marks_ne_nil n.isMark_of_mem]
      rfl

theorem isSign_of_mem_text (t : PlainTerm) {c : Char} (mem : c ∈ t.text) :
    Text.isSign c = false := by
  cases t with
  | number n => exact isSign_of_isMark (n.isMark_of_mem c mem)
  | letter l =>
      rw [List.mem_singleton.mp mem]
      exact isSign_of_isAlpha l.isAlpha
  | product n l =>
      rcases List.mem_append.mp mem with inMarks | inLetter
      · exact isSign_of_isMark (n.isMark_of_mem c inMarks)
      · rw [List.mem_singleton.mp inLetter]
        exact isSign_of_isAlpha l.isAlpha

theorem text_ne_nil (t : PlainTerm) : t.text ≠ [] := by
  cases t with
  | number n => exact n.marks_ne_nil
  | letter l => simp [text]
  | product n l => simp [text]

end PlainTerm

namespace PlainSide

def leadText : Option TermSign → List Char
  | none => []
  | some s => [s.char]

def restText (rest : List (TermSign × PlainTerm)) : List Char :=
  rest.flatMap fun st => st.1.char :: st.2.text

def text (side : PlainSide) : List Char :=
  leadText side.lead ++ side.first.text ++ restText side.rest

def restPieces (rest : List (TermSign × PlainTerm)) : List (List Char) :=
  rest.flatMap fun st => [st.1.char] :: st.2.pieces

def pieces (side : PlainSide) : List (List Char) :=
  (leadText side.lead).map (fun c => [c]) ++ side.first.pieces ++ restPieces side.rest

theorem text_ne_nil (side : PlainSide) : side.text ≠ [] := by
  simp [text, side.first.text_ne_nil]

theorem apart_restText (u : List Char) (rest : List (TermSign × PlainTerm)) :
    Apart u (restText rest) := by
  refine apart_of_head fun d hd => ?_
  cases rest with
  | nil => cases hd
  | cons st rest =>
      obtain rfl : st.1.char = d := by simpa [restText] using hd
      exact st.1.isMark_char

theorem lexemes_restText (rest : List (TermSign × PlainTerm)) :
    lexemes (restText rest) = restPieces rest := by
  induction rest with
  | nil => rfl
  | cons st rest ih =>
      change lexemes (st.1.char :: (st.2.text ++ restText rest)) =
        [st.1.char] :: (st.2.pieces ++ restPieces rest)
      rw [lexemes_single st.1.isMark_char, lexemes_append (apart_restText _ rest),
        st.2.lexemes_text, ih]

theorem lexemes_text (side : PlainSide) : lexemes side.text = side.pieces := by
  have lead : Apart (leadText side.lead) side.first.text := by
    refine apart_of_last fun c hc => ?_
    cases lead : side.lead with
    | none => simp [leadText, lead] at hc
    | some s =>
        obtain rfl : s.char = c := by simpa [leadText, lead] using hc
        exact s.isMark_char
  have leadPieces : lexemes (leadText side.lead) = (leadText side.lead).map fun c => [c] := by
    cases side.lead <;> rfl
  rw [text, lexemes_append (apart_restText _ _), lexemes_append lead, leadPieces,
    side.first.lexemes_text, lexemes_restText]
  rfl

theorem singlySigned_append {cs rest : List Char} (other : ∀ c ∈ cs, Text.isSign c = false)
    (single : Text.SinglySigned rest) : Text.SinglySigned (cs ++ rest) := by
  induction cs with
  | nil => exact single
  | cons c cs ih =>
      rw [List.cons_append, Text.singlySigned_cons_iff, other c List.mem_cons_self]
      exact ⟨fun _ _ => Bool.false_and _, ih fun d mem => other d (List.mem_cons_of_mem c mem)⟩

theorem singlySigned_term (t : PlainTerm) {rest : List Char}
    (single : Text.SinglySigned rest) : Text.SinglySigned (t.text ++ rest) :=
  singlySigned_append (fun _ mem => t.isSign_of_mem_text mem) single

theorem singlySigned_signed (s : TermSign) (t : PlainTerm) {rest : List Char}
    (single : Text.SinglySigned rest) : Text.SinglySigned (s.char :: (t.text ++ rest)) := by
  rw [Text.singlySigned_cons_iff]
  refine ⟨fun d hd => ?_, singlySigned_term t single⟩
  cases text : t.text with
  | nil => exact (t.text_ne_nil text).elim
  | cons c cs =>
      obtain rfl : c = d := by simpa [text] using hd
      have other : Text.isSign c = false :=
        t.isSign_of_mem_text (text ▸ List.mem_cons_self : c ∈ t.text)
      rw [other, Bool.and_false]

theorem singlySigned_restText (rest : List (TermSign × PlainTerm)) :
    Text.SinglySigned (restText rest) := by
  induction rest with
  | nil => exact .nil
  | cons st rest ih => exact singlySigned_signed st.1 st.2 ih

/-- The signs of a plain side are single already. -/
theorem collapseSigns_text (side : PlainSide) : Text.collapseSigns side.text = side.text := by
  refine Text.collapseSigns_of_singlySigned ?_
  rw [text, List.append_assoc]
  cases side.lead with
  | none => exact singlySigned_term _ (singlySigned_restText _)
  | some s => exact singlySigned_signed s _ (singlySigned_restText _)

end PlainSide

section Trees

variable {α : Type} [Scalar α]

def Written.scalar (n : Written) : α := Scalar.ofDecimal n.value.mantissa n.value.places

theorem Written.ofLexeme_marks (n : Written) :
    Token.ofLexeme n.marks = .ok (.number (n.scalar : α)) := by
  have reads := n.reads
  have mark := n.isMark_of_mem
  cases marks : n.marks with
  | nil => exact (n.marks_ne_nil marks).elim
  | cons c cs =>
      rw [marks] at reads mark
      simp [Token.ofLexeme, mark c List.mem_cons_self, reads, Written.scalar]

theorem Letter.ofLexeme_written (l : Letter) :
    Token.ofLexeme [l.written] = .ok (.letter l.name : TokenKind α) := by
  have alpha := l.isAlpha
  have kind : Token.kindOf? l.written = some (.letter l.name : TokenKind α) := by
    unfold Token.kindOf?
    split <;> simp_all [Letter.name]
  simp [Token.ofLexeme, isMark_of_isAlpha alpha, kind]

theorem TermSign.ofLexeme_char (s : TermSign) :
    Token.ofLexeme [s.char] = .ok (s.kind : TokenKind α) := by
  cases s <;> rfl

namespace PlainTerm

def kinds : PlainTerm → List (TokenKind α)
  | .number n => [.number n.scalar]
  | .letter l => [.letter l.name]
  | .product n l => [.number n.scalar, .letter l.name]

theorem reads_pieces (t : PlainTerm) : Token.Reads t.pieces (t.kinds : List (TokenKind α)) := by
  cases t with
  | number n => exact .cons n.ofLexeme_marks .nil
  | letter l => exact .cons l.ofLexeme_written .nil
  | product n l => exact .cons n.ofLexeme_marks (.cons l.ofLexeme_written .nil)

/-- A sign in front of a product binds to its numeral. -/
def tree (lead : Option TermSign) (t : PlainTerm) : Expr α :=
  let signed (e : Expr α) := match lead with
    | none => e
    | some s => .unary s.symbol e
  match t with
  | .number n => signed (.number n.scalar)
  | .letter l => signed (.letter l.name)
  | .product n l => .binary .star (signed (.number n.scalar)) (.letter l.name)

def leadSymbols : Option TermSign → List Symbol
  | none => []
  | some s => [s.symbol]

theorem advance_kinds (lead : Option TermSign) (t : PlainTerm)
    (sum : Option (Expr α × Symbol)) (outer : List (Pending α)) :
    (Reading.before ⟨sum, none, leadSymbols lead⟩ outer).advance t.kinds =
      some (.after ⟨sum, t.tree lead⟩ outer) := by
  cases lead <;> cases t <;> rfl

end PlainTerm

namespace PlainSide

def restKinds (rest : List (TermSign × PlainTerm)) : List (TokenKind α) :=
  rest.flatMap fun st => st.1.kind :: st.2.kinds

def leadKinds : Option TermSign → List (TokenKind α)
  | none => []
  | some s => [s.kind]

theorem reads_pieces (side : PlainSide) :
    Token.Reads side.pieces
      (leadKinds side.lead ++ side.first.kinds ++ restKinds side.rest : List (TokenKind α)) := by
  have rest : Token.Reads (restPieces side.rest) (restKinds side.rest : List (TokenKind α)) := by
    induction side.rest with
    | nil => exact .nil
    | cons st rest ih => exact .cons st.1.ofLexeme_char (List.rel_append st.2.reads_pieces ih)
  refine List.rel_append (List.rel_append ?_ side.first.reads_pieces) rest
  cases side.lead with
  | none => exact .nil
  | some s => exact .cons s.ofLexeme_char .nil

/-- The tree of a plain side grows to the right. -/
def tree (side : PlainSide) : Expr α :=
  side.rest.foldl (fun e st => .binary st.1.symbol e (st.2.tree none)) (side.first.tree side.lead)

theorem advance_restKinds (rest : List (TermSign × PlainTerm)) (level : Settled α) :
    ∃ last, (Reading.after level []).advance (restKinds rest) = some (.after last []) ∧
      last.value =
        rest.foldl (fun e st => .binary st.1.symbol e (st.2.tree none)) level.value := by
  induction rest generalizing level with
  | nil => exact ⟨level, rfl, rfl⟩
  | cons st rest ih =>
      obtain ⟨last, advanced, value⟩ :=
        ih ⟨some (level.value, st.1.symbol), st.2.tree none⟩
      refine ⟨last, ?_, value⟩
      have term := st.2.advance_kinds none (some (level.value, st.1.symbol)) []
      have sign : (Reading.after level []).step? (st.1.kind : TokenKind α) =
          some (.before ⟨some (level.value, st.1.symbol), none, []⟩ []) := by
        cases st.1 <;> rfl
      change (Reading.after level []).advance (st.1.kind :: (st.2.kinds ++ restKinds rest)) = _
      rw [Reading.advance, sign, Option.bind_some, Reading.advance_append]
      rw [show Reading.advance (.before ⟨some (level.value, st.1.symbol), none, []⟩ [])
        st.2.kinds = some _ from term, Option.bind_some]
      exact advanced

/-- A plain side is an expression, with the tree of its sum. -/
theorem ofSide_text (side : PlainSide) (offset : Nat) :
    Expr.ofSide offset side.text = .ok (side.tree : Expr α) := by
  obtain ⟨last, advanced, value⟩ :=
    advance_restKinds side.rest (⟨none, side.first.tree side.lead⟩ : Settled α)
  rw [Expr.ofSide, collapseSigns_text, Expr.ofText_ok_iff, lexemes_text]
  refine ⟨_, last, side.reads_pieces, ?_, value⟩
  have term := side.first.advance_kinds (α := α) side.lead none []
  have lead : Reading.start.advance (leadKinds side.lead : List (TokenKind α)) =
      some (.before ⟨none, none, PlainTerm.leadSymbols side.lead⟩ []) := by
    cases side.lead with
    | none => rfl
    | some s => cases s <;> rfl
  rw [Reading.advance_append, Reading.advance_append, lead, Option.bind_some, term,
    Option.bind_some, advanced]

end PlainSide
end Trees
end WorkedAlgebra
