import WorkedAlgebra.Proofs.Letters
import WorkedAlgebra.Proofs.Parsing

/-!
The coefficients that are read off a text. In a text that is an expression each of them is one or
a number of its tree, up to the sign, so reading them off cannot fail there.
-/

namespace WorkedAlgebra

open Numeral

variable {α : Type} [Scalar α]

/-- The numeral in front of a letter is a lexeme of the text. -/
theorem digits_mem_lexemes {before : List Char} (rest : List Char) {c : Char} (other : isMark c = false)
    (nonempty : before.takeWhile isMark ≠ []) :
    (before.takeWhile isMark).reverse ∈ lexemes (before.reverse ++ c :: rest) := by
  have joined : before.reverse ++ c :: rest =
      (before.dropWhile isMark).reverse ++ ((before.takeWhile isMark).reverse ++ c :: rest) := by
    rw [← List.append_assoc, ← List.reverse_append, List.takeWhile_append_dropWhile]
  have apartLeft : Apart (before.dropWhile isMark).reverse
      ((before.takeWhile isMark).reverse ++ c :: rest) := by
    refine apart_of_last fun d hd => ?_
    rw [List.getLast?_reverse] at hd
    simpa [Option.mem_def.mp hd] using List.head?_dropWhile_not isMark before
  have apartRight : Apart (before.takeWhile isMark).reverse (c :: rest) :=
    apart_of_head (by simpa using other)
  rw [joined, lexemes_append apartLeft, lexemes_append apartRight,
    lexemes_marks (by simpa using nonempty) fun d hd =>
      List.mem_takeWhile_imp (List.mem_reverse.mp hd)]
  exact List.mem_append_right _ List.mem_cons_self

/-- A lexeme of numeral marks is a token only if it is a numeral. -/
theorem ofMarks_of_ofLexeme {run : List Char} (nonempty : run ≠ [])
    (marks : ∀ c ∈ run, isMark c = true) {kind : TokenKind α}
    (read : Token.ofLexeme run = .ok kind) :
    ∃ n, ofMarks? run = some n ∧ kind = .number (Scalar.ofDecimal n.mantissa n.places) := by
  cases run with
  | nil => exact (nonempty rfl).elim
  | cons c cs =>
      simp only [Token.ofLexeme, marks c List.mem_cons_self, if_true] at read
      split at read
      · rename_i n found
        exact ⟨n, found, (Except.ok.inj read).symm⟩
      · cases read

namespace LinearForm

/-- In an expression the coefficient in front of a letter is one or a number of the tree. -/
theorem coefficientBefore_of_parsed {offset : Nat} {before rest : List Char} {c : Char}
    {e : Expr α} (parsed : Expr.ofText offset (before.reverse ++ c :: rest) = .ok e)
    (other : isMark c = false) (letter : Char) :
    ∃ m, (m = Scalar.one ∨ e.HasNumber m) ∧
      (coefficientBefore letter before = .ok m ∨ coefficientBefore letter before = .ok (-m)) := by
  by_cases none : before.takeWhile isMark = []
  · refine ⟨Scalar.one, .inl rfl, ?_⟩
    simp only [coefficientBefore, none, List.reverse_nil, List.isEmpty_nil, if_true, Except.map]
    split
    · exact .inr rfl
    · exact .inl rfl
  · have mem := digits_mem_lexemes rest other none
    obtain ⟨kinds, level, reads, advanced, value⟩ := Expr.ofText_ok_iff.mp parsed
    obtain ⟨kind, -, read⟩ := reads.exists_kind mem
    have nonempty : (before.takeWhile isMark).reverse ≠ [] := by simpa using none
    obtain ⟨n, numeral, rfl⟩ := ofMarks_of_ofLexeme nonempty
      (fun d hd => List.mem_takeWhile_imp (List.mem_reverse.mp hd)) read
    refine ⟨_, .inr (Expr.hasNumber_of_lexeme parsed mem read), ?_⟩
    simp only [coefficientBefore, List.isEmpty_eq_false_iff.mpr nonempty, numeral, Except.map,
      Bool.false_eq_true, if_false]
    split
    · exact .inr rfl
    · exact .inl rfl

/-- Reading off the coefficients of a letter keeps what one, the numbers of the tree and sums have
in common; `n` counts the characters that have been passed. -/
theorem scanFrom_of_parsed {letter : Char} (alpha : letter.isAlpha = true) {offset : Nat}
    {e : Expr α} {P : Nat → α → Prop} (skip : ∀ n sum, P n sum → P (n + 1) sum)
    (add : ∀ n sum m, P n sum → m = Scalar.one ∨ e.HasNumber m →
      P (n + 1) (sum + m) ∧ P (n + 1) (sum + -m))
    {before rest : List Char} (parsed : Expr.ofText offset (before.reverse ++ rest) = .ok e)
    {sum : α} (start : P before.length sum) :
    ∃ v, scanFrom letter before sum rest = .ok v ∧ P (before.length + rest.length) v := by
  induction rest generalizing before sum with
  | nil => exact ⟨sum, rfl, start⟩
  | cons c cs ih =>
      have parsed' : Expr.ofText offset ((c :: before).reverse ++ cs) = .ok e := by
        simpa using parsed
      have count : (c :: before).length + cs.length = before.length + (c :: cs).length := by
        simp only [List.length_cons]
        omega
      rw [← count]
      cases same : isLetter letter c with
      | false => simpa [scanFrom, same] using ih parsed' (skip _ _ start)
      | true =>
          obtain ⟨m, known, plain | negated⟩ :=
            coefficientBefore_of_parsed parsed (isMark_of_isLetter alpha same) letter
          · simpa [scanFrom, same, plain] using ih parsed' (add _ _ _ start known).1
          · simpa [scanFrom, same, negated] using ih parsed' (add _ _ _ start known).2

/-- Coefficients can be read off every expression. -/
theorem scanCoefficient_of_parsed {letter : Char} (alpha : letter.isAlpha = true) {offset : Nat}
    {text : List Char} {e : Expr α} (parsed : Expr.ofText offset text = .ok e)
    {P : Nat → α → Prop} (start : P 0 Scalar.zero) (skip : ∀ n sum, P n sum → P (n + 1) sum)
    (add : ∀ n sum m, P n sum → m = Scalar.one ∨ e.HasNumber m →
      P (n + 1) (sum + m) ∧ P (n + 1) (sum + -m)) :
    ∃ v, scanCoefficient letter text = .ok v ∧ P text.length v := by
  have parsed' : Expr.ofText offset ([].reverse ++ text) = .ok e := parsed
  obtain ⟨v, scanned, final⟩ := scanFrom_of_parsed alpha skip add parsed' start
  exact ⟨v, by simp [scanCoefficient, scanned], by simpa using final⟩

end LinearForm
end WorkedAlgebra
