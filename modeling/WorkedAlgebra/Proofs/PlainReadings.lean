import WorkedAlgebra.Proofs.Derivations
import WorkedAlgebra.Proofs.PlainSides

/-!
What solving reads off a plain side: its value, and the coefficient of a letter.
-/

namespace WorkedAlgebra

variable {α : Type} [Scalar α]

open Scalar

def signed (lead : Option TermSign) (v : α) : α :=
  match lead with
  | some .minus => -v
  | _ => v

def TermSign.join (s : TermSign) (u v : α) : α :=
  match s with
  | .plus => u + v
  | .minus => u - v

namespace PlainTerm

def value (at_ : Char → α) (lead : Option TermSign) : PlainTerm → α
  | .number n => signed lead n.scalar
  | .letter l => signed lead (at_ l.name)
  | .product n l => signed lead n.scalar * at_ l.name

def coefficient? (letter : Char) : PlainTerm → Option α
  | .number _ => none
  | .letter l => if LinearForm.isLetter letter l.written then some one else none
  | .product n l => if LinearForm.isLetter letter l.written then some n.scalar else none

def addTo (letter : Char) (sum : α) (lead : Option TermSign) (t : PlainTerm) : α :=
  match t.coefficient? letter with
  | some m => sum + signed lead m
  | none => sum

theorem mem_lettersOf_letter (l : Letter) (cs : List Char) : l.name ∈ lettersOf (cs ++ [l.written]) :=
  mem_lettersOf.mpr ⟨l.written, by simp, l.isAlpha, rfl⟩

theorem evaluate_tree {b : Bindings α} {at_ : Char → α} (lead : Option TermSign) (t : PlainTerm)
    (bound : ∀ c ∈ lettersOf t.text, b c = some (at_ c)) :
    (t.tree lead).evaluate b = .ok (t.value at_ lead) := by
  cases t with
  | number n =>
      cases lead with
      | none => rfl
      | some s => cases s <;> rfl
  | letter l =>
      have value := bound l.name (mem_lettersOf_letter l [])
      cases lead with
      | none => simp [tree, Expr.evaluate, PlainTerm.value, signed, value]
      | some s =>
          cases s <;>
            simp [tree, Expr.evaluate, PlainTerm.value, signed, value, TermSign.symbol,
              Expr.applySign, bind, Except.bind, pure, Except.pure]
  | product n l =>
      have value := bound l.name (mem_lettersOf_letter l n.marks)
      cases lead with
      | none =>
          simp [tree, Expr.evaluate, PlainTerm.value, signed, value, Expr.applyOperator, bind,
            Except.bind]
      | some s =>
          cases s <;>
            simp [tree, Expr.evaluate, PlainTerm.value, signed, value, TermSign.symbol,
              Expr.applySign, Expr.applyOperator, bind, Except.bind, pure, Except.pure]

end PlainTerm

namespace PlainSide

def value (at_ : Char → α) (side : PlainSide) : α :=
  side.rest.foldl (fun v st => st.1.join v (st.2.value at_ none)) (side.first.value at_ side.lead)

def coefficient (letter : Char) (side : PlainSide) : α :=
  side.rest.foldl (fun sum st => st.2.addTo letter sum (some st.1))
    (side.first.addTo letter zero side.lead)

theorem evaluate_foldl {b : Bindings α} {at_ : Char → α} (rest : List (TermSign × PlainTerm))
    (bound : ∀ c ∈ lettersOf (restText rest), b c = some (at_ c)) {e : Expr α} {v : α}
    (start : e.evaluate b = .ok v) :
    (rest.foldl (fun e st => .binary st.1.symbol e (st.2.tree none)) e).evaluate b =
      .ok (rest.foldl (fun v st => st.1.join v (st.2.value at_ none)) v) := by
  induction rest generalizing e v with
  | nil => exact start
  | cons st rest ih =>
      have parts : lettersOf (restText (st :: rest)) =
          lettersOf [st.1.char] ++ (lettersOf st.2.text ++ lettersOf (restText rest)) := by
        rw [← lettersOf_append, ← lettersOf_append]
        rfl
      rw [parts] at bound
      refine ih (fun c hc => bound c (by simp [hc])) ?_
      have term := st.2.evaluate_tree none fun c hc => bound c (by simp [hc])
      rw [Expr.evaluate, start, term]
      rcases st with ⟨_ | _, t⟩ <;> rfl

/-- A plain side has a value wherever its letters have one. -/
theorem evaluate_tree {b : Bindings α} {at_ : Char → α} (side : PlainSide)
    (bound : ∀ c ∈ lettersOf side.text, b c = some (at_ c)) :
    side.tree.evaluate b = .ok (side.value at_) := by
  rw [text, lettersOf_append, lettersOf_append] at bound
  exact evaluate_foldl side.rest (fun c hc => bound c (by simp [hc]))
    (side.first.evaluate_tree side.lead fun c hc => bound c (by simp [hc]))

end PlainSide

section Scanning

variable {letter : Char}

open Numeral LinearForm

theorem isAlpha_of_isLetter {c : Char} (alpha : letter.isAlpha = true)
    (same : isLetter letter c = true) : c.isAlpha = true := by
  have numbers : c.toLower.toNat = letter.toLower.toNat := by rw [eq_of_beq same]
  rw [toNat_toLower, toNat_toLower] at numbers
  rw [isAlpha_iff] at alpha ⊢
  split at numbers <;> split at numbers <;> omega

theorem scanFrom_skip {before cs rest : List Char} {sum : α}
    (other : ∀ c ∈ cs, isLetter letter c = false) :
    scanFrom letter before sum (cs ++ rest) = scanFrom letter (cs.reverse ++ before) sum rest := by
  induction cs generalizing before with
  | nil => rfl
  | cons c cs ih =>
      rw [List.cons_append, scanFrom, other c List.mem_cons_self, if_neg Bool.false_ne_true,
        ih fun d hd => other d (List.mem_cons_of_mem c hd)]
      simp

def Leads (lead : Option TermSign) (before : List Char) : Prop :=
  match lead with
  | none => before = []
  | some s => ∃ rest, before = s.char :: rest

theorem coefficientBefore_leads {lead : Option TermSign} {before : List Char}
    (leads : Leads lead before) : coefficientBefore letter before = .ok (signed lead (one : α)) := by
  cases lead with
  | none =>
      cases leads
      rfl
  | some s =>
      obtain ⟨rest, rfl⟩ := leads
      cases s <;> rfl

theorem takeWhile_marks {run before : List Char} {lead : Option TermSign}
    (marks : ∀ c ∈ run, isMark c = true) (leads : Leads lead before) :
    (run.reverse ++ before).takeWhile isMark = run.reverse ∧
      (run.reverse ++ before).dropWhile isMark = before := by
  have marks' : ∀ c ∈ run.reverse, isMark c = true := fun c hc => marks c (List.mem_reverse.mp hc)
  rw [List.takeWhile_append_of_pos marks', List.dropWhile_append_of_pos marks']
  cases lead with
  | none =>
      cases leads
      simp
  | some s =>
      obtain ⟨rest, rfl⟩ := leads
      simp [s.isMark_char]

theorem coefficientBefore_marks (n : Written) {lead : Option TermSign} {before : List Char}
    (leads : Leads lead before) :
    coefficientBefore letter (n.marks.reverse ++ before) = .ok (signed lead (n.scalar : α)) := by
  obtain ⟨taken, dropped⟩ := takeWhile_marks n.isMark_of_mem leads
  have nonempty : n.marks.isEmpty = false := List.isEmpty_eq_false_iff.mpr n.marks_ne_nil
  simp only [coefficientBefore, taken, dropped, List.reverse_reverse, nonempty, n.reads,
    Bool.false_eq_true, if_false]
  cases lead with
  | none =>
      cases leads
      rfl
  | some s =>
      obtain ⟨rest, rfl⟩ := leads
      cases s <;> rfl

theorem scanFrom_term (alpha : letter.isAlpha = true) (t : PlainTerm) {lead : Option TermSign}
    {before rest : List Char} {sum : α} (leads : Leads lead before) :
    scanFrom letter before sum (t.text ++ rest) =
      scanFrom letter (t.text.reverse ++ before) (t.addTo letter sum lead) rest := by
  have marks (n : Written) (c : Char) (hc : c ∈ n.marks) : isLetter letter c = false := by
    rw [← Bool.not_eq_true]
    intro same
    have mark := n.isMark_of_mem c hc
    rw [isMark_of_isLetter alpha same] at mark
    cases mark
  cases t with
  | number n => exact scanFrom_skip (marks n)
  | letter l =>
      cases same : isLetter letter l.written with
      | false => simp [PlainTerm.text, PlainTerm.addTo, PlainTerm.coefficient?, scanFrom, same]
      | true =>
          simp [PlainTerm.text, PlainTerm.addTo, PlainTerm.coefficient?, scanFrom, same,
            coefficientBefore_leads leads]
  | product n l =>
      rw [PlainTerm.text, List.append_assoc, scanFrom_skip (marks n)]
      cases same : isLetter letter l.written with
      | false => simp [PlainTerm.addTo, PlainTerm.coefficient?, scanFrom, same]
      | true =>
          simp [PlainTerm.addTo, PlainTerm.coefficient?, scanFrom, same,
            coefficientBefore_marks n leads]

theorem isLetter_char (alpha : letter.isAlpha = true) (s : TermSign) :
    isLetter letter s.char = false := by
  rw [← Bool.not_eq_true]
  intro same
  have sign := isSign_of_isAlpha (isAlpha_of_isLetter alpha same)
  rw [s.isSign_char] at sign
  cases sign

theorem scanFrom_restText (alpha : letter.isAlpha = true) (rest : List (TermSign × PlainTerm))
    (before : List Char) (sum : α) :
    scanFrom letter before sum (PlainSide.restText rest) =
      .ok (rest.foldl (fun sum st => st.2.addTo letter sum (some st.1)) sum) := by
  induction rest generalizing before sum with
  | nil => rfl
  | cons st rest ih =>
      have parts : PlainSide.restText (st :: rest) =
          [st.1.char] ++ (st.2.text ++ PlainSide.restText rest) := rfl
      have leads : Leads (some st.1) ([st.1.char].reverse ++ before) := ⟨before, rfl⟩
      rw [parts, scanFrom_skip (by simpa using isLetter_char alpha st.1),
        scanFrom_term alpha st.2 leads, ih]
      rfl

/-- On a plain side all coefficients of a letter are read off. -/
theorem scanCoefficient_text (alpha : letter.isAlpha = true) (side : PlainSide) :
    scanCoefficient letter side.text = .ok (side.coefficient letter : α) := by
  have scanned : scanFrom letter [] (zero : α) side.text = .ok (side.coefficient letter) := by
    rw [PlainSide.text, List.append_assoc]
    cases lead : side.lead with
    | none =>
        have leads : Leads none [] := rfl
        change scanFrom letter [] zero (side.first.text ++ _) = _
        rw [scanFrom_term alpha side.first leads, scanFrom_restText alpha, PlainSide.coefficient,
          lead]
    | some s =>
        have leads : Leads (some s) ([s.char].reverse ++ []) := ⟨[], rfl⟩
        change scanFrom letter [] zero ([s.char] ++ (side.first.text ++ _)) = _
        rw [scanFrom_skip (by simpa using isLetter_char alpha s),
          scanFrom_term alpha side.first leads, scanFrom_restText alpha, PlainSide.coefficient,
          lead]
  rw [scanCoefficient, scanned]

end Scanning
end WorkedAlgebra
