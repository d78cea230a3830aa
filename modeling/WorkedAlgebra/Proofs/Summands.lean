import WorkedAlgebra.Proofs.SignRounds
import WorkedAlgebra.Proofs.SumTexts

/-!
Sums of any texts that stand as a term. A summand says how its text is cleaned, cut, read and
valued, whatever stands around it; a chain of summands joined by signs is then an expression, and
its value is the sum from left to right. Dividing a summand by an operand gives a summand again.
-/

namespace WorkedAlgebra

open Scalar Text

section Collapsing

/-- A single sign in front of something else stays. -/
theorem collapseSigns_sign {c : Char} (sign : isSign c = true) {cs : List Char}
    (other : ∀ d ∈ cs.head?, isSign d = false) :
    collapseSigns (c :: cs) = c :: collapseSigns cs := by
  have run := collapseSigns_signs (List.cons_ne_nil c []) (by simpa using sign) other
  rcases signs_cases sign with rfl | rfl <;> exact run

end Collapsing

/-- A text that stands as a term of a sum, and what it is worth under some bindings. -/
structure Summand (b : Bindings Float) where
  /-- The text as it is shown, with blanks. -/
  shown : List Char
  /-- The text without blanks. -/
  text : List Char
  kinds : List (TokenKind Float)
  /-- The tree of the summand behind a sign, which binds to its first factor. -/
  tree : Option TermSign → Expr Float
  value : Float
  tidy : ∀ c ∈ shown, Tidy c
  filter_shown : (shown.filter fun c => !isBlank c) = text
  head_text : ∃ c cs, text = c :: cs ∧ isSign c = false
  collapse : ∀ rest, collapseSigns (text ++ rest) = text ++ collapseSigns rest
  reads : Token.Reads (lexemes text) kinds
  advance : ∀ lead sum outer,
    (Reading.before ⟨sum, none, PlainTerm.leadSymbols lead⟩ outer).advance kinds =
      some (.after ⟨sum, tree lead⟩ outer)
  evaluate : ∀ lead, (tree lead).evaluate b = .ok (signed lead value)

namespace Summand

variable {b : Bindings Float}

theorem head_append (s : Summand b) (rest : List Char) :
    ∀ d ∈ (s.text ++ rest).head?, isSign d = false := by
  obtain ⟨c, cs, text, other⟩ := s.head_text
  intro d first
  rw [text] at first
  obtain rfl : c = d := Option.some.inj first
  exact other

section Terms

variable {t : PlainTerm} {at_ : Char → Float} {v : Float}

def ofTerm (t : PlainTerm) (bound : ∀ c ∈ lettersOf t.text, b c = some (at_ c))
    (worth : ∀ lead, t.value at_ lead = signed lead v) : Summand b where
  shown := t.text
  text := t.text
  kinds := t.kinds
  tree := t.tree
  value := v
  tidy c mem := (PlainSide.kept_of_mem_term t c mem).toTidy
  filter_shown := PlainSide.filter_of_kept (PlainSide.kept_of_mem_term t)
  head_text := by
    obtain ⟨c, cs, text⟩ := List.exists_cons_of_ne_nil t.text_ne_nil
    exact ⟨c, cs, text, t.isSign_of_mem_text (text ▸ List.mem_cons_self)⟩
  collapse _ := collapseSigns_append (fun _ mem => t.isSign_of_mem_text mem) _
  reads := t.lexemes_text ▸ t.reads_pieces
  advance lead sum outer := t.advance_kinds lead sum outer
  evaluate lead := (t.evaluate_tree lead bound).trans (congrArg Except.ok (worth lead))

end Terms

end Summand

/-- What a term is divided by: a numeral, in brackets together with its sign if it is negative. -/
structure Divisor where
  negative : Bool
  magnitude : Written

namespace Divisor

def text (d : Divisor) : List Char :=
  if d.negative then '(' :: '-' :: (d.magnitude.marks ++ [')']) else d.magnitude.marks

def kinds (d : Divisor) : List (TokenKind Float) :=
  if d.negative then [.openParen, .minus, .number d.magnitude.scalar, .closeParen]
  else [.number d.magnitude.scalar]

def tree (d : Divisor) : Expr Float :=
  if d.negative then .unary .minus (.number d.magnitude.scalar) else .number d.magnitude.scalar

def value (d : Divisor) : Float :=
  if d.negative then -d.magnitude.scalar else d.magnitude.scalar

variable (d : Divisor)

theorem kept_of_mem : ∀ c ∈ d.text, Kept c := by
  have marks (c : Char) (mem : c ∈ d.magnitude.marks) : Kept c :=
    kept_of_isMark (d.magnitude.isMark_of_mem c mem)
  have bracket (c : Char) (isBracket : c = '(' ∨ c = ')') : Kept c := by
    rcases isBracket with rfl | rfl <;>
      exact ⟨tidy_of_ascii (by decide) (by decide) (by decide), by decide⟩
  intro c mem
  unfold text at mem
  split at mem
  · rcases List.mem_cons.mp mem with rfl | mem
    · exact bracket _ (.inl rfl)
    · rcases List.mem_cons.mp mem with rfl | mem
      · exact kept_of_isSign (by decide)
      · rcases List.mem_append.mp mem with mem | mem
        · exact marks c mem
        · exact bracket c (.inr (List.mem_singleton.mp mem))
  · exact marks c mem

theorem collapse (rest : List Char) :
    collapseSigns (d.text ++ rest) = d.text ++ collapseSigns rest := by
  have marks : ∀ c ∈ d.magnitude.marks, isSign c = false :=
    fun c mem => isSign_of_isMark (d.magnitude.isMark_of_mem c mem)
  unfold text
  split
  · have bracketed : ∀ c ∈ d.magnitude.marks ++ [')'], isSign c = false := by
      intro c mem
      rcases List.mem_append.mp mem with mem | mem
      · exact marks c mem
      · rw [List.mem_singleton.mp mem]
        rfl
    rw [List.cons_append, List.cons_append, head_collapseSigns _ (by decide),
      collapseSigns_sign (by decide), collapseSigns_append bracketed]
    · rfl
    · intro c first
      obtain ⟨e, es, filled⟩ := List.exists_cons_of_ne_nil d.magnitude.marks_ne_nil
      rw [filled] at first
      obtain rfl : e = c := Option.some.inj first
      exact marks e (filled ▸ List.mem_cons_self)
  · exact collapseSigns_append marks rest

theorem reads : Token.Reads (lexemes d.text) d.kinds := by
  unfold text kinds
  have marks := lexemes_marks d.magnitude.marks_ne_nil d.magnitude.isMark_of_mem
  have number : Token.Reads [d.magnitude.marks] [(.number d.magnitude.scalar : TokenKind Float)] :=
    .cons d.magnitude.ofLexeme_marks .nil
  split
  · have close : Apart d.magnitude.marks [')'] := apart_of_head (by simp; decide)
    rw [lexemes_single (by decide), lexemes_single (by decide), lexemes_append close, marks]
    exact .cons rfl (.cons rfl (List.rel_append number (.cons rfl .nil)))
  · rw [marks]
    exact number

theorem advance (sum : Option (Expr Float × Symbol)) (e : Expr Float)
    (outer : List (Pending Float)) :
    (Reading.before ⟨sum, some (e, .slash), []⟩ outer).advance d.kinds =
      some (.after ⟨sum, .binary .slash e d.tree⟩ outer) := by
  unfold kinds tree
  split <;> rfl

theorem evaluate (b : Bindings Float) : d.tree.evaluate b = .ok d.value := by
  unfold tree value
  split <;> rfl

end Divisor

namespace Summand

variable {b : Bindings Float}

def dividedBy (s : Summand b) (d : Divisor) : Summand b where
  shown := s.shown ++ ' ' :: '/' :: ' ' :: d.text
  text := s.text ++ '/' :: d.text
  kinds := s.kinds ++ .slash :: d.kinds
  tree lead := .binary .slash (s.tree lead) d.tree
  value := s.value / d.value
  tidy c mem := by
    simp only [List.mem_append, List.mem_cons] at mem
    rcases mem with mem | rfl | rfl | rfl | mem
    · exact s.tidy c mem
    · exact PlainSide.tidy_blank
    · exact tidy_of_ascii (by decide) (by decide) (by decide)
    · exact PlainSide.tidy_blank
    · exact (d.kept_of_mem c mem).toTidy
  filter_shown := by
    have blank : isBlank ' ' = true := rfl
    have slash : isBlank '/' = false := rfl
    simp [s.filter_shown, blank, slash, PlainSide.filter_of_kept d.kept_of_mem]
  head_text := by
    obtain ⟨c, cs, text, other⟩ := s.head_text
    exact ⟨c, cs ++ '/' :: d.text, by rw [text]; rfl, other⟩
  collapse rest := by
    rw [List.append_assoc, s.collapse, List.cons_append, head_collapseSigns _ (by decide),
      d.collapse, List.append_assoc]
    rfl
  reads := by
    have slash : Apart s.text ('/' :: d.text) := apart_of_head (by simp; decide)
    rw [lexemes_append slash, lexemes_single (by decide)]
    exact List.rel_append s.reads (.cons rfl d.reads)
  advance lead sum outer := by
    rw [Reading.advance_append, s.advance, Option.bind_some]
    exact d.advance sum _ outer
  evaluate lead := by
    rw [Expr.evaluate, s.evaluate, d.evaluate]
    match lead with
    | none | some .plus => rfl
    | some .minus => exact congrArg Except.ok (signLaws_float.neg_div _ _)

end Summand

/-- Summands joined by single signs; a sign may also lead. -/
structure Chain (b : Bindings Float) where
  lead : Option TermSign
  first : Summand b
  rest : List (TermSign × Summand b)

namespace Chain

variable {b : Bindings Float}

def restShown (rest : List (TermSign × Summand b)) : List Char :=
  rest.flatMap fun st => ' ' :: st.1.char :: ' ' :: st.2.shown

def shown (chain : Chain b) : List Char :=
  PlainSide.leadText chain.lead ++ chain.first.shown ++ restShown chain.rest

def restText (rest : List (TermSign × Summand b)) : List Char :=
  rest.flatMap fun st => st.1.char :: st.2.text

def text (chain : Chain b) : List Char :=
  PlainSide.leadText chain.lead ++ chain.first.text ++ restText chain.rest

def restKinds (rest : List (TermSign × Summand b)) : List (TokenKind Float) :=
  rest.flatMap fun st => st.1.kind :: st.2.kinds

def value (chain : Chain b) : Float :=
  chain.rest.foldl (fun v st => st.1.join v st.2.value) (signed chain.lead chain.first.value)

/-- Cleanup takes the blanks away, and nothing else. -/
theorem normalize_shown [Unicode.Form] (chain : Chain b) : normalize chain.shown = chain.text := by
  have rest : (∀ c ∈ restShown chain.rest, Tidy c) ∧
      ((restShown chain.rest).filter fun c => !isBlank c) = restText chain.rest := by
    induction chain.rest with
    | nil => exact ⟨nofun, rfl⟩
    | cons st rest ih =>
        have sign : isBlank st.1.char = false := (kept_of_isSign st.1.isSign_char).notBlank
        have blank : isBlank ' ' = true := rfl
        constructor
        · intro c mem
          rcases List.mem_append.mp mem with mem | mem
          · simp only [List.mem_cons] at mem
            rcases mem with rfl | rfl | rfl | mem
            · exact PlainSide.tidy_blank
            · exact (kept_of_isSign st.1.isSign_char).toTidy
            · exact PlainSide.tidy_blank
            · exact st.2.tidy c mem
          · exact ih.1 c mem
        · change ((' ' :: st.1.char :: ' ' :: st.2.shown ++ restShown rest).filter _) =
            st.1.char :: st.2.text ++ restText rest
          rw [List.filter_append, ih.2]
          simp [blank, sign, st.2.filter_shown]
  have lead := PlainSide.kept_of_mem_lead chain.lead
  have tidy : ∀ c ∈ chain.shown, Tidy c := by
    intro c mem
    rcases List.mem_append.mp mem with mem | mem
    · rcases List.mem_append.mp mem with mem | mem
      · exact (lead c mem).toTidy
      · exact chain.first.tidy c mem
    · exact rest.1 c mem
  rw [normalize_of_tidy tidy, shown, List.filter_append, List.filter_append, rest.2,
    PlainSide.filter_of_kept lead, chain.first.filter_shown, text]

theorem collapse_rest (rest : List (TermSign × Summand b)) :
    collapseSigns (restText rest) = restText rest := by
  induction rest with
  | nil => rfl
  | cons st rest ih =>
      have parts : restText (st :: rest) = st.1.char :: (st.2.text ++ restText rest) := rfl
      rw [parts, collapseSigns_sign st.1.isSign_char (st.2.head_append _), st.2.collapse, ih]

/-- The signs of a chain are single already. -/
theorem collapse_text (chain : Chain b) : collapseSigns chain.text = chain.text := by
  have terms : collapseSigns (chain.first.text ++ restText chain.rest) =
      chain.first.text ++ restText chain.rest := by
    rw [chain.first.collapse, collapse_rest]
  rw [text, List.append_assoc]
  cases chain.lead with
  | none => exact terms
  | some s =>
      exact (collapseSigns_sign s.isSign_char (chain.first.head_append _)).trans
        (congrArg (s.char :: ·) terms)

theorem apart_rest (u : List Char) (rest : List (TermSign × Summand b)) :
    Apart u (restText rest) := by
  refine apart_of_head fun d first => ?_
  cases rest with
  | nil => cases first
  | cons st rest =>
      obtain rfl : st.1.char = d := Option.some.inj first
      exact st.1.isMark_char

theorem reads_rest (rest : List (TermSign × Summand b)) :
    Token.Reads (lexemes (restText rest)) (restKinds rest) := by
  induction rest with
  | nil => exact .nil
  | cons st rest ih =>
      have parts : restText (st :: rest) = st.1.char :: (st.2.text ++ restText rest) := rfl
      rw [parts, lexemes_single st.1.isMark_char, lexemes_append (apart_rest _ rest)]
      exact .cons st.1.ofLexeme_char (List.rel_append st.2.reads ih)

theorem reads_text (chain : Chain b) :
    Token.Reads (lexemes chain.text)
      (PlainSide.leadKinds chain.lead ++ (chain.first.kinds ++ restKinds chain.rest)) := by
  have terms : Token.Reads (lexemes (chain.first.text ++ restText chain.rest))
      (chain.first.kinds ++ restKinds chain.rest) := by
    rw [lexemes_append (apart_rest _ _)]
    exact List.rel_append chain.first.reads (reads_rest _)
  rw [text, List.append_assoc]
  cases chain.lead with
  | none => exact terms
  | some s =>
      change Token.Reads (lexemes (s.char :: (chain.first.text ++ restText chain.rest))) _
      rw [lexemes_single s.isMark_char]
      exact .cons s.ofLexeme_char terms

/-- The summands behind the first one, from any sum on. -/
theorem advance_rest (rest : List (TermSign × Summand b)) {level : Settled Float} {v : Float}
    (start : level.value.evaluate b = .ok v) :
    ∃ last, (Reading.after level []).advance (restKinds rest) = some (.after last []) ∧
      last.value.evaluate b = .ok (rest.foldl (fun v st => st.1.join v st.2.value) v) := by
  induction rest generalizing level v with
  | nil => exact ⟨level, rfl, start⟩
  | cons st rest ih =>
      obtain ⟨s, summand⟩ := st
      have joined : (Settled.value ⟨some (level.value, s.symbol), summand.tree none⟩).evaluate b =
          .ok (s.join v summand.value) := by
        rw [Settled.value, Expr.evaluate, start, summand.evaluate]
        cases s <;> rfl
      obtain ⟨last, advanced, value⟩ := ih joined
      refine ⟨last, ?_, value⟩
      have sign : (Reading.after level []).step? (s.kind : TokenKind Float) =
          some (.before ⟨some (level.value, s.symbol), none, []⟩ []) := by
        cases s <;> rfl
      change (Reading.after level []).advance (s.kind :: (summand.kinds ++ restKinds rest)) = _
      rw [Reading.advance, sign, Option.bind_some, Reading.advance_append]
      rw [show Reading.advance (.before ⟨some (level.value, s.symbol), none, []⟩ [])
        summand.kinds = some _ from summand.advance none _ _, Option.bind_some]
      exact advanced

/-- A chain is an expression worth the sum of its summands. -/
theorem evaluate_shown [Unicode.Form] (chain : Chain b) (offset : Nat) :
    ∃ e : Expr Float, Expr.ofSide offset (normalize chain.shown) = .ok e ∧
      e.evaluate b = .ok chain.value := by
  have lead : Reading.start.advance (PlainSide.leadKinds chain.lead : List (TokenKind Float)) =
      some (.before ⟨none, none, PlainTerm.leadSymbols chain.lead⟩ []) := by
    match chain.lead with
    | none | some .plus | some .minus => rfl
  have first : (Settled.value ⟨none, chain.first.tree chain.lead⟩).evaluate b =
      .ok (signed chain.lead chain.first.value) := chain.first.evaluate chain.lead
  obtain ⟨last, advanced, value⟩ := advance_rest chain.rest first
  refine ⟨last.value, ?_, value⟩
  rw [chain.normalize_shown, Expr.ofSide, chain.collapse_text, Expr.ofText_ok_iff]
  refine ⟨_, last, chain.reads_text, ?_, rfl⟩
  rw [Reading.advance_append, lead, Option.bind_some, Reading.advance_append, chain.first.advance,
    Option.bind_some, advanced]

end Chain

end WorkedAlgebra
