import WorkedAlgebra.Proofs.Descent.Procedures
import WorkedAlgebra.Proofs.Parsing

/-!
Recursive descent finds what reading the tokens one by one finds. With enough depth every procedure
comes to an end, in the tokens it was given, and what it finds is what the reading of the same
tokens has come to.
-/

namespace WorkedAlgebra

variable {α β : Type}

theorem Reading.run_cons {r next : Reading α} {token : Token α}
    (step : r.step? token.kind = some next) (rest : List (Token α)) :
    r.run (token :: rest) = next.run rest := by
  rw [run, step]

theorem Reading.run_stop {r : Reading α} {tokens : List (Token α)}
    (stops : ∀ token ∈ tokens.head?, r.step? token.kind = none) : r.run tokens = (r, tokens) := by
  cases tokens with
  | nil => rfl
  | cons token rest => rw [run, stops token rfl]

/-- What a reading that has stopped comes to, and the tokens that are left then. -/
def Reading.conclude (endColumn : Nat) :
    Reading α × List (Token α) → Except (Located SyntaxFault) (Expr α) × List (Token α)
  | (.after level [], rest) => (.ok level.value, rest)
  | (.after _ (_ :: _), rest) => (.error ⟨.expectedClose, Cursor.column ⟨rest, endColumn⟩⟩, rest)
  | (.before _ _, token :: others) => (.error ⟨.unexpected token.kind.symbol, token.column⟩, others)
  | (.before _ _, []) => (.error ⟨.endsUnexpectedly, endColumn⟩, [])

theorem Cursor.parseExpression_eq (c : Cursor α) :
    c.parseExpression =
      ((Reading.conclude c.endColumn (Reading.start.run c.tokens)).1,
        ⟨(Reading.conclude c.endColumn (Reading.start.run c.tokens)).2, c.endColumn⟩) := by
  unfold parseExpression
  rcases Reading.start.run c.tokens with ⟨_ | ⟨level, _ | _⟩, _ | _⟩ <;> rfl

section Steps

variable {p : Pending α} {s : Settled α} {outer : List (Pending α)} {kind : TokenKind α}

theorem Reading.step_addTerm (sign : kind.symbol ∈ [Symbol.plus, .minus]) :
    (Reading.after s outer).step? kind = some (.before (s.addTerm kind.symbol) outer) := by
  cases kind <;> first | rfl | simp [TokenKind.symbol] at sign

theorem Reading.step_addFactor (operator : kind.symbol ∈ [Symbol.star, .slash]) :
    (Reading.after s outer).step? kind = some (.before (s.addFactor kind.symbol) outer) := by
  cases kind <;> first | rfl | simp [TokenKind.symbol] at operator

theorem Reading.step_sign (sign : kind.symbol ∈ [Symbol.minus, .plus]) :
    (Reading.before p outer).step? kind =
      some (.before { p with signs := kind.symbol :: p.signs } outer) := by
  cases kind <;> first | rfl | simp [TokenKind.symbol] at sign

/-- A factor without operator is read like one behind an operator. -/
theorem Reading.run_implicit {token : Token α}
    (starts : token.kind.symbol ∈ [Symbol.letter, .openParen]) (rest : List (Token α)) :
    (Reading.after s outer).run (token :: rest) =
      (Reading.before (s.addFactor .star) outer).run (token :: rest) := by
  obtain ⟨kind, column⟩ := token
  cases kind <;> first | rfl | simp [TokenKind.symbol] at starts

def factorSymbols : List Symbol := [.star, .slash] ++ [.letter, .openParen]

def expressionSymbols : List Symbol := [.plus, .minus] ++ factorSymbols

theorem Reading.step_after_eq_none (stops : kind.symbol ∉ expressionSymbols)
    (open' : kind.symbol = .closeParen → outer = []) :
    (Reading.after s outer).step? kind = none := by
  cases kind with
  | number | equals | endOfInput => rfl
  | closeParen =>
    rw [open' rfl]
    rfl
  | _ => simp [TokenKind.symbol, expressionSymbols, factorSymbols] at stops

end Steps

namespace Descent

/-- A computation ends in front of these tokens: with a result that has one property, or with a
fault that has another. Both may tell of the tokens that are left. -/
def Ends (before : List (Token α)) (x : Descent β) (ahead : List (Token α))
    (ok : β → List (Token α) → Prop) (failed : Located SyntaxFault → List (Token α) → Prop) :
    Prop :=
  ∃ rest, rest <:+ ahead ∧
    ((∃ b, x.outcome (place before ahead) = some (.ok b, place before rest) ∧ ok b rest) ∨
      ∃ fault, x.outcome (place before ahead) = some (.error fault, place before rest) ∧
        failed fault rest)

section Ends

variable {before ahead : List (Token α)} {x : Descent β} {ok : β → List (Token α) → Prop}
  {failed failed' : Located SyntaxFault → List (Token α) → Prop}

theorem Ends.bind {γ : Type} {f : β → Descent γ} {ok' : γ → List (Token α) → Prop}
    (first : Ends before x ahead ok failed)
    (passes : ∀ fault rest, failed fault rest → failed' fault rest)
    (second : ∀ b rest, rest <:+ ahead → ok b rest → Ends before (f b) rest ok' failed') :
    Ends before (x >>= f) ahead ok' failed' := by
  obtain ⟨rest, suffix, ⟨b, found, holds⟩ | ⟨fault, found, holds⟩⟩ := first
  · obtain ⟨last, suffix', ⟨c, found', holds'⟩ | ⟨fault, found', holds'⟩⟩ :=
      second b rest suffix holds
    · exact ⟨last, suffix'.trans suffix, .inl ⟨c, by rw [outcome_bind found, found'], holds'⟩⟩
    · exact ⟨last, suffix'.trans suffix, .inr ⟨fault, by rw [outcome_bind found, found'], holds'⟩⟩
  · exact ⟨rest, suffix, .inr ⟨fault, outcome_bind_error found f, passes fault rest holds⟩⟩

/-- A computation whose first part is known ends where the others do. -/
theorem Ends.behind {γ : Type} {y : Descent γ} {f : γ → Descent β} {c : γ} {rest : List (Token α)}
    (first : y.outcome (place before ahead) = some (.ok c, place before rest))
    (suffix : rest <:+ ahead) (second : Ends before (f c) rest ok failed) :
    Ends before (y >>= f) ahead ok failed := by
  obtain ⟨last, suffix', found⟩ := second
  rw [← outcome_bind first] at found
  exact ⟨last, suffix'.trans suffix, found⟩

theorem Ends.pure {b : β} (holds : ok b ahead) : Ends before (pure b) ahead ok failed :=
  ⟨ahead, List.suffix_rfl, .inl ⟨b, outcome_pure b _, holds⟩⟩

theorem Ends.mono {ok' : β → List (Token α) → Prop} (ends : Ends before x ahead ok failed)
    (results : ∀ b rest, rest <:+ ahead → ok b rest → ok' b rest)
    (faults : ∀ fault rest, failed fault rest → failed' fault rest) :
    Ends before x ahead ok' failed' := by
  obtain ⟨rest, suffix, ⟨b, found, holds⟩ | ⟨fault, found, holds⟩⟩ := ends
  · exact ⟨rest, suffix, .inl ⟨b, found, results b rest suffix holds⟩⟩
  · exact ⟨rest, suffix, .inr ⟨fault, found, faults fault rest holds⟩⟩

end Ends

def NextNot (symbols : List Symbol) (ahead : List (Token α)) : Prop :=
  ∀ token ∈ ahead.head?, token.kind.symbol ∉ symbols

theorem exists_next {symbols : List Symbol} {ahead : List (Token α)}
    (goesOn : ¬ NextNot symbols ahead) :
    ∃ token rest, ahead = token :: rest ∧ token.kind.symbol ∈ symbols := by
  cases ahead with
  | nil => exact absurd (fun _ mem => by cases mem) goesOn
  | cons token rest =>
    refine ⟨token, rest, rfl, ?_⟩
    by_contra other
    exact goesOn fun next here => Option.some.inj here ▸ other

def Faults (endColumn : Nat) (ahead : List (Token α)) (readings : Reading α → Prop)
    (fault : Located SyntaxFault) (rest : List (Token α)) : Prop :=
  ∀ r, readings r → Reading.conclude endColumn (r.run ahead) = (.error fault, rest)

/-- Readings that run into others have their faults. -/
theorem Faults.of_run {endColumn : Nat} {ahead next rest : List (Token α)}
    {readings later : Reading α → Prop} {fault : Located SyntaxFault}
    (runs : ∀ r, readings r → ∃ r', later r' ∧ r.run ahead = r'.run next)
    (faults : Faults endColumn next later fault rest) :
    Faults endColumn ahead readings fault rest := by
  intro r mem
  obtain ⟨r', mem', same⟩ := runs r mem
  rw [same]
  exact faults r' mem'

def TakesOperand (ahead : List (Token α)) (e : Expr α) (rest : List (Token α)) : Prop :=
  rest.length < ahead.length ∧
    ∀ p outer, (Reading.before p outer).run ahead = (Reading.after (p.take e) outer).run rest

/-- A term has been read that does not go on, whatever it is added to. -/
def ReadsTerm (start : Option (Expr α × Symbol) → List (Pending α) → Reading α)
    (ahead : List (Token α)) (t : Expr α) (rest : List (Token α)) : Prop :=
  NextNot factorSymbols rest ∧
    ∀ sum outer, (start sum outer).run ahead = (Reading.after ⟨sum, t⟩ outer).run rest

/-- An expression has been read that does not go on, in whatever brackets it stands. -/
def ReadsExpression (start : List (Pending α) → Reading α) (ahead : List (Token α)) (e : Expr α)
    (rest : List (Token α)) : Prop :=
  NextNot expressionSymbols rest ∧ ∃ level : Settled α, level.value = e ∧
    ∀ outer, (start outer).run ahead = (Reading.after level outer).run rest

def beforeTerm (sum : Option (Expr α × Symbol)) : List (Pending α) → Reading α :=
  .before ⟨sum, none, []⟩

def behindFactor (left : Expr α) (sum : Option (Expr α × Symbol)) : List (Pending α) → Reading α :=
  .after ⟨sum, left⟩

section Procedures

variable (tokens before : List (Token α)) (endColumn : Nat)

structure Agrees (depth : Nat) : Prop where
  expression : ∀ {ahead}, ahead <:+ before → 4 * ahead.length + 4 ≤ depth →
    Ends before (expression tokens depth) ahead
      (fun e rest => rest.length < ahead.length ∧ ReadsExpression (.before .start) ahead e rest)
      (Faults endColumn ahead fun r => ∃ outer, r = .before .start outer)
  sums : ∀ {ahead left}, ahead <:+ before → 4 * ahead.length + 1 ≤ depth →
    NextNot factorSymbols ahead →
    Ends before (sums tokens depth left) ahead
      (fun e rest => ∀ s : Settled α, s.value = left → ReadsExpression (.after s) ahead e rest)
      (Faults endColumn ahead fun r => ∃ s outer, s.value = left ∧ r = .after s outer)
  term : ∀ {ahead}, ahead <:+ before → 4 * ahead.length + 3 ≤ depth →
    Ends before (term tokens depth) ahead
      (fun t rest => rest.length < ahead.length ∧ ReadsTerm beforeTerm ahead t rest)
      (Faults endColumn ahead fun r => ∃ sum outer, r = beforeTerm sum outer)
  factors : ∀ {ahead left}, ahead <:+ before → 4 * ahead.length + 3 ≤ depth →
    Ends before (factors tokens depth left) ahead (ReadsTerm (behindFactor left) ahead)
      (Faults endColumn ahead fun r => ∃ sum outer, r = behindFactor left sum outer)
  unary : ∀ {ahead}, ahead <:+ before → 4 * ahead.length + 2 ≤ depth →
    Ends before (unary tokens depth) ahead (TakesOperand ahead)
      (Faults endColumn ahead fun r => ∃ p outer, r = .before p outer)
  primary : ∀ {ahead}, ahead <:+ before → 4 * ahead.length + 1 ≤ depth →
    NextNot [.minus, .plus] ahead →
    Ends before (primary tokens depth) ahead (TakesOperand ahead)
      (Faults endColumn ahead fun r => ∃ p outer, r = .before p outer)

variable {tokens before endColumn} {ahead : List (Token α)} {item : Token α} {depth : Nat}
  {left : Expr α}

theorem Agrees.expression_succ (agrees : Agrees tokens before endColumn depth)
    (suffix : ahead <:+ before) (enough : 4 * ahead.length + 4 ≤ depth + 1) :
    Ends before (Descent.expression tokens (depth + 1)) ahead
      (fun e rest => rest.length < ahead.length ∧ ReadsExpression (.before .start) ahead e rest)
      (Faults endColumn ahead fun r => ∃ outer, r = .before .start outer) := by
  rw [Descent.expression]
  refine (agrees.term suffix (by omega)).bind ?_ ?_
  · rintro fault rest faults r ⟨outer, rfl⟩
    exact faults _ ⟨none, outer, rfl⟩
  · rintro first rest inner ⟨shorter, noFactor, run⟩
    refine (agrees.sums (inner.trans suffix) (by omega) noFactor).mono ?_ ?_
    · rintro e last inner' reads
      obtain ⟨stops, level, value, run'⟩ := reads ⟨none, first⟩ rfl
      exact ⟨inner'.length_le.trans_lt shorter, stops, level, value,
        fun outer => (run none outer).trans (run' outer)⟩
    · intro fault last faults
      refine faults.of_run ?_
      rintro r ⟨outer, rfl⟩
      exact ⟨_, ⟨⟨none, first⟩, outer, rfl, rfl⟩, run none outer⟩

theorem Agrees.term_succ (agrees : Agrees tokens before endColumn depth)
    (suffix : ahead <:+ before) (enough : 4 * ahead.length + 3 ≤ depth + 1) :
    Ends before (Descent.term tokens (depth + 1)) ahead
      (fun t rest => rest.length < ahead.length ∧ ReadsTerm beforeTerm ahead t rest)
      (Faults endColumn ahead fun r => ∃ sum outer, r = beforeTerm sum outer) := by
  rw [Descent.term]
  refine (agrees.unary suffix (by omega)).bind ?_ ?_
  · rintro fault rest faults r ⟨sum, outer, rfl⟩
    exact faults _ ⟨_, outer, rfl⟩
  · rintro first rest inner ⟨shorter, run⟩
    refine (agrees.factors (inner.trans suffix) (by omega)).mono ?_ ?_
    · rintro t last inner' ⟨stops, run'⟩
      exact ⟨inner'.length_le.trans_lt shorter, stops,
        fun sum outer => (run _ outer).trans (run' sum outer)⟩
    · intro fault last faults
      refine faults.of_run ?_
      rintro r ⟨sum, outer, rfl⟩
      exact ⟨_, ⟨sum, outer, rfl⟩, run _ outer⟩

/-- A sum goes on with a sign and another term. -/
theorem Agrees.sums_succ (agrees : Agrees tokens before item.column depth)
    (ends : EndsAt tokens before item) (suffix : ahead <:+ before)
    (enough : 4 * ahead.length + 1 ≤ depth + 1) (noFactor : NextNot factorSymbols ahead) :
    Ends before (Descent.sums tokens (depth + 1) left) ahead
      (fun e rest => ∀ s : Settled α, s.value = left → ReadsExpression (.after s) ahead e rest)
      (Faults item.column ahead fun r => ∃ s outer, s.value = left ∧ r = .after s outer) := by
  rw [Descent.sums]
  by_cases goesOn : NextNot [.plus, .minus] ahead
  · refine Ends.behind (outcome_takeAny_other ends suffix goesOn) List.suffix_rfl (.pure ?_)
    intro s value
    refine ⟨fun token here mem => ?_, s, value, fun outer => rfl⟩
    rcases List.mem_append.mp mem with sign | factor
    · exact goesOn token here sign
    · exact noFactor token here factor
  · obtain ⟨token, rest, rfl, sign⟩ := exists_next goesOn
    have inner := (List.suffix_cons token rest).trans suffix
    refine Ends.behind (outcome_takeAny ends suffix sign) (List.suffix_cons token rest) ?_
    refine Ends.behind (outcome_previous ends suffix) List.suffix_rfl ?_
    have run (s : Settled α) (outer : List (Pending α)) :
        (Reading.after s outer).run (token :: rest) =
          (beforeTerm (some (s.value, token.kind.symbol)) outer).run rest :=
      Reading.run_cons (Reading.step_addTerm sign) rest
    rw [List.length_cons] at enough
    refine (agrees.term inner (by omega)).bind ?_ ?_
    · intro fault last faults
      refine faults.of_run ?_
      rintro r ⟨s, outer, value, rfl⟩
      exact ⟨_, ⟨_, outer, rfl⟩, run s outer⟩
    · rintro right last inner' ⟨shorter, noFactor', taken⟩
      refine (agrees.sums (inner'.trans inner) (by omega) noFactor').mono ?_ ?_
      · rintro e final - reads s rfl
        obtain ⟨stops, level, value, others⟩ :=
          reads ⟨some (s.value, token.kind.symbol), right⟩ rfl
        exact ⟨stops, level, value,
          fun outer => (run s outer).trans ((taken _ outer).trans (others outer))⟩
      · intro fault final faults
        refine faults.of_run ?_
        rintro r ⟨s, outer, rfl, rfl⟩
        exact ⟨_, ⟨⟨some (s.value, token.kind.symbol), right⟩, outer, rfl, rfl⟩,
          (run s outer).trans (taken _ outer)⟩

/-- Another factor of a product, and then the others. -/
theorem Agrees.factors_behind (agrees : Agrees tokens before endColumn depth)
    {next : List (Token α)} {operator : Symbol} (inner : next <:+ before)
    (enough : 4 * next.length + 2 ≤ depth)
    (run : ∀ sum outer, (behindFactor left sum outer).run ahead =
      (Reading.before ⟨sum, some (left, operator), []⟩ outer).run next) :
    Ends before (do
        let right ← Descent.unary tokens depth
        Descent.factors tokens depth (.binary operator left right)) next
      (ReadsTerm (behindFactor left) ahead)
      (Faults endColumn ahead fun r => ∃ sum outer, r = behindFactor left sum outer) := by
  refine (agrees.unary inner enough).bind ?_ ?_
  · intro fault last faults
    refine faults.of_run ?_
    rintro r ⟨sum, outer, rfl⟩
    exact ⟨_, ⟨_, outer, rfl⟩, run sum outer⟩
  · rintro right last inner' ⟨shorter, taken⟩
    have joined (sum : Option (Expr α × Symbol)) (outer : List (Pending α)) :
        (behindFactor left sum outer).run ahead =
          (behindFactor (.binary operator left right) sum outer).run last :=
      (run sum outer).trans (taken _ outer)
    refine (agrees.factors (inner'.trans inner) (by omega)).mono ?_ ?_
    · rintro t final - ⟨stops, others⟩
      exact ⟨stops, fun sum outer => (joined sum outer).trans (others sum outer)⟩
    · intro fault final faults
      refine faults.of_run ?_
      rintro r ⟨sum, outer, rfl⟩
      exact ⟨_, ⟨sum, outer, rfl⟩, joined sum outer⟩

theorem Agrees.factors_succ (agrees : Agrees tokens before item.column depth)
    (ends : EndsAt tokens before item) (suffix : ahead <:+ before)
    (enough : 4 * ahead.length + 3 ≤ depth + 1) :
    Ends before (Descent.factors tokens (depth + 1) left) ahead
      (ReadsTerm (behindFactor left) ahead)
      (Faults item.column ahead fun r => ∃ sum outer, r = behindFactor left sum outer) := by
  rw [Descent.factors]
  by_cases operated : NextNot [.star, .slash] ahead
  · refine Ends.behind (outcome_takeAny_other ends suffix operated) List.suffix_rfl ?_
    by_cases implied : NextNot [.letter, .openParen] ahead
    · refine Ends.behind (outcome_startsFactor_other ends suffix implied) List.suffix_rfl (.pure ?_)
      refine ⟨fun token here mem => ?_, fun sum outer => rfl⟩
      rcases List.mem_append.mp mem with operator | starts
      · exact operated token here operator
      · exact implied token here starts
    · obtain ⟨token, rest, rfl, starts⟩ := exists_next implied
      refine Ends.behind (outcome_startsFactor ends suffix starts) List.suffix_rfl ?_
      exact agrees.factors_behind suffix (by omega) fun sum outer =>
        Reading.run_implicit starts rest
  · obtain ⟨token, rest, rfl, operator⟩ := exists_next operated
    refine Ends.behind (outcome_takeAny ends suffix operator) (List.suffix_cons token rest) ?_
    refine Ends.behind (outcome_previous ends suffix) List.suffix_rfl ?_
    rw [List.length_cons] at enough
    exact agrees.factors_behind ((List.suffix_cons token rest).trans suffix) (by omega)
      fun sum outer => Reading.run_cons (Reading.step_addFactor operator) rest

theorem Agrees.unary_succ (agrees : Agrees tokens before item.column depth)
    (ends : EndsAt tokens before item) (suffix : ahead <:+ before)
    (enough : 4 * ahead.length + 2 ≤ depth + 1) :
    Ends before (Descent.unary tokens (depth + 1)) ahead (TakesOperand ahead)
      (Faults item.column ahead fun r => ∃ p outer, r = .before p outer) := by
  rw [Descent.unary]
  by_cases unsigned : NextNot [.minus, .plus] ahead
  · refine Ends.behind (outcome_takeAny_other ends suffix unsigned) List.suffix_rfl ?_
    exact agrees.primary suffix (by omega) unsigned
  · obtain ⟨token, rest, rfl, sign⟩ := exists_next unsigned
    have inner := (List.suffix_cons token rest).trans suffix
    refine Ends.behind (outcome_takeAny ends suffix sign) (List.suffix_cons token rest) ?_
    refine Ends.behind (outcome_previous ends suffix) List.suffix_rfl ?_
    have run (p : Pending α) (outer : List (Pending α)) :
        (Reading.before p outer).run (token :: rest) =
          (Reading.before { p with signs := token.kind.symbol :: p.signs } outer).run rest :=
      Reading.run_cons (Reading.step_sign sign) rest
    rw [List.length_cons] at enough
    refine (agrees.unary inner (by omega)).bind ?_ ?_
    · intro fault last faults
      refine faults.of_run ?_
      rintro r ⟨p, outer, rfl⟩
      exact ⟨_, ⟨_, outer, rfl⟩, run p outer⟩
    · rintro operand last inner' ⟨shorter, taken⟩
      exact .pure ⟨shorter.trans (Nat.lt_succ_self _),
        fun p outer => (run p outer).trans (taken _ outer)⟩

/-- An expression behind an opening bracket, and the closing one. -/
theorem Agrees.group_behind (agrees : Agrees tokens before item.column depth)
    (ends : EndsAt tokens before item) {bracket : Token α} {rest : List (Token α)}
    (inner : rest <:+ before) (enough : 4 * rest.length + 4 ≤ depth)
    (run : ∀ p outer, (Reading.before p outer).run (bracket :: rest) =
      (Reading.before .start (p :: outer)).run rest) :
    Ends before (do
        let e ← Descent.expression tokens depth
        consume tokens .closeParen .expectedClose
        return e) rest
      (TakesOperand (bracket :: rest))
      (Faults item.column (bracket :: rest) fun r => ∃ p outer, r = .before p outer) := by
  refine (agrees.expression inner enough).bind ?_ ?_
  · intro fault last faults
    refine faults.of_run ?_
    rintro r ⟨p, outer, rfl⟩
    exact ⟨_, ⟨p :: outer, rfl⟩, run p outer⟩
  · rintro e last inner' ⟨shorter, stops, level, rfl, taken⟩
    have joined (p : Pending α) (outer : List (Pending α)) :
        (Reading.before p outer).run (bracket :: rest) =
          (Reading.after level (p :: outer)).run last :=
      (run p outer).trans (taken (p :: outer))
    by_cases missing : NextNot [.closeParen] last
    · have other : ∀ token ∈ last.head?, token.kind.symbol ≠ .closeParen :=
        fun token here same => missing token here (List.mem_singleton.mpr same)
      refine ⟨last, List.suffix_rfl, .inr ⟨_, outcome_bind_error
        (outcome_consume_other ends (inner'.trans inner) other _) _, ?_⟩⟩
      rintro r ⟨p, outer, rfl⟩
      rw [joined, Reading.run_stop fun token here =>
        Reading.step_after_eq_none (stops token here) fun same => (other token here same).elim]
      rfl
    · obtain ⟨token, left, rfl, closes⟩ := exists_next missing
      obtain same := List.mem_singleton.mp closes
      refine Ends.behind (outcome_consume ends (inner'.trans inner) same _)
        (List.suffix_cons token left) (.pure ⟨?_, fun p outer => ?_⟩)
      · rw [List.length_cons] at shorter ⊢
        omega
      · rw [joined]
        refine Reading.run_cons ?_ left
        obtain ⟨kind, column⟩ := token
        cases kind <;> first | rfl | cases same

theorem Agrees.primary_succ (agrees : Agrees tokens before item.column depth)
    (ends : EndsAt tokens before item) (suffix : ahead <:+ before)
    (enough : 4 * ahead.length + 1 ≤ depth + 1) (unsigned : NextNot [.minus, .plus] ahead) :
    Ends before (Descent.primary tokens (depth + 1)) ahead (TakesOperand ahead)
      (Faults item.column ahead fun r => ∃ p outer, r = .before p outer) := by
  rw [Descent.primary]
  cases ahead with
  | nil =>
    have ending : item.kind = .endOfInput := by
      have symbol := beq_iff_eq.mp ends.ending
      cases kind : item.kind <;> first | rfl | simp [kind, TokenKind.symbol] at symbol
    refine Ends.behind (outcome_advance_nil ends) List.suffix_rfl ?_
    rw [ending]
    refine ⟨[], List.suffix_rfl, .inr ⟨_, rfl, ?_⟩⟩
    rintro r ⟨p, outer, rfl⟩
    rfl
  | cons token rest =>
    refine Ends.behind (outcome_advance ends suffix) (List.suffix_cons token rest) ?_
    have inner := (List.suffix_cons token rest).trans suffix
    rw [List.length_cons] at enough
    obtain ⟨kind, column⟩ := token
    cases kind with
    | number | letter => exact .pure ⟨Nat.lt_succ_self _, fun p outer => rfl⟩
    | openParen => exact agrees.group_behind ends inner (by omega) fun p outer => rfl
    | plus | minus => exact absurd (by simp [TokenKind.symbol]) (unsigned _ rfl)
    | endOfInput => cases ends.proper _ (suffix.subset List.mem_cons_self)
    | star | slash | equals | closeParen =>
      refine ⟨rest, List.suffix_rfl, .inr ⟨_, rfl, ?_⟩⟩
      rintro r ⟨p, outer, rfl⟩
      rfl

theorem agrees (ends : EndsAt tokens before item) (depth : Nat) :
    Agrees tokens before item.column depth := by
  induction depth with
  | zero => constructor <;> intros <;> omega
  | succ depth ih =>
    exact {
      expression := ih.expression_succ
      sums := ih.sums_succ ends
      term := ih.term_succ
      factors := ih.factors_succ ends
      unary := ih.unary_succ ends
      primary := ih.primary_succ ends }

end Procedures

end Descent
end WorkedAlgebra
