import WorkedAlgebra.Proofs.Descent.Readings

/-!
Any calls on one list of tokens, one after the other. Each of them comes to an end, at a position
that is not before the last one and not behind the first end of input, and what stands behind that
end of input has no effect.
-/

namespace WorkedAlgebra

variable {α : Type}

inductive Call where
  /-- An expression that ends where the input ends. -/
  | whole
  /-- One expression, whatever follows. -/
  | expression
deriving DecidableEq, Repr

namespace Cursor

def call (c : Cursor α) : Call → Except (Located SyntaxFault) (Expr α) × Cursor α
  | .whole => c.parse
  | .expression => c.parseExpression

def answers (c : Cursor α) : List Call → List (Except (Located SyntaxFault) (Expr α))
  | [] => []
  | call :: calls => (c.call call).1 :: (c.call call).2.answers calls

end Cursor

namespace Descent

section Calls

variable (tokens : List (Token α)) (depth : Nat)

def call : Call → Descent (Expr α)
  | .whole => whole tokens depth
  | .expression => expression tokens depth

def answers : Nat → List Call → Option (List (Except (Located SyntaxFault) (Expr α) × Nat))
  | _, [] => some []
  | position, request :: requests => do
    let (answer, next) ← (call tokens depth request).outcome position
    let others ← answers next requests
    return (answer, next) :: others

end Calls

/-- Answers whose positions never move back and never pass `last`. An expression has taken a token
at least. -/
inductive Forward (last : Nat) :
    Nat → List (Except (Located SyntaxFault) (Expr α) × Nat) → Prop
  | nil {position : Nat} : Forward last position []
  | cons {position next : Nat} {answer : Except (Located SyntaxFault) (Expr α)}
      {others : List (Except (Located SyntaxFault) (Expr α) × Nat)} (onward : position ≤ next)
      (within : next ≤ last) (taken : answer.isOk = true → position < next)
      (behind : Forward last next others) : Forward last position ((answer, next) :: others)

section Calls

variable {tokens before ahead : List (Token α)} {item : Token α} {depth : Nat}

structure Matches (before : List (Token α)) (x : Descent (Expr α)) (c : Cursor α)
    (result : Except (Located SyntaxFault) (Expr α) × Cursor α) : Prop where
  outcome : x.outcome (place before c.tokens) = some (result.1, place before result.2.tokens)
  suffix : result.2.tokens <:+ c.tokens
  endColumn : result.2.endColumn = c.endColumn
  taken : result.1.isOk = true → result.2.tokens.length < c.tokens.length

theorem matches_expression (ends : EndsAt tokens before item) (suffix : ahead <:+ before)
    (enough : 4 * ahead.length + 4 ≤ depth) :
    Matches before (expression tokens depth) ⟨ahead, item.column⟩
      (Cursor.parseExpression ⟨ahead, item.column⟩) := by
  rw [Cursor.parseExpression_eq]
  obtain ⟨rest, inner, ⟨e, found, shorter, stops, level, rfl, run⟩ | ⟨fault, found, faults⟩⟩ :=
    (agrees ends depth).expression suffix enough
  · have concluded : Reading.conclude item.column (Reading.start.run ahead) =
        (.ok level.value, rest) := by
      rw [Reading.start, run [], Reading.run_stop fun token here =>
        Reading.step_after_eq_none (stops token here) fun _ => rfl]
      rfl
    simp only [concluded]
    exact ⟨found, inner, rfl, fun _ => shorter⟩
  · have concluded : Reading.conclude item.column (Reading.start.run ahead) =
        (.error fault, rest) := faults _ ⟨[], rfl⟩
    simp only [concluded]
    exact ⟨found, inner, rfl, fun ok => by cases ok⟩

theorem matches_whole (ends : EndsAt tokens before item) (suffix : ahead <:+ before)
    (enough : 4 * ahead.length + 4 ≤ depth) :
    Matches before (whole tokens depth) ⟨ahead, item.column⟩
      (Cursor.parse ⟨ahead, item.column⟩) := by
  have inner := matches_expression ends suffix enough
  rw [Cursor.parse, whole]
  cases ahead with
  | nil =>
    refine ⟨?_, List.suffix_rfl, rfl, fun ok => by cases ok⟩
    rw [outcome_bind (outcome_atEnd ends suffix), List.isEmpty_nil, if_pos rfl,
      outcome_bind (outcome_peek ends suffix), outcome_throw]
    rfl
  | cons token rest =>
    have begun {x y : Descent (Expr α)} :
        (atEnd tokens >>= fun ended => if ended = true then x else y).outcome
          (place before (token :: rest)) = y.outcome (place before (token :: rest)) :=
      outcome_bind (outcome_atEnd ends suffix) _
    rcases found : Cursor.parseExpression ⟨token :: rest, item.column⟩ with ⟨fault | e, stopped⟩
    · rw [found] at inner
      exact ⟨begun.trans (outcome_bind_error inner.outcome _), inner.suffix, inner.endColumn,
        fun ok => by cases ok⟩
    · rw [found] at inner
      obtain ⟨tail, endColumn⟩ := stopped
      have ended := outcome_atEnd ends (inner.suffix.trans suffix)
      cases tail with
      | nil =>
        exact ⟨begun.trans ((outcome_bind inner.outcome _).trans (outcome_bind ended _)),
          inner.suffix, inner.endColumn, inner.taken⟩
      | cons next tail =>
        have here := outcome_peek ends (inner.suffix.trans suffix)
        exact ⟨begun.trans ((outcome_bind inner.outcome _).trans ((outcome_bind ended _).trans
          (outcome_bind here _))), inner.suffix, inner.endColumn, fun ok => by cases ok⟩

theorem matches_call (ends : EndsAt tokens before item) (suffix : ahead <:+ before)
    (enough : 4 * ahead.length + 4 ≤ depth) (request : Call) :
    Matches before (call tokens depth request) ⟨ahead, item.column⟩
      (Cursor.call ⟨ahead, item.column⟩ request) := by
  cases request with
  | whole => exact matches_whole ends suffix enough
  | expression => exact matches_expression ends suffix enough

theorem place_le {rest : List (Token α)} (inner : rest <:+ ahead) :
    place before ahead ≤ place before rest :=
  Nat.sub_le_sub_left inner.length_le _

theorem place_lt {rest : List (Token α)} (suffix : ahead <:+ before)
    (shorter : rest.length < ahead.length) : place before ahead < place before rest := by
  have := suffix.length_le
  rw [place, place]
  omega

/-- Calls made one after the other come to the same steps on all lists that agree up to the first
end of input. -/
theorem answers_eq (ends : EndsAt tokens before item) (requests : List Call)
    (suffix : ahead <:+ before) :
    ∃ steps, (∀ {tokens depth}, EndsAt tokens before item → 4 * ahead.length + 4 ≤ depth →
        answers tokens depth (place before ahead) requests = some steps) ∧
      steps.map (·.1) = Cursor.answers ⟨ahead, item.column⟩ requests ∧
      Forward before.length (place before ahead) steps := by
  induction requests generalizing ahead with
  | nil => exact ⟨[], fun _ _ => rfl, rfl, .nil⟩
  | cons request requests ih =>
    have same {tokens : List (Token α)} {depth : Nat} (ends : EndsAt tokens before item)
        (enough : 4 * ahead.length + 4 ≤ depth) := matches_call ends suffix enough request
    rw [Cursor.answers]
    rcases found : Cursor.call ⟨ahead, item.column⟩ request with ⟨answer, ⟨rest, endColumn⟩⟩
    rw [found] at same
    have here := same ends (Nat.le_refl _)
    have inner : rest <:+ ahead := here.suffix
    obtain rfl : endColumn = item.column := here.endColumn
    obtain ⟨steps, others, answers, forward⟩ := ih (inner.trans suffix)
    refine ⟨(answer, place before rest) :: steps, fun ends enough => ?_, ?_, ?_⟩
    · have shorter := inner.length_le
      rw [Descent.answers, (same ends enough).outcome]
      change (Descent.answers _ _ (place before rest) requests).bind _ = _
      rw [others ends (by omega)]
      rfl
    · rw [List.map_cons, answers]
    · exact .cons (place_le inner) (Nat.sub_le _ _)
        (fun isOk => place_lt suffix (here.taken isOk)) forward

end Calls

section Closed

def firstEnd (tokens : List (Token α)) : Nat := (closed tokens).findIdx Cursor.isEnd

theorem prefix_closed (tokens : List (Token α)) : tokens <+: closed tokens := by
  unfold closed
  split
  · split
    · exact List.prefix_rfl
    · exact List.prefix_append _ _
  · rename_i empty
    rw [List.getLast?_eq_none_iff.mp empty]
    exact List.nil_prefix

theorem closed_eq_append {tokens : List (Token α)} (open' : tokens.find? Cursor.isEnd = none) :
    closed tokens = tokens ++ [⟨.endOfInput, Cursor.endColumnOf tokens⟩] := by
  rw [closed, Cursor.endColumnOf, open']
  cases last : tokens.getLast? with
  | none =>
    rw [List.getLast?_eq_none_iff.mp last]
    rfl
  | some token =>
    have proper := List.find?_eq_none.mp open' token (List.mem_of_getLast? last)
    simp only [if_neg proper]

/-- The tokens before the first end of input, which is one of the tokens or is added to them. -/
theorem endsAt_closed (tokens : List (Token α)) :
    ∃ item, EndsAt (closed tokens) (Cursor.ofTokens tokens).tokens item ∧
      (Cursor.ofTokens tokens).endColumn = item.column := by
  cases found : tokens.find? Cursor.isEnd with
  | some item =>
    obtain ⟨ending, before, after, joined, proper⟩ := List.find?_eq_some_iff_append.mp found
    have taken : (Cursor.ofTokens tokens).tokens = before := by
      rw [Cursor.ofTokens, joined, List.takeWhile_append_of_pos proper,
        List.takeWhile_cons_of_neg (by simp [ending]), List.append_nil]
    refine ⟨item, ?_, by rw [Cursor.ofTokens, Cursor.endColumnOf, found]⟩
    rw [taken]
    obtain ⟨more, same⟩ := prefix_closed tokens
    refine ⟨⟨after ++ more, ?_⟩, fun token mem => by simpa using proper token mem, ending⟩
    rw [← same, joined, List.append_assoc, List.cons_append]
  | none =>
    have proper := List.find?_eq_none.mp found
    have taken : (Cursor.ofTokens tokens).tokens = tokens :=
      List.takeWhile_eq_self_iff.mpr (by simpa using proper)
    rw [taken, closed_eq_append found]
    exact ⟨_, ⟨⟨[], rfl⟩, by simpa using proper, rfl⟩, rfl⟩

def upToEnd (tokens : List (Token α)) : List (Token α) :=
  (closed tokens).take (firstEnd tokens + 1)

theorem EndsAt.firstEnd_eq {tokens before : List (Token α)} {item : Token α}
    (ends : EndsAt (closed tokens) before item) : firstEnd tokens = before.length := by
  obtain ⟨after, cut⟩ := ends.cut
  rw [firstEnd, cut, List.findIdx_append, List.findIdx_eq_length.mpr ends.proper]
  simp [List.findIdx_cons, ends.ending]

theorem EndsAt.upToEnd_eq {tokens before : List (Token α)} {item : Token α}
    (ends : EndsAt (closed tokens) before item) : upToEnd tokens = before ++ [item] := by
  obtain ⟨after, cut⟩ := ends.cut
  rw [upToEnd, ends.firstEnd_eq, cut]
  simp [List.take_append]

theorem place_drop {before : List (Token α)} {position : Nat} (within : position ≤ before.length) :
    place before (before.drop position) = position := by
  rw [place, List.length_drop]
  omega

/-- A single move ends within the tokens before the end of input, where it started or behind. -/
theorem EndsAt.advance_forward {tokens before : List (Token α)} {item : Token α}
    (ends : EndsAt tokens before item) {position : Nat} (within : position ≤ before.length) :
    ∃ token next, (advance tokens).outcome position = some (.ok token, next) ∧
      position ≤ next ∧ next ≤ before.length := by
  have suffix : before.drop position <:+ before := List.drop_suffix position before
  rw [← place_drop within]
  generalize before.drop position = ahead at suffix
  cases ahead with
  | nil => exact ⟨item, _, outcome_advance_nil ends, Nat.le_refl _, Nat.sub_le _ _⟩
  | cons token rest =>
    exact ⟨token, _, outcome_advance ends suffix, place_le (List.suffix_cons token rest),
      Nat.sub_le _ _⟩

/-- What calls come to on any list of tokens, made one after the other. All of them end, and more
depth than suffices changes nothing; the answers are those that a cursor over the same tokens gives.
No move and no call leads back or behind the first end of input, and other tokens behind that end of
input change nothing. -/
theorem answers_forward (tokens : List (Token α)) (requests : List Call) :
    ∃ steps : List (Except (Located SyntaxFault) (Expr α) × Nat),
      (∀ spare, answers (closed tokens) (4 * firstEnd tokens + 4 + spare) 0 requests =
        some steps) ∧
      steps.map (·.1) = (Cursor.ofTokens tokens).answers requests ∧
      Forward (firstEnd tokens) 0 steps ∧
      (∀ position, position ≤ firstEnd tokens → ∃ token next,
        (advance (closed tokens)).outcome position = some (.ok token, next) ∧
          position ≤ next ∧ next ≤ firstEnd tokens) ∧
      ∀ others spare, answers (closed (upToEnd tokens ++ others))
        (4 * firstEnd tokens + 4 + spare) 0 requests = some steps := by
  obtain ⟨item, ends, endColumn⟩ := endsAt_closed tokens
  have start : place (Cursor.ofTokens tokens).tokens (Cursor.ofTokens tokens).tokens = 0 :=
    Nat.sub_self _
  obtain ⟨steps, found, answers, forward⟩ := answers_eq ends requests List.suffix_rfl
  rw [start] at found forward
  rw [ends.firstEnd_eq]
  refine ⟨steps, fun spare => found ends (Nat.le_add_right _ spare), ?_, forward,
    fun position => ends.advance_forward,
    fun others spare => found ⟨?_, ends.proper, ends.ending⟩ (Nat.le_add_right _ spare)⟩
  · rw [answers, ← endColumn]
  · obtain ⟨more, same⟩ := prefix_closed (upToEnd tokens ++ others)
    refine ⟨others ++ more, ?_⟩
    rw [← same, ends.upToEnd_eq]
    simp

example : answers (closed [(⟨.letter 'x', 1⟩ : Token Nat), ⟨.endOfInput, 2⟩, ⟨.number 2, 3⟩]) 12 0
    [.expression, .whole, .expression] = some [(.ok (.letter 'x'), 1),
      (.error ⟨.expectedExpression, 2⟩, 1), (.error ⟨.endsUnexpectedly, 2⟩, 1)] := rfl

end Closed

end Descent
end WorkedAlgebra
