import WorkedAlgebra.Expr.Reading

/-!
Reading an expression by recursive descent: a list of tokens, a position in it, and one procedure
for each rule of the grammar. Every access to the list is checked, and calls may be nested to a
given depth only; there is no outcome where a token is missing or the depth does not suffice.
-/

namespace WorkedAlgebra

variable {α β : Type}

/-- A computation that moves a position and may find a fault, or has no outcome at all. -/
abbrev Descent (β : Type) := ExceptT (Located SyntaxFault) (StateT Nat Option) β

namespace Descent

def outcome (x : Descent β) (position : Nat) :
    Option (Except (Located SyntaxFault) β × Nat) := x.run.run position

section Tokens

variable (tokens : List (Token α))

/-- The tokens that are walked over: an end of input is added unless one is the last of them. -/
def closed : List (Token α) :=
  match tokens.getLast? with
  | some last => if Cursor.isEnd last then tokens else tokens ++ [⟨.endOfInput, last.column + 1⟩]
  | none => [⟨.endOfInput, 1⟩]

def peek : Descent (Token α) := do
  let position ← get
  tokens[min position (tokens.length - 1)]?

def previous : Descent (Token α) := do
  let position ← get
  tokens[if position = 0 then 0 else position - 1]?

def atEnd : Descent Bool := do
  return Cursor.isEnd (← peek tokens)

/-- Moves behind the next token, but not behind an end of input. -/
def advance : Descent (Token α) := do
  if ← atEnd tokens then peek tokens
  else
    modify (· + 1)
    previous tokens

def check (symbol : Symbol) : Descent Bool := do
  if ← atEnd tokens then return false
  else return (← peek tokens).kind.symbol == symbol

def takeAny : List Symbol → Descent Bool
  | [] => return false
  | symbol :: symbols => do
    if ← check tokens symbol then
      let _ ← advance tokens
      return true
    else takeAny symbols

def consume (symbol : Symbol) (fault : SyntaxFault) : Descent Unit := do
  if ← check tokens symbol then
    let _ ← advance tokens
  else throw ⟨fault, (← peek tokens).column⟩

def startsFactor : Descent Bool := do
  return [Symbol.letter, .openParen].contains (← peek tokens).kind.symbol

mutual

def expression : Nat → Descent (Expr α)
  | 0 => (none : Option (Expr α))
  | depth + 1 => do
    let first ← term depth
    sums depth first

def sums : Nat → Expr α → Descent (Expr α)
  | 0, _ => (none : Option (Expr α))
  | depth + 1, left => do
    if ← takeAny tokens [.plus, .minus] then
      let operator := (← previous tokens).kind.symbol
      let right ← term depth
      sums depth (.binary operator left right)
    else return left

def term : Nat → Descent (Expr α)
  | 0 => (none : Option (Expr α))
  | depth + 1 => do
    let first ← unary depth
    factors depth first

def factors : Nat → Expr α → Descent (Expr α)
  | 0, _ => (none : Option (Expr α))
  | depth + 1, left => do
    if ← takeAny tokens [.star, .slash] then
      let operator := (← previous tokens).kind.symbol
      let right ← unary depth
      factors depth (.binary operator left right)
    else if ← startsFactor tokens then
      let right ← unary depth
      factors depth (.binary .star left right)
    else return left

def unary : Nat → Descent (Expr α)
  | 0 => (none : Option (Expr α))
  | depth + 1 => do
    if ← takeAny tokens [.minus, .plus] then
      let operator := (← previous tokens).kind.symbol
      let operand ← unary depth
      return .unary operator operand
    else primary depth

def primary : Nat → Descent (Expr α)
  | 0 => (none : Option (Expr α))
  | depth + 1 => do
    let token ← advance tokens
    match token.kind with
    | .number v => return .number v
    | .letter name => return .letter name
    | .openParen =>
      let inner ← expression depth
      consume tokens .closeParen .expectedClose
      return inner
    | .endOfInput => throw ⟨.endsUnexpectedly, token.column⟩
    | other => throw ⟨.unexpected other.symbol, token.column⟩

end

def whole (depth : Nat) : Descent (Expr α) := do
  if ← atEnd tokens then throw ⟨.expectedExpression, (← peek tokens).column⟩
  else
    let e ← expression tokens depth
    if ← atEnd tokens then return e
    else
      let token ← peek tokens
      throw ⟨.unexpected token.kind.symbol, token.column⟩

end Tokens

section Outcomes

theorem outcome_pure (b : β) (position : Nat) :
    (pure b : Descent β).outcome position = some (.ok b, position) := rfl

theorem outcome_throw (fault : Located SyntaxFault) (position : Nat) :
    (throw fault : Descent β).outcome position = some (.error fault, position) := rfl

theorem outcome_bind {γ : Type} {x : Descent β} {b : β} {position next : Nat}
    (first : x.outcome position = some (.ok b, next)) (f : β → Descent γ) :
    (x >>= f).outcome position = (f b).outcome next := by
  change Option.bind (x.outcome position) _ = _
  rw [first]
  rfl

theorem outcome_bind_error {γ : Type} {x : Descent β} {fault : Located SyntaxFault}
    {position next : Nat} (first : x.outcome position = some (.error fault, next))
    (f : β → Descent γ) : (x >>= f).outcome position = some (.error fault, next) := by
  change Option.bind (x.outcome position) _ = _
  rw [first]
  rfl

/-- Looking a token up moves nothing. -/
theorem outcome_lookup (found : Nat → Option β) (position : Nat) :
    (do found (← get) : Descent β).outcome position =
      (found position).map fun b => (.ok b, position) := by
  change Option.bind (Option.bind (found position) _) _ = _
  cases found position <;> rfl

variable {tokens before ahead rest : List (Token α)} {item token : Token α} {symbol : Symbol}
  {symbols : List Symbol}

structure EndsAt (tokens before : List (Token α)) (item : Token α) : Prop where
  cut : ∃ after, tokens = before ++ item :: after
  proper : ∀ token ∈ before, Cursor.isEnd token = false
  ending : Cursor.isEnd item = true

def place (before ahead : List (Token α)) : Nat := before.length - ahead.length

theorem place_append (done ahead : List (Token α)) : place (done ++ ahead) ahead = done.length := by
  rw [place, List.length_append, Nat.add_sub_cancel]

theorem place_cons (done rest : List (Token α)) (token : Token α) :
    place (done ++ token :: rest) rest = done.length + 1 := by
  rw [← List.singleton_append, ← List.append_assoc, place_append, List.length_append]
  rfl

theorem outcome_peek (ends : EndsAt tokens before item) (suffix : ahead <:+ before) :
    (peek tokens).outcome (place before ahead) =
      some (.ok (ahead.headD item), place before ahead) := by
  obtain ⟨after, rfl⟩ := ends.cut
  obtain ⟨done, rfl⟩ := suffix
  have within : min done.length ((done ++ ahead ++ item :: after).length - 1) = done.length := by
    simp
    omega
  rw [peek, outcome_lookup fun position => _, place_append, within, List.append_assoc,
    List.getElem?_append_right (Nat.le_refl _), Nat.sub_self]
  cases ahead <;> rfl

theorem isEnd_headD (ends : EndsAt tokens before item) (suffix : ahead <:+ before) :
    Cursor.isEnd (ahead.headD item) = ahead.isEmpty := by
  cases ahead with
  | nil => exact ends.ending
  | cons token rest => exact ends.proper token (suffix.subset List.mem_cons_self)

theorem outcome_atEnd (ends : EndsAt tokens before item) (suffix : ahead <:+ before) :
    (atEnd tokens).outcome (place before ahead) = some (.ok ahead.isEmpty, place before ahead) := by
  rw [atEnd, outcome_bind (outcome_peek ends suffix), isEnd_headD ends suffix, outcome_pure]

theorem outcome_previous (ends : EndsAt tokens before item) (suffix : token :: rest <:+ before) :
    (previous tokens).outcome (place before rest) = some (.ok token, place before rest) := by
  obtain ⟨after, rfl⟩ := ends.cut
  obtain ⟨done, rfl⟩ := suffix
  rw [previous, outcome_lookup fun position => _, place_cons, if_neg (Nat.succ_ne_zero _),
    Nat.add_sub_cancel, List.append_assoc, List.getElem?_append_right (Nat.le_refl _),
    Nat.sub_self]
  rfl

theorem outcome_advance_nil (ends : EndsAt tokens before item) :
    (advance tokens).outcome (place before []) = some (.ok item, place before []) := by
  have suffix : [] <:+ before := List.nil_suffix
  rw [advance, outcome_bind (outcome_atEnd ends suffix)]
  exact outcome_peek ends suffix

theorem outcome_advance (ends : EndsAt tokens before item) (suffix : token :: rest <:+ before) :
    (advance tokens).outcome (place before (token :: rest)) =
      some (.ok token, place before rest) := by
  have moved : place before (token :: rest) + 1 = place before rest := by
    obtain ⟨done, rfl⟩ := suffix
    rw [place_append, place_cons]
  rw [advance, outcome_bind (outcome_atEnd ends suffix)]
  change (previous tokens).outcome (place before (token :: rest) + 1) = _
  rw [moved]
  exact outcome_previous ends suffix

theorem outcome_check (ends : EndsAt tokens before item) (suffix : ahead <:+ before) :
    (check tokens symbol).outcome (place before ahead) =
      some (.ok (ahead.head?.any (·.kind.symbol == symbol)), place before ahead) := by
  rw [check, outcome_bind (outcome_atEnd ends suffix)]
  cases ahead with
  | nil => rfl
  | cons token rest =>
    exact outcome_bind (outcome_peek ends suffix) fun token => pure (token.kind.symbol == symbol)

/-- A token that is looked for is passed. -/
theorem outcome_takeAny (ends : EndsAt tokens before item) (suffix : token :: rest <:+ before)
    (listed : token.kind.symbol ∈ symbols) :
    (takeAny tokens symbols).outcome (place before (token :: rest)) =
      some (.ok true, place before rest) := by
  induction symbols with
  | nil => cases listed
  | cons symbol symbols ih =>
    rw [takeAny, outcome_bind (outcome_check ends suffix), List.head?_cons, Option.any_some]
    split
    · rw [outcome_bind (outcome_advance ends suffix), outcome_pure]
    · rename_i different
      exact ih ((List.mem_cons.mp listed).resolve_left (mt beq_iff_eq.mpr different))

theorem any_head?_eq_false (other : ∀ token ∈ ahead.head?, token.kind.symbol ≠ symbol) :
    ahead.head?.any (·.kind.symbol == symbol) = false := by
  cases ahead with
  | nil => rfl
  | cons token rest => exact beq_false_of_ne (other token rfl)

/-- Where none of the tokens stands that are looked for nothing moves. -/
theorem outcome_takeAny_other (ends : EndsAt tokens before item) (suffix : ahead <:+ before)
    (other : ∀ token ∈ ahead.head?, token.kind.symbol ∉ symbols) :
    (takeAny tokens symbols).outcome (place before ahead) =
      some (.ok false, place before ahead) := by
  induction symbols with
  | nil => rfl
  | cons symbol symbols ih =>
    have different : ahead.head?.any (·.kind.symbol == symbol) = false :=
      any_head?_eq_false fun token here same =>
        other token here (same ▸ List.mem_cons_self)
    rw [takeAny, outcome_bind (outcome_check ends suffix), different]
    exact ih fun token here mem => other token here (List.mem_cons_of_mem symbol mem)

theorem outcome_startsFactor (ends : EndsAt tokens before item)
    (suffix : token :: rest <:+ before) (starts : token.kind.symbol ∈ [Symbol.letter, .openParen]) :
    (startsFactor tokens).outcome (place before (token :: rest)) =
      some (.ok true, place before (token :: rest)) := by
  rw [startsFactor, outcome_bind (outcome_peek ends suffix), List.headD_cons,
    List.contains_iff_mem.mpr starts, outcome_pure]

theorem outcome_startsFactor_other (ends : EndsAt tokens before item) (suffix : ahead <:+ before)
    (other : ∀ token ∈ ahead.head?, token.kind.symbol ∉ [Symbol.letter, .openParen]) :
    (startsFactor tokens).outcome (place before ahead) =
      some (.ok false, place before ahead) := by
  have symbol : (ahead.headD item).kind.symbol ∉ [Symbol.letter, .openParen] := by
    cases ahead with
    | nil =>
      rw [List.headD_nil, beq_iff_eq.mp ends.ending]
      decide
    | cons token rest => exact other token rfl
  rw [startsFactor, outcome_bind (outcome_peek ends suffix),
    Bool.eq_false_iff.mpr (mt List.contains_iff_mem.mp symbol), outcome_pure]

theorem outcome_consume (ends : EndsAt tokens before item) (suffix : token :: rest <:+ before)
    (same : token.kind.symbol = symbol) (fault : SyntaxFault) :
    (consume tokens symbol fault).outcome (place before (token :: rest)) =
      some (.ok (), place before rest) := by
  rw [consume, outcome_bind (outcome_check ends suffix), List.head?_cons, Option.any_some,
    if_pos (beq_iff_eq.mpr same), outcome_bind (outcome_advance ends suffix), outcome_pure]

theorem outcome_consume_other (ends : EndsAt tokens before item) (suffix : ahead <:+ before)
    (other : ∀ token ∈ ahead.head?, token.kind.symbol ≠ symbol) (fault : SyntaxFault) :
    (consume tokens symbol fault).outcome (place before ahead) =
      some (.error ⟨fault, Cursor.column ⟨ahead, item.column⟩⟩, place before ahead) := by
  rw [consume, outcome_bind (outcome_check ends suffix), any_head?_eq_false other,
    if_neg Bool.false_ne_true, outcome_bind (outcome_peek ends suffix), outcome_throw]
  cases ahead <;> rfl

end Outcomes

end Descent
end WorkedAlgebra
