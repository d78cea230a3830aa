import Mathlib
import WorkedAlgebra.Token.Scan

/-!
What scanning gives: the lexemes of joined texts, and the tokens or the first fault of a text in
terms of its lexemes.
-/

namespace WorkedAlgebra

open Numeral

section Lexemes

/-- No lexeme goes across the place where two texts meet. -/
def Apart (u v : List Char) : Prop :=
  ∀ c ∈ u.getLast?, ∀ d ∈ v.head?, (isMark c && isMark d) = false

theorem exists_lexeme (c : Char) (cs : List Char) :
    ∃ ds rest, lexemes (c :: cs) = (c :: ds) :: rest := by
  simp only [lexemes]
  split
  · split
    · exact ⟨_, _, rfl⟩
    · exact ⟨_, _, rfl⟩
  · exact ⟨_, _, rfl⟩

theorem lexemes_append {u v : List Char} (apart : Apart u v) :
    lexemes (u ++ v) = lexemes u ++ lexemes v := by
  induction u with
  | nil => rfl
  | cons c u ih =>
      cases u with
      | nil =>
          cases v with
          | nil => rfl
          | cons d v =>
              obtain ⟨ds, rest, first⟩ := exists_lexeme d v
              have other : (isMark c && isMark d) = false := apart c rfl d rfl
              change lexemes (c :: d :: v) = [c] :: lexemes (d :: v)
              rw [lexemes, first]
              simp [other]
      | cons d u =>
          have rest := ih fun e he => apart e (by simpa using he)
          obtain ⟨ds, others, first⟩ := exists_lexeme d u
          change lexemes (c :: (d :: u ++ v)) = lexemes (c :: d :: u) ++ lexemes v
          rw [lexemes, lexemes, rest, first]
          simp only [List.cons_append]
          split <;> rfl

theorem apart_of_head {u v : List Char} (other : ∀ d ∈ v.head?, isMark d = false) :
    Apart u v := by
  intro c _ d hd
  rw [other d hd, Bool.and_false]

theorem apart_of_last {u v : List Char} (other : ∀ c ∈ u.getLast?, isMark c = false) :
    Apart u v := by
  intro c hc d _
  rw [other c hc, Bool.false_and]

theorem exists_of_not_apart {c : Char} {cs : List Char} (together : ¬ Apart [c] cs) :
    ∃ d ds, cs = d :: ds ∧ isMark c = true ∧ isMark d = true := by
  cases cs with
  | nil => simp [Apart] at together
  | cons d ds => exact ⟨d, ds, rfl, by simpa [Apart] using together⟩

theorem lexemes_cons {c : Char} {cs : List Char} (apart : Apart [c] cs) :
    lexemes (c :: cs) = [c] :: lexemes cs :=
  lexemes_append apart

theorem lexemes_single {c : Char} (other : isMark c = false) (cs : List Char) :
    lexemes (c :: cs) = [c] :: lexemes cs :=
  lexemes_cons (apart_of_last (by simpa using other))

/-- A run of numeral marks is one lexeme. -/
theorem lexemes_marks {run : List Char} (nonempty : run ≠ [])
    (marks : ∀ c ∈ run, isMark c = true) : lexemes run = [run] := by
  induction run with
  | nil => exact (nonempty rfl).elim
  | cons c run ih =>
      cases run with
      | nil => rfl
      | cons d run =>
          have rest := ih (by simp) fun e he => marks e (List.mem_cons_of_mem c he)
          rw [lexemes, rest]
          simp [marks c (by simp), marks d (by simp)]

theorem flatten_lexemes (text : List Char) : (lexemes text).flatten = text := by
  induction text with
  | nil => rfl
  | cons c cs ih =>
      rw [lexemes]
      split
      · rename_i d ds rest first
        rw [first] at ih
        split <;> simp [← ih]
      · simp [ih]

/-- A lexeme is a single character or a run of numeral marks. -/
theorem lexemes_shape (text : List Char) : ∀ lexeme ∈ lexemes text,
    (∃ c, lexeme = [c]) ∨ ∀ c ∈ lexeme, isMark c = true := by
  induction text with
  | nil => nofun
  | cons c cs ih =>
      rw [lexemes]
      split
      · rename_i d ds rest first
        rw [first] at ih
        obtain ⟨headShape, restShape⟩ := List.forall_mem_cons.mp ih
        split
        · rename_i marks
          rw [Bool.and_eq_true] at marks
          refine List.forall_mem_cons.mpr ⟨.inr ?_, restShape⟩
          refine List.forall_mem_cons.mpr ⟨marks.1, ?_⟩
          rcases headShape with ⟨e, single⟩ | all
          · cases single
            simpa using marks.2
          · exact all
        · exact List.forall_mem_cons.mpr ⟨.inl ⟨c, rfl⟩, ih⟩
      · exact List.forall_mem_cons.mpr ⟨.inl ⟨c, rfl⟩, ih⟩

end Lexemes

section Sequences

variable {ε β : Type} {outcomes : List (Except ε β)}

theorem mapM_cons (first : Except ε β) (rest : List (Except ε β)) :
    (first :: rest).mapM id = first.bind fun b => (rest.mapM id).map (b :: ·) := by
  cases first with
  | error fault => rfl
  | ok b => cases h : rest.mapM id <;> simp [h, Except.bind, Except.map, bind, pure, Except.pure]

theorem mapM_cons_ok_iff {first : Except ε β} {rest : List (Except ε β)} {results : List β} :
    (first :: rest).mapM id = .ok results ↔
      ∃ b others, first = .ok b ∧ rest.mapM id = .ok others ∧ results = b :: others := by
  rw [mapM_cons]
  cases first <;> cases rest.mapM id <;> simp [Except.bind, Except.map, eq_comm]

theorem mapM_cons_error_iff {first : Except ε β} {rest : List (Except ε β)} {fault : ε} :
    (first :: rest).mapM id = .error fault ↔
      first = .error fault ∨ ∃ b, first = .ok b ∧ rest.mapM id = .error fault := by
  rw [mapM_cons]
  cases first <;> cases rest.mapM id <;> simp [Except.bind, Except.map]

theorem mapM_ok_iff {results : List β} :
    outcomes.mapM id = .ok results ↔ outcomes = results.map .ok := by
  induction outcomes generalizing results with
  | nil =>
      constructor
      · intro h
        cases h
        rfl
      · intro h
        rw [List.map_eq_nil_iff.mp h.symm]
        rfl
  | cons first rest ih =>
      rw [mapM_cons_ok_iff]
      constructor
      · rintro ⟨b, others, rfl, all, rfl⟩
        rw [ih.mp all, List.map_cons]
      · intro h
        obtain ⟨b, others, rfl, read, all⟩ := List.map_eq_cons_iff.mp h.symm
        exact ⟨b, others, read.symm, ih.mpr all.symm, rfl⟩

theorem mapM_error_iff {fault : ε} : outcomes.mapM id = .error fault ↔
    ∃ (before : List β) (after : List (Except ε β)),
      outcomes = before.map .ok ++ .error fault :: after := by
  induction outcomes with
  | nil =>
      constructor
      · intro h
        cases h
      · rintro ⟨before, after, joined⟩
        simp at joined
  | cons first rest ih =>
      rw [mapM_cons_error_iff, ih]
      constructor
      · rintro (rfl | ⟨b, rfl, before, after, rfl⟩)
        · exact ⟨[], rest, rfl⟩
        · exact ⟨b :: before, after, rfl⟩
      · rintro ⟨before, after, joined⟩
        cases before with
        | nil =>
            cases joined
            exact .inl rfl
        | cons b before =>
            cases joined
            exact .inr ⟨b, rfl, before, after, rfl⟩

end Sequences

namespace Numeral

theorem isMark_of_isDigit {c : Char} (digit : c.isDigit = true) : isMark c = true := by
  rw [isMark, digit, Bool.true_or]

theorem ne_point_of_isDigit {c : Char} (digit : c.isDigit = true) : (c != '.') = true := by
  rw [bne_iff_ne]
  rintro rfl
  cases digit

theorem ofMarks?_whole {whole : List Char} (digits : ∀ c ∈ whole, c.isDigit = true)
    (nonempty : whole ≠ []) : ofMarks? whole = some ⟨ofDigits whole, 0⟩ := by
  have run : ∀ c ∈ whole, (c != '.') = true := fun c mem => ne_point_of_isDigit (digits c mem)
  rw [ofMarks?, List.takeWhile_eq_self_iff.mpr run, List.dropWhile_eq_nil_iff.mpr run]
  simp [nonempty]

theorem ofMarks?_append_point {whole : List Char} (digits : ∀ c ∈ whole, c.isDigit = true)
    (fraction : List Char) :
    ofMarks? (whole ++ '.' :: fraction) =
      if fraction.contains '.' || (whole.isEmpty && fraction.isEmpty) then none
      else some ⟨ofDigits (whole ++ fraction), fraction.length⟩ := by
  have run : ∀ c ∈ whole, (c != '.') = true := fun c mem => ne_point_of_isDigit (digits c mem)
  have taken : (whole ++ '.' :: fraction).takeWhile (· != '.') = whole := by
    rw [List.takeWhile_append_of_pos run]
    simp
  have dropped : (whole ++ '.' :: fraction).dropWhile (· != '.') = '.' :: fraction := by
    rw [List.dropWhile_append_of_pos run]
    simp
  simp only [ofMarks?, taken, dropped]

/-- Digits with a point are a numeral if there are digits at all and there is no other point. -/
theorem ofMarks?_number {whole fraction : List Char} (digits : ∀ c ∈ whole, c.isDigit = true)
    (single : '.' ∉ fraction) (nonempty : whole ≠ [] ∨ fraction ≠ []) :
    ofMarks? (whole ++ '.' :: fraction) = some ⟨ofDigits (whole ++ fraction), fraction.length⟩ := by
  have some : (whole.isEmpty && fraction.isEmpty) = false := by
    rcases nonempty with h | h <;> simp [h]
  rw [ofMarks?_append_point digits, some, Bool.or_false, if_neg (by simpa using single)]

end Numeral

namespace Token

variable {α : Type}

theorem kindOf?_letter {c : Char} (alpha : c.isAlpha = true) :
    kindOf? c = some (.letter c.toLower : TokenKind α) := by
  unfold kindOf?
  split <;> first | cases alpha | rw [if_pos alpha]

variable [Scalar α]

def Reads (pieces : List (List Char)) (kinds : List (TokenKind α)) : Prop :=
  List.Forall₂ (fun lexeme kind => ofLexeme lexeme = .ok kind) pieces kinds

theorem Reads.exists_lexeme {pieces : List (List Char)} {kinds : List (TokenKind α)}
    (reads : Reads pieces kinds) {kind : TokenKind α} (mem : kind ∈ kinds) :
    ∃ lexeme ∈ pieces, ofLexeme lexeme = .ok kind := by
  induction reads with
  | nil => cases mem
  | cons read _ ih =>
      rcases List.mem_cons.mp mem with rfl | later
      · exact ⟨_, List.mem_cons_self, read⟩
      · obtain ⟨lexeme, hlexeme, found⟩ := ih later
        exact ⟨lexeme, List.mem_cons_of_mem _ hlexeme, found⟩

theorem Reads.exists_kind {pieces : List (List Char)} {kinds : List (TokenKind α)}
    (reads : Reads pieces kinds) {lexeme : List Char} (mem : lexeme ∈ pieces) :
    ∃ kind ∈ kinds, ofLexeme lexeme = .ok kind := by
  induction reads with
  | nil => cases mem
  | cons read _ ih =>
      rcases List.mem_cons.mp mem with rfl | later
      · exact ⟨_, List.mem_cons_self, read⟩
      · obtain ⟨kind, hkind, found⟩ := ih later
        exact ⟨kind, List.mem_cons_of_mem _ hkind, found⟩

def placed (offset : Nat) : List (List Char) → List (TokenKind α) → List (Token α)
  | lexeme :: rest, kind :: kinds =>
    ⟨kind, offset + 1⟩ :: placed (offset + lexeme.length) rest kinds
  | _, _ => []

theorem kinds_placed {pieces : List (List Char)} {kinds : List (TokenKind α)}
    (reads : Reads pieces kinds) (offset : Nat) :
    (placed offset pieces kinds).map kind = kinds := by
  induction reads generalizing offset with
  | nil => rfl
  | cons _ _ ih => simp [placed, ih]

def located (column : Nat) (lexeme : List Char) : Except (Located TokenFault) (Token α) :=
  match ofLexeme lexeme with
  | .ok kind => .ok ⟨kind, column⟩
  | .error fault => .error ⟨fault, column⟩

variable {column : Nat} {lexeme : List Char}

theorem located_ok_iff {token : Token α} :
    located column lexeme = .ok token ↔
      ∃ kind, ofLexeme lexeme = .ok kind ∧ token = ⟨kind, column⟩ := by
  rw [located]
  cases ofLexeme (α := α) lexeme <;> simp [eq_comm]

theorem located_error_iff {fault : Located TokenFault} :
    located (α := α) column lexeme = .error fault ↔
      ofLexeme (α := α) lexeme = .error fault.fault ∧ fault.column = column := by
  obtain ⟨cause, place⟩ := fault
  rw [located]
  cases ofLexeme (α := α) lexeme <;> simp [eq_comm]

theorem scanLexemes_cons (offset : Nat) (lexeme : List Char) (rest : List (List Char)) :
    scanLexemes (α := α) offset (lexeme :: rest) =
      located (offset + 1) lexeme :: scanLexemes (offset + lexeme.length) rest := rfl

theorem scanLexemes_ok_iff {offset : Nat} {pieces : List (List Char)} {tokens : List (Token α)} :
    (scanLexemes offset pieces).mapM id = .ok tokens ↔
      ∃ kinds, Reads pieces kinds ∧
        tokens = placed offset pieces kinds ++
          [⟨.endOfInput, offset + pieces.flatten.length + 1⟩] := by
  induction pieces generalizing offset tokens with
  | nil =>
      constructor
      · intro h
        exact ⟨[], .nil, (Except.ok.inj h).symm⟩
      · rintro ⟨kinds, reads, rfl⟩
        cases reads
        rfl
  | cons lexeme rest ih =>
      rw [scanLexemes_cons, mapM_cons_ok_iff]
      constructor
      · rintro ⟨token, others, outcome, later, rfl⟩
        obtain ⟨kind, read, rfl⟩ := located_ok_iff.mp outcome
        obtain ⟨kinds, reads, rfl⟩ := ih.mp later
        exact ⟨kind :: kinds, .cons read reads, by simp [placed, Nat.add_assoc]⟩
      · rintro ⟨kinds, reads, rfl⟩
        cases reads with
        | cons read reads =>
            exact ⟨_, _, located_ok_iff.mpr ⟨_, read, rfl⟩, ih.mpr ⟨_, reads, rfl⟩,
              by simp [placed, Nat.add_assoc]⟩

/-- The tokens of a text are its lexemes, each of which has to be a token. -/
theorem tokenize_ok_iff {offset : Nat} {text : List Char} {tokens : List (Token α)} :
    tokenize offset text = .ok tokens ↔
      ∃ kinds, Reads (lexemes text) kinds ∧
        tokens = placed offset (lexemes text) kinds ++
          [⟨.endOfInput, offset + text.length + 1⟩] := by
  have all : tokenize offset text = .ok tokens ↔ _ := scanLexemes_ok_iff
  rwa [flatten_lexemes] at all

theorem scanLexemes_error_iff {offset : Nat} {pieces : List (List Char)}
    {fault : Located TokenFault} :
    (scanLexemes (α := α) offset pieces).mapM id = .error fault ↔
      ∃ good faulty rest, pieces = good ++ faulty :: rest ∧
        (∃ kinds : List (TokenKind α), Reads good kinds) ∧
          ofLexeme (α := α) faulty = .error fault.fault ∧
            fault.column = offset + good.flatten.length + 1 := by
  induction pieces generalizing offset with
  | nil =>
      constructor
      · intro h
        cases h
      · rintro ⟨good, faulty, rest, joined, -⟩
        simp at joined
  | cons lexeme others ih =>
      rw [scanLexemes_cons, mapM_cons_error_iff, ih, located_error_iff]
      constructor
      · rintro (⟨bad, column⟩ | ⟨token, outcome, good, faulty, rest, rfl, ⟨kinds, reads⟩, bad,
          column⟩)
        · exact ⟨[], lexeme, others, rfl, ⟨[], .nil⟩, bad, column⟩
        · obtain ⟨kind, read, -⟩ := located_ok_iff.mp outcome
          exact ⟨lexeme :: good, faulty, rest, rfl, ⟨kind :: kinds, .cons read reads⟩, bad,
            by simp [column, Nat.add_assoc]⟩
      · rintro ⟨good, faulty, rest, joined, ⟨kinds, reads⟩, bad, column⟩
        cases reads with
        | nil =>
            cases joined
            exact .inl ⟨bad, column⟩
        | cons read reads =>
            cases joined
            exact .inr ⟨_, located_ok_iff.mpr ⟨_, read, rfl⟩, _, faulty, rest, rfl, ⟨_, reads⟩, bad,
              by simp [column, Nat.add_assoc]⟩

/-- The fault of a text is that of its first lexeme that is no token, and it is located at the
first character of that lexeme. -/
theorem tokenize_error_iff {offset : Nat} {text : List Char} {fault : Located TokenFault} :
    tokenize (α := α) offset text = .error fault ↔
      ∃ good faulty rest, lexemes text = good ++ faulty :: rest ∧
        (∃ kinds : List (TokenKind α), Reads good kinds) ∧
          ofLexeme (α := α) faulty = .error fault.fault ∧
            fault.column = offset + good.flatten.length + 1 :=
  scanLexemes_error_iff

end Token
end WorkedAlgebra
