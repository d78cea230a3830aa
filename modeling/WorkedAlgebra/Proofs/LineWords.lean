import WorkedAlgebra.LongHand.Exercise
import WorkedAlgebra.Proofs.StreamLines

/-!
The words of a line and the integers they write. Words are what blanks leave over; the blanks
around a line do not change them. An operand is a word of digits behind an optional sign whose
number has 64 bits.
-/

namespace WorkedAlgebra

namespace Text

/-- A text and its words: runs without blanks, with blanks between them. -/
inductive HasWords : List Char → List (List Char) → Prop
  | nil {text : List Char} (blank : ∀ c ∈ text, isBlank c = true) : HasWords text []
  | cons {front word rest : List Char} {others : List (List Char)}
      (front_blank : ∀ c ∈ front, isBlank c = true) (filled : word ≠ [])
      (kept : ∀ c ∈ word, isBlank c = false) (ends : ∀ c ∈ rest.head?, isBlank c = true)
      (behind : HasWords rest others) : HasWords (front ++ word ++ rest) (word :: others)

section Words

variable {c : Char} {text front word rest : List Char} {ws : List (List Char)}

theorem words_blank (blank : isBlank c = true) (text : List Char) :
    words (c :: text) = words text := by
  cases text with
  | nil => simp [words, blank]
  | cons d text => rw [words, if_pos blank]

theorem words_blanks (blank : ∀ c ∈ front, isBlank c = true) (text : List Char) :
    words (front ++ text) = words text := by
  induction front with
  | nil => rfl
  | cons c front ih =>
    obtain ⟨first, others⟩ := List.forall_mem_cons.mp blank
    rw [List.cons_append, words_blank first, ih others]

/-- A run without blanks is a word if a blank follows or nothing does. -/
theorem words_run (filled : word ≠ []) (kept : ∀ c ∈ word, isBlank c = false)
    (ends : ∀ c ∈ rest.head?, isBlank c = true) : words (word ++ rest) = word :: words rest := by
  induction word with
  | nil => exact absurd rfl filled
  | cons c word ih =>
    obtain ⟨first, others⟩ := List.forall_mem_cons.mp kept
    cases word with
    | nil =>
      cases rest with
      | nil => simp [words, first]
      | cons d rest => simp [words, first, ends d rfl]
    | cons d word =>
      have next := ih (List.cons_ne_nil d word) others
      have second := others d List.mem_cons_self
      rw [List.cons_append] at next
      rw [List.cons_append, List.cons_append, words, if_neg (by simp [first]),
        if_neg (by simp [second]), next]

theorem HasWords.eq_words (has : HasWords text ws) : words text = ws := by
  induction has with
  | nil blank =>
    have none := words_blanks blank []
    rwa [List.append_nil, words] at none
  | cons front_blank filled kept ends behind ih =>
    rw [List.append_assoc, words_blanks front_blank, words_run filled kept ends, ih]

theorem HasWords.blank_cons (has : HasWords text ws) (blank : isBlank c = true) :
    HasWords (c :: text) ws := by
  cases has with
  | nil rest => exact .nil (List.forall_mem_cons.mpr ⟨blank, rest⟩)
  | cons front_blank filled kept ends behind =>
    exact .cons (List.forall_mem_cons.mpr ⟨blank, front_blank⟩) filled kept ends behind

/-- A character in front of a word belongs to it. -/
theorem HasWords.kept_cons {d : Char} {others : List (List Char)}
    (has : HasWords (d :: text) (word :: others)) (kept : isBlank c = false)
    (next : isBlank d = false) : HasWords (c :: d :: text) ((c :: word) :: others) := by
  generalize same : d :: text = line at has
  cases has with
  | @cons front _ rest _ front_blank filled inner ends behind =>
    cases front with
    | nil =>
      exact .cons front_blank (List.cons_ne_nil c word) (List.forall_mem_cons.mpr ⟨kept, inner⟩)
        ends behind
    | cons b front =>
      cases same
      rw [front_blank d List.mem_cons_self] at next
      cases next

theorem HasWords.all_blank (has : HasWords text []) : ∀ c ∈ text, isBlank c = true := by
  cases has with
  | nil blank => exact blank

theorem HasWords.single (kept : isBlank c = false) (ends : ∀ d ∈ text.head?, isBlank d = true)
    (has : HasWords text ws) : HasWords (c :: text) ([c] :: ws) := by
  have none : ∀ d ∈ ([] : List Char), isBlank d = true := fun d mem => absurd mem List.not_mem_nil
  exact .cons none (List.cons_ne_nil c []) (List.forall_mem_singleton.mpr kept) ends has

theorem hasWords_words (text : List Char) : HasWords text (words text) := by
  fun_induction words text with
  | case1 => exact .nil fun c mem => absurd mem List.not_mem_nil
  | case2 c blank => exact .nil (List.forall_mem_singleton.mpr blank)
  | case3 c kept =>
    exact .single (Bool.eq_false_iff.mpr kept) (fun d mem => absurd mem (by simp))
      (.nil fun d mem => absurd mem List.not_mem_nil)
  | case4 c d rest blank ih => exact ih.blank_cons blank
  | case5 c d rest kept blank ih =>
    refine .single (Bool.eq_false_iff.mpr kept) ?_ ih
    intro e mem
    cases mem
    exact blank
  | case6 c d rest kept next none ih =>
    rw [none] at ih
    exact absurd (ih.all_blank d List.mem_cons_self) next
  | case7 c d rest kept next word others some ih =>
    rw [some] at ih
    exact ih.kept_cons (Bool.eq_false_iff.mpr kept) (Bool.eq_false_iff.mpr next)

theorem hasWords_iff : HasWords text ws ↔ words text = ws := by
  constructor
  · exact HasWords.eq_words
  · intro same
    exact same ▸ hasWords_words text

theorem HasWords.append_blanks {back : List Char} (has : HasWords text ws)
    (blank : ∀ c ∈ back, isBlank c = true) : HasWords (text ++ back) ws := by
  induction has with
  | nil all => exact .nil fun c mem => (List.mem_append.mp mem).elim (all c) (blank c)
  | @cons front word rest others front_blank filled kept ends behind ih =>
    rw [List.append_assoc]
    refine .cons front_blank filled kept ?_ ih
    intro c mem
    cases rest with
    | nil => exact blank c (List.mem_of_head? mem)
    | cons d rest => exact ends c mem

/-- The blanks around a line are not among its words. -/
theorem words_trim (line : List Char) : words (trim line) = words line := by
  obtain ⟨front, back, t⟩ := isTrimmed_trim line
  have inner := (hasWords_words (trim line)).append_blanks t.back_blank
  rw [← inner.eq_words]
  conv_rhs => rw [t.cut, List.append_assoc, words_blanks t.front_blank]

end Words

end Text

namespace LongHand

inductive WritesInteger : List Char → Int → Prop
  | plain {digits : List Char} (filled : digits ≠ []) (each : ∀ c ∈ digits, c.isDigit = true)
      (fits : (Numeral.ofDigits digits : Int) < 2 ^ 63) :
      WritesInteger digits (Numeral.ofDigits digits)
  | plus {digits : List Char} (filled : digits ≠ []) (each : ∀ c ∈ digits, c.isDigit = true)
      (fits : (Numeral.ofDigits digits : Int) < 2 ^ 63) :
      WritesInteger ('+' :: digits) (Numeral.ofDigits digits)
  | minus {digits : List Char} (filled : digits ≠ []) (each : ∀ c ∈ digits, c.isDigit = true)
      (fits : -2 ^ 63 ≤ -(Numeral.ofDigits digits : Int)) :
      WritesInteger ('-' :: digits) (-Numeral.ofDigits digits)

def inRange? (digits : List Char) (value : Int) : Option Int :=
  if digits.isEmpty || !digits.all Char.isDigit || value < Int64.minValue.toInt ||
    Int64.maxValue.toInt < value then none
  else some value

theorem inRange?_eq_some_iff {digits : List Char} {value n : Int} :
    inRange? digits value = some n ↔ digits ≠ [] ∧ (∀ c ∈ digits, c.isDigit = true) ∧
      -2 ^ 63 ≤ value ∧ value < 2 ^ 63 ∧ value = n := by
  have least : Int64.minValue.toInt = -2 ^ 63 := rfl
  have greatest : Int64.maxValue.toInt = 2 ^ 63 - 1 := rfl
  unfold inRange?
  rw [least, greatest]
  split
  · rename_i refused
    simp only [Bool.or_eq_true, List.isEmpty_iff, Bool.not_eq_true', List.all_eq_false,
      decide_eq_true_eq] at refused
    constructor
    · exact fun none => by cases none
    · intro ⟨filled, each, lower, upper, _⟩
      rcases refused with ((empty | ⟨c, mem, other⟩) | below) | above
      · exact absurd empty filled
      · exact absurd (each c mem) other
      · omega
      · omega
  · rename_i accepted
    simp only [Bool.or_eq_true, List.isEmpty_iff, Bool.not_eq_true', List.all_eq_false,
      decide_eq_true_eq, not_or, not_exists, not_and, not_not] at accepted
    constructor
    · intro same
      cases same
      exact ⟨accepted.1.1.1, accepted.1.1.2, by omega, by omega, rfl⟩
    · exact fun ⟨_, _, _, _, same⟩ => congrArg some same

theorem operand?_minus (digits : List Char) :
    operand? ('-' :: digits) = inRange? digits (-Numeral.ofDigits digits) := rfl

theorem operand?_plus (digits : List Char) :
    operand? ('+' :: digits) = inRange? digits (Numeral.ofDigits digits) := rfl

theorem operand?_plain {word : List Char} (minus : word.head? ≠ some '-')
    (plus : word.head? ≠ some '+') : operand? word = inRange? word (Numeral.ofDigits word) := by
  unfold operand?
  split
  · exact absurd rfl minus
  · exact absurd rfl plus
  · simp only [beq_eq_false_iff_ne.mpr minus]
    rfl

theorem operand?_eq_some_iff {word : List Char} {n : Int} :
    operand? word = some n ↔ WritesInteger word n := by
  constructor
  · intro read
    by_cases minus : word.head? = some '-'
    · obtain ⟨digits, rfl⟩ := List.head?_eq_some_iff.mp minus
      rw [operand?_minus] at read
      obtain ⟨filled, each, lower, -, rfl⟩ := inRange?_eq_some_iff.mp read
      exact .minus filled each lower
    · by_cases plus : word.head? = some '+'
      · obtain ⟨digits, rfl⟩ := List.head?_eq_some_iff.mp plus
        rw [operand?_plus] at read
        obtain ⟨filled, each, -, upper, rfl⟩ := inRange?_eq_some_iff.mp read
        exact .plus filled each upper
      · rw [operand?_plain minus plus] at read
        obtain ⟨filled, each, -, upper, rfl⟩ := inRange?_eq_some_iff.mp read
        exact .plain filled each upper
  · intro writes
    cases writes with
    | plain filled each fits =>
      have digit (mark : Char) (other : mark.isDigit = false) : word.head? ≠ some mark := by
        intro head
        have := each mark (List.mem_of_head? head)
        rw [other] at this
        cases this
      rw [operand?_plain (digit '-' rfl) (digit '+' rfl)]
      exact inRange?_eq_some_iff.mpr ⟨filled, each, by omega, fits, rfl⟩
    | plus filled each fits =>
      rw [operand?_plus]
      exact inRange?_eq_some_iff.mpr ⟨filled, each, by omega, fits, rfl⟩
    | minus filled each fits =>
      rw [operand?_minus]
      exact inRange?_eq_some_iff.mpr ⟨filled, each, fits, by omega, rfl⟩

/-- The operand that a list of words gives at a place: none where there is no word, or one that
writes no integer. -/
inductive OperandAt (words : List (List Char)) (i : Nat) : Option Int → Prop
  | given {word : List Char} {n : Int} (here : words[i]? = some word)
      (writes : WritesInteger word n) : OperandAt words i (some n)
  | missing (absent : words[i]? = none) : OperandAt words i none
  | unreadable {word : List Char} (here : words[i]? = some word)
      (other : ∀ n, ¬ WritesInteger word n) : OperandAt words i none

theorem operandAt_iff {words : List (List Char)} {i : Nat} {operand : Option Int} :
    OperandAt words i operand ↔ (words[i]?).bind operand? = operand := by
  constructor
  · intro at'
    cases at' with
    | given here writes => rw [here, Option.bind_some, operand?_eq_some_iff.mpr writes]
    | missing absent => rw [absent, Option.bind_none]
    | unreadable here other =>
      rw [here, Option.bind_some, Option.eq_none_iff_forall_ne_some]
      exact fun n read => other n (operand?_eq_some_iff.mp read)
  · intro same
    cases here : words[i]? with
    | none =>
      rw [here] at same
      exact same ▸ .missing here
    | some word =>
      rw [here, Option.bind_some] at same
      cases read : operand? word with
      | some n =>
        rw [read] at same
        exact same ▸ .given here (operand?_eq_some_iff.mp read)
      | none =>
        rw [read] at same
        refine same ▸ .unreadable here fun n writes => ?_
        rw [operand?_eq_some_iff.mpr writes] at read
        cases read

end LongHand

end WorkedAlgebra
