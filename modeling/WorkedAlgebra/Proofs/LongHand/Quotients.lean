import WorkedAlgebra.Proofs.LongHand.Products

/-!
What the text of a quotient shows: the decimal expansion of the fraction, complete with as few
decimals as there can be, or cut behind the last decimal and marked.
-/

namespace WorkedAlgebra.LongHand

structure ShownQuotient where
  cut : Bool
  negative : Bool
  numeral : Numeral
deriving DecidableEq, Repr

def takeMark (mark : Char) : List Char → Bool × List Char
  | [] => (false, [])
  | c :: text => if c = mark then (true, text) else (false, c :: text)

namespace ShownQuotient

/-- Reads the text of a quotient: digits behind the marks, and some of them behind a point if there
is one. -/
def ofText? (text : String) : Option ShownQuotient :=
  let (cut, signed) := takeMark '≈' text.toList
  let (negative, marks) := takeMark '-' signed
  if marks.all Numeral.isMark && marks.getLast? != some '.' then
    (Numeral.ofMarks? marks).map fun numeral => ⟨cut, negative, numeral⟩
  else none

def value (shown : ShownQuotient) : ℚ := shown.numeral.mantissa / 10 ^ shown.numeral.places

/-- The decimal expansion of `a / b`, with ten decimals if it is cut and as few as possible if
not. -/
structure Expands (a b : Int) (shown : ShownQuotient) : Prop where
  places_le : shown.numeral.places ≤ 10
  truncated : shown.value =
    ⌊|(a : ℚ)| * 10 ^ shown.numeral.places / |(b : ℚ)|⌋₊ / 10 ^ shown.numeral.places
  uncut_iff : shown.cut = false ↔ shown.value = |(a : ℚ)| / |(b : ℚ)|
  least : shown.cut = false →
    ∀ k n : ℕ, (n : ℚ) / 10 ^ k = |(a : ℚ)| / |(b : ℚ)| → shown.numeral.places ≤ k
  places_of_cut : shown.cut = true → shown.numeral.places = 10
  negative_iff : shown.negative = true ↔ (a : ℚ) / b < 0

end ShownQuotient

section Reading

def withMarks (cut negative : Bool) (digits : List Char) : List Char :=
  (if cut then ['≈'] else []) ++ ((if negative then ['-'] else []) ++ digits)

theorem takeMark_self (mark : Char) (text : List Char) :
    takeMark mark (mark :: text) = (true, text) :=
  if_pos rfl

theorem takeMark_digit {mark c : Char} (digit : c.isDigit = true) (other : mark.isDigit = false)
    (text : List Char) : takeMark mark (c :: text) = (false, c :: text) := by
  refine if_neg ?_
  rintro rfl
  rw [digit] at other
  cases other

/-- Marks and digits as they are written are read. -/
theorem ofText?_eq {text : String} {cut negative : Bool} {c : Char} {rest : List Char}
    {numeral : Numeral}
    (written : text.toList = withMarks cut negative (c :: rest))
    (digit : c.isDigit = true) (marks : ∀ c' ∈ c :: rest, Numeral.isMark c' = true)
    (last : (c :: rest).getLast? ≠ some '.')
    (reads : Numeral.ofMarks? (c :: rest) = some numeral) :
    ShownQuotient.ofText? text = some ⟨cut, negative, numeral⟩ := by
  have signed : takeMark '-' ((if negative then ['-'] else []) ++ c :: rest) =
      (negative, c :: rest) := by
    cases negative with
    | true => exact takeMark_self _ _
    | false => exact takeMark_digit digit rfl _
  have cutOff : takeMark '≈' text.toList =
      (cut, (if negative then ['-'] else []) ++ c :: rest) := by
    rw [written]
    cases cut with
    | true => exact takeMark_self _ _
    | false =>
      cases negative with
      | true => rfl
      | false => exact takeMark_digit digit rfl _
  have all : (c :: rest).all Numeral.isMark = true := List.all_eq_true.mpr marks
  rw [ShownQuotient.ofText?, cutOff]
  simp only [signed, all, bne_iff_ne.mpr last, Bool.and_self, if_true, reads, Option.map_some]

end Reading

section Fractions

variable {n d : Nat}

/-- A fraction has `k` decimals if the divisor divides the dividend with `k` zeros. -/
theorem dvd_of_decimals {m k : Nat} (positive : 0 < d) (same : (m : ℚ) / 10 ^ k = n / d) :
    d ∣ n * 10 ^ k := by
  have nonzero : (d : ℚ) ≠ 0 := by positivity
  rw [div_eq_div_iff (by positivity) nonzero] at same
  exact ⟨m, by rw [Nat.mul_comm d]; exact_mod_cast same.symm⟩

theorem decimals_of_dvd {k : Nat} (positive : 0 < d) (divides : d ∣ n * 10 ^ k) :
    ((n * 10 ^ k / d : ℕ) : ℚ) / 10 ^ k = n / d := by
  have nonzero : (d : ℚ) ≠ 0 := by positivity
  rw [div_eq_div_iff (by positivity) nonzero]
  exact_mod_cast Nat.div_mul_cancel divides

theorem floor_eq (k : Nat) : ⌊(n : ℚ) * 10 ^ k / d⌋₊ = n * 10 ^ k / d := by
  rw [← Nat.floor_div_eq_div (K := ℚ)]
  push_cast
  rfl

theorem abs_eq_natAbs (a : Int) : |(a : ℚ)| = (a.natAbs : ℚ) := by
  rw [Nat.cast_natAbs, Int.cast_abs]

/-- The truncated quotient with `k` decimals is the expansion if it is complete or `k` is ten, and
nothing with fewer decimals is the fraction. -/
theorem expands_of_decimals {a b : Int} {k : Nat} (nonzero : b ≠ 0) (few : k ≤ 10)
    (ends : k < 10 → a.natAbs * 10 ^ k % b.natAbs = 0)
    (fewest : ∀ j < k, ¬ b.natAbs ∣ a.natAbs * 10 ^ j) :
    ShownQuotient.Expands a b ⟨decide (a.natAbs * 10 ^ k % b.natAbs ≠ 0), decide (a * b < 0),
      a.natAbs * 10 ^ k / b.natAbs, k⟩ := by
  have positive := Int.natAbs_pos.mpr nonzero
  constructor
  case places_le => exact few
  case truncated =>
    rw [abs_eq_natAbs, abs_eq_natAbs, floor_eq]
    rfl
  case uncut_iff =>
    rw [abs_eq_natAbs, abs_eq_natAbs, decide_eq_false_iff_not, not_not]
    constructor
    · exact fun complete => decimals_of_dvd positive (Nat.dvd_of_mod_eq_zero complete)
    · exact fun same => Nat.mod_eq_zero_of_dvd (dvd_of_decimals positive same)
  case least =>
    intro _ j n same
    rw [abs_eq_natAbs, abs_eq_natAbs] at same
    by_contra fewer
    exact fewest j (Nat.lt_of_not_le fewer) (dvd_of_decimals positive same)
  case places_of_cut =>
    intro cut
    by_contra fewer
    exact of_decide_eq_true cut (ends (by change k ≠ 10 at fewer; omega))
  case negative_iff =>
    rw [decide_eq_true_eq, div_neg_iff, mul_neg_iff]
    norm_cast

end Fractions

section Texts

variable {q : Nat} {fraction : List DivisionStep}

theorem isDigit_digitChar {d : Nat} (single : d < 10) : d.digitChar.isDigit = true := by
  revert d
  decide

theorem digitValue_digitChar {d : Nat} (single : d < 10) :
    Numeral.digitValue d.digitChar = d := by
  revert d
  decide

/-- Pieces joined by nothing stand one behind the other. -/
theorem flatten_intersperse_nil {α : Type} (pieces : List (List α)) :
    (pieces.intersperse []).flatten = pieces.flatten := by
  induction pieces with
  | nil => rfl
  | cons piece pieces ih =>
    cases pieces with
    | nil => rfl
    | cons next pieces => simpa using ih

theorem decimals_text (single : ∀ s ∈ fraction, s.quotient < 10) :
    ("".intercalate (fraction.map fun s => toString s.quotient)).toList =
      fraction.map (·.quotient.digitChar) := by
  have digit : ∀ s ∈ fraction, (toString s.quotient).toList = [s.quotient.digitChar] := by
    intro s mem
    rw [← Nat.toDigits_of_lt_base (single s mem)]
    simp
  rw [String.toList_intercalate, List.map_map, List.intercalate]
  refine (flatten_intersperse_nil _).trans ?_
  rw [← List.flatMap_def, List.map_eq_flatMap]
  exact List.flatMap_congr digit

theorem ofDigits_quotient (single : ∀ s ∈ fraction, s.quotient < 10) :
    Numeral.ofDigits (Nat.toDigits 10 q ++ fraction.map (·.quotient.digitChar)) =
      writeBehind q (fraction.map (·.quotient)) := by
  have digits : (fraction.map (·.quotient.digitChar)).map Numeral.digitValue =
      fraction.map (·.quotient) := by
    rw [List.map_map]
    exact List.map_congr_left fun s mem => digitValue_digitChar (single s mem)
  change List.foldl _ 0 _ = _
  rw [← List.foldl_map (f := Numeral.digitValue) (g := fun n d => 10 * n + d), List.map_append,
    digits, ← digitsOf]
  exact (writeBehind_append 0 _ _).trans (congrArg (writeBehind · _) (writeBehind_digitsOf q))

def quotientMarks (q : Nat) (fraction : List DivisionStep) : List Char :=
  Nat.toDigits 10 q ++
    if fraction.isEmpty then [] else '.' :: fraction.map (·.quotient.digitChar)

/-- The text of a quotient in characters. -/
theorem quotient_text (last : Nat) (negative : Bool) (single : ∀ s ∈ fraction, s.quotient < 10) :
    let mark := if last = 0 then "" else "≈"
    let sign := if negative then "-" else ""
    let point := if fraction.isEmpty then "" else "."
    let decimals := "".intercalate (fraction.map fun s => toString s.quotient)
    (s!"{mark}{sign}{q}{point}{decimals}").toList =
      withMarks (decide (last ≠ 0)) negative (quotientMarks q fraction) := by
  intro mark sign point decimals
  have marks : mark.toList = if decide (last ≠ 0) then ['≈'] else [] := by
    by_cases zero : last = 0 <;> simp [mark, zero]
  have signs : sign.toList = if negative then ['-'] else [] := by
    cases negative <;> simp [sign]
  have behind : point.toList ++ decimals.toList =
      if fraction.isEmpty then [] else '.' :: fraction.map (·.quotient.digitChar) := by
    rw [decimals_text single]
    cases empty : fraction.isEmpty with
    | true => simp [point, List.isEmpty_iff.mp empty]
    | false => simp [point, empty]
  have text : (s!"{mark}{sign}{q}{point}{decimals}").toList =
      mark.toList ++ (sign.toList ++ (Nat.toDigits 10 q ++ (point.toList ++ decimals.toList))) := by
    simp [toString]
  rw [text, marks, signs, behind, withMarks, quotientMarks]

theorem isDigit_of_mem_decimals (single : ∀ s ∈ fraction, s.quotient < 10) :
    ∀ c ∈ fraction.map (·.quotient.digitChar), c.isDigit = true := by
  intro c mem
  obtain ⟨s, among, rfl⟩ := List.mem_map.mp mem
  exact isDigit_digitChar (single s among)

theorem ofMarks?_quotientMarks (single : ∀ s ∈ fraction, s.quotient < 10) :
    Numeral.ofMarks? (quotientMarks q fraction) =
      some ⟨writeBehind q (fraction.map (·.quotient)), fraction.length⟩ := by
  have digits : ∀ c ∈ Nat.toDigits 10 q, c.isDigit = true := Numeral.isDigit_of_mem_toDigits
  have nonempty : Nat.toDigits 10 q ≠ [] := by simp
  have shown := ofDigits_quotient (q := q) single
  unfold quotientMarks
  split
  · rename_i whole
    rw [List.isEmpty_iff.mp whole] at shown ⊢
    rw [List.append_nil, Numeral.ofMarks?_whole digits nonempty]
    rw [List.map_nil, List.append_nil] at shown
    rw [shown]
    rfl
  · rw [Numeral.ofMarks?_point digits (isDigit_of_mem_decimals single) nonempty, shown,
      List.length_map]

theorem isMark_of_mem_quotientMarks (single : ∀ s ∈ fraction, s.quotient < 10) :
    ∀ c ∈ quotientMarks q fraction, Numeral.isMark c = true := by
  intro c mem
  rcases List.mem_append.mp mem with whole | rest
  · exact Numeral.isMark_of_isDigit (Numeral.isDigit_of_mem_toDigits c whole)
  · split at rest
    · cases rest
    · rcases List.mem_cons.mp rest with rfl | decimal
      · rfl
      · exact Numeral.isMark_of_isDigit (isDigit_of_mem_decimals single c decimal)

/-- A point is followed by a decimal. -/
theorem getLast?_quotientMarks (single : ∀ s ∈ fraction, s.quotient < 10) :
    (quotientMarks q fraction).getLast? ≠ some '.' := by
  intro last
  have point : ('.' : Char).isDigit = true := by
    unfold quotientMarks at last
    split at last
    · rw [List.append_nil] at last
      exact Numeral.isDigit_of_mem_toDigits _ (List.mem_of_getLast? last)
    · rename_i decimals
      have nonempty : fraction.map (·.quotient.digitChar) ≠ [] := by simpa using decimals
      rw [← List.singleton_append, ← List.append_assoc,
        List.getLast?_append_of_ne_nil _ nonempty] at last
      exact isDigit_of_mem_decimals single _ (List.mem_of_getLast? last)
  cases point

/-- The text of a quotient with its marks is read. -/
theorem ofText?_quotientMarks {text : String} {cut negative : Bool}
    (single : ∀ s ∈ fraction, s.quotient < 10)
    (written : text.toList = withMarks cut negative (quotientMarks q fraction)) :
    ShownQuotient.ofText? text =
      some ⟨cut, negative, writeBehind q (fraction.map (·.quotient)), fraction.length⟩ := by
  obtain ⟨c, rest, digits⟩ : ∃ c rest, Nat.toDigits 10 q = c :: rest :=
    List.exists_cons_of_ne_nil (by simp)
  have digit : c.isDigit = true :=
    Numeral.isDigit_of_mem_toDigits c (digits ▸ List.mem_cons_self)
  have front : quotientMarks q fraction = c :: (rest ++
      if fraction.isEmpty then [] else '.' :: fraction.map (·.quotient.digitChar)) := by
    rw [quotientMarks, digits, List.cons_append]
  refine ofText?_eq (front ▸ written) digit ?_ ?_ ?_
  · exact front ▸ isMark_of_mem_quotientMarks single
  · exact front ▸ getLast?_quotientMarks single
  · exact front ▸ ofMarks?_quotientMarks single

end Texts

section Division

variable {a b : Int}

/-- Only a quotient of zero shows neither a whole part nor decimals. -/
theorem shows_digits (nonzero : b ≠ 0) :
    let whole := bringDown b.natAbs 0 (digitsOf a.natAbs)
    let fraction := appendZeros b.natAbs (lastRemainder 0 whole) decimalPlaces
    (quotientOf whole != 0 || !fraction.isEmpty) = decide (a * b ≠ 0) := by
  intro whole fraction
  have value := whole_value a.natAbs (Int.natAbs_pos.mpr nonzero)
  have division := Nat.div_add_mod a.natAbs b.natAbs
  rw [← value.1, ← value.2] at division
  rw [Bool.eq_iff_iff]
  simp only [Bool.or_eq_true, bne_iff_ne, ne_eq, Bool.not_eq_true', decide_eq_true_eq]
  by_cases remains : lastRemainder 0 whole = 0
  · have empty : fraction.isEmpty = true := by
      simp [fraction, remains, appendZeros, decimalPlaces]
    rw [remains, Nat.add_zero] at division
    have zero : quotientOf whole = 0 ↔ a = 0 := by
      rw [← Int.natAbs_eq_zero, ← division, Nat.mul_eq_zero]
      simp [nonzero, whole]
    simp [empty, zero, nonzero]
  · have decimals : fraction.isEmpty = false := by
      simp [fraction, remains, appendZeros, decimalPlaces]
    have nonzero' : a ≠ 0 := by
      rintro rfl
      exact remains (Nat.add_eq_zero_iff.mp division).2
    simp [decimals, nonzero, nonzero']

/-- The lines of a division and its result. -/
theorem divide_texts (nonzero : b ≠ 0) :
    let whole := bringDown b.natAbs 0 (digitsOf a.natAbs)
    let fraction := appendZeros b.natAbs (lastRemainder 0 whole) decimalPlaces
    ∃ worked, divide a b = .ok worked ∧
      worked.result.toList = withMarks (decide (lastRemainder 0 (whole ++ fraction) ≠ 0))
        (decide (a * b < 0)) (quotientMarks (quotientOf whole) fraction) ∧
      worked.steps = [s!"Divide {a} ÷ {b}"] ++ whole.map (bringDownText b.natAbs) ++
        fraction.map (appendText b.natAbs) ++ [s!"Answer: {a} ÷ {b} = {worked.result}"] := by
  intro whole fraction
  have valid := division_valid a.natAbs (Int.natAbs_pos.mpr nonzero) decimalPlaces
  have single : ∀ s ∈ fraction, s.quotient < 10 := fun s mem =>
    (valid s (List.mem_append_right _ mem)).quotient_lt
  refine ⟨_, if_neg nonzero, ?_, rfl⟩
  rw [shows_digits nonzero, signs_differ, lastRemainder_append]
  exact quotient_text _ _ single

/-- The text of a quotient shows the decimal expansion of the fraction. -/
theorem divide_expands {worked : Worked} (nonzero : b ≠ 0) (divided : divide a b = .ok worked) :
    ∃ shown, ShownQuotient.ofText? worked.result = some shown ∧ shown.Expands a b := by
  obtain ⟨_, divided', written, -⟩ := divide_texts (a := a) nonzero
  cases divided.symm.trans divided'
  have positive := Int.natAbs_pos.mpr nonzero
  have valid := division_valid a.natAbs positive decimalPlaces
  have value := division_value a.natAbs positive decimalPlaces
  have start := (whole_value a.natAbs positive).2
  simp only at valid value
  rw [quotientOf_eq, List.map_append, writeBehind_append, ← quotientOf_eq] at value
  have single := fun s mem => (valid s (List.mem_append_right _ mem)).quotient_lt
  refine ⟨_, ofText?_quotientMarks single written, ?_⟩
  rw [value.1, value.2]
  refine expands_of_decimals nonzero (length_appendZeros_le _) ?_ ?_
  · intro short
    rw [← value.2, lastRemainder_append]
    exact lastRemainder_appendZeros short
  · rw [start]
    exact fun j fewer => not_dvd_of_fewer_decimals positive fewer

end Division

/-- What long division writes: the decimal expansion, and a division with one quotient digit for
each digit that is brought down and each zero that is appended. -/
structure QuotientLines (a b : Int) (worked : Worked) (whole fraction : List DivisionStep) :
    Prop where
  expansion : ∃ shown, ShownQuotient.ofText? worked.result = some shown ∧ shown.Expands a b
  steps : worked.steps = [s!"Divide {a} ÷ {b}"] ++ whole.map (bringDownText b.natAbs) ++
    fraction.map (appendText b.natAbs) ++ [s!"Answer: {a} ÷ {b} = {worked.result}"]
  valid : ∀ s ∈ whole ++ fraction, s.Valid b.natAbs

/-- Long division of 64-bit integers gives the truncated decimal expansion of their quotient, every
line of it is right, and no word overflows. -/
theorem divide_expansion (a b : Int64) (nonzero : b ≠ 0) :
    ∃ worked whole fraction, divide a.toInt b.toInt = .ok worked ∧
      QuotientLines a.toInt b.toInt worked whole fraction ∧
      divideInWords a.toInt.natAbs b.toInt.natAbs = some
        { whole := whole
          quotient := a.toInt.natAbs / b.toInt.natAbs
          fraction := fraction
          decimals := fraction.map (·.quotient.digitChar)
          remainder := a.toInt.natAbs * 10 ^ fraction.length % b.toInt.natAbs } := by
  have nonzero' : b.toInt ≠ 0 := fun zero => nonzero (Int64.toInt_inj.mp zero)
  have positive := Int.natAbs_pos.mpr nonzero'
  have fits : a.toInt.natAbs < 2 ^ 64 := by
    have lower := a.le_toInt
    have upper := a.toInt_lt
    omega
  have small : b.toInt.natAbs < 2 ^ 64 := by
    have lower := b.le_toInt
    have upper := b.toInt_lt
    omega
  obtain ⟨worked, divided, -, steps⟩ := divide_texts (a := a.toInt) nonzero'
  have inWords := divideInWords_eq positive small fits
  simp only [← lastRemainder_append] at inWords
  rw [(whole_value _ positive).1, (division_value _ positive _).2] at inWords
  exact ⟨worked, _, _, divided,
    ⟨divide_expands nonzero' divided, steps, division_valid _ positive _⟩, inWords⟩

theorem divide_expansion_sevenths :
    (7 : Int64) ≠ 0 ∧ ∃ worked shown, divide (-22) 7 = .ok worked ∧
      worked.result = "≈-3.1428571428" ∧
      ShownQuotient.ofText? worked.result = some shown ∧ shown.Expands (-22) 7 := by
  obtain ⟨worked, _, _, divided, lines, -⟩ := divide_expansion (-22) 7 (by decide)
  obtain ⟨shown, reads, expands⟩ := lines.expansion
  refine ⟨by decide, worked, shown, divided, ?_, reads, expands⟩
  cases divided
  decide

end WorkedAlgebra.LongHand
