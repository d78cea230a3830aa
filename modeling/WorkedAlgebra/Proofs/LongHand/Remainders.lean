import WorkedAlgebra.Proofs.LongHand.Quotients

/-!
What division with remainder writes. The magnitudes are divided digit by digit; quotient and
remainder of the signed numbers are the Euclidean ones, in words of 128 bits. Where no factor is
negative the two divisions are the same.
-/

namespace WorkedAlgebra.LongHand

section Words

/-- A result of signed arithmetic, none where it needs more than `bits` bits. -/
def signedFit? (bits : Nat) (n : Int) : Option Int :=
  if -2 ^ (bits - 1) ≤ n ∧ n < 2 ^ (bits - 1) then some n else none

def signedWord? (n : Int) : Option Int := signedFit? 128 n

theorem signedWord?_eq_some {n : Int} (lower : -2 ^ 127 ≤ n) (upper : n < 2 ^ 127) :
    signedWord? n = some n :=
  if_pos ⟨lower, upper⟩

/-- Quotient and remainder from the truncated ones: where the truncated remainder is negative, the
quotient moves by one and the size of the divisor is added to the remainder. -/
def euclideanInWords (a b : Int) : Option (Int × Int) := do
  let quotient ← signedWord? (a.tdiv b)
  let remainder ← signedWord? (a.tmod b)
  if remainder < 0 then do
    let quotient ← signedWord? (if 0 < b then quotient - 1 else quotient + 1)
    let size ← signedWord? |b|
    let remainder ← signedWord? (remainder + size)
    some (quotient, remainder)
  else some (quotient, remainder)

structure RemainderRun where
  whole : List DivisionStep
  quotient : Int
  remainder : Int
  /-- The number that the check ends in. -/
  checked : Int
deriving DecidableEq

def divideWithRemainderInWords (a b : Int) : Option RemainderRun := do
  let (whole, _) ← bringDownInWords b.natAbs 0 0 (Nat.toDigits 10 a.natAbs)
  let (quotient, remainder) ← euclideanInWords a b
  let product ← signedWord? (quotient * b)
  let checked ← signedWord? (product + remainder)
  some ⟨whole, quotient, remainder, checked⟩

variable {a b : Int}

/-- The truncated remainder is negative if the dividend is and something remains. -/
theorem tmod_neg_iff (nonzero : b ≠ 0) : a.tmod b < 0 ↔ ¬ (0 ≤ a ∨ b ∣ a) := by
  have below := Int.emod_lt a nonzero
  have start := Int.emod_nonneg a nonzero
  rw [Int.tmod_eq_emod]
  by_cases plain : 0 ≤ a ∨ b ∣ a
  · rw [if_pos plain]
    constructor
    · intro negative
      omega
    · exact fun mixed => absurd plain mixed
  · rw [if_neg plain]
    constructor
    · exact fun _ => plain
    · intro _
      omega

theorem natAbs_le_two_pow (a : Int64) : a.toInt.natAbs ≤ 2 ^ 63 := by
  have lower := a.le_toInt
  have upper := a.toInt_lt
  omega

/-- The quotient and the remainder that the adjustment gives are the Euclidean ones. -/
theorem euclideanInWords_eq (nonzero : b ≠ 0) (dividend : a.natAbs ≤ 2 ^ 63)
    (divisor : b.natAbs ≤ 2 ^ 63) : euclideanInWords a b = some (a / b, a % b) := by
  have quotient_le := Int.natAbs_tdiv_le_natAbs a b
  have euclidean_le := Int.natAbs_ediv_le_natAbs a b
  have remainder_nonneg := Int.emod_nonneg a nonzero
  have remainder_lt := Int.emod_lt a nonzero
  have remainder := Int.tmod_eq_emod (a := a) (b := b)
  have quotient := Int.tdiv_eq_ediv (a := a) (b := b)
  have truncated : signedWord? (a.tdiv b) = some (a.tdiv b) :=
    signedWord?_eq_some (by omega) (by omega)
  have rest : signedWord? (a.tmod b) = some (a.tmod b) := by
    apply signedWord?_eq_some <;> split at remainder <;> omega
  rw [euclideanInWords]
  simp only [Option.bind_eq_bind, truncated, rest, Option.bind_some]
  split
  · rename_i negative
    have mixed := (tmod_neg_iff nonzero).mp negative
    rw [if_neg mixed] at remainder quotient
    have moved : (if 0 < b then a.tdiv b - 1 else a.tdiv b + 1) = a / b := by
      split
      · rename_i positive
        rw [quotient, Int.sign_eq_one_of_pos positive]
        omega
      · rw [quotient, Int.sign_eq_neg_one_of_neg (by omega)]
        omega
    have added : a.tmod b + |b| = a % b := by
      rw [remainder, Int.abs_eq_natAbs]
      omega
    have size : signedWord? |b| = some |b| := by
      rw [Int.abs_eq_natAbs]
      exact signedWord?_eq_some (by omega) (by omega)
    have whole : signedWord? (a / b) = some (a / b) := signedWord?_eq_some (by omega) (by omega)
    have least : signedWord? (a % b) = some (a % b) := signedWord?_eq_some (by omega) (by omega)
    simp only [moved, whole, size, added, least, Option.bind_some]
  · rename_i nonneg
    have plain : 0 ≤ a ∨ b ∣ a := not_not.mp (mt (tmod_neg_iff nonzero).mpr nonneg)
    rw [if_pos plain] at remainder quotient
    rw [remainder, quotient]
    simp

/-- Division with remainder of words, with the check, is division with remainder. -/
theorem divideWithRemainderInWords_eq (nonzero : b ≠ 0) (dividend : a.natAbs ≤ 2 ^ 63)
    (divisor : b.natAbs ≤ 2 ^ 63) :
    divideWithRemainderInWords a b =
      some ⟨bringDown b.natAbs 0 (digitsOf a.natAbs), a / b, a % b, a⟩ := by
  have read : writeBehind (b.natAbs * 0 + 0) ((Nat.toDigits 10 a.natAbs).map Numeral.digitValue) <
      2 ^ 64 := by
    rw [← digitsOf, Nat.mul_zero, writeBehind_digitsOf]
    omega
  have steps := bringDownInWords_eq (by omega) (Int.natAbs_pos.mpr nonzero)
    (fun c mem => Numeral.isDigit_of_mem_toDigits c mem) read
  have remainder_nonneg := Int.emod_nonneg a nonzero
  have remainder_lt := Int.emod_lt a nonzero
  have division := Int.ediv_mul_add_emod a b
  have product : signedWord? (a / b * b) = some (a / b * b) :=
    signedWord?_eq_some (by omega) (by omega)
  have checked : signedWord? (a / b * b + a % b) = some a := by
    rw [division]
    exact signedWord?_eq_some (by omega) (by omega)
  rw [divideWithRemainderInWords, steps, euclideanInWords_eq nonzero dividend divisor]
  simp only [Option.bind_eq_bind, Option.bind_some, product, checked]
  rfl

end Words

section Lines

variable {divisor remainder : Nat} {digits : List Nat}

theorem bringDown_digits :
    (bringDown divisor remainder digits).map (·.digit) = digits := by
  induction digits generalizing remainder with
  | nil => rfl
  | cons digit digits ih => exact congrArg (digit :: ·) ih

/-- What is divided is what remained, with the digit behind it. -/
theorem bringDown_current {before after : List DivisionStep} {s : DivisionStep}
    (cut : bringDown divisor remainder digits = before ++ s :: after) :
    s.current = 10 * lastRemainder remainder before + s.digit := by
  induction digits generalizing remainder before with
  | nil => exact absurd cut.symm (List.append_ne_nil_of_right_ne_nil _ (List.cons_ne_nil s after))
  | cons digit digits ih =>
    cases before with
    | nil =>
      cases cut
      rfl
    | cons first before =>
      obtain ⟨here, later⟩ := List.cons.inj cut
      rw [lastRemainder_cons, ← here]
      exact ih later

theorem digitChar_digitValue {c : Char} (digit : c.isDigit = true) :
    (Numeral.digitValue c).digitChar = c := by
  have all : ∀ d < 10, d.digitChar = Char.ofNat ('0'.toNat + d) := by decide
  have bounds := Char.isDigit_iff_toNat.mp digit
  rw [all _ (digitValue_lt digit), Numeral.digitValue, Nat.add_sub_cancel' bounds.1,
    Char.ofNat_toNat]

/-- The digits that are brought down are the text of the dividend. -/
theorem digitChar_digitsOf (n : Nat) : (digitsOf n).map Nat.digitChar = (toString n).toList := by
  have same : ∀ c ∈ Nat.toDigits 10 n, (Nat.digitChar ∘ Numeral.digitValue) c = id c :=
    fun c mem => digitChar_digitValue (Numeral.isDigit_of_mem_toDigits c mem)
  rw [digitsOf, List.map_map, List.map_congr_left same, List.map_id, Nat.toString_eq_repr,
    Nat.repr_eq_ofList_toDigits, String.toList_ofList]

end Lines

def adjustment (a b q r : Int) : List String :=
  if a < 0 ∨ b < 0 then
    ["Adjust for the signs so the remainder is not negative: " ++ s!"quotient {q}, remainder {r}"]
  else []

/-- What division with remainder writes: quotient and remainder as they are for integers, their
check, and below them the division of the magnitudes, one step for each digit of the dividend. -/
structure RemainderLines (a b : Int) (worked : Worked) (whole : List DivisionStep) (q r : Int) :
    Prop where
  division : a = q * b + r
  remainder_nonneg : 0 ≤ r
  remainder_lt : r < |b|
  result : worked.result = s!"{q} remainder {r}"
  steps : worked.steps = [s!"Divide {a} ÷ {b} with remainder"] ++
    whole.map (bringDownText b.natAbs) ++ adjustment a b q r ++
    [s!"Check: {q} × {b} + {r} = {a}", s!"Answer: {a} ÷ {b} = {worked.result}"]
  digits : whole.map (·.digit.digitChar) = (toString a.natAbs).toList
  current : ∀ before s after, whole = before ++ s :: after →
    s.current = 10 * lastRemainder 0 before + s.digit
  valid : ∀ s ∈ whole, s.Valid b.natAbs
  magnitudes : quotientOf whole = a.natAbs / b.natAbs ∧
    lastRemainder 0 whole = a.natAbs % b.natAbs
  unsigned : 0 ≤ a → 0 ≤ b → (quotientOf whole : Int) = q ∧ (lastRemainder 0 whole : Int) = r

theorem divideWithRemainder_lines {a b : Int} (nonzero : b ≠ 0) :
    ∃ worked, divideWithRemainder a b = .ok worked ∧
      RemainderLines a b worked (bringDown b.natAbs 0 (digitsOf a.natAbs)) (a / b) (a % b) := by
  have positive := Int.natAbs_pos.mpr nonzero
  have value := whole_value a.natAbs positive
  refine ⟨_, if_neg nonzero, ?_⟩
  constructor
  case division => exact (Int.ediv_mul_add_emod a b).symm
  case remainder_nonneg => exact Int.emod_nonneg a nonzero
  case remainder_lt => exact Int.emod_lt_abs a nonzero
  case result => rfl
  case steps =>
    simp only [Int.ediv_mul_add_emod]
    rfl
  case digits =>
    have digits := congrArg (List.map Nat.digitChar)
      (@bringDown_digits b.natAbs 0 (digitsOf a.natAbs))
    rwa [List.map_map, digitChar_digitsOf] at digits
  case current => exact fun before s after cut => bringDown_current cut
  case valid => exact bringDown_valid positive fun d mem => lt_ten_of_mem_digitsOf mem
  case magnitudes => exact value
  case unsigned =>
    intro dividend divisor
    rw [value.1, value.2]
    push_cast
    rw [abs_of_nonneg dividend, abs_of_nonneg divisor]
    exact ⟨rfl, rfl⟩

/-- Division with remainder of 64-bit integers gives the quotient and the remainder that is not
negative and below the size of the divisor, every line of it is right, and no word overflows. -/
theorem divideWithRemainder_euclidean (a b : Int64) (nonzero : b ≠ 0) :
    ∃ worked whole q r, divideWithRemainder a.toInt b.toInt = .ok worked ∧
      RemainderLines a.toInt b.toInt worked whole q r ∧
      divideWithRemainderInWords a.toInt b.toInt = some ⟨whole, q, r, a.toInt⟩ := by
  have nonzero' : b.toInt ≠ 0 := fun zero => nonzero (Int64.toInt_inj.mp zero)
  obtain ⟨worked, divided, lines⟩ := divideWithRemainder_lines (a := a.toInt) nonzero'
  exact ⟨worked, _, _, _, divided, lines,
    divideWithRemainderInWords_eq nonzero' (natAbs_le_two_pow a) (natAbs_le_two_pow b)⟩

/-- The least dividend has no quotient by `-1` in 64 bits. -/
theorem divideWithRemainder_euclidean_least :
    (-1 : Int64) ≠ 0 ∧ ∃ worked whole,
      divideWithRemainder (-9223372036854775808) (-1) = .ok worked ∧
      RemainderLines (-9223372036854775808) (-1) worked whole 9223372036854775808 0 ∧
      worked.result = "9223372036854775808 remainder 0" ∧ whole.length = 19 ∧
      divideWithRemainderInWords (-9223372036854775808) (-1) =
        some ⟨whole, 9223372036854775808, 0, -9223372036854775808⟩ := by
  obtain ⟨worked, whole, q, r, divided, lines, inWords⟩ :=
    divideWithRemainder_euclidean Int64.minValue (-1) (by decide)
  have run : divideWithRemainderInWords (-9223372036854775808) (-1) =
      some ⟨whole, q, r, -9223372036854775808⟩ := inWords
  have quotient : q = 9223372036854775808 ∧ r = 0 := by
    have division : -9223372036854775808 = q * -1 + r := lines.division
    have nonneg := lines.remainder_nonneg
    have below : r < 1 := lines.remainder_lt
    omega
  obtain ⟨rfl, rfl⟩ := quotient
  have count : whole.length = 19 := by
    have digits := congrArg List.length lines.digits
    rwa [List.length_map] at digits
  exact ⟨by decide, worked, whole, divided, lines, lines.result, count, run⟩

end WorkedAlgebra.LongHand
