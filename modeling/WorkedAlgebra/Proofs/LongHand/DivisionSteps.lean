import WorkedAlgebra.LongHand.Division
import WorkedAlgebra.Proofs.DecimalTexts

/-!
The steps of a long division. Whatever digits are brought down, the quotient digits and what
remains make up the number that the digits show; appending a zero is bringing down one more digit.
-/

namespace WorkedAlgebra.LongHand

def writeBehind (n : Nat) (digits : List Nat) : Nat := digits.foldl (fun n d => 10 * n + d) n

theorem writeBehind_cons (n d : Nat) (digits : List Nat) :
    writeBehind n (d :: digits) = writeBehind (10 * n + d) digits := rfl

theorem writeBehind_append (n : Nat) (digits more : List Nat) :
    writeBehind n (digits ++ more) = writeBehind (writeBehind n digits) more :=
  List.foldl_append

theorem writeBehind_zeros (n k : Nat) : writeBehind n (List.replicate k 0) = n * 10 ^ k := by
  induction k generalizing n with
  | zero => exact (Nat.mul_one n).symm
  | succ k ih =>
    rw [List.replicate_succ, writeBehind_cons, ih, Nat.pow_succ]
    ring

/-- More digits do not make a number smaller. -/
theorem le_writeBehind (n : Nat) (digits : List Nat) : n ≤ writeBehind n digits := by
  induction digits generalizing n with
  | nil => exact le_rfl
  | cons d digits ih =>
    calc n ≤ 10 * n + d := by omega
      _ ≤ writeBehind (10 * n + d) digits := ih _

theorem quotientOf_eq (steps : List DivisionStep) :
    quotientOf steps = writeBehind 0 (steps.map (·.quotient)) := by
  rw [writeBehind, List.foldl_map]
  rfl

theorem writeBehind_digitsOf (n : Nat) : writeBehind 0 (digitsOf n) = n := by
  rw [writeBehind, digitsOf, List.foldl_map]
  exact Nat.ofDigitChars_ten_toDigits

theorem digitValue_lt {c : Char} (digit : c.isDigit = true) : Numeral.digitValue c < 10 := by
  have bounds := Char.isDigit_iff_toNat.mp digit
  have zero : '0'.toNat = 48 := rfl
  have nine : '9'.toNat = 57 := rfl
  rw [Numeral.digitValue]
  omega

theorem lt_ten_of_mem_digitsOf {n d : Nat} (mem : d ∈ digitsOf n) : d < 10 := by
  obtain ⟨c, inText, rfl⟩ := List.mem_map.mp mem
  exact digitValue_lt (Numeral.isDigit_of_mem_toDigits c inText)

@[simp]
theorem lastRemainder_cons (start : Nat) (s : DivisionStep) (steps : List DivisionStep) :
    lastRemainder start (s :: steps) = lastRemainder s.remainder steps := by
  cases steps with
  | nil => rfl
  | cons t steps =>
    simp only [lastRemainder, List.getLast?_cons_cons]
    rw [List.getLast?_eq_some_getLast (List.cons_ne_nil t steps)]
    rfl

theorem lastRemainder_append (start : Nat) (steps more : List DivisionStep) :
    lastRemainder start (steps ++ more) = lastRemainder (lastRemainder start steps) more := by
  induction steps generalizing start with
  | nil => rfl
  | cons s steps ih => rw [List.cons_append, lastRemainder_cons, lastRemainder_cons, ih]

/-- A step that divides as it says: what remains is below the divisor, and the quotient is one
digit. -/
structure DivisionStep.Valid (divisor : Nat) (s : DivisionStep) : Prop where
  division : s.current = divisor * s.quotient + s.remainder
  remainder_lt : s.remainder < divisor
  quotient_lt : s.quotient < 10

section BroughtDown

variable {divisor remainder : Nat} {digits : List Nat}

theorem DivisionStep.bring_valid {digit : Nat} (below : remainder < divisor) (small : digit < 10) :
    (DivisionStep.bring divisor remainder digit).Valid divisor where
  division := (Nat.div_add_mod _ _).symm
  remainder_lt := Nat.mod_lt _ (by omega)
  quotient_lt := by
    refine Nat.div_lt_of_lt_mul ?_
    omega

theorem bringDown_valid (below : remainder < divisor) (small : ∀ d ∈ digits, d < 10) :
    ∀ s ∈ bringDown divisor remainder digits, s.Valid divisor := by
  induction digits generalizing remainder with
  | nil => exact fun s mem => absurd mem List.not_mem_nil
  | cons digit digits ih =>
    have first := DivisionStep.bring_valid below (small digit List.mem_cons_self)
    intro s mem
    rcases List.mem_cons.mp mem with rfl | mem
    · exact first
    · exact ih first.remainder_lt (fun d mem => small d (List.mem_cons_of_mem _ mem)) s mem

theorem bringDown_append (more : List Nat) :
    bringDown divisor remainder (digits ++ more) = bringDown divisor remainder digits ++
      bringDown divisor (lastRemainder remainder (bringDown divisor remainder digits)) more := by
  induction digits generalizing remainder with
  | nil => rfl
  | cons digit digits ih => simp [bringDown, ih]

theorem lastRemainder_lt (digits : List Nat) (below : remainder < divisor) :
    lastRemainder remainder (bringDown divisor remainder digits) < divisor := by
  induction digits generalizing remainder with
  | nil => exact below
  | cons digit digits ih =>
    rw [bringDown, lastRemainder_cons]
    exact ih (Nat.mod_lt _ (by omega))

/-- One digit brought down shows the number that was divided before, with the digit behind it. -/
theorem bring_value (divisor remainder quotient digit : Nat) :
    let step := DivisionStep.bring divisor remainder digit
    divisor * (10 * quotient + step.quotient) + step.remainder =
      10 * (divisor * quotient + remainder) + digit := by
  have division := Nat.div_add_mod (10 * remainder + digit) divisor
  simp only [DivisionStep.bring]
  linarith

/-- Divisor times quotient plus what remains is the number that the digits show, behind what was
divided before. -/
theorem bringDown_value (divisor remainder quotient : Nat) (digits : List Nat) :
    divisor * writeBehind quotient ((bringDown divisor remainder digits).map (·.quotient)) +
        lastRemainder remainder (bringDown divisor remainder digits) =
      writeBehind (divisor * quotient + remainder) digits := by
  induction digits generalizing quotient remainder with
  | nil => rfl
  | cons digit digits ih =>
    rw [bringDown, List.map_cons, writeBehind_cons, lastRemainder_cons, ih, writeBehind_cons]
    exact congrArg (writeBehind · digits) (bring_value divisor remainder quotient digit)

/-- Digits brought down from nothing give quotient and remainder of the number they show. -/
theorem bringDown_division (digits : List Nat) (positive : 0 < divisor) :
    quotientOf (bringDown divisor 0 digits) = writeBehind 0 digits / divisor ∧
      lastRemainder 0 (bringDown divisor 0 digits) = writeBehind 0 digits % divisor := by
  have value := bringDown_value divisor 0 0 digits
  rw [← quotientOf_eq, Nat.mul_zero] at value
  have unique := (Nat.div_mod_unique positive).mpr
    ⟨(Nat.add_comm _ _).trans value, lastRemainder_lt digits positive⟩
  exact ⟨unique.1.symm, unique.2.symm⟩

end BroughtDown

section AppendedZeros

variable {divisor remainder : Nat}

theorem length_appendZeros_le (count : Nat) :
    (appendZeros divisor remainder count).length ≤ count := by
  induction count generalizing remainder with
  | zero => exact le_rfl
  | succ count ih =>
    unfold appendZeros
    split
    · exact Nat.zero_le _
    · exact Nat.succ_le_succ ih

/-- Zeros are appended as digits are brought down. -/
theorem appendZeros_eq_bringDown (count : Nat) :
    appendZeros divisor remainder count = bringDown divisor remainder
      (List.replicate (appendZeros divisor remainder count).length 0) := by
  induction count generalizing remainder with
  | zero => rfl
  | succ count ih =>
    unfold appendZeros
    split
    · rfl
    · exact congrArg (DivisionStep.bring divisor remainder 0 :: ·) ih

/-- Before the count is reached, only an exhausted remainder stops the division. -/
theorem lastRemainder_appendZeros {count : Nat}
    (short : (appendZeros divisor remainder count).length < count) :
    lastRemainder remainder (appendZeros divisor remainder count) = 0 := by
  induction count generalizing remainder with
  | zero => cases short
  | succ count ih =>
    unfold appendZeros at short ⊢
    split
    · assumption
    · rename_i goesOn
      rw [if_neg goesOn] at short
      rw [lastRemainder_cons]
      exact ih (Nat.lt_of_succ_lt_succ short)

/-- No fewer zeros make what remains divisible. -/
theorem not_dvd_of_lt_length_appendZeros {count j : Nat} (below : remainder < divisor)
    (shorter : j < (appendZeros divisor remainder count).length) :
    ¬ divisor ∣ remainder * 10 ^ j := by
  induction count generalizing remainder j with
  | zero => cases shorter
  | succ count ih =>
    unfold appendZeros at shorter
    split at shorter
    · cases shorter
    · rename_i goesOn
      cases j with
      | zero =>
        rw [Nat.pow_zero, Nat.mul_one]
        exact Nat.not_dvd_of_pos_of_lt (Nat.pos_of_ne_zero goesOn) below
      | succ j =>
        -- the divisor divides ten times what remained if it divides what remains of that
        have next := ih (Nat.mod_lt (10 * remainder + 0) (by omega))
          (Nat.lt_of_succ_lt_succ shorter)
        rw [Nat.dvd_iff_mod_eq_zero, Nat.mod_mul_mod, ← Nat.dvd_iff_mod_eq_zero] at next
        rwa [Nat.pow_succ', ← Nat.mul_assoc, Nat.mul_comm remainder]

end AppendedZeros

section Expansion

variable {dividend divisor : Nat}

/-- The whole division of a number, its digits first and then zeros. -/
theorem division_steps (dividend divisor count : Nat) :
    let whole := bringDown divisor 0 (digitsOf dividend)
    let fraction := appendZeros divisor (lastRemainder 0 whole) count
    whole ++ fraction =
      bringDown divisor 0 (digitsOf dividend ++ List.replicate fraction.length 0) := by
  intro whole fraction
  rw [bringDown_append, ← appendZeros_eq_bringDown]

/-- With `k` zeros appended, it is the division of the number times `10 ^ k`. -/
theorem division_value (dividend : Nat) (positive : 0 < divisor) (count : Nat) :
    let whole := bringDown divisor 0 (digitsOf dividend)
    let fraction := appendZeros divisor (lastRemainder 0 whole) count
    quotientOf (whole ++ fraction) = dividend * 10 ^ fraction.length / divisor ∧
      lastRemainder 0 (whole ++ fraction) = dividend * 10 ^ fraction.length % divisor := by
  intro whole fraction
  rw [division_steps]
  have division := bringDown_division (digitsOf dividend ++ List.replicate fraction.length 0)
    positive
  rwa [writeBehind_append, writeBehind_digitsOf, writeBehind_zeros] at division

theorem whole_value (dividend : Nat) (positive : 0 < divisor) :
    quotientOf (bringDown divisor 0 (digitsOf dividend)) = dividend / divisor ∧
      lastRemainder 0 (bringDown divisor 0 (digitsOf dividend)) = dividend % divisor := by
  have division := bringDown_division (digitsOf dividend) positive
  rwa [writeBehind_digitsOf] at division

theorem division_valid (dividend : Nat) (positive : 0 < divisor) (count : Nat) :
    let whole := bringDown divisor 0 (digitsOf dividend)
    let fraction := appendZeros divisor (lastRemainder 0 whole) count
    ∀ s ∈ whole ++ fraction, s.Valid divisor := by
  intro whole fraction
  rw [division_steps]
  refine bringDown_valid positive fun d mem => ?_
  rcases List.mem_append.mp mem with inText | zero
  · exact lt_ten_of_mem_digitsOf inText
  · rw [List.eq_of_mem_replicate zero]
    decide

/-- No number with fewer decimals is the quotient. -/
theorem not_dvd_of_fewer_decimals {count j : Nat} (positive : 0 < divisor)
    (fewer : j < (appendZeros divisor (dividend % divisor) count).length) :
    ¬ divisor ∣ dividend * 10 ^ j := by
  have undivided := not_dvd_of_lt_length_appendZeros (Nat.mod_lt dividend positive) fewer
  rwa [Nat.dvd_iff_mod_eq_zero, Nat.mod_mul_mod, ← Nat.dvd_iff_mod_eq_zero] at undivided

end Expansion

end WorkedAlgebra.LongHand
