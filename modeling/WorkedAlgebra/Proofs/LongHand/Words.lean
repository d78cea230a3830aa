import WorkedAlgebra.LongHand.Multiplication
import WorkedAlgebra.Proofs.LongHand.DivisionSteps

/-!
Long-hand arithmetic in machine words. Magnitudes are held in 128 bits and the digits of a text in
8; each operation is checked here, in the order of the work, and none of them overflows when the
operands have 64 bits.
-/

namespace WorkedAlgebra.LongHand

/-- A result of unsigned arithmetic, none where it needs more than `bits` bits. -/
def fit? (bits n : Nat) : Option Nat := if n < 2 ^ bits then some n else none

theorem fit?_eq_some {bits n : Nat} (fits : n < 2 ^ bits) : fit? bits n = some n := if_pos fits

def word? (n : Nat) : Option Nat := fit? 128 n

theorem word?_eq_some {n : Nat} (fits : n < 2 ^ 128) : word? n = some n := fit?_eq_some fits

def sumInWords (total : Nat) (summands : List Nat) : Option Nat :=
  summands.foldlM (fun total n => word? (total + n)) total

theorem sumInWords_eq {total : Nat} {summands : List Nat} (fits : total + summands.sum < 2 ^ 128) :
    sumInWords total summands = some (total + summands.sum) := by
  induction summands generalizing total with
  | nil => rfl
  | cons n summands ih =>
    rw [List.sum_cons, ← Nat.add_assoc] at fits ⊢
    rw [sumInWords, List.foldlM_cons, word?_eq_some (by omega)]
    exact ih fits

section Products

def digitProductInWords (x digit place : Nat) : Option DigitProduct := do
  let once ← word? (x * digit)
  let product ← word? (once * place)
  let shown ← word? (digit * place)
  some ⟨shown, product⟩

def digitProductsInWords (x place rest : Nat) : Option (List DigitProduct) :=
  if rest = 0 then some []
  else do
    let parts ←
      if rest % 10 = 0 then some []
      else (digitProductInWords x (rest % 10) place).map fun part => [part]
    let next ← word? (place * 10)
    let others ← digitProductsInWords x next (rest / 10)
    some (parts ++ others)
termination_by rest

def multiplyInWords (x y : Nat) : Option (List DigitProduct × Nat) := do
  let parts ← digitProductsInWords x 1 y
  let total ← sumInWords 0 (parts.map (·.product))
  some (parts, total)

variable {x place rest : Nat}

theorem digitProductInWords_eq {digit : Nat} (small : x < 2 ^ 64) (positive : 0 < place)
    (fits : digit * place < 2 ^ 64) :
    digitProductInWords x digit place = some ⟨digit * place, x * (digit * place)⟩ := by
  have product : x * (digit * place) < 2 ^ 64 * 2 ^ 64 := Nat.mul_lt_mul'' small fits
  have once : x * digit ≤ x * (digit * place) :=
    Nat.mul_le_mul_left x (Nat.le_mul_of_pos_right digit positive)
  rw [digitProductInWords, word?_eq_some (by omega), word?_eq_some (n := digit * place) (by omega)]
  simp only [Option.bind_eq_bind, Option.bind_some, Nat.mul_assoc]
  rw [word?_eq_some product, Option.bind_some]

theorem digitProductsInWords_eq {fuel : Nat} (small : x < 2 ^ 64) (positive : 0 < place)
    (fits : rest * place < 2 ^ 64) (enough : rest ≤ fuel) :
    digitProductsInWords x place rest =
      some ((placesFrom place rest fuel).map fun d => ⟨d, x * d⟩) := by
  induction fuel generalizing place rest with
  | zero => simp [digitProductsInWords, placesFrom, Nat.le_zero.mp enough]
  | succ fuel ih =>
    unfold digitProductsInWords placesFrom
    split
    · rfl
    · rename_i goesOn
      have here : rest % 10 * place ≤ rest * place :=
        Nat.mul_le_mul_right place (Nat.mod_le rest 10)
      have whole : place ≤ rest * place := Nat.le_mul_of_pos_left place (by omega)
      have later : rest / 10 * (10 * place) ≤ rest * place := by
        rw [← Nat.mul_assoc]
        exact Nat.mul_le_mul_right place (Nat.div_mul_le_self rest 10)
      have others : digitProductsInWords x (10 * place) (rest / 10) =
          some ((placesFrom (10 * place) (rest / 10) fuel).map fun d => ⟨d, x * d⟩) :=
        ih (by omega) (by omega) (by omega)
      rw [word?_eq_some (by omega), Nat.mul_comm place 10]
      by_cases zero : rest % 10 = 0
      · simp [zero, others]
      · simp [zero, others, digitProductInWords_eq small positive (here.trans_lt fits)]

end Products

section Quotients

def digitInWords (c : Char) : Option Nat :=
  if '0'.toNat ≤ c.toNat then some (c.toNat - '0'.toNat) else none

def markInWords (digit : Nat) : Option Char := (fit? 8 ('0'.toNat + digit % 2 ^ 8)).map Char.ofNat

def bringDownInWords (divisor remainder quotient : Nat) :
    List Char → Option (List DivisionStep × Nat × Nat)
  | [] => some ([], quotient, remainder)
  | c :: text => do
    let digit ← digitInWords c
    let shifted ← word? (remainder * 10)
    let current ← word? (shifted + digit)
    let step : DivisionStep := ⟨digit, current, current / divisor, current % divisor⟩
    let grown ← word? (quotient * 10)
    let quotient ← word? (grown + step.quotient)
    let (steps, last) ← bringDownInWords divisor step.remainder quotient text
    some (step :: steps, last)

def appendZerosInWords (divisor remainder : Nat) :
    Nat → Option (List DivisionStep × List Char × Nat)
  | 0 => some ([], [], remainder)
  | count + 1 =>
    if remainder = 0 then some ([], [], remainder)
    else do
      let current ← word? (remainder * 10)
      let step : DivisionStep := ⟨0, current, current / divisor, current % divisor⟩
      let mark ← markInWords step.quotient
      let (steps, text, last) ← appendZerosInWords divisor step.remainder count
      some (step :: steps, mark :: text, last)

structure DivisionRun where
  whole : List DivisionStep
  quotient : Nat
  fraction : List DivisionStep
  decimals : List Char
  remainder : Nat
deriving DecidableEq

def divideInWords (dividend divisor : Nat) : Option DivisionRun := do
  let (whole, quotient, remainder) ← bringDownInWords divisor 0 0 (Nat.toDigits 10 dividend)
  let (fraction, decimals, last) ← appendZerosInWords divisor remainder decimalPlaces
  some ⟨whole, quotient, fraction, decimals, last⟩

theorem digitInWords_eq {c : Char} (digit : c.isDigit = true) :
    digitInWords c = some (Numeral.digitValue c) :=
  if_pos (Char.isDigit_iff_toNat.mp digit).1

theorem markInWords_eq {digit : Nat} (small : digit < 10) :
    markInWords digit = some digit.digitChar := by
  revert digit
  decide

variable {divisor remainder : Nat}

theorem bringDownInWords_eq {quotient : Nat} {text : List Char} (small : divisor < 2 ^ 64)
    (below : remainder < divisor) (digits : ∀ c ∈ text, c.isDigit = true)
    (fits : writeBehind (divisor * quotient + remainder) (text.map Numeral.digitValue) < 2 ^ 64) :
    let steps := bringDown divisor remainder (text.map Numeral.digitValue)
    bringDownInWords divisor remainder quotient text = some
      (steps, writeBehind quotient (steps.map (·.quotient)), lastRemainder remainder steps) := by
  induction text generalizing remainder quotient with
  | nil => rfl
  | cons c text ih =>
    have digit := digits c List.mem_cons_self
    have single := digitValue_lt digit
    have once := bring_value divisor remainder quotient (Numeral.digitValue c)
    rw [List.map_cons, writeBehind_cons, ← once] at fits
    -- the quotient is at most the number read so far, and the digits to come only add to that
    have number := (le_writeBehind _ _).trans_lt fits
    have grown : 10 * quotient + (10 * remainder + Numeral.digitValue c) / divisor < 2 ^ 64 := by
      refine lt_of_le_of_lt (Nat.le_mul_of_pos_left _ (by omega : 0 < divisor)) ?_
      exact (Nat.le_add_right _ _).trans_lt number
    have tens : 10 * quotient < 2 ^ 64 := (Nat.le_add_right _ _).trans_lt grown
    have rest := ih (Nat.mod_lt _ (by omega)) (fun c mem => digits c (List.mem_cons_of_mem _ mem))
      fits
    simp only [DivisionStep.bring] at rest
    simp only [bringDownInWords, digitInWords_eq digit, Nat.mul_comm remainder,
      Nat.mul_comm quotient, Option.bind_eq_bind, Option.bind_some]
    rw [word?_eq_some (n := 10 * remainder) (by omega), Option.bind_some,
      word?_eq_some (by omega), Option.bind_some, word?_eq_some (tens.trans (by omega)),
      Option.bind_some, word?_eq_some (grown.trans (by omega)), Option.bind_some, rest,
      List.map_cons, bringDown, lastRemainder_cons]
    rfl

theorem appendZerosInWords_eq {count : Nat} (small : divisor < 2 ^ 64)
    (below : remainder < divisor) :
    let steps := appendZeros divisor remainder count
    appendZerosInWords divisor remainder count =
      some (steps, steps.map (·.quotient.digitChar), lastRemainder remainder steps) := by
  induction count generalizing remainder with
  | zero => rfl
  | succ count ih =>
    have step : (DivisionStep.bring divisor remainder 0).Valid divisor :=
      DivisionStep.bring_valid below (by omega)
    have mark := markInWords_eq step.quotient_lt
    have rest := ih step.remainder_lt
    unfold appendZerosInWords appendZeros
    split
    · rfl
    · simp only [DivisionStep.bring, Nat.add_zero] at mark rest
      rw [Nat.mul_comm remainder, word?_eq_some (by omega)]
      simp only [Option.bind_eq_bind, Option.bind_some, mark, rest]
      rw [lastRemainder_cons]
      rfl

/-- Long division of words is long division. -/
theorem divideInWords_eq {dividend : Nat} (positive : 0 < divisor) (small : divisor < 2 ^ 64)
    (fits : dividend < 2 ^ 64) :
    let whole := bringDown divisor 0 (digitsOf dividend)
    let fraction := appendZeros divisor (lastRemainder 0 whole) decimalPlaces
    divideInWords dividend divisor =
      some ⟨whole, quotientOf whole, fraction, fraction.map (·.quotient.digitChar),
        lastRemainder (lastRemainder 0 whole) fraction⟩ := by
  intro whole fraction
  have read : writeBehind (divisor * 0 + 0) ((Nat.toDigits 10 dividend).map Numeral.digitValue) <
      2 ^ 64 := by
    rw [← digitsOf, Nat.mul_zero, writeBehind_digitsOf]
    exact fits
  have first : bringDownInWords divisor 0 0 (Nat.toDigits 10 dividend) =
      some (whole, quotientOf whole, lastRemainder 0 whole) := by
    rw [quotientOf_eq]
    exact bringDownInWords_eq small positive (fun c mem => Numeral.isDigit_of_mem_toDigits c mem)
      read
  have second : appendZerosInWords divisor (lastRemainder 0 whole) decimalPlaces =
      some (fraction, fraction.map (·.quotient.digitChar),
        lastRemainder (lastRemainder 0 whole) fraction) :=
    appendZerosInWords_eq small (lastRemainder_lt _ positive)
  rw [divideInWords, first]
  simp only [Option.bind_eq_bind, Option.bind_some, second]

end Quotients

end WorkedAlgebra.LongHand
