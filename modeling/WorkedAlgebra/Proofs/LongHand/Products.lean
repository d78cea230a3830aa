import WorkedAlgebra.Proofs.LongHand.Words

/-!
What long multiplication writes: a true equation for every non-zero digit of the second factor, the
sum of the products when there are several, and the product.
-/

namespace WorkedAlgebra.LongHand

def placeValues (n : Nat) : List Nat :=
  ((Nat.digits 10 n).mapIdx fun i d => d * 10 ^ i).filter (· ≠ 0)

section Places

variable {place rest fuel : Nat}

theorem placesFrom_eq (positive : 0 < place) (enough : rest ≤ fuel) :
    placesFrom place rest fuel =
      ((Nat.digits 10 rest).mapIdx fun i d => d * (10 ^ i * place)).filter (· ≠ 0) := by
  induction fuel generalizing place rest with
  | zero => simp [placesFrom, Nat.le_zero.mp enough]
  | succ fuel ih =>
    unfold placesFrom
    split
    · rename_i exhausted
      simp [exhausted]
    · -- the other digits are those of `rest / 10`, one place higher
      have others : placesFrom (10 * place) (rest / 10) fuel =
          ((Nat.digits 10 (rest / 10)).mapIdx fun i d => d * (10 ^ i * (10 * place))).filter
            (· ≠ 0) := ih (by omega) (by omega)
      have shift : (fun i d => d * (10 ^ (i + 1) * place)) =
          fun i d => d * (10 ^ i * (10 * place)) := by
        funext i d
        ring
      rw [Nat.digits_def' (by omega) (by omega), List.mapIdx_cons, shift, List.filter_cons,
        ← others]
      by_cases zero : rest % 10 = 0
      · simp [zero]
      · simp [zero, positive.ne']

theorem digitPlaces_eq (n : Nat) : digitPlaces n = placeValues n := by
  simp [digitPlaces, placeValues, placesFrom_eq Nat.one_pos (le_refl n)]

theorem sum_placesFrom (enough : rest ≤ fuel) :
    (placesFrom place rest fuel).sum = rest * place := by
  induction fuel generalizing place rest with
  | zero => simp [placesFrom, Nat.le_zero.mp enough]
  | succ fuel ih =>
    unfold placesFrom
    split
    · rename_i exhausted
      simp [exhausted]
    · have others : (placesFrom (10 * place) (rest / 10) fuel).sum = rest / 10 * (10 * place) :=
        ih (by omega)
      have split : rest % 10 * place + rest / 10 * (10 * place) = rest * place := by
        rw [← Nat.mul_assoc, ← Nat.add_mul, Nat.mul_comm _ 10, Nat.mod_add_div]
      by_cases zero : rest % 10 = 0
      · rw [if_pos zero, others, ← split, zero, Nat.zero_mul, Nat.zero_add]
      · rw [if_neg zero, List.sum_cons, others, split]

/-- The digits at their places make up the number. -/
theorem sum_placeValues (n : Nat) : (placeValues n).sum = n := by
  rw [← digitPlaces_eq, digitPlaces, sum_placesFrom le_rfl, Nat.mul_one]

/-- Their products with a factor make up the product. -/
theorem sum_products (x n : Nat) : ((placeValues n).map (x * ·)).sum = x * n := by
  rw [List.sum_map_mul_left, List.map_id', sum_placeValues]

end Places

theorem digitProducts_eq (x y : Nat) :
    digitProducts x y = (placeValues y).map fun d => ⟨d, x * d⟩ := by
  rw [digitProducts, digitPlaces_eq]

/-- Long multiplication of words is long multiplication. -/
theorem multiplyInWords_eq {x y : Nat} (small : x < 2 ^ 64) (fits : y < 2 ^ 64) :
    multiplyInWords x y = some (digitProducts x y, x * y) := by
  have parts : digitProductsInWords x 1 y = some (digitProducts x y) :=
    digitProductsInWords_eq small Nat.one_pos (by omega) le_rfl
  have products : (digitProducts x y).map (·.product) = (placeValues y).map (x * ·) := by
    simp [digitProducts_eq]
  have product : x * y < 2 ^ 64 * 2 ^ 64 := Nat.mul_lt_mul'' small fits
  have total : sumInWords 0 ((placeValues y).map (x * ·)) = some (x * y) := by
    rw [sumInWords_eq (by rw [sum_products]; omega), sum_products, Nat.zero_add]
  rw [multiplyInWords, parts]
  simp only [Option.bind_eq_bind, Option.bind_some, products, total]

/-- The text of an integer is that of its magnitude, behind a minus sign below zero. -/
theorem toString_int (z : Int) :
    toString z = (if z < 0 then "-" else "") ++ toString z.natAbs := by
  cases z with
  | ofNat n => rfl
  | negSucc n =>
    rw [if_pos (Int.negSucc_lt_zero n)]
    rfl

/-- The line of a digit: the factor, the digit at its place, and their product. -/
def productLine (x d : Nat) : String := s!"{x} × {d} = {x * d}"

def sumLine (x : Nat) (places : List Nat) (total : Nat) : String :=
  let summands := " + ".intercalate (places.map fun d => toString (x * d))
  s!"Add the partial products: {summands} = {total}"

def signRemark (a b : Int) : List String :=
  if a < 0 ∧ b < 0 then ["Both factors are negative, so the product is positive"]
  else if a * b < 0 then ["One factor is negative, so the product is negative"]
  else []

/-- A product is below zero if one factor is and it is not zero. -/
theorem signs_differ (a b : Int) :
    (decide (a < 0) != decide (b < 0) && decide (a * b ≠ 0)) = decide (a * b < 0) := by
  rw [Bool.eq_iff_iff]
  simp only [Bool.and_eq_true, bne_iff_ne, ne_eq, decide_eq_decide, Int.mul_eq_zero,
    decide_eq_true_eq, mul_neg_iff]
  omega

theorem isNegativeProduct_eq (a b : Int) :
    isNegativeProduct a b (a * b).natAbs = decide (a * b < 0) := by
  have nonzero : ((a * b).natAbs != 0) = decide (a * b ≠ 0) := by
    rw [Bool.eq_iff_iff]
    simp
  rw [isNegativeProduct, nonzero, signs_differ]

theorem products_total (a b : Int) :
    ((digitProducts a.natAbs b.natAbs).map (·.product)).foldl (· + ·) 0 = (a * b).natAbs := by
  rw [← List.sum_eq_foldl, digitProducts_eq, List.map_map, Int.natAbs_mul]
  exact sum_products a.natAbs b.natAbs

theorem multiply_result (a b : Int) : (multiply a b).result = toString (a * b) := by
  simp only [multiply, products_total, isNegativeProduct_eq, decide_eq_true_eq]
  rw [toString_int]
  split
  · rfl
  · simp

/-- What long multiplication writes: the product, a true equation for each digit of the second
factor that is not zero, and the sum of these products when there are several. -/
structure ProductLines (a b : Int) (worked : Worked) : Prop where
  result : worked.result = toString (a * b)
  steps : worked.steps = [s!"Multiply {a} × {b}"] ++
    (placeValues b.natAbs).map (productLine a.natAbs) ++
    (if 2 ≤ (placeValues b.natAbs).length then
      [sumLine a.natAbs (placeValues b.natAbs) (a * b).natAbs] else []) ++
    signRemark a b ++ [s!"Answer: {a} × {b} = {worked.result}"]
  total : ((placeValues b.natAbs).map (a.natAbs * ·)).sum = (a * b).natAbs

theorem multiply_productLines (a b : Int) : ProductLines a b (multiply a b) where
  result := multiply_result a b
  steps := by
    simp only [multiply, products_total, isNegativeProduct_eq, decide_eq_true_eq]
    simp only [digitProducts_eq, List.map_map, List.length_map]
    rfl
  total := by rw [sum_products, Int.natAbs_mul]

/-- Every line of a long multiplication of 64-bit integers is right, and no word overflows. -/
theorem multiply_lines (a b : Int64) :
    ProductLines a.toInt b.toInt (multiply a.toInt b.toInt) ∧
      multiplyInWords a.toInt.natAbs b.toInt.natAbs = some
        ((placeValues b.toInt.natAbs).map fun d => ⟨d, a.toInt.natAbs * d⟩,
          (a.toInt * b.toInt).natAbs) := by
  have lower := a.le_toInt
  have upper := a.toInt_lt
  have lower' := b.le_toInt
  have upper' := b.toInt_lt
  refine ⟨multiply_productLines _ _, ?_⟩
  rw [multiplyInWords_eq (by omega) (by omega), digitProducts_eq, Int.natAbs_mul]

end WorkedAlgebra.LongHand
