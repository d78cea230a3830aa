import Mathlib.Algebra.Order.Field.Basic
import Mathlib.Tactic.Linarith
import Mathlib.Tactic.Ring
import WorkedAlgebra.Proofs.Halvings

/-!
How fast a search converges in exact arithmetic. Each step of halving leaves half of the interval,
with values of opposite signs at its ends, so the width of the bracket bounds the number of steps,
and where halving ends early a function that is not too steep is small.
-/

namespace WorkedAlgebra

/-- What solving asks of numbers and an ordered field does not have. -/
class BeyondField (F : Type) where
  undefined : F
  infinity : F
  round : F → F

/-- The exact arithmetic of an ordered field. -/
instance (priority := low) exactArithmetic {F : Type} [Field F] [LinearOrder F] [BeyondField F] :
    Scalar F where
  ofDecimal mantissa places := mantissa / 10 ^ places
  undefined := BeyondField.undefined
  infinity := BeyondField.infinity
  abs x := |x|
  isFinite _ := true
  eq x y := decide (x = y)
  le x y := decide (x ≤ y)
  lt x y := decide (x < y)
  leSqrt r t := decide (0 ≤ t ∧ (r ≤ 0 ∨ r * r ≤ t))
  round := BeyondField.round

/-- On an interval values are at most `K` times as far apart as the points. -/
def LipschitzOn {F : Type} [Field F] [LinearOrder F] (f : F → F) (K a b : F) : Prop :=
  ∀ x ∈ Set.Icc a b, ∀ y ∈ Set.Icc a b, |f x - f y| ≤ K * |x - y|

theorem LipschitzOn.mono {F : Type} [Field F] [LinearOrder F] {f : F → F} {K a b c d : F}
    (h : LipschitzOn f K a b) (low : a ≤ c) (high : d ≤ b) : LipschitzOn f K c d :=
  fun x hx y hy => h x (Set.Icc_subset_Icc low high hx) y (Set.Icc_subset_Icc low high hy)

namespace Bisection

open Scalar

variable {F : Type} [Field F] [LinearOrder F] [BeyondField F] {f : F → F} {K tolerance : F}
  {lo hi : Sample F} {options : SolverOptions F}

section Operations

variable (x y : F)

theorem exact_ofNat (n : Nat) : (ofNat n : F) = n := by
  change (n : F) / 10 ^ 0 = n
  rw [pow_zero, div_one]

theorem exact_two : (two : F) = 2 := (exact_ofNat 2).trans Nat.cast_two

theorem exact_zero : (zero : F) = 0 := (exact_ofNat 0).trans Nat.cast_zero

theorem exact_isZero : isZero x = decide (x = 0) := by
  rw [isZero, exact_zero]
  rfl

theorem exact_isNegative : isNegative x = decide (x < 0) := by
  rw [isNegative, exact_zero]
  rfl

theorem closer_le_exact (s t : Sample F) :
    |(closer s t).value| ≤ |s.value| ∧ |(closer s t).value| ≤ |t.value| := by
  unfold closer
  split
  · rename_i less
    exact ⟨(of_decide_eq_true less).le, le_rfl⟩
  · rename_i notLess
    exact ⟨le_rfl, not_lt.mp fun less => notLess (decide_eq_true less)⟩

variable [IsStrictOrderedRing F]

theorem exact_opposite : opposite x y = decide (x * y < 0) :=
  opposite_eq_mul (exact_isZero x) (exact_isZero y) (exact_isNegative x) (exact_isNegative y)

/-- Values on different sides of zero are at least as far apart as either is from zero. -/
theorem abs_le_abs_sub {x y : F} (opposed : x * y ≤ 0) : |x| ≤ |x - y| := by
  refine sq_le_sq.mp ?_
  rw [sub_sq]
  linarith [sq_nonneg y]

end Operations

section Halving

variable [IsStrictOrderedRing F]

/-- The middle is half the width away from either end. -/
theorem point_middleOf (f : F → F) (lo hi : Sample F) :
    (middleOf f lo hi).point - lo.point = (hi.point - lo.point) / 2 ∧
      hi.point - (middleOf f lo hi).point = (hi.point - lo.point) / 2 := by
  simp only [middleOf, exact_two]
  constructor <;> ring

/-- An interval at whose ends a function has values of opposite signs. -/
structure Straddles (f : F → F) (lo hi : Sample F) : Prop where
  ascending : lo.point < hi.point
  low : lo.value = f lo.point
  high : hi.value = f hi.point
  opposed : opposite lo.value hi.value = true

namespace Straddles

theorem nonneg (h : Straddles f lo hi) (lipschitz : LipschitzOn f K lo.point hi.point) : 0 ≤ K := by
  have apart := lipschitz _ (Set.left_mem_Icc.mpr h.ascending.le) _
    (Set.right_mem_Icc.mpr h.ascending.le)
  have width : 0 < |lo.point - hi.point| := abs_pos.mpr (sub_ne_zero.mpr h.ascending.ne)
  exact nonneg_of_mul_nonneg_left ((abs_nonneg _).trans apart) width

theorem middle (h : Straddles f lo hi) :
    lo.point < (middleOf f lo hi).point ∧ (middleOf f lo hi).point < hi.point := by
  have ascending := h.ascending
  obtain ⟨left, right⟩ := point_middleOf f lo hi
  constructor <;> linarith

/-- The half that halving goes on with straddles zero again. -/
theorem step (h : Straddles f lo hi) (nonzero : isZero (middleOf f lo hi).value = false) :
    (isNegative (middleOf f lo hi).value = isNegative lo.value →
        Straddles f (middleOf f lo hi) hi) ∧
      (isNegative (middleOf f lo hi).value ≠ isNegative lo.value →
        Straddles f lo (middleOf f lo hi)) := by
  obtain ⟨nonzeroLo, nonzeroHi, differ⟩ := opposite_iff.mp h.opposed
  constructor
  · intro same
    exact ⟨h.middle.2, rfl, h.high, opposite_iff.mpr ⟨nonzero, nonzeroHi, same ▸ differ⟩⟩
  · intro other
    exact ⟨h.middle.1, h.low, rfl, opposite_iff.mpr ⟨nonzeroLo, nonzero, other.symm⟩⟩

/-- In the middle a function is not larger than half the width allows, since its value there is on
the other side of zero from the value at one of the ends. -/
theorem middle_le (h : Straddles f lo hi) (lipschitz : LipschitzOn f K lo.point hi.point) :
    |(middleOf f lo hi).value| ≤ K * ((hi.point - lo.point) / 2) := by
  have ascending := h.ascending
  have opposed := h.opposed
  obtain ⟨left, right⟩ := point_middleOf f lo hi
  have inside : (middleOf f lo hi).point ∈ Set.Icc lo.point hi.point :=
    ⟨h.middle.1.le, h.middle.2.le⟩
  have value : (middleOf f lo hi).value = f (middleOf f lo hi).point := rfl
  rw [exact_opposite, decide_eq_true_iff] at opposed
  rcases le_or_gt ((middleOf f lo hi).value * lo.value) 0 with other | same
  · calc |(middleOf f lo hi).value|
      _ ≤ |(middleOf f lo hi).value - lo.value| := abs_le_abs_sub other
      _ ≤ K * |(middleOf f lo hi).point - lo.point| := by
        rw [value, h.low]
        exact lipschitz _ inside _ (Set.left_mem_Icc.mpr ascending.le)
      _ = K * ((hi.point - lo.point) / 2) := by
        rw [left, abs_of_pos (by linarith)]
  · have other : (middleOf f lo hi).value * hi.value ≤ 0 := by
      by_contra! both
      have product := mul_pos same both
      nlinarith [sq_nonneg (middleOf f lo hi).value]
    calc |(middleOf f lo hi).value|
      _ ≤ |(middleOf f lo hi).value - hi.value| := abs_le_abs_sub other
      _ ≤ K * |(middleOf f lo hi).point - hi.point| := by
        rw [value, h.high]
        exact lipschitz _ inside _ (Set.right_mem_Icc.mpr ascending.le)
      _ = K * ((hi.point - lo.point) / 2) := by
        rw [abs_sub_comm, right, abs_of_pos (by linarith)]

end Straddles

/-- As many steps are enough as it takes to halve the width down to the tolerance. -/
theorem length_middles_le_of_narrow (fuel : Nat) {n : Nat} (positive : 0 < n)
    (narrow : (hi.point - lo.point) / 2 ^ n ≤ tolerance) :
    (middles f tolerance lo hi fuel).length ≤ n := by
  induction fuel generalizing lo hi n with
  | zero => exact Nat.zero_le n
  | succ fuel ih =>
      obtain ⟨n, rfl⟩ := Nat.exists_eq_add_one_of_ne_zero positive.ne'
      rw [pow_succ', ← div_div] at narrow
      rw [middles, List.length_cons, Nat.succ_le_succ_iff]
      obtain ⟨left, right⟩ := point_middleOf f lo hi
      split_ifs with _ stop
      · exact Nat.zero_le n
      · exact Nat.zero_le n
      all_goals
        have later : 0 < n := by
          by_contra last
          rw [Nat.eq_zero_of_not_pos last, pow_zero, div_one, ← exact_two] at narrow
          exact stop (Bool.or_eq_true_iff.mpr (.inr (decide_eq_true narrow)))
      · exact ih later (by rwa [right])
      · exact ih later (by rwa [left])

/-- Halving that ends before its last step has met a small value. -/
theorem exists_small_of_length_lt {fuel : Nat} (h : Straddles f lo hi)
    (lipschitz : LipschitzOn f K lo.point hi.point) (positive : 0 < tolerance)
    (early : (middles f tolerance lo hi fuel).length < fuel) :
    ∃ s ∈ middles f tolerance lo hi fuel, |s.value| ≤ K * tolerance := by
  induction fuel generalizing lo hi with
  | zero => exact (Nat.not_lt_zero _ early).elim
  | succ fuel ih =>
      rw [middles, List.length_cons, Nat.succ_lt_succ_iff] at early
      rw [middles]
      split_ifs at early ⊢ with infinite stop same
      · cases infinite
      · refine ⟨_, List.mem_cons_self, ?_⟩
        rw [Bool.or_eq_true_iff, exact_isZero, decide_eq_true_iff, exact_two] at stop
        rcases stop with root | narrow
        · rw [root, abs_zero]
          exact mul_nonneg (h.nonneg lipschitz) positive.le
        · exact (h.middle_le lipschitz).trans
            (mul_le_mul_of_nonneg_left (of_decide_eq_true narrow) (h.nonneg lipschitz))
      all_goals
        have nonzero : isZero (middleOf f lo hi).value = false := (Bool.or_eq_false_iff.mp
          (Bool.eq_false_of_not_eq_true stop)).1
      · obtain ⟨s, mem, small⟩ := ih ((h.step nonzero).1 (eq_of_beq same))
          (lipschitz.mono h.middle.1.le le_rfl) early
        exact ⟨s, List.mem_cons_of_mem _ mem, small⟩
      · have other := ne_of_beq_false (Bool.eq_false_of_not_eq_true same)
        obtain ⟨s, mem, small⟩ := ih ((h.step nonzero).2 other)
          (lipschitz.mono le_rfl h.middle.2.le) early
        exact ⟨s, List.mem_cons_of_mem _ mem, small⟩

end Halving

section Searches

variable [IsStrictOrderedRing F]

theorem doublings_ascending_exact (limit : F) {r : F} (positive : 0 < r) (count : Nat) :
    (doublings limit r count).Pairwise (· < ·) ∧ ∀ x ∈ doublings limit r count, r ≤ x := by
  induction count generalizing r with
  | zero => exact ⟨.nil, List.forall_mem_nil _⟩
  | succ count ih =>
      rw [doublings, exact_two]
      split
      · have double : r < r * 2 := lt_mul_of_one_lt_right positive one_lt_two
        obtain ⟨ascending, above⟩ := ih (positive.trans double)
        exact ⟨List.pairwise_cons.mpr ⟨fun x mem => double.trans_le (above x mem), ascending⟩,
          List.forall_mem_cons.mpr ⟨le_rfl, fun x mem => double.le.trans (above x mem)⟩⟩
      · exact ⟨.nil, List.forall_mem_nil _⟩

theorem samples_ascending_exact : (samplesOf f options).Pairwise fun s t => s.point < t.point := by
  have half : (0 : F) < ofDecimal 5 1 := by
    change (0 : F) < ((5 : ℕ) : F) / 10 ^ 1
    norm_num
  obtain ⟨ascending, above⟩ := doublings_ascending_exact options.searchLimit half 128
  refine List.Pairwise.filter _ ?_
  rw [List.pairwise_map]
  exact grid_pairwise id exact_zero
    (fun x mem => ⟨half.trans_le (above x mem), rfl⟩) ascending

/-- The bracket that is halved. -/
theorem straddles_of_bracketOf (bracket : bracketOf f options = some (lo, hi)) :
    Straddles f lo hi := by
  obtain ⟨memLo, memHi, ascending, opposed⟩ := bracketOf_ends samples_ascending_exact bracket
  exact ⟨ascending, (mem_finiteSamples.mp memLo).2.1, (mem_finiteSamples.mp memHi).2.1, opposed⟩

/-- A search in exact arithmetic that finds a bracket halves it no more often than it takes to get
down to the tolerance; and if it ends before its last step, a function that is `K`-Lipschitz on the
bracket is at most `K` times the tolerance at the value that it finds. -/
theorem search_converges (f : F → F) (options : SolverOptions F) {a b : F}
    (positive : 0 < options.tolerance) (bracket : (search f options).bracket = some (a, b)) :
    (∀ n, 0 < n → (b - a) / 2 ^ n ≤ options.tolerance → (search f options).iterations ≤ n) ∧
      ∀ K, LipschitzOn f K a b → (search f options).iterations < options.maxIterations →
        (search f options).residual ≤ K * options.tolerance := by
  rw [search_bracket, Option.map_eq_some_iff] at bracket
  obtain ⟨⟨lo, hi⟩, found, ends⟩ := bracket
  obtain ⟨rfl, rfl⟩ := Prod.mk.inj ends
  have straddles := straddles_of_bracketOf found
  cases root : isZero (bestOf f options).value with
  | true =>
      rw [search_of_kept (.inr root)]
      rw [exact_isZero, decide_eq_true_iff] at root
      refine ⟨fun n _ _ => Nat.zero_le n, fun K lipschitz _ => ?_⟩
      change |(bestOf f options).value| ≤ K * options.tolerance
      rw [root, abs_zero]
      exact mul_nonneg (straddles.nonneg lipschitz) positive.le
  | false =>
      rw [search_of_bracket found root (halve_eq_fold ..)]
      simp only [Nat.zero_add]
      refine ⟨fun n => length_middles_le_of_narrow _, fun K lipschitz early => ?_⟩
      obtain ⟨s, mem, small⟩ := exists_small_of_length_lt straddles lipschitz positive early
      refine le_trans ?_ small
      exact foldl_le (fun t : Sample F => |t.value|) closer (P := fun _ => True)
        (fun s t _ _ => ⟨trivial, closer_le_exact s t⟩) trivial (fun _ _ => trivial) s
        (List.mem_cons_of_mem _ (List.mem_filter.mpr ⟨mem, rfl⟩))

@[reducible]
def rationalSearches : BeyondField ℚ := ⟨0, 0, id⟩

/-- The square root of two, to within one tenth. -/
theorem search_converges_root_two :
    letI := rationalSearches
    let f : ℚ → ℚ := fun x => x * x - 2
    let options : SolverOptions ℚ := ⟨100, 1 / 10, 4, 10⟩
    0 < options.tolerance ∧ (search f options).bracket = some (1, 2) ∧
      (search f options).iterations ≤ 4 ∧ (search f options).residual ≤ 4 * (1 / 10) := by
  let _ := rationalSearches
  intro f options
  have positive : 0 < options.tolerance := by decide +kernel
  have bracket : (search f options).bracket = some (1, 2) := by decide +kernel
  obtain ⟨rate, residual⟩ := search_converges f options positive bracket
  have steps := rate 4 (by decide) (by norm_num [options])
  refine ⟨positive, bracket, steps, residual 4 (fun x hx y hy => ?_) (steps.trans_lt (by decide))⟩
  have factored : f x - f y = (x + y) * (x - y) := by
    simp only [f]
    ring
  rw [factored, abs_mul]
  refine mul_le_mul_of_nonneg_right (abs_le.mpr ?_) (abs_nonneg _)
  constructor <;> linarith [hx.1, hx.2, hy.1, hy.2]

end Searches

end Bisection
end WorkedAlgebra
