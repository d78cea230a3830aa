import WorkedAlgebra.Proofs.SampleGrid
import WorkedAlgebra.Resolution.Steps

/-!
What a root search covers. It finds a bracket or a root exactly when its samples show one, so it
covers the interval up to the last power of two that the limit allows, and the limit itself only
if that is a power of two.
-/

namespace WorkedAlgebra

open Rounding Scalar Bisection Float.Model

/-- The search found a bracket or an exact root. -/
def SearchOutcome.Located (out : SearchOutcome Float) : Prop :=
  out.bracket ≠ none ∨ isZero out.residual = true

/-- One of the points is a root, or two of them have finite values on different sides of zero. -/
def ChangesOn (f : Float → Float) (points : List Float) : Prop :=
  ∃ x ∈ points, isFinite (f x) = true ∧
    (isZero (f x) = true ∨ ∃ y ∈ points, isFinite (f y) = true ∧ opposite (f x) (f y) = true)

/-- Every function that is finite everywhere and changes its sign between the limits is located. -/
def SolverOptions.Covers (options : SolverOptions Float) : Prop :=
  ∀ f : Float → Float, (∀ x, isFinite (f x) = true) →
    opposite (f (-options.searchLimit)) (f options.searchLimit) = true →
      (search f options).Located

section Located

variable {f : Float → Float} {options : SolverOptions Float}

theorem isZero_infinity : isZero (infinity : Float) = false := by decide +kernel

theorem finite_samples {s : Sample Float} (mem : s ∈ samplesOf f options) :
    isFinite s.value = true := (mem_finiteSamples.mp mem).2.2

/-- A sample that is a root is the best one. -/
theorem isZero_bestOf {s : Sample Float} (mem : s ∈ samplesOf f options)
    (zero : isZero s.value = true) : isZero (bestOf f options).value = true := by
  cases found : closest (samplesOf f options) with
  | none =>
      cases samples : samplesOf f options with
      | nil => rw [samples] at mem; cases mem
      | cons first rest => rw [samples] at found; cases found
  | some best =>
      rw [bestOf, found, Option.getD_some]
      exact isZero_of_abs_le (finite_samples (closest_mem found)) (finite_samples mem)
        (closest_le found (fun _ => finite_samples) s mem) zero

/-- If the best sample is a root, it is one of the samples. -/
theorem exists_of_isZero_bestOf (zero : isZero (bestOf f options).value = true) :
    ∃ s ∈ samplesOf f options, isZero s.value = true := by
  unfold bestOf at zero
  cases found : closest (samplesOf f options) with
  | none =>
      rw [found, Option.getD_none, isZero_infinity] at zero
      cases zero
  | some best =>
      rw [found, Option.getD_some] at zero
      exact ⟨best, closest_mem found, zero⟩

/-- A search locates a root exactly when its samples show one. -/
theorem located_iff :
    (search f options).Located ↔ ChangesOn f (grid options.searchLimit) := by
  constructor
  · intro located
    cases bracket : bracketOf f options with
    | none =>
        rw [SearchOutcome.Located, search_of_kept (.inl bracket), bracket, isZero_abs] at located
        obtain ⟨s, mem, zero⟩ := exists_of_isZero_bestOf (located.resolve_left (absurd rfl))
        obtain ⟨point, value, finite⟩ := mem_finiteSamples.mp mem
        exact ⟨s.point, point, value ▸ finite, .inl (value ▸ zero)⟩
    | some pair =>
        obtain ⟨a, b⟩ := pair
        obtain ⟨differ, neighbours⟩ := mem_signChanges_iff.mp (nearest_mem bracket)
        obtain ⟨pointA, valueA, finiteA⟩ :=
          mem_finiteSamples.mp (neighbours.subset List.mem_cons_self)
        obtain ⟨pointB, valueB, finiteB⟩ :=
          mem_finiteSamples.mp (neighbours.subset (List.mem_cons_of_mem a List.mem_cons_self))
        rw [valueA] at finiteA differ
        rw [valueB] at finiteB differ
        exact ⟨a.point, pointA, finiteA, .inr ⟨b.point, pointB, finiteB, differ⟩⟩
  · rintro ⟨x, memX, finiteX, shown⟩
    by_contra lost
    rw [SearchOutcome.Located, not_or, not_not, search_bracket, Option.map_eq_none_iff] at lost
    obtain ⟨none, nonzero⟩ := lost
    rw [search_of_kept (.inl none), isZero_abs] at nonzero
    have sample {x : Float} (mem : x ∈ grid options.searchLimit) (finite : isFinite (f x) = true) :
        ⟨x, f x⟩ ∈ samplesOf f options := mem_finiteSamples.mpr ⟨mem, rfl, finite⟩
    rcases shown with zero | ⟨y, memY, finiteY, differ⟩
    · exact nonzero (isZero_bestOf (sample memX finiteX) zero)
    · have nonzeros (s : Sample Float) (mem : s ∈ samplesOf f options) : isZero s.value = false :=
        Bool.eq_false_iff.mpr fun zero => nonzero (isZero_bestOf mem zero)
      have same := sign_of_signChanges_nil (nearest_eq_none_iff.mp none) nonzeros
        (sample memX finiteX) (sample memY finiteY)
      exact (opposite_iff.mp differ).2.2 same

end Located

section Report

/-- The step says that there is no sign change exactly when nothing was located. -/
theorem reports_no_change_iff (options : SolverOptions Float) (d : SearchDerivation Float) :
    "No sign change".toList <+: (d.bracketStep options).toList ↔ ¬ d.outcome.Located := by
  unfold SearchDerivation.bracketStep SearchOutcome.Located
  cases d.outcome.bracket with
  | some pair => simp [toString]
  | none =>
      cases isZero d.outcome.residual with
      | true => simp [toString]
      | false => simp [toString]

end Report

section Limits

variable {options : SolverOptions Float}

theorem unsigned_of_pos {x : Float} (positive : 0 < floatValue x) :
    Unsigned x.toModel.unpack := by
  rw [floatValue] at positive
  cases parts : x.toModel.unpack with
  | finite s m e nonzero =>
      rw [parts] at positive
      cases s with
      | positive => rfl
      | negative =>
          rw [partsValue_negative] at positive
          linarith [size_pos nonzero e]
  | zero s | infinity s | notANumber =>
      rw [parts] at positive
      exact (lt_irrefl _ positive).elim

/-- A positive number is determined by its value. -/
theorem eq_of_denotes_pos {x y : Float} {q : ℚ} (hx : Denotes x q) (hy : Denotes y q)
    (positive : 0 < q) : x = y :=
  eq_of_unsigned hy.finite (unsigned_of_pos (hy.value ▸ positive))
    (unsigned_of_pos (hx.value ▸ positive)) ((hx.eq_eq hy).trans (decide_eq_true rfl))

/-- The last power of two that a limit of at least one half allows. -/
theorem exists_last {bound : ℚ} (atLeast : (2 : ℚ) ^ (-1 : Int) ≤ bound) :
    ∃ k : Nat, k < 128 ∧ (2 : ℚ) ^ ((k : Int) - 1) ≤ bound ∧ (bound < 2 ^ (k : Int) ∨ k = 127) := by
  classical
  let allowed (k : Nat) : Prop := (2 : ℚ) ^ ((k : Int) - 1) ≤ bound
  have least : allowed 0 := atLeast
  have last : Nat.findGreatest allowed 127 ≤ 127 := Nat.findGreatest_le 127
  refine ⟨Nat.findGreatest allowed 127, by omega,
    Nat.findGreatest_spec (Nat.zero_le 127) least, ?_⟩
  refine (Nat.lt_or_eq_of_le last).imp (fun less => ?_) id
  have beyond := Nat.findGreatest_is_greatest (Nat.lt_succ_self _) less
  simp only [allowed, Nat.cast_succ, add_sub_cancel_right, not_le] at beyond
  exact beyond

/-- The points of the grid, for a limit that is given as a number. -/
theorem mem_grid_iff {k : Nat} (small : k < 128)
    (within : (2 : ℚ) ^ ((k : Int) - 1) ≤ floatValue options.searchLimit)
    (beyond : floatValue options.searchLimit < 2 ^ (k : Int) ∨ k = 127)
    (finite : isFinite options.searchLimit = true) (x : Float) :
    x ∈ grid options.searchLimit ↔ x = zero ∨ ∃ i ≤ k, x = gridPower i ∨ x = -gridPower i := by
  have limit := denotes_value finite
  rw [mem_grid]
  refine or_congr Iff.rfl ⟨?_, ?_⟩
  · rintro ⟨y, mem, same⟩
    obtain ⟨i, smallI, rfl, reached⟩ := exists_of_mem_doublings mem
    rw [(denotes_gridPower (by omega)).le_eq limit, decide_eq_true_iff] at reached
    refine ⟨i, ?_, same⟩
    rcases beyond with less | rfl
    · have order := (zpow_lt_zpow_iff_right₀ (by norm_num : (1 : ℚ) < 2)).mp
        (reached.trans_lt less)
      omega
    · omega
  · rintro ⟨i, le, same⟩
    have smaller : (2 : ℚ) ^ ((i : Int) - 1) ≤ 2 ^ ((k : Int) - 1) :=
      zpow_le_zpow_right₀ (by norm_num) (by omega)
    exact ⟨_, mem_doublings limit (by omega) (smaller.trans within), same⟩

/-- A limit that is a power of two is a point of the grid. -/
theorem covers_of_power {k : Nat} (small : k < 128) (finite : isFinite options.searchLimit = true)
    (power : floatValue options.searchLimit = 2 ^ ((k : Int) - 1)) : options.Covers := by
  intro f finite_f differ
  have limit : options.searchLimit = gridPower k :=
    eq_of_denotes_pos ⟨finite, power⟩ (denotes_gridPower (by omega)) (two_zpow_pos _)
  have point := mem_doublings (denotes_value finite) small power.ge
  refine located_iff.mpr ⟨_, mem_grid.mpr (.inr ⟨_, point, .inr rfl⟩), finite_f _, .inr
    ⟨_, mem_grid.mpr (.inr ⟨_, point, .inl rfl⟩), finite_f _, ?_⟩⟩
  rwa [← limit]

/-- Minus one up to a number, and one beyond it. -/
def stepAt (last x : Float) : Float := if le x last then -one else one

theorem isFinite_stepAt (last x : Float) : isFinite (stepAt last x) = true := by
  unfold stepAt
  split
  · exact denotes_one.neg.finite
  · exact denotes_one.finite

/-- A sign change between the last point and the limit is not seen. -/
theorem power_of_covers {k : Nat} (small : k < 128) (finite : isFinite options.searchLimit = true)
    (within : (2 : ℚ) ^ ((k : Int) - 1) ≤ floatValue options.searchLimit)
    (beyond : floatValue options.searchLimit < 2 ^ (k : Int) ∨ k = 127)
    (covers : options.Covers) : floatValue options.searchLimit = 2 ^ ((k : Int) - 1) := by
  by_contra other
  have limit := denotes_value finite
  have last := denotes_gridPower (i := k) (by omega)
  have positive := two_zpow_pos ((k : Int) - 1)
  have below {x : Float} {q : ℚ} (hx : Denotes x q) (le : q ≤ 2 ^ ((k : Int) - 1)) :
      stepAt (gridPower k) x = -one := by
    rw [stepAt, hx.le_eq last, decide_eq_true le, if_pos rfl]
  have above : stepAt (gridPower k) options.searchLimit = one := by
    rw [stepAt, limit.le_eq last, decide_eq_false (not_le.mpr (within.lt_of_ne (Ne.symm other))),
      if_neg Bool.false_ne_true]
  have differ : opposite (-one : Float) one = true := by decide +kernel
  have located := covers (stepAt (gridPower k)) (isFinite_stepAt _) (by
    rwa [above, below limit.neg (by linarith)])
  have constant (x : Float) (mem : x ∈ grid options.searchLimit) :
      stepAt (gridPower k) x = -one := by
    rcases (mem_grid_iff small within beyond finite x).mp mem with rfl | ⟨i, le, rfl | rfl⟩
    · exact below denotes_zero positive.le
    · exact below (denotes_gridPower (by omega)) (zpow_le_zpow_right₀ (by norm_num) (by omega))
    · exact below (denotes_gridPower (by omega)).neg (by linarith [two_zpow_pos ((i : Int) - 1)])
  obtain ⟨x, memX, -, shown⟩ := located_iff.mp located
  rw [constant x memX] at shown
  rcases shown with zero | ⟨y, memY, -, differ⟩
  · have nonzero : isZero (-one : Float) = false := by decide +kernel
    rw [nonzero] at zero
    cases zero
  · rw [constant y memY] at differ
    exact (opposite_iff.mp differ).2.2 rfl

/-- What a search with a finite limit of at least one half covers: its points are zero and the
powers of two up to the last one within the limit, it locates a root exactly when these points show
one, and a sign change between the limits is sure to be found only if the limit is that power. The
steps say that there is no sign change exactly when nothing was located. -/
theorem search_coverage (finite : isFinite options.searchLimit = true)
    (atLeast : le (ofDecimal 5 1) options.searchLimit = true) :
    ∃ k : Nat, k < 128 ∧ (2 : ℚ) ^ ((k : Int) - 1) ≤ floatValue options.searchLimit ∧
      (floatValue options.searchLimit < 2 ^ (k : Int) ∨ k = 127) ∧
      (∀ x, x ∈ grid options.searchLimit ↔
        x = zero ∨ ∃ i ≤ k, x = gridPower i ∨ x = -gridPower i) ∧
      (∀ f, (search f options).Located ↔ ChangesOn f (grid options.searchLimit)) ∧
      (options.Covers ↔ floatValue options.searchLimit = 2 ^ ((k : Int) - 1)) ∧
      ∀ d : SearchDerivation Float,
        "No sign change".toList <+: (d.bracketStep options).toList ↔ ¬ d.outcome.Located := by
  rw [denotes_half.le_eq (denotes_value finite), decide_eq_true_iff] at atLeast
  obtain ⟨k, small, within, beyond⟩ := exists_last atLeast
  exact ⟨k, small, within, beyond, mem_grid_iff small within beyond finite, fun _ => located_iff,
    ⟨power_of_covers small finite within beyond, covers_of_power small finite⟩,
    reports_no_change_iff options⟩

/-- The usual limit of a million is no power of two: roots beyond `524288` are missed. -/
theorem search_coverage_million :
    isFinite (default : SolverOptions Float).searchLimit = true ∧
      le (ofDecimal 5 1) (default : SolverOptions Float).searchLimit = true ∧
        ¬ (default : SolverOptions Float).Covers := by
  have limit : Denotes (default : SolverOptions Float).searchLimit 1000000 :=
    ⟨by decide +kernel, by decide +kernel⟩
  have atLeast : le (ofDecimal 5 1) (default : SolverOptions Float).searchLimit = true := by
    decide +kernel
  obtain ⟨k, -, -, -, -, -, covers, -⟩ := search_coverage limit.finite atLeast
  refine ⟨limit.finite, atLeast, fun covered => ?_⟩
  have power := covers.mp covered
  rw [limit.value] at power
  have low : (2 : ℚ) ^ (19 : Int) < 2 ^ ((k : Int) - 1) := power ▸ by norm_num
  have high : (2 : ℚ) ^ ((k : Int) - 1) < 2 ^ (20 : Int) := power ▸ by norm_num
  have := (zpow_lt_zpow_iff_right₀ (by norm_num : (1 : ℚ) < 2)).mp low
  have := (zpow_lt_zpow_iff_right₀ (by norm_num : (1 : ℚ) < 2)).mp high
  omega

end Limits

end WorkedAlgebra
