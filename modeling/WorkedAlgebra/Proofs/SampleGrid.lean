import WorkedAlgebra.Proofs.Bracketing
import WorkedAlgebra.Proofs.Rounding.Monotone

/-!
The points that a root search samples: zero and the powers of two from one half up to the limit, on
both sides. Doubling is exact, so the points are ascending whatever the limit.
-/

namespace WorkedAlgebra.Bisection

open Rounding Scalar

/-- The number `2 ^ (i - 1)`, reached from one half by doubling. -/
def gridPower (i : Nat) : Float := (· * two)^[i] (ofDecimal 5 1)

def gridBound : ℚ := 2 ^ (126 : Int)

section Powers

theorem denotes_half : Denotes (ofDecimal 5 1) (2 ^ (-1 : Int)) := by
  refine .ofUnpack (u := .finite .positive (2 ^ 52) (-53) (by decide)) rfl
    ⟨by decide, by decide, by decide, by decide, .inl le_rfl⟩ ?_
  norm_num [partsValue, signFactor]

theorem Denotes.double {x : Float} {j : Int} (h : Denotes x (2 ^ j)) (low : -1074 ≤ j)
    (high : j < 1000) : Denotes (x * two) (2 ^ (j + 1)) := by
  have product : (2 : ℚ) ^ j * 2 = 2 ^ (j + 1) := (zpow_add_one₀ (by norm_num) j).symm
  have exact : Representable ((2 : ℚ) ^ (j + 1)) :=
    ⟨1, j + 1, by norm_num, by omega, by rw [Int.cast_one, one_mul]⟩
  obtain ⟨v, hv, rounded⟩ := h.mul denotes_two (by
    rw [product, abs_of_pos (two_zpow_pos _)]
    exact zpow_lt_zpow_right₀ (by norm_num) (by omega))
  rw [product] at rounded
  rwa [rounded.eq_of_representable exact] at hv

theorem gridPower_succ (i : Nat) : gridPower (i + 1) = gridPower i * two := by
  rw [gridPower, gridPower, Function.iterate_succ_apply']

theorem denotes_gridPower {i : Nat} (small : i < 1000) :
    Denotes (gridPower i) (2 ^ ((i : Int) - 1)) := by
  induction i with
  | zero => exact denotes_half
  | succ i ih =>
      have doubled := Denotes.double (ih (by omega)) (by omega) (by omega)
      rw [gridPower_succ]
      rwa [sub_add_cancel, ← add_sub_cancel_right (i : Int) 1, ← Nat.cast_succ] at doubled

theorem gridPower_lt {i j : Nat} (less : i < j) :
    (2 : ℚ) ^ ((i : Int) - 1) < 2 ^ ((j : Int) - 1) :=
  zpow_lt_zpow_right₀ (by norm_num) (by omega)

end Powers

section Doublings

/-- Doubling goes on up to the limit. -/
theorem doublings_eq (limit : Float) (start count : Nat) :
    doublings limit (gridPower start) count =
      ((List.range' start count).map gridPower).takeWhile (le · limit) := by
  induction count generalizing start with
  | zero => rfl
  | succ count ih =>
      rw [doublings, List.range'_succ, List.map_cons, List.takeWhile_cons, ← gridPower_succ, ih]

theorem exists_of_mem_doublings {limit x : Float} (mem : x ∈ doublings limit (gridPower 0) 128) :
    ∃ i < 128, x = gridPower i ∧ le x limit = true := by
  rw [doublings_eq] at mem
  obtain ⟨i, range, rfl⟩ := List.mem_map.mp ((List.takeWhile_sublist _).subset mem)
  have reached := List.mem_takeWhile_imp (p := (le · limit)) mem
  exact ⟨i, by simpa using range, rfl, reached⟩

/-- A power is reached if it and all smaller ones are within the limit. -/
theorem mem_doublings_of_le {limit : Float} {i : Nat} (small : i < 128)
    (within : ∀ j ≤ i, le (gridPower j) limit = true) :
    gridPower i ∈ doublings limit (gridPower 0) 128 := by
  have reaches (count : Nat) : ∀ start, start ≤ i → i < start + count →
      gridPower i ∈ doublings limit (gridPower start) count := by
    induction count with
    | zero => omega
    | succ count ih =>
        intro start low high
        rw [doublings, if_pos (within start low), ← gridPower_succ]
        rcases Nat.eq_or_lt_of_le low with rfl | less
        · exact List.mem_cons_self
        · exact List.mem_cons_of_mem _ (ih (start + 1) less (by omega))
  exact reaches 128 0 (Nat.zero_le i) (by omega)

/-- All powers up to a finite limit are reached. -/
theorem mem_doublings {limit : Float} {bound : ℚ} (hlimit : Denotes limit bound) {i : Nat}
    (small : i < 128) (within : (2 : ℚ) ^ ((i : Int) - 1) ≤ bound) :
    gridPower i ∈ doublings limit (gridPower 0) 128 := by
  refine mem_doublings_of_le small fun j low => ?_
  have smaller : (2 : ℚ) ^ ((j : Int) - 1) ≤ 2 ^ ((i : Int) - 1) :=
    zpow_le_zpow_right₀ (by norm_num) (by omega)
  rw [(denotes_gridPower (by omega)).le_eq hlimit]
  exact decide_eq_true (smaller.trans within)

theorem doublings_ascending (limit : Float) :
    (doublings limit (gridPower 0) 128).Pairwise fun x y => floatValue x < floatValue y := by
  rw [doublings_eq]
  refine List.Pairwise.sublist (List.takeWhile_sublist _) ?_
  rw [List.pairwise_map]
  refine List.Pairwise.imp_of_mem ?_ (List.pairwise_lt_range' (s := 0) (n := 128))
  intro i j memI memJ less
  have smallI : i < 128 := by simpa using memI
  have smallJ : j < 128 := by simpa using memJ
  rw [(denotes_gridPower (by omega)).value, (denotes_gridPower (by omega)).value]
  exact gridPower_lt less

end Doublings

section Grid

theorem mem_grid {limit x : Float} : x ∈ grid limit ↔
    x = zero ∨ ∃ y ∈ doublings limit (gridPower 0) 128, x = y ∨ x = -y := by
  have half : gridPower 0 = ofDecimal 5 1 := rfl
  simp only [grid, ← half, List.mem_append, List.mem_reverse, List.mem_map, List.mem_cons]
  constructor
  · rintro (⟨y, mem, rfl⟩ | rfl | mem)
    · exact .inr ⟨y, mem, .inr rfl⟩
    · exact .inl rfl
    · exact .inr ⟨x, mem, .inl rfl⟩
  · rintro (rfl | ⟨y, mem, rfl | rfl⟩)
    · exact .inr (.inl rfl)
    · exact .inr (.inr mem)
    · exact .inl ⟨y, mem, rfl⟩

/-- Points of the grid are finite and far below the largest numbers. -/
theorem denotes_grid {limit x : Float} (mem : x ∈ grid limit) :
    Denotes x (floatValue x) ∧ |floatValue x| ≤ gridBound := by
  have power {y : Float} (mem : y ∈ doublings limit (gridPower 0) 128) :
      ∃ q, Denotes y q ∧ |q| ≤ gridBound := by
    obtain ⟨i, small, rfl, -⟩ := exists_of_mem_doublings mem
    refine ⟨_, denotes_gridPower (by omega), ?_⟩
    rw [abs_of_pos (two_zpow_pos _)]
    exact zpow_le_zpow_right₀ (by norm_num) (by omega)
  have point : ∃ q, Denotes x q ∧ |q| ≤ gridBound := by
    rcases mem_grid.mp mem with rfl | ⟨y, doubled, rfl | rfl⟩
    · exact ⟨0, denotes_zero, by rw [abs_zero]; exact (two_zpow_pos _).le⟩
    · exact power doubled
    · obtain ⟨q, hq, bound⟩ := power doubled
      exact ⟨-q, hq.neg, by rwa [abs_neg]⟩
  obtain ⟨q, hq, bound⟩ := point
  rw [hq.value]
  exact ⟨hq, bound⟩

/-- The grid ascends where doubling does, from above zero, and negation turns it around. -/
theorem grid_pairwise {α κ : Type} [Scalar α] [AddCommGroup κ] [LinearOrder κ]
    [IsOrderedAddMonoid κ] (key : α → κ) {limit : α} (atZero : key zero = 0)
    (positive : ∀ x ∈ doublings limit (ofDecimal 5 1) 128, 0 < key x ∧ key (-x) = -key x)
    (ascending : (doublings limit (ofDecimal 5 1) 128).Pairwise fun x y => key x < key y) :
    (grid limit).Pairwise fun x y => key x < key y := by
  refine List.pairwise_append.mpr ⟨?_, List.pairwise_cons.mpr ⟨?_, ascending⟩, ?_⟩
  · rw [List.pairwise_reverse, List.pairwise_map]
    refine ascending.imp_of_mem fun memX memY less => ?_
    rw [(positive _ memX).2, (positive _ memY).2]
    exact neg_lt_neg less
  · intro y mem
    rw [atZero]
    exact (positive y mem).1
  · intro x memX y memY
    obtain ⟨z, memZ, rfl⟩ := List.mem_map.mp (List.mem_reverse.mp memX)
    have negative : key (-z) < 0 := by
      rw [(positive z memZ).2]
      exact neg_neg_of_pos (positive z memZ).1
    refine negative.trans_le ?_
    rcases List.mem_cons.mp memY with rfl | memY
    · rw [atZero]
    · exact (positive y memY).1.le

theorem grid_ascending (limit : Float) :
    (grid limit).Pairwise fun x y => floatValue x < floatValue y := by
  refine grid_pairwise floatValue denotes_zero.value (fun y mem => ?_) (doublings_ascending limit)
  obtain ⟨i, small, rfl, -⟩ := exists_of_mem_doublings mem
  have denotes := denotes_gridPower (i := i) (by omega)
  rw [denotes.neg.value, denotes.value]
  exact ⟨two_zpow_pos _, rfl⟩

end Grid

end WorkedAlgebra.Bisection
