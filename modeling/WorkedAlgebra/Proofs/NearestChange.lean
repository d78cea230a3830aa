import Mathlib.Data.Prod.Lex
import WorkedAlgebra.Proofs.BackedEstimates

/-!
The bracket of a root search is the sign change nearest to zero. The grid is known for every limit,
sign changes are told by the function alone, and of several the bracket is one with the least
distance, above zero if that is possible.
-/

namespace WorkedAlgebra.Bisection

open Rounding Scalar Float.Model

section Points

variable {limit x y : Float}

/-- Numbers within an infinite limit: all or none. -/
theorem le_of_infinite (hx : isFinite x = true) (hy : isFinite y = true)
    (infinite : isFinite limit = false) : le x limit = le y limit := by
  have order (x : Float) : le x limit =
      (x.toModel.unpack.compare limit.toModel.unpack).any (·.isLE) := Bool.decide_eq_true
  have alike {z : Float} (hz : isFinite z = true) : le z limit = le zero limit := by
    rw [order, order]
    cases parts : limit.toModel.unpack with
    | zero s | finite s m e positive =>
        change limit.toModel.unpack.isFinite = false at infinite
        rw [parts] at infinite
        cases infinite
    | infinity s =>
        rcases finite_parts hz with ⟨_, same⟩ | ⟨_, _, _, _, same⟩ <;> rw [same] <;> cases s <;> rfl
    | notANumber =>
        rcases finite_parts hz with ⟨_, same⟩ | ⟨_, _, _, _, same⟩ <;> rw [same] <;> rfl
  rw [alike hx, alike hy]

theorem mem_doublings_iff : x ∈ doublings limit (gridPower 0) 128 ↔
    ∃ k < 128, x = gridPower k ∧ le (gridPower k) limit = true := by
  constructor
  · rintro mem
    obtain ⟨k, small, rfl, within⟩ := exists_of_mem_doublings mem
    exact ⟨k, small, rfl, within⟩
  · rintro ⟨k, small, rfl, within⟩
    refine mem_doublings_of_le small fun j low => ?_
    have power := denotes_gridPower (i := k) (by omega)
    have smaller := denotes_gridPower (i := j) (by omega)
    cases finite : isFinite limit with
    | true =>
        rw [power.le_eq (denotes_value finite), decide_eq_true_iff] at within
        rw [smaller.le_eq (denotes_value finite)]
        exact decide_eq_true
          ((zpow_le_zpow_right₀ (by norm_num) (by omega)).trans within)
    | false => rwa [le_of_infinite smaller.finite power.finite finite]

/-- The grid for every limit, undefined and infinite ones included. -/
theorem mem_grid_powers : x ∈ grid limit ↔ x = zero ∨
    ∃ k < 128, le (gridPower k) limit = true ∧ (x = gridPower k ∨ x = -gridPower k) := by
  rw [mem_grid]
  refine or_congr Iff.rfl ⟨?_, ?_⟩
  · rintro ⟨y, mem, same⟩
    obtain ⟨k, small, rfl, within⟩ := mem_doublings_iff.mp mem
    exact ⟨k, small, within, same⟩
  · rintro ⟨k, small, within, same⟩
    exact ⟨_, mem_doublings_iff.mpr ⟨k, small, rfl, within⟩, same⟩

theorem grid_strict : (grid limit).Pairwise fun x y => lt x y = true := by
  refine (grid_ascending limit).imp_of_mem fun memX memY less => ?_
  rw [(denotes_grid memX).1.lt_eq (denotes_grid memY).1]
  exact decide_eq_true less

theorem abs_grid (mem : x ∈ grid limit) :
    floatValue x = 0 ∨ ∃ k : Nat, |floatValue x| = 2 ^ ((k : Int) - 1) ∧
      (le (gridPower k) limit = true ∧ k < 128) := by
  rcases mem_grid_powers.mp mem with rfl | ⟨k, small, within, same⟩
  · exact .inl denotes_zero.value
  · have power := denotes_gridPower (i := k) (by omega)
    refine .inr ⟨k, ?_, within, small⟩
    rcases same with rfl | rfl
    · rw [power.value, abs_of_pos (two_zpow_pos _)]
    · rw [power.neg.value, abs_neg, abs_of_pos (two_zpow_pos _)]

end Points

section Changes

variable {f : Float → Float} {options : SolverOptions Float} {limit lo hi lo' hi' : Float}

/-- Neighbours among the points of the grid at which the function is finite, with values on
different sides of zero. -/
structure SignChange (f : Float → Float) (limit lo hi : Float) : Prop where
  neighbours : [lo, hi] <:+: (grid limit).filter fun x => isFinite (f x)
  opposed : floatValue (f lo) * floatValue (f hi) < 0

theorem samplesOf_eq : samplesOf f options =
    ((grid options.searchLimit).filter fun x => isFinite (f x)).map fun x => ⟨x, f x⟩ :=
  List.filter_map

theorem opposite_eq {a b : Float} (ha : isFinite a = true) (hb : isFinite b = true) :
    opposite a b = decide (floatValue a * floatValue b < 0) :=
  opposite_eq_mul (isZero_eq (denotes_value ha)) (isZero_eq (denotes_value hb))
    (isNegative_eq ha) (isNegative_eq hb)

theorem SignChange.mem (h : SignChange f limit lo hi) :
    (lo ∈ grid limit ∧ isFinite (f lo) = true) ∧ hi ∈ grid limit ∧ isFinite (f hi) = true := by
  have first := h.neighbours.subset List.mem_cons_self
  have second := h.neighbours.subset (List.mem_cons_of_mem lo List.mem_cons_self)
  exact ⟨List.mem_filter.mp first, List.mem_filter.mp second⟩

/-- The pairs that a search chooses from. -/
theorem mem_changes_iff {a b : Sample Float} : (a, b) ∈ signChanges (samplesOf f options) ↔
    SignChange f options.searchLimit a.point b.point ∧ a.value = f a.point ∧
      b.value = f b.point := by
  have back (points : List Float) :
      (points.map fun x => (⟨x, f x⟩ : Sample Float)).map Sample.point = points := by
    rw [List.map_map]
    exact List.map_id points
  rw [mem_signChanges_iff, samplesOf_eq]
  constructor
  · rintro ⟨differ, neighbours⟩
    have sample {s : Sample Float} (mem : s ∈ [a, b]) :
        isFinite (f s.point) = true ∧ s.value = f s.point := by
      obtain ⟨x, point, rfl⟩ := List.mem_map.mp (neighbours.subset mem)
      exact ⟨(List.mem_filter.mp point).2, rfl⟩
    obtain ⟨finiteA, valueA⟩ := sample List.mem_cons_self
    obtain ⟨finiteB, valueB⟩ := sample (List.mem_cons_of_mem a List.mem_cons_self)
    rw [valueA, valueB, opposite_eq finiteA finiteB] at differ
    refine ⟨⟨?_, of_decide_eq_true differ⟩, valueA, valueB⟩
    have points := neighbours.map Sample.point
    rwa [back] at points
  · rintro ⟨change, valueA, valueB⟩
    obtain ⟨⟨-, finiteA⟩, -, finiteB⟩ := change.mem
    obtain ⟨a, _⟩ := a
    obtain ⟨b, _⟩ := b
    obtain rfl : _ = f a := valueA
    obtain rfl : _ = f b := valueB
    refine ⟨?_, change.neighbours.map fun x => (⟨x, f x⟩ : Sample Float)⟩
    rw [opposite_eq finiteA finiteB]
    exact decide_eq_true change.opposed

end Changes

section Distances

variable {limit x y : Float}

/-- The distance of a pair is rounded once. -/
theorem denotes_distance (hx : x ∈ grid limit) (hy : y ∈ grid limit) :
    Denotes (Scalar.abs x + Scalar.abs y) (floatValue (Scalar.abs x + Scalar.abs y)) ∧
      Rounded (|floatValue x| + |floatValue y|) (floatValue (Scalar.abs x + Scalar.abs y)) := by
  obtain ⟨pointX, boundX⟩ := denotes_grid hx
  obtain ⟨pointY, boundY⟩ := denotes_grid hy
  have double : gridBound + gridBound = 2 ^ (127 : Int) := by norm_num [gridBound]
  have room : (2 : ℚ) ^ (127 : Int) < 2 ^ (1023 : Int) :=
    zpow_lt_zpow_right₀ (by norm_num) (by norm_num)
  obtain ⟨d, denotes, rounded⟩ := pointX.abs.add pointY.abs (by
    rw [abs_of_nonneg (add_nonneg (abs_nonneg _) (abs_nonneg _))]
    exact ((add_le_add boundX boundY).trans_eq double).trans_lt room)
  rw [denotes.value]
  exact ⟨denotes, rounded⟩

/-- Rounding keeps the order of distances. -/
theorem distance_mono {x' y' : Float} (hx : x ∈ grid limit) (hy : y ∈ grid limit)
    (hx' : x' ∈ grid limit) (hy' : y' ∈ grid limit)
    (less : |floatValue x| + |floatValue y| < |floatValue x'| + |floatValue y'|) :
    floatValue (Scalar.abs x + Scalar.abs y) ≤ floatValue (Scalar.abs x' + Scalar.abs y') := by
  obtain ⟨distance, rounded⟩ := denotes_distance hx hy
  obtain ⟨distance', rounded'⟩ := denotes_distance hx' hy'
  exact rounded.mono rounded' distance.representable distance'.representable
    (add_nonneg (abs_nonneg _) (abs_nonneg _)) less

/-- What a search orders pairs by: their distance, and at the same distance whether they begin
below zero. -/
def rank (pair : Sample Float × Sample Float) : ℚ ×ₗ Bool :=
  toLex (floatValue (distance pair), isNegative pair.1.point)

def Spans (limit : Float) (pair : Sample Float × Sample Float) : Prop :=
  pair.1.point ∈ grid limit ∧ pair.2.point ∈ grid limit

theorem isNearer_iff {a b : Sample Float × Sample Float} (ha : Spans limit a)
    (hb : Spans limit b) : isNearer a b = true ↔ rank a < rank b := by
  have distA := (denotes_distance ha.1 ha.2).1
  have distB := (denotes_distance hb.1 hb.2).1
  rw [rank, rank, Prod.Lex.toLex_lt_toLex, isNearer, distance, distance, distA.lt_eq distB,
    distB.lt_eq distA]
  cases isNegative a.1.point <;> cases isNegative b.1.point <;>
    simp [le_iff_lt_or_eq]

theorem nearest_le {pairs : List (Sample Float × Sample Float)} {best : Sample Float × Sample Float}
    (found : nearest pairs = some best) (points : ∀ pair ∈ pairs, Spans limit pair) :
    ∀ pair ∈ pairs, rank best ≤ rank pair := by
  cases pairs with
  | nil => cases found
  | cons first rest =>
      obtain ⟨start, later⟩ := List.forall_mem_cons.mp points
      have least := foldl_le rank (fun best pair => if isNearer pair best then pair else best)
        (P := Spans limit) (fun a b ha hb => by
          split
          · rename_i nearer
            exact ⟨hb, ((isNearer_iff hb ha).mp nearer).le, le_rfl⟩
          · rename_i further
            exact ⟨ha, le_rfl, not_lt.mp fun less => further ((isNearer_iff hb ha).mpr less)⟩)
        start later
      rwa [Option.some.inj found] at least

end Distances

section Neighbours

variable {f : Float → Float} {limit lo hi lo' hi' : Float}

/-- In an ascending list two pairs of neighbours are the same or do not overlap. -/
theorem eq_or_apart {β : Type} {key : β → ℚ} {items : List β}
    (ascending : items.Pairwise fun s t => key s < key t) {a b c d : β}
    (first : [a, b] <:+: items) (second : [c, d] <:+: items) :
    (a = c ∧ b = d) ∨ key b ≤ key c ∨ key d ≤ key a := by
  have order {a b : β} (pair : [a, b] <:+: items) :
      (a ∈ items ∧ b ∈ items) ∧ key a < key b :=
    ⟨⟨pair.subset List.mem_cons_self, pair.subset (List.mem_cons_of_mem a List.mem_cons_self)⟩,
      List.rel_of_pairwise_cons (ascending.sublist pair.sublist) List.mem_cons_self⟩
  obtain ⟨⟨memA, memB⟩, lessAB⟩ := order first
  obtain ⟨⟨memC, memD⟩, lessCD⟩ := order second
  by_contra overlap
  obtain ⟨different, below⟩ := not_or.mp overlap
  obtain ⟨lessCB, lessAD⟩ := not_or.mp below
  rw [not_le] at lessCB lessAD
  -- The later of the two beginnings lies in the other pair, and so does the earlier of the ends.
  have begin : a = c := by
    rcases le_total (key a) (key c) with le | le
    · rcases eq_end_of_neighbours ascending first memC le lessCB.le with same | same
      · exact same.symm
      · exact (lessCB.ne (congrArg key same)).elim
    · rcases eq_end_of_neighbours ascending second memA le lessAD.le with same | same
      · exact same
      · exact (lessAD.ne (congrArg key same)).elim
  subst begin
  refine different ⟨rfl, ?_⟩
  rcases le_total (key b) (key d) with le | le
  · rcases eq_end_of_neighbours ascending second memB lessAB.le le with same | same
    · exact (lessAB.ne (congrArg key same.symm)).elim
    · exact same
  · rcases eq_end_of_neighbours ascending first memD lessCD.le le with same | same
    · exact (lessCD.ne (congrArg key same.symm)).elim
    · exact same.symm

theorem finite_grid_ascending : ((grid limit).filter fun x => isFinite (f x)).Pairwise
    fun x y => floatValue x < floatValue y :=
  (grid_ascending limit).filter _

theorem SignChange.ascending (h : SignChange f limit lo hi) : floatValue lo < floatValue hi :=
  List.rel_of_pairwise_cons (finite_grid_ascending.sublist h.neighbours.sublist)
    List.mem_cons_self

/-- Small multiples of the points of the grid can be stored. -/
theorem representable_multiple {x : Float} (mem : x ∈ grid limit) (n : Int) (small : |n| ≤ 2 ^ 53) :
    Representable (n * |floatValue x|) := by
  rcases abs_grid mem with zero | ⟨k, power, -⟩
  · exact ⟨0, 0, by norm_num, by norm_num, by simp [zero]⟩
  · exact ⟨n, (k : Int) - 1, small, by omega, by rw [power]⟩

/-- Above zero a pair further out is more than as far again from zero. -/
theorem distance_lt_of_above (first : SignChange f limit lo hi)
    (second : SignChange f limit lo' hi') (above : 0 ≤ floatValue lo)
    (apart : floatValue hi ≤ floatValue lo') :
    floatValue (Scalar.abs lo + Scalar.abs hi) < floatValue (Scalar.abs lo' + Scalar.abs hi') := by
  obtain ⟨⟨memLo, -⟩, memHi, -⟩ := first.mem
  obtain ⟨⟨memLo', -⟩, memHi', -⟩ := second.mem
  have less := first.ascending
  have less' := second.ascending
  have positive : 0 < floatValue lo' := (above.trans_lt less).trans_le apart
  have twice : 2 * |floatValue lo'| ≤ |floatValue hi'| := by
    rcases abs_grid memLo' with zero | ⟨k, power, -⟩
    · exact (positive.ne' zero).elim
    · rcases abs_grid memHi' with zero | ⟨j, power', -⟩
      · exact ((positive.trans less').ne' zero).elim
      · have order : |floatValue lo'| < |floatValue hi'| := by
          rwa [abs_of_pos positive, abs_of_pos (positive.trans less')]
        rw [power, power', zpow_lt_zpow_iff_right₀ (by norm_num)] at order
        rw [power, power', mul_comm, ← zpow_add_one₀ (by norm_num)]
        exact zpow_le_zpow_right₀ (by norm_num) (by omega)
  rw [abs_of_pos positive] at twice
  have near : floatValue (Scalar.abs lo + Scalar.abs hi) ≤ (2 : Int) * |floatValue hi| := by
    refine (denotes_distance memLo memHi).2.le_of_le
      (representable_multiple memHi 2 (by norm_num)) ?_
    rw [abs_of_nonneg above, abs_of_pos (above.trans_lt less)]
    push_cast
    linarith
  have far : (3 : Int) * |floatValue lo'| ≤ floatValue (Scalar.abs lo' + Scalar.abs hi') := by
    refine (denotes_distance memLo' memHi').2.ge_of_ge
      (representable_multiple memLo' 3 (by norm_num)) ?_
    rw [abs_of_pos positive]
    push_cast
    linarith
  rw [abs_of_pos (above.trans_lt less)] at near
  rw [abs_of_pos positive] at far
  push_cast at near far
  linarith

/-- Of two sign changes above zero at the same distance there is only one. -/
theorem eq_of_same_distance (first : SignChange f limit lo hi)
    (second : SignChange f limit lo' hi') (above : 0 ≤ floatValue lo) (above' : 0 ≤ floatValue lo')
    (same : floatValue (Scalar.abs lo + Scalar.abs hi) =
      floatValue (Scalar.abs lo' + Scalar.abs hi')) : lo = lo' ∧ hi = hi' := by
  rcases eq_or_apart finite_grid_ascending first.neighbours second.neighbours with
    equal | apart | apart
  · exact equal
  · exact ((distance_lt_of_above first second above apart).ne same).elim
  · exact ((distance_lt_of_above second first above' apart).ne same.symm).elim

/-- Up to a limit of `2 ^ 51` distances are not rounded. -/
theorem distance_exact {x y : Float} (finite : isFinite limit = true)
    (small : floatValue limit ≤ 2 ^ 51) (hx : x ∈ grid limit) (hy : y ∈ grid limit) :
    floatValue (Scalar.abs x + Scalar.abs y) = |floatValue x| + |floatValue y| := by
  have halves {x : Float} (mem : x ∈ grid limit) :
      ∃ n : Int, 0 ≤ n ∧ n ≤ 2 ^ 52 ∧ |floatValue x| = n * 2 ^ (-1 : Int) := by
    rcases abs_grid mem with zero | ⟨k, power, within, low⟩
    · exact ⟨0, le_rfl, by norm_num, by simp [zero]⟩
    · rw [(denotes_gridPower (by omega)).le_eq (denotes_value finite), decide_eq_true_iff] at within
      have bound : (2 : ℚ) ^ ((k : Int) - 1) ≤ 2 ^ (51 : Int) := within.trans small
      rw [zpow_le_zpow_iff_right₀ (by norm_num)] at bound
      refine ⟨2 ^ k, by positivity, pow_le_pow_right₀ (by norm_num) (by omega), ?_⟩
      rw [power, sub_eq_add_neg, zpow_add₀ (by norm_num), zpow_natCast]
      push_cast
      rfl
  obtain ⟨n, nonneg, le, valueX⟩ := halves hx
  obtain ⟨m, nonneg', le', valueY⟩ := halves hy
  refine (denotes_distance hx hy).2.eq_of_representable ⟨n + m, -1, ?_, by norm_num, ?_⟩
  · rw [abs_of_nonneg (add_nonneg nonneg nonneg')]
    linarith
  · rw [valueX, valueY, Int.cast_add, add_mul]

end Neighbours

section Brackets

variable {f : Float → Float} {options : SolverOptions Float} {lo hi lo' hi' : Float}

theorem bracket_ne_none_iff : (search f options).bracket ≠ none ↔
    ∃ lo hi, SignChange f options.searchLimit lo hi := by
  rw [search_bracket, ne_eq, Option.map_eq_none_iff, bracketOf, nearest_eq_none_iff]
  constructor
  · intro some
    obtain ⟨⟨a, b⟩, mem⟩ := List.exists_mem_of_ne_nil _ some
    exact ⟨a.point, b.point, (mem_changes_iff.mp mem).1⟩
  · rintro ⟨lo, hi, change⟩
    have mem : (⟨lo, f lo⟩, ⟨hi, f hi⟩) ∈ signChanges (samplesOf f options) :=
      mem_changes_iff.mpr ⟨change, rfl, rfl⟩
    exact List.ne_nil_of_mem mem

/-- The bracket is a sign change of the least rank. -/
theorem bracket_least (bracket : (search f options).bracket = some (lo, hi)) :
    SignChange f options.searchLimit lo hi ∧ ∀ lo' hi', SignChange f options.searchLimit lo' hi' →
      toLex (floatValue (Scalar.abs lo + Scalar.abs hi), isNegative lo) ≤
        toLex (floatValue (Scalar.abs lo' + Scalar.abs hi'), isNegative lo') := by
  rw [search_bracket, Option.map_eq_some_iff] at bracket
  obtain ⟨⟨a, b⟩, found, points⟩ := bracket
  obtain ⟨rfl, rfl⟩ := Prod.mk.inj points
  refine ⟨(mem_changes_iff.mp (nearest_mem found)).1, fun lo' hi' change => ?_⟩
  have spans : ∀ pair ∈ signChanges (samplesOf f options), Spans options.searchLimit pair := by
    rintro ⟨a, b⟩ mem
    obtain ⟨⟨memA, -⟩, memB, -⟩ := (mem_changes_iff.mp mem).1.mem
    exact ⟨memA, memB⟩
  exact nearest_le found spans (⟨lo', f lo'⟩, ⟨hi', f hi'⟩)
    (mem_changes_iff.mpr ⟨change, rfl, rfl⟩)

/-- At the same distance as a sign change above zero, the bracket is that one. -/
theorem bracket_above (bracket : (search f options).bracket = some (lo, hi))
    (change : SignChange f options.searchLimit lo' hi') (above : 0 ≤ floatValue lo')
    (same : floatValue (Scalar.abs lo' + Scalar.abs hi') =
      floatValue (Scalar.abs lo + Scalar.abs hi)) : lo = lo' ∧ hi = hi' := by
  obtain ⟨own, least⟩ := bracket_least bracket
  obtain ⟨⟨memLo, -⟩, -⟩ := own.mem
  obtain ⟨⟨memLo', -⟩, -⟩ := change.mem
  have order := least lo' hi' change
  rw [same, Prod.Lex.toLex_le_toLex, isNegative_eq (denotes_grid memLo).1.finite,
    isNegative_eq (denotes_grid memLo').1.finite, decide_eq_false above.not_gt] at order
  refine eq_of_same_distance own change ?_ above same.symm
  rcases order with less | ⟨-, notBelow⟩
  · exact (less.false).elim
  · exact not_lt.mp (of_decide_eq_false (Bool.eq_false_of_le_false notBelow))

/-- The bracket of a search, for every function and all options. The points of the grid are zero
and the powers of two from one half on that do not exceed the limit, at most 128 on either side, in
ascending order; there is a bracket exactly when there is a sign change between neighbours; the
bracket is a sign change, and no other one has a smaller distance from zero, as it is computed; at
the same distance it is the one above zero. Computed exactly, a distance is smaller at most where
the limit is above `2 ^ 51` and both are rounded to the same number. -/
theorem search_bracket_nearest (f : Float → Float) (options : SolverOptions Float) :
    let limit := options.searchLimit
    let out := search f options
    (∀ x, x ∈ grid limit ↔ x = zero ∨
        ∃ k < 128, le (gridPower k) limit = true ∧ (x = gridPower k ∨ x = -gridPower k)) ∧
      (∀ k < 128, Denotes (gridPower k) (2 ^ ((k : Int) - 1))) ∧
      ((grid limit).Pairwise fun x y => lt x y = true) ∧
      (out.bracket ≠ none ↔ ∃ lo hi, SignChange f limit lo hi) ∧
      ∀ lo hi, out.bracket = some (lo, hi) → SignChange f limit lo hi ∧ lt lo hi = true ∧
        ∀ lo' hi', SignChange f limit lo' hi' →
          lt (Scalar.abs lo' + Scalar.abs hi') (Scalar.abs lo + Scalar.abs hi) = false ∧
          (eq (Scalar.abs lo' + Scalar.abs hi') (Scalar.abs lo + Scalar.abs hi) = true →
            le zero lo' = true → lo = lo' ∧ hi = hi') ∧
          (|floatValue lo| + |floatValue hi| ≤ |floatValue lo'| + |floatValue hi'| ∨
            eq (Scalar.abs lo' + Scalar.abs hi') (Scalar.abs lo + Scalar.abs hi) = true ∧
              (isFinite limit = true → 2 ^ 51 < floatValue limit)) := by
  intro limit out
  refine ⟨fun x => mem_grid_powers, fun k small => denotes_gridPower (by omega), grid_strict,
    bracket_ne_none_iff, fun lo hi bracket => ?_⟩
  obtain ⟨own, least⟩ := bracket_least bracket
  obtain ⟨⟨memLo, -⟩, memHi, -⟩ := own.mem
  obtain ⟨pointLo, -⟩ := denotes_grid memLo
  obtain ⟨distance, -⟩ := denotes_distance memLo memHi
  refine ⟨own, ?_, fun lo' hi' change => ?_⟩
  · rw [pointLo.lt_eq (denotes_grid memHi).1]
    exact decide_eq_true own.ascending
  · obtain ⟨⟨memLo', -⟩, memHi', -⟩ := change.mem
    obtain ⟨pointLo', -⟩ := denotes_grid memLo'
    obtain ⟨distance', -⟩ := denotes_distance memLo' memHi'
    have nearer : floatValue (Scalar.abs lo + Scalar.abs hi) ≤
        floatValue (Scalar.abs lo' + Scalar.abs hi') := by
      rcases Prod.Lex.toLex_le_toLex.mp (least lo' hi' change) with less | ⟨same, -⟩
      · exact less.le
      · exact same.le
    rw [distance'.lt_eq distance, distance'.eq_eq distance, decide_eq_true_iff,
      denotes_zero.le_eq pointLo', decide_eq_true_iff]
    refine ⟨decide_eq_false nearer.not_gt,
      fun same above => bracket_above bracket change above same, ?_⟩
    by_contra! nearerExact
    obtain ⟨less, rounded⟩ := nearerExact
    obtain ⟨finite, small⟩ := rounded (le_antisymm
      (distance_mono memLo' memHi' memLo memHi less) nearer)
    rw [← distance_exact finite small memLo memHi, ← distance_exact finite small memLo' memHi']
      at less
    exact nearer.not_gt less

/-- A parabola has two sign changes at the same distance. -/
theorem search_bracket_nearest_parabola :
    let f : Float → Float := fun x => x * x - two
    let limit := (default : SolverOptions Float).searchLimit
    (search f default).bracket = some (one, two) ∧ SignChange f limit one two ∧
      SignChange f limit (-two) (-one) := by
  intro f limit
  have bracket : (search f default).bracket = some (one, two) := by decide +kernel
  obtain ⟨-, -, -, -, nearest⟩ := search_bracket_nearest f default
  refine ⟨bracket, (nearest one two bracket).1, ?_⟩
  have mem : (⟨-two, f (-two)⟩, ⟨-one, f (-one)⟩) ∈ signChanges (samplesOf f default) := by
    decide +kernel
  exact (mem_changes_iff.mp mem).1

end Brackets

end WorkedAlgebra.Bisection
