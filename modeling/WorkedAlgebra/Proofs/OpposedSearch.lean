import WorkedAlgebra.Proofs.BackedEstimates
import WorkedAlgebra.Proofs.Rounding.Opposed

/-!
Searches of opposed functions. A search compares magnitudes, and signs only with one another, so
it samples, chooses and halves alike for a function and for one with opposed values: the outcomes
are the same.
-/

namespace WorkedAlgebra.Bisection

open Scalar Rounding

structure SameSize (s t : Sample Float) : Prop where
  point : t.point = s.point
  size : Scalar.abs t.value = Scalar.abs s.value

/-- Samples at one point with finite values that are opposed. -/
structure Mirrored (s t : Sample Float) : Prop where
  point : t.point = s.point
  value : Opposed s.value t.value
  finite : isFinite s.value = true

structure MirroredPair (p q : Sample Float × Sample Float) : Prop where
  first : Mirrored p.1 q.1
  second : Mirrored p.2 q.2

section Choices

variable {a a' b b' : Sample Float}

theorem Mirrored.sameSize (h : Mirrored a a') : SameSize a a' := ⟨h.point, h.value.abs_eq⟩

theorem SameSize.isZero_eq (h : SameSize a a') : isZero a'.value = isZero a.value := by
  rw [← isZero_abs, h.size, isZero_abs]

theorem SameSize.closer (ha : SameSize a a') (hb : SameSize b b') :
    SameSize (closer a b) (closer a' b') := by
  unfold Bisection.closer
  rw [ha.size, hb.size]
  split
  · exact hb
  · exact ha

/-- Whether two samples are on different sides of zero does not depend on which side is which. -/
theorem Mirrored.opposite_eq (ha : Mirrored a a') (hb : Mirrored b b') :
    opposite a'.value b'.value = opposite a.value b.value := by
  unfold opposite
  rw [ha.value.isZero_eq, hb.value.isZero_eq]
  cases zeroA : isZero a.value with
  | true => simp only [Bool.not_true, Bool.false_and]
  | false =>
      cases zeroB : isZero b.value with
      | true => simp only [Bool.not_true, Bool.and_false, Bool.false_and]
      | false =>
          rw [ha.value.isNegative_eq ha.finite zeroA, hb.value.isNegative_eq hb.finite zeroB]
          cases isNegative a.value <;> cases isNegative b.value <;> rfl

theorem MirroredPair.isNearer_eq {p p' q q' : Sample Float × Sample Float}
    (hp : MirroredPair p p') (hq : MirroredPair q q') : isNearer p' q' = isNearer p q := by
  simp only [isNearer, distance, hp.first.point, hp.second.point, hq.first.point, hq.second.point]

end Choices

section Lists

variable {f g : Float → Float} {samples samples' : List (Sample Float)}

theorem finiteSamples_mirrored (opposed : ∀ x, Opposed (f x) (g x)) (points : List Float) :
    List.Forall₂ Mirrored (finiteSamples f points) (finiteSamples g points) := by
  induction points with
  | nil => exact .nil
  | cons x points ih =>
      simp only [finiteSamples, List.map_cons, List.filter_cons] at ih ⊢
      rw [(opposed x).isFinite_eq]
      split
      · exact .cons ⟨rfl, opposed x, ‹_›⟩ ih
      · exact ih

theorem closest_mirrored (h : List.Forall₂ Mirrored samples samples') (other : Sample Float) :
    SameSize ((closest samples).getD other) ((closest samples').getD other) := by
  cases h with
  | nil => exact ⟨rfl, rfl⟩
  | cons first rest =>
      exact List.rel_foldl (fun _ _ ha _ _ hb => ha.closer hb.sameSize) first.sameSize rest

theorem signChanges_mirrored (h : List.Forall₂ Mirrored samples samples') :
    List.Forall₂ MirroredPair (signChanges samples) (signChanges samples') := by
  induction h with
  | nil => exact .nil
  | cons first rest ih =>
      cases rest with
      | nil => exact .nil
      | cons second rest =>
          rw [signChanges, signChanges, first.opposite_eq second]
          split
          · exact .cons ⟨first, second⟩ ih
          · exact ih

theorem nearest_mirrored {pairs pairs' : List (Sample Float × Sample Float)}
    (h : List.Forall₂ MirroredPair pairs pairs') :
    Option.Rel MirroredPair (nearest pairs) (nearest pairs') := by
  cases h with
  | nil => exact .none
  | cons first rest =>
      refine .some (List.rel_foldl (fun _ _ hp _ _ hq => ?_) first rest)
      rw [hq.isNearer_eq hp]
      split
      · exact hq
      · exact hp

end Lists

section Searches

variable {f g : Float → Float} {options : SolverOptions Float}

/-- One step of halving makes the same choice for opposed functions: their middles are opposed, and
so are their values at the lower ends. -/
theorem halve_mirrored (opposed : ∀ x, Opposed (f x) (g x)) (tolerance : Float) (done fuel : Nat)
    {lo lo' hi hi' best best' : Sample Float} (hlo : Mirrored lo lo')
    (nonzero : isZero lo.value = false) (hhi : hi'.point = hi.point) (hbest : SameSize best best') :
    SameSize (halve f tolerance lo hi best done fuel).1
        (halve g tolerance lo' hi' best' done fuel).1 ∧
      (halve g tolerance lo' hi' best' done fuel).2 =
        (halve f tolerance lo hi best done fuel).2 := by
  induction fuel generalizing done lo lo' hi hi' best best' with
  | zero => exact ⟨hbest, rfl⟩
  | succ fuel ih =>
      have point : (middleOf g lo' hi').point = (middleOf f lo hi).point := by
        simp only [middleOf, hlo.point, hhi]
      have value : Opposed (middleOf f lo hi).value (middleOf g lo' hi').value := by
        simp only [middleOf, hlo.point, hhi]
        exact opposed _
      have better := hbest.closer ⟨point, value.abs_eq⟩
      rw [halve_succ, halve_succ, value.isFinite_eq, value.isZero_eq, hhi, hlo.point]
      cases finite : isFinite (middleOf f lo hi).value with
      | false =>
          simp only [Bool.not_false, if_true]
          exact ⟨hbest, trivial⟩
      | true =>
          cases stop : isZero (middleOf f lo hi).value ||
              le ((hi.point - lo.point) / two) tolerance with
          | true =>
              simp only [Bool.not_true, Bool.false_eq_true, if_true, if_false]
              exact ⟨better, trivial⟩
          | false =>
              have further := (Bool.or_eq_false_iff.mp stop).1
              have sides : (isNegative (middleOf g lo' hi').value == isNegative lo'.value) =
                  (isNegative (middleOf f lo hi).value == isNegative lo.value) := by
                rw [value.isNegative_eq finite further, hlo.value.isNegative_eq hlo.finite nonzero]
                cases isNegative (middleOf f lo hi).value <;> cases isNegative lo.value <;> rfl
              rw [sides]
              cases isNegative (middleOf f lo hi).value == isNegative lo.value with
              | true =>
                  simp only [Bool.not_true, Bool.false_eq_true, if_true, if_false]
                  exact ih (done + 1) ⟨point, value, finite⟩ further hhi better
              | false =>
                  simp only [Bool.not_true, Bool.false_eq_true, if_false]
                  exact ih (done + 1) hlo nonzero point better

/-- Opposed functions have the same search. -/
theorem search_opposed (options : SolverOptions Float) (opposed : ∀ x, Opposed (f x) (g x)) :
    search g options = search f options := by
  have samples : List.Forall₂ Mirrored (samplesOf f options) (samplesOf g options) :=
    finiteSamples_mirrored opposed (grid options.searchLimit)
  have best : SameSize (bestOf f options) (bestOf g options) := closest_mirrored samples _
  have bracket : Option.Rel MirroredPair (bracketOf f options) (bracketOf g options) :=
    nearest_mirrored (signChanges_mirrored samples)
  cases found : bracketOf f options with
  | none =>
      cases found' : bracketOf g options with
      | some pair => rw [found, found'] at bracket; cases bracket
      | none =>
          rw [search_of_kept (.inl found), search_of_kept (.inl found'), found, found', best.point,
            best.size]
  | some pair =>
      obtain ⟨lo, hi⟩ := pair
      cases found' : bracketOf g options with
      | none => rw [found, found'] at bracket; cases bracket
      | some pair' =>
          obtain ⟨lo', hi'⟩ := pair'
          rw [found, found'] at bracket
          have hlo : Mirrored lo lo' := (Option.rel_some_some.mp bracket).first
          have hhi : Mirrored hi hi' := (Option.rel_some_some.mp bracket).second
          by_cases root : isZero (bestOf f options).value = true
          · rw [search_of_kept (.inr root), search_of_kept (.inr (best.isZero_eq.trans root)),
              found, found', best.point, best.size, Option.map_some, Option.map_some, hlo.point,
              hhi.point]
          · obtain ⟨-, -, -, differ⟩ := bracketOf_spec found
            obtain ⟨run, count⟩ := halve_mirrored opposed options.tolerance 0 options.maxIterations
              hlo (opposite_iff.mp differ).1 hhi.point best
            rw [search_of_bracket found (Bool.eq_false_iff.mpr root) rfl,
              search_of_bracket found' (best.isZero_eq.trans (Bool.eq_false_iff.mpr root)) rfl,
              run.point, run.size, count, hlo.point, hhi.point]

/-- A search ends with a sample at a finite point; without any sample its value counts as
infinite. -/
theorem exists_found (f : Float → Float) (options : SolverOptions Float) :
    ∃ s : Sample Float, (search f options).value = s.point ∧
      (search f options).residual = Scalar.abs s.value ∧ isFinite s.point = true ∧
        (isFinite s.value = true ∨ s.value = infinity) := by
  have best : isFinite (bestOf f options).point = true ∧
      (isFinite (bestOf f options).value = true ∨ (bestOf f options).value = infinity) := by
    cases samples : samplesOf f options with
    | nil =>
        rw [bestOf, samples]
        exact ⟨denotes_zero.finite, .inr rfl⟩
    | cons s rest =>
        have mem := bestOf_mem (samples ▸ List.mem_cons_self : s ∈ samplesOf f options)
        exact ⟨(denotes_sample mem).1.finite, .inl (finite_samples mem)⟩
  by_cases kept : bracketOf f options = none ∨ isZero (bestOf f options).value = true
  · rw [search_of_kept kept]
    exact ⟨_, rfl, rfl, best⟩
  · obtain ⟨some, nonzero⟩ := not_or.mp kept
    obtain ⟨⟨lo, hi⟩, found⟩ := Option.ne_none_iff_exists'.mp some
    obtain ⟨memLo, memHi, ascending, -⟩ := bracketOf_spec found
    obtain ⟨pointLo, boundLo⟩ := denotes_sample memLo
    obtain ⟨pointHi, boundHi⟩ := denotes_sample memHi
    rw [search_of_bracket found (Bool.eq_false_iff.mpr nonzero) rfl]
    refine ⟨_, rfl, rfl, ?_⟩
    rcases halve_mem f options.tolerance options.maxIterations lo hi (bestOf f options) 0 with
      same | ⟨taken, finite⟩
    · rw [same]
      exact best
    · obtain ⟨m, hm, -, -⟩ := middles_between pointLo pointHi ascending.le boundLo boundHi taken
      exact ⟨hm.finite, .inl finite⟩

/-- The numbers of an outcome are equal to themselves. -/
theorem search_eq_self (f : Float → Float) (options : SolverOptions Float) :
    Scalar.eq (search f options).value (search f options).value = true ∧
      Scalar.eq (search f options).residual (search f options).residual = true := by
  obtain ⟨s, value, residual, point, size⟩ := exists_found f options
  rw [value, residual]
  refine ⟨eq_self point, ?_⟩
  rcases size with finite | infinite
  · exact eq_self (denotes_value finite).abs.finite
  · rw [infinite]
    decide +kernel

end Searches

end WorkedAlgebra.Bisection
