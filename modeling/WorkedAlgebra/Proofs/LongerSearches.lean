import WorkedAlgebra.Proofs.SearchEvaluations

/-!
What a higher cap on the halvings changes. The search under the lower cap is the beginning of the
one under the higher cap: it takes the first of the same samples, so both end alike unless the cap
ended the shorter one, and the closest of more samples is never farther from zero.
-/

namespace WorkedAlgebra

def SolverOptions.capped {α : Type} (options : SolverOptions α) (cap : Nat) : SolverOptions α :=
  { options with maxIterations := cap }

namespace Bisection

open Scalar

section Prefixes

variable {α : Type} [Scalar α] {f : α → α} {options : SolverOptions α} {n m : Nat}

/-- Under a lower cap halving takes the same samples, as many of them as it may. -/
theorem take_middles {tolerance : α} (le : n ≤ m) (lo hi : Sample α) :
    (middles f tolerance lo hi m).take n = middles f tolerance lo hi n := by
  induction n generalizing m lo hi with
  | zero => rfl
  | succ n ih =>
      obtain ⟨m, rfl⟩ : ∃ k, m = k + 1 := ⟨m - 1, by omega⟩
      have rest (lo hi : Sample α) := ih (Nat.le_of_succ_le_succ le) lo hi
      rw [middles, middles, List.take_succ_cons]
      congr 1
      split_ifs
      · exact List.take_nil
      · exact List.take_nil
      · exact rest _ _
      · exact rest _ _

/-- The cap on the halvings has no part in the choice of the bracket. -/
theorem bracketOf_capped (cap : Nat) : bracketOf f (options.capped cap) = bracketOf f options := rfl

theorem bestOf_capped (cap : Nat) : bestOf f (options.capped cap) = bestOf f options := rfl

variable (f options) in
theorem take_halvings (le : n ≤ m) :
    (halvings f (options.capped m)).take n = halvings f (options.capped n) := by
  rw [halvings, halvings, bracketOf_capped, bracketOf_capped, bestOf_capped, bestOf_capped]
  cases bracketOf f options with
  | none => exact List.take_nil
  | some ends =>
      obtain ⟨lo, hi⟩ := ends
      cases isZero (bestOf f options).value with
      | true => exact List.take_nil
      | false => exact take_middles le lo hi

/-- A search under a higher cap starts with the samples of the one under the lower cap. -/
theorem evaluations_extend (le : n ≤ m) :
    evaluations f (options.capped n) <+: evaluations f (options.capped m) := by
  have later : halvings f (options.capped n) <+: halvings f (options.capped m) := by
    rw [← take_halvings f options le]
    exact List.take_prefix n _
  exact (List.prefix_append_right_inj _).mpr later

theorem search_iterations : (search f options).iterations = (halvings f options).length := by
  rw [search_eq]

/-- A search that ended below its cap is the same under every higher one. -/
theorem search_eq_of_ended (le : n ≤ m) (ended : (search f (options.capped n)).iterations < n) :
    search f (options.capped m) = search f (options.capped n) := by
  have halved := take_halvings f options le
  rw [search_iterations, ← halved, List.length_take, min_lt_iff] at ended
  rw [List.take_of_length_le (ended.resolve_left (lt_irrefl n)).le] at halved
  have sampled : evaluations f (options.capped m) = evaluations f (options.capped n) :=
    congrArg (List.append _) halved
  rw [search_eq, search_eq, closestOf, closestOf, sampled, halved, bracketOf_capped,
    bracketOf_capped]

end Prefixes

section Floats

variable {f : Float → Float} {options : SolverOptions Float} {n m : Nat}

/-- Looking at more samples does not enlarge the residual. -/
theorem residual_capped_le (le : n ≤ m) :
    Scalar.le (search f (options.capped m)).residual (search f (options.capped n)).residual =
      true := by
  by_cases finite : ∃ x ∈ grid options.searchLimit, isFinite (f x) = true
  · obtain ⟨x, mem, finite⟩ := finite
    have mem_capped (cap : Nat) : x ∈ grid (options.capped cap).searchLimit := mem
    obtain ⟨taken, proper, -⟩ := closestOf_spec (mem_capped n) finite
    obtain ⟨-, proper', least⟩ := closestOf_spec (mem_capped m) finite
    have smaller := least _ ((evaluations_extend le).subset taken) proper
    rw [search_eq, search_eq, (denotes_value proper').abs.le_eq (denotes_value proper).abs]
    exact decide_eq_true smaller
  · have nothing (cap : Nat) : search f (options.capped cap) = ⟨zero, infinity, 0, none⟩ :=
      search_of_infinite fun x mem => Bool.eq_false_iff.mpr fun proper => finite ⟨x, mem, proper⟩
    rw [nothing n, nothing m]
    decide +kernel

/-- Two searches of any function that differ in the cap on the halvings only: the one under the
lower cap finds the same bracket, halves as often as the other but for its cap, and looks at the
first of the same points; the residual under the higher cap is not larger, and below the lower cap
nothing differs at all. -/
theorem search_capped (f : Float → Float) (options : SolverOptions Float) {n m : Nat}
    (le : n ≤ m) :
    let short := search f (options.capped n)
    let long := search f (options.capped m)
    long.bracket = short.bracket ∧ short.iterations = min n long.iterations ∧
      Scalar.le long.residual short.residual = true ∧
      evaluations f (options.capped n) <+: evaluations f (options.capped m) ∧
      (short.iterations < n → long = short) := by
  refine ⟨?_, ?_, residual_capped_le le, evaluations_extend le, search_eq_of_ended le⟩
  · rw [search_bracket, search_bracket, bracketOf_capped, bracketOf_capped]
  · rw [search_iterations, search_iterations, ← take_halvings f options le, List.length_take]

/-- The square root of two, halved three times and without a cap that matters. -/
theorem search_capped_root_two :
    let f : Float → Float := fun x => x * x - two
    let short := search f ((default : SolverOptions Float).capped 3)
    let long := search f ((default : SolverOptions Float).capped 100)
    3 ≤ 100 ∧ long.bracket = some (one, two) ∧ short.bracket = long.bracket ∧
      short.iterations = 3 ∧ short.iterations = min 3 long.iterations ∧
      Scalar.le long.residual short.residual = true := by
  intro f short long
  have within : 3 ≤ 100 := by decide
  obtain ⟨bracket, iterations, residual, -⟩ := search_capped f default within
  have found : short.bracket = some (one, two) := by decide +kernel
  exact ⟨within, bracket.trans found, bracket.symm, by decide +kernel, iterations, residual⟩

end Floats

end Bisection
end WorkedAlgebra
