import WorkedAlgebra.Proofs.BackedEstimates

/-!
What a root search looks at and what it makes of it. The result is the closest of all finite
samples, those of the grid and those of halving, and it depends on nothing else of the function.
-/

namespace WorkedAlgebra.Bisection

open Rounding Scalar

section AnyNumbers

variable {α : Type} [Scalar α] (f : α → α) (options : SolverOptions α)

/-- The samples that halving takes in a search: none without a bracket, or when a point of the grid
is a root. -/
def halvings : List (Sample α) :=
  match bracketOf f options with
  | some (lo, hi) =>
    if isZero (bestOf f options).value then []
    else middles f options.tolerance lo hi options.maxIterations
  | none => []

def evaluations : List (Sample α) :=
  (grid options.searchLimit).map (fun x => ⟨x, f x⟩) ++ halvings f options

def closestOf : Sample α :=
  (closest ((evaluations f options).filter fun s => isFinite s.value)).getD ⟨zero, infinity⟩

theorem finite_evaluations : (evaluations f options).filter (fun s => isFinite s.value) =
    samplesOf f options ++ (halvings f options).filter fun s => isFinite s.value :=
  List.filter_append _ _

theorem length_halvings_le : (halvings f options).length ≤ options.maxIterations := by
  unfold halvings
  split
  · split
    · exact Nat.zero_le _
    · exact length_middles_le _ _ _ _ _
  · exact Nat.zero_le _

variable {f options}

theorem value_of_mem_evaluations {s : Sample α} (mem : s ∈ evaluations f options) :
    s.value = f s.point := by
  rcases List.mem_append.mp mem with sampled | halved
  · obtain ⟨x, -, rfl⟩ := List.mem_map.mp sampled
    rfl
  · unfold halvings at halved
    split at halved
    · split at halved
      · cases halved
      · exact value_of_mem_middles f options.tolerance halved
    · cases halved

theorem closest_append {samples later : List (Sample α)} {best : Sample α}
    (found : closest samples = some best) :
    closest (samples ++ later) = some (later.foldl closer best) := by
  cases samples with
  | nil => cases found
  | cons first rest =>
      obtain rfl := Option.some.inj found
      rw [List.cons_append, closest, List.foldl_append]

theorem closest_eq_none_iff {samples : List (Sample α)} :
    closest samples = none ↔ samples = [] := by
  cases samples <;> simp [closest]

/-- A search returns the closest of its finite samples, and counts those of halving. -/
theorem search_eq : search f options =
    ⟨(closestOf f options).point, Scalar.abs (closestOf f options).value,
      (halvings f options).length, (bracketOf f options).map fun p => (p.1.point, p.2.point)⟩ := by
  by_cases kept : bracketOf f options = none ∨ isZero (bestOf f options).value = true
  · have none : halvings f options = [] := by
      unfold halvings
      split
      · rename_i bracket
        rw [if_pos (kept.resolve_left (by rw [bracket]; nofun))]
      · rfl
    rw [search_of_kept kept, closestOf, finite_evaluations, none, List.filter_nil, List.append_nil]
    rfl
  · obtain ⟨some_, nonzero⟩ := not_or.mp kept
    obtain ⟨⟨lo, hi⟩, bracket⟩ := Option.ne_none_iff_exists'.mp some_
    rw [Bool.not_eq_true] at nonzero
    have halved : halvings f options =
        middles f options.tolerance lo hi options.maxIterations := by
      simp [halvings, bracket, nonzero]
    obtain ⟨best, found⟩ : ∃ best, closest (samplesOf f options) = some best := by
      refine Option.ne_none_iff_exists'.mp fun none => some_ ?_
      rw [bracketOf, closest_eq_none_iff.mp none]
      rfl
    have start : bestOf f options = best := by rw [bestOf, found, Option.getD_some]
    rw [search_of_bracket bracket nonzero rfl, halve_eq_fold, start, closestOf, finite_evaluations,
      closest_append found, halved, bracket, Nat.zero_add]
    rfl

/-- A search looks at its samples only. -/
theorem search_congr {g : α → α}
    (same : ∀ s ∈ evaluations f options, g s.point = f s.point) :
    search g options = search f options := by
  have points : (grid options.searchLimit).map (fun x => (⟨x, g x⟩ : Sample α)) =
      (grid options.searchLimit).map fun x => ⟨x, f x⟩ := by
    refine List.map_congr_left fun x mem => congrArg (Sample.mk x) ?_
    exact same ⟨x, f x⟩ (List.mem_append_left _ (List.mem_map.mpr ⟨x, mem, rfl⟩))
  have samples : samplesOf g options = samplesOf f options := by
    rw [samplesOf, samplesOf, finiteSamples, points, finiteSamples]
  have bracket : bracketOf g options = bracketOf f options := by rw [bracketOf, samples, bracketOf]
  have best : bestOf g options = bestOf f options := by rw [bestOf, samples, bestOf]
  have halved : halvings g options = halvings f options := by
    have later : ∀ s ∈ halvings f options, g s.point = f s.point := fun s mem =>
      same s (List.mem_append_right _ mem)
    unfold halvings at later ⊢
    rw [bracket, best]
    split
    · rename_i lo hi found
      rw [found] at later
      split
      · rfl
      · rename_i nonzero
        simp only [nonzero] at later
        exact middles_congr _ later
    · rfl
  have all : evaluations g options = evaluations f options := by
    rw [evaluations, points, halved, evaluations]
  rw [search_eq, search_eq, closestOf, all, halved, bracket, closestOf]

end AnyNumbers

section Floats

variable {f : Float → Float} {options : SolverOptions Float}

theorem closestOf_spec {x : Float} (mem : x ∈ grid options.searchLimit)
    (finite : isFinite (f x) = true) :
    closestOf f options ∈ evaluations f options ∧
      isFinite (closestOf f options).value = true ∧
      ∀ s ∈ evaluations f options, isFinite s.value = true →
        |floatValue (closestOf f options).value| ≤ |floatValue s.value| := by
  have sample : ⟨x, f x⟩ ∈ (evaluations f options).filter fun s => isFinite s.value :=
    List.mem_filter.mpr ⟨List.mem_append_left _ (List.mem_map.mpr ⟨x, mem, rfl⟩), finite⟩
  obtain ⟨best, found⟩ : ∃ best,
      closest ((evaluations f options).filter fun s => isFinite s.value) = some best := by
    refine Option.ne_none_iff_exists'.mp fun none => ?_
    rw [closest_eq_none_iff.mp none] at sample
    cases sample
  have least := closest_le found fun s mem => (List.mem_filter.mp mem).2
  obtain ⟨taken, proper⟩ := List.mem_filter.mp (closest_mem found)
  rw [closestOf, found, Option.getD_some]
  exact ⟨taken, proper, fun s mem finite => least s (List.mem_filter.mpr ⟨mem, finite⟩)⟩

/-- Nothing is found of a function that is finite at no point of the grid. -/
theorem search_of_infinite (infinite : ∀ x ∈ grid options.searchLimit, isFinite (f x) = false) :
    search f options = ⟨zero, infinity, 0, none⟩ := by
  have samples : samplesOf f options = [] := by
    refine List.eq_nil_iff_forall_not_mem.mpr fun s mem => ?_
    obtain ⟨point, value, finite⟩ := mem_finiteSamples.mp mem
    rw [value, infinite _ point] at finite
    cases finite
  have bracket : bracketOf f options = none := by
    rw [bracketOf, samples]
    rfl
  have best : bestOf f options = ⟨zero, infinity⟩ := by
    rw [bestOf, samples]
    rfl
  have magnitude : Scalar.abs (infinity : Float) = infinity := by decide +kernel
  rw [search_of_kept (.inl bracket), best, bracket, magnitude]
  rfl

/-- A sample is a point of the grid, or it lies in the bracket. -/
theorem located_of_mem_evaluations {s : Sample Float} (mem : s ∈ evaluations f options) :
    s.point ∈ grid options.searchLimit ∨
      ∃ a b, (search f options).bracket = some (a, b) ∧ le a s.point = true ∧
        le s.point b = true := by
  rcases List.mem_append.mp mem with sampled | halved
  · obtain ⟨x, point, rfl⟩ := List.mem_map.mp sampled
    exact .inl point
  · unfold halvings at halved
    split at halved
    · rename_i lo hi bracket
      split at halved
      · cases halved
      · obtain ⟨memLo, memHi, ascending, -⟩ := bracketOf_spec bracket
        obtain ⟨pointLo, boundLo⟩ := denotes_sample memLo
        obtain ⟨pointHi, boundHi⟩ := denotes_sample memHi
        obtain ⟨m, point, low, high⟩ :=
          middles_between pointLo pointHi ascending.le boundLo boundHi halved
        refine .inr ⟨lo.point, hi.point, by rw [search_bracket, bracket]; rfl, ?_, ?_⟩
        · rw [pointLo.le_eq point]
          exact decide_eq_true low
        · rw [point.le_eq pointHi]
          exact decide_eq_true high
    · cases halved

/-- What a search returns, for every function and all options: it halves at most as often as it may;
if the function is finite somewhere on the grid, the residual is finite and the magnitude of the
function at the value, and at no point that the search looked at is the function finite and
smaller; otherwise there is no bracket and the residual is infinite. The value is a point of the
grid or lies in the bracket. The points that the search looked at are all that it depends on. -/
theorem search_best (f : Float → Float) (options : SolverOptions Float) :
    let out := search f options
    let seen := evaluations f options
    out.iterations ≤ options.maxIterations ∧
      ((∃ x ∈ grid options.searchLimit, isFinite (f x) = true) →
        isFinite out.residual = true ∧ out.residual = Scalar.abs (f out.value) ∧
          ∀ s ∈ seen, isFinite (f s.point) = true →
            lt (Scalar.abs (f s.point)) (Scalar.abs (f out.value)) = false) ∧
      ((∀ x ∈ grid options.searchLimit, isFinite (f x) = false) →
        out = ⟨zero, infinity, 0, none⟩) ∧
      (out.value ∈ grid options.searchLimit ∨
        ∃ a b, out.bracket = some (a, b) ∧ le a out.value = true ∧ le out.value b = true) ∧
      ∀ g : Float → Float, (∀ s ∈ seen, g s.point = f s.point) → search g options = out := by
  intro out seen
  have result : out = _ := search_eq
  refine ⟨?_, fun finite => ?_, search_of_infinite, ?_, fun g => search_congr⟩
  · rw [result]
    exact length_halvings_le f options
  · obtain ⟨x, mem, finite⟩ := finite
    obtain ⟨taken, proper, least⟩ := closestOf_spec mem finite
    have value : (closestOf f options).value = f out.value := by
      rw [value_of_mem_evaluations taken, result]
    have residual : out.residual = Scalar.abs (f out.value) := by rw [← value, result]
    rw [value] at proper
    refine ⟨?_, residual, fun s mem finite => ?_⟩
    · rw [residual]
      exact (denotes_value proper).abs.finite
    · have smallest := least s mem (by rwa [value_of_mem_evaluations mem])
      rw [value, value_of_mem_evaluations mem] at smallest
      rw [(denotes_value finite).abs.lt_eq (denotes_value proper).abs]
      exact decide_eq_false (not_lt.mpr smallest)
  · by_cases finite : ∃ x ∈ grid options.searchLimit, isFinite (f x) = true
    · obtain ⟨x, mem, finite⟩ := finite
      rw [result]
      have located := located_of_mem_evaluations (closestOf_spec mem finite).1
      rwa [search_eq] at located
    · refine .inl ?_
      rw [show out = _ from search_of_infinite fun x mem =>
        Bool.eq_false_iff.mpr fun proper => finite ⟨x, mem, proper⟩]
      exact mem_grid.mpr (.inl rfl)

/-- A function with a pole on the grid and no root. -/
theorem search_best_reciprocal :
    let f : Float → Float := fun x => one / x
    let out := search f default
    isFinite (f zero) = false ∧ isFinite (f (gridPower 0)) = true ∧ isFinite out.residual = true ∧
      out.residual = Scalar.abs (f out.value) ∧
      ∀ s ∈ evaluations f default, isFinite (f s.point) = true →
        lt (Scalar.abs (f s.point)) (Scalar.abs (f out.value)) = false := by
  intro f out
  have limit : Denotes (default : SolverOptions Float).searchLimit 1000000 :=
    ⟨by decide +kernel, by decide +kernel⟩
  have point := mem_grid.mpr
    (.inr ⟨gridPower 0, mem_doublings limit (by decide) (by norm_num), .inl rfl⟩)
  have finite : isFinite (f (gridPower 0)) = true := by decide +kernel
  obtain ⟨-, found, -⟩ := search_best f default
  exact ⟨by decide +kernel, finite, found ⟨_, point, finite⟩⟩

end Floats

end WorkedAlgebra.Bisection
