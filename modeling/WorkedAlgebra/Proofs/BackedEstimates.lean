import WorkedAlgebra.Proofs.Derivations
import WorkedAlgebra.Proofs.Halvings
import WorkedAlgebra.Proofs.SearchCoverage

/-!
When an estimate is backed by evidence of a root. Halving never leaves its bracket, so an estimate
lacks evidence exactly when the closest sample lies apart from the bracket and halving did not
come closer. A residual below the tolerance does not exclude that.
-/

namespace WorkedAlgebra

open Rounding Scalar Bisection

/-- Evidence of a root: the value is one, or it lies between the ends of a bracket, at which `f` is
finite and has opposite signs. -/
def Backed (f : Float → Float) (out : SearchOutcome Float) : Prop :=
  isZero out.residual = true ∨ ∃ a b, out.bracket = some (a, b) ∧ isFinite (f a) = true ∧
    isFinite (f b) = true ∧ opposite (f a) (f b) = true ∧ le a out.value = true ∧
      le out.value b = true

/-- The search kept the sample it started from, which is neither a root nor an end of the
bracket. -/
structure Stray (f : Float → Float) (options : SolverOptions Float) : Prop where
  nonzero : isZero (search f options).residual = false
  kept : (search f options).value = (bestOf f options).point
  apart : ∀ a b, (search f options).bracket = some (a, b) →
    (search f options).value ≠ a ∧ (search f options).value ≠ b

section Brackets

variable {f : Float → Float} {options : SolverOptions Float}

theorem samples_ascending : (samplesOf f options).Pairwise fun s t =>
    floatValue s.point < floatValue t.point := by
  refine List.Pairwise.filter _ ?_
  rw [List.pairwise_map]
  exact grid_ascending options.searchLimit

/-- In an ascending list nothing lies between neighbours. -/
theorem eq_end_of_neighbours {β : Type} {key : β → ℚ} {items : List β}
    (ascending : items.Pairwise fun s t => key s < key t) {a b c : β}
    (neighbours : [a, b] <:+: items) (mem : c ∈ items) (low : key a ≤ key c)
    (high : key c ≤ key b) : c = a ∨ c = b := by
  obtain ⟨before, after, rfl⟩ := neighbours
  rw [List.append_assoc] at ascending
  obtain ⟨-, pair, below⟩ := List.pairwise_append.mp ascending
  simp only [List.mem_append, List.mem_cons, List.not_mem_nil, or_false] at mem
  rcases mem with (left | same) | right
  · exact (not_lt.mpr low (below c left a List.mem_cons_self)).elim
  · exact same
  · obtain ⟨-, -, above⟩ := List.pairwise_append.mp pair
    exact (not_lt.mpr high (above b (List.mem_cons_of_mem a List.mem_cons_self) c right)).elim

/-- No sample lies strictly between the ends of a bracket. -/
theorem eq_end_of_between {a b c : Sample Float} (bracket : bracketOf f options = some (a, b))
    (mem : c ∈ samplesOf f options) (low : floatValue a.point ≤ floatValue c.point)
    (high : floatValue c.point ≤ floatValue b.point) : c = a ∨ c = b :=
  eq_end_of_neighbours samples_ascending (mem_signChanges_iff.mp (nearest_mem bracket)).2 mem low
    high

/-- The ends of a bracket are samples in ascending order with values of opposite signs. -/
theorem bracketOf_spec {a b : Sample Float} (bracket : bracketOf f options = some (a, b)) :
    a ∈ samplesOf f options ∧ b ∈ samplesOf f options ∧
      floatValue a.point < floatValue b.point ∧ opposite a.value b.value = true :=
  bracketOf_ends samples_ascending bracket

theorem bestOf_mem {s : Sample Float} (mem : s ∈ samplesOf f options) :
    bestOf f options ∈ samplesOf f options := by
  unfold bestOf
  cases found : closest (samplesOf f options) with
  | some best => exact closest_mem found
  | none =>
      cases samples : samplesOf f options with
      | nil => rw [samples] at mem; cases mem
      | cons first rest => rw [samples] at found; cases found

end Brackets

section Evidence

variable {f : Float → Float} {options : SolverOptions Float}

theorem denotes_sample {s : Sample Float} (mem : s ∈ samplesOf f options) :
    Denotes s.point (floatValue s.point) ∧ |floatValue s.point| ≤ gridBound :=
  denotes_grid (mem_finiteSamples.mp mem).1

/-- A value in the bracket is backed. -/
theorem backed_of_between {a b : Sample Float} (bracket : bracketOf f options = some (a, b)) {v : ℚ}
    (value : Denotes (search f options).value v) (low : floatValue a.point ≤ v)
    (high : v ≤ floatValue b.point) : Backed f (search f options) := by
  obtain ⟨memA, memB, -, differ⟩ := bracketOf_spec bracket
  obtain ⟨-, valueA, finiteA⟩ := mem_finiteSamples.mp memA
  obtain ⟨-, valueB, finiteB⟩ := mem_finiteSamples.mp memB
  rw [valueA] at finiteA differ
  rw [valueB] at finiteB differ
  refine .inr ⟨a.point, b.point, by rw [search_bracket, bracket]; rfl, finiteA, finiteB, differ,
    ?_, ?_⟩
  · rwa [(denotes_sample memA).1.le_eq value, decide_eq_true_iff]
  · rwa [value.le_eq (denotes_sample memB).1, decide_eq_true_iff]

/-- An estimate is backed unless it is a sample apart from the bracket. -/
theorem backed_iff_not_stray : Backed f (search f options) ↔ ¬ Stray f options := by
  constructor
  · rintro (zero | ⟨a, b, bracket, -, -, -, low, high⟩) stray
    · exact Bool.false_ne_true (stray.nonzero.symm.trans zero)
    · have apart := stray.apart a b bracket
      rw [search_bracket, Option.map_eq_some_iff] at bracket
      obtain ⟨⟨s, t⟩, found, points⟩ := bracket
      obtain ⟨rfl, rfl⟩ := Prod.mk.inj points
      obtain ⟨memS, memT, -, -⟩ := bracketOf_spec found
      have best := bestOf_mem memS
      rw [stray.kept] at low high apart
      rw [(denotes_sample memS).1.le_eq (denotes_sample best).1, decide_eq_true_iff] at low
      rw [(denotes_sample best).1.le_eq (denotes_sample memT).1, decide_eq_true_iff] at high
      rcases eq_end_of_between found best low high with same | same
      · exact apart.1 (congrArg Sample.point same)
      · exact apart.2 (congrArg Sample.point same)
  · intro settled
    by_contra lacking
    have nonzero : isZero (search f options).residual = false :=
      Bool.eq_false_iff.mpr fun zero => lacking (.inl zero)
    refine settled ⟨nonzero, ?_, fun a b bracket => ?_⟩
    · cases found : bracketOf f options with
      | none => rw [search_of_kept (.inl found)]
      | some pair =>
          obtain ⟨a, b⟩ := pair
          obtain ⟨memA, memB, less, -⟩ := bracketOf_spec found
          have notRoot : isZero (bestOf f options).value = false := by
            refine Bool.eq_false_iff.mpr fun zero => ?_
            rw [search_of_kept (.inr zero), isZero_abs, zero] at nonzero
            cases nonzero
          have value : (search f options).value = (halve f options.tolerance a b
              (bestOf f options) 0 options.maxIterations).1.point := by
            rw [search_of_bracket found notRoot rfl]
          obtain ⟨pointA, boundA⟩ := denotes_sample memA
          obtain ⟨pointB, boundB⟩ := denotes_sample memB
          rw [value]
          rcases halve_mem f options.tolerance options.maxIterations a b (bestOf f options) 0 with
            kept | ⟨taken, -⟩
          · rw [kept]
          · obtain ⟨m, hm, low, high⟩ := middles_between pointA pointB less.le boundA boundB taken
            rw [← value] at hm
            exact (lacking (backed_of_between found hm low high)).elim
    · rw [search_bracket, Option.map_eq_some_iff] at bracket
      obtain ⟨⟨s, t⟩, found, points⟩ := bracket
      obtain ⟨rfl, rfl⟩ := Prod.mk.inj points
      obtain ⟨memS, memT, less, -⟩ := bracketOf_spec found
      have pointS := (denotes_sample memS).1
      have pointT := (denotes_sample memT).1
      refine ⟨fun same => lacking ?_, fun same => lacking ?_⟩
      · rw [← same] at pointS
        exact backed_of_between found pointS (by rw [same]) (by rw [same]; exact less.le)
      · rw [← same] at pointT
        exact backed_of_between found pointT (by rw [same]; exact less.le) (by rw [same])

/-- With a sample at hand the residual is the magnitude of the function at the value. -/
theorem residual_eq {s : Sample Float} (mem : s ∈ samplesOf f options) :
    (search f options).residual = Scalar.abs (f (search f options).value) := by
  have best : (bestOf f options).value = f (bestOf f options).point :=
    (mem_finiteSamples.mp (bestOf_mem mem)).2.1
  by_cases kept : bracketOf f options = none ∨ isZero (bestOf f options).value = true
  · rw [search_of_kept kept, best]
  · obtain ⟨some, nonzero⟩ := not_or.mp kept
    obtain ⟨⟨lo, hi⟩, found⟩ := Option.ne_none_iff_exists'.mp some
    rw [search_of_bracket found (Bool.eq_false_iff.mpr nonzero) rfl]
    refine congrArg Scalar.abs ?_
    -- The middle of an interval is sampled as the grid is.
    rcases halve_mem f options.tolerance options.maxIterations lo hi (bestOf f options) 0 with
      kept | ⟨taken, -⟩
    · rw [kept, best]
    · exact value_of_mem_middles f options.tolerance taken

/-- The residual is zero exactly where the function is. -/
theorem isZero_residual (f : Float → Float) (options : SolverOptions Float) :
    isZero (search f options).residual = isZero (f (search f options).value) := by
  cases samples : samplesOf f options with
  | cons s rest =>
      rw [residual_eq (samples ▸ List.mem_cons_self : s ∈ samplesOf f options), isZero_abs]
  | nil =>
      have bracket : bracketOf f options = none := by
        rw [bracketOf, samples]
        rfl
      have best : bestOf f options = ⟨zero, infinity⟩ := by
        rw [bestOf, samples]
        rfl
      have infinite : ¬ isFinite (f zero) = true := fun finite => by
        have sample : ⟨zero, f zero⟩ ∈ samplesOf f options :=
          mem_finiteSamples.mpr ⟨mem_grid.mpr (.inl rfl), rfl, finite⟩
        rw [samples] at sample
        cases sample
      rw [search_of_kept (.inl bracket), best, isZero_abs, isZero_infinity,
        isZero_of_infinite infinite]

end Evidence

section Solutions

variable {options : SolverOptions Float} {text : String} {solution : Solution Float}
  {estimate : Estimate Float}

/-- What an estimate tells: it is the outcome of searching the difference of the sides, it counts
as converged for its residual alone, and it is backed by a root or a bracket around it unless it is
a sample apart from the bracket, which no bound on the residual excludes. -/
theorem estimate_backed_iff [Unicode.Form] (solved : solve options text = .ok solution)
    (approximate : solution.resolution = .approximate estimate) :
    ∃ p probe, Problem.ofClean (Text.normalize text.toList) = .ok p ∧
      Probe.ofSides p.sides = .ok probe ∧
      estimate.value = (search (probe.along Bindings.empty p.unknown) options).value ∧
      estimate.residual = (search (probe.along Bindings.empty p.unknown) options).residual ∧
      isZero estimate.residual = isZero (probe.along Bindings.empty p.unknown estimate.value) ∧
      estimate.converged = leSqrt estimate.residual options.tolerance ∧
      (Backed (probe.along Bindings.empty p.unknown)
          (search (probe.along Bindings.empty p.unknown) options) ↔
        ¬ Stray (probe.along Bindings.empty p.unknown) options) := by
  obtain ⟨p, d, stated, derived, -, -, resolution⟩ := solve_ok solved
  have resolved : d.resolution = .approximate estimate := resolution.symm.trans approximate
  unfold Problem.derive at derived
  split at derived
  · obtain ⟨probe, trees, ⟨-, rfl⟩ | ⟨slope, left, right, -, -, -, rfl⟩⟩ :=
      Derivation.ofSingle_ok derived
    · have same := Resolution.approximate.inj resolved
      have value : estimate.value =
          (search (probe.along Bindings.empty p.unknown) options).value := by rw [← same]; rfl
      have residual : estimate.residual =
          (search (probe.along Bindings.empty p.unknown) options).residual := by rw [← same]; rfl
      have converged : estimate.converged = leSqrt estimate.residual options.tolerance := by
        rw [← same]; rfl
      have zero := isZero_residual (probe.along Bindings.empty p.unknown) options
      rw [← value, ← residual] at zero
      exact ⟨p, probe, stated, trees, value, residual, zero, converged, backed_iff_not_stray⟩
    · exact (Resolution.classify_ne_approximate _ _ _ _ resolved.symm).elim
  · obtain ⟨_, _, _, _, _, _, _, _, _, _, _, rfl⟩ := Derivation.ofSeveral_ok derived
    cases resolved

def reciprocal : Probe Float :=
  ⟨.binary .slash (.number (ofDecimal 1 0)) (.letter 'x'), .number (ofDecimal 0 0)⟩

theorem stray_reciprocal : Stray (reciprocal.along Bindings.empty 'x') default := by
  have facts :
      isZero (search (reciprocal.along Bindings.empty 'x') default).residual = false ∧
        (search (reciprocal.along Bindings.empty 'x') default).value =
          (bestOf (reciprocal.along Bindings.empty 'x') default).point ∧
        (search (reciprocal.along Bindings.empty 'x') default).bracket =
          some (-ofDecimal 5 1, ofDecimal 5 1) ∧
        (search (reciprocal.along Bindings.empty 'x') default).value ≠ -ofDecimal 5 1 ∧
          (search (reciprocal.along Bindings.empty 'x') default).value ≠ ofDecimal 5 1 := by
    decide +kernel
  obtain ⟨nonzero, kept, ends, apart⟩ := facts
  refine ⟨nonzero, kept, fun a b bracket => ?_⟩
  rw [ends] at bracket
  cases bracket
  exact apart

/-- The closest sample of `1 / x` lies far out, where the function is small, and not at the pole
that the bracket closes on. -/
theorem estimate_backed_iff_pole : ∃ solution estimate,
    solve (default : SolverOptions Float) "1/x=0" = .ok solution ∧
      solution.resolution = .approximate estimate ∧ estimate.converged = true ∧
      ¬ Backed (reciprocal.along Bindings.empty 'x')
        (search (reciprocal.along Bindings.empty 'x') default) := by
  have stated : Problem.ofClean (Text.normalize "1/x=0".toList) =
      .ok ⟨⟨"1/x".toList, ['0'], 4⟩, 'x', []⟩ := by decide +kernel
  have trees : Probe.ofSides (α := Float) ⟨"1/x".toList, ['0'], 4⟩ = .ok reciprocal := rfl
  obtain ⟨d, derived, converged⟩ := exists_ok
    (x := (⟨⟨"1/x".toList, ['0'], 4⟩, 'x', []⟩ : Problem).derive (default : SolverOptions Float))
    (p := fun d => match d.resolution with | .approximate e => e.converged | _ => false)
    (by decide +kernel)
  obtain ⟨solution, solved, -, -, resolution⟩ := exists_solution stated derived
  cases kind : d.resolution with
  | approximate estimate =>
      rw [kind] at converged resolution
      obtain ⟨p, probe, stated', trees', -, -, -, -, backed⟩ := estimate_backed_iff solved resolution
      obtain rfl : p = _ := Except.ok.inj (stated'.symm.trans stated)
      obtain rfl : probe = _ := Except.ok.inj (trees'.symm.trans trees)
      refine ⟨solution, estimate, solved, resolution, converged, ?_⟩
      rw [backed, not_not]
      exact stray_reciprocal
  | unique value => simp [kind] at converged
  | allReals => simp [kind] at converged
  | noSolution => simp [kind] at converged
  | reduced r => simp [kind] at converged

end Solutions

end WorkedAlgebra
