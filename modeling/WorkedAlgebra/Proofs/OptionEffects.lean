import WorkedAlgebra.Decimal.Layout
import WorkedAlgebra.Proofs.Derivations

/-!
What the options of a run can reach. Only a search reads them for its values; the precision shows in
the wording of the steps and nowhere else, not even in their number.
-/

namespace WorkedAlgebra

open Scalar

section Steps

variable {α : Type} [Printable α]

def Derivation.stepCount : Derivation α → Nat
  | .linear d =>
    match d.resolution with
    | .unique _ => 9
    | .allReals | .noSolution | .reduced _ | .approximate _ => 4
  | .searched _ => 4
  | .reduced d =>
    if isZero d.reduction.coefficient then 5
    else if eq d.reduction.coefficient one then 7
    else 8

theorem LinearDerivation.length_steps (sides : Sides) (places : Nat) (d : LinearDerivation α) :
    (d.steps sides places).length = (Derivation.linear d).stepCount := by
  rw [steps, closingSteps, Derivation.stepCount]
  cases d.resolution <;> rfl

theorem ReductionDerivation.length_steps (places : Nat) (d : ReductionDerivation α) :
    (d.steps places).length = (Derivation.reduced d).stepCount := by
  rw [steps, isolatingSteps, Derivation.stepCount, Reduction.isolated?]
  cases isZero d.reduction.coefficient with
  | true => rfl
  | false =>
      cases eq d.reduction.coefficient one <;> rfl

theorem Derivation.length_steps (sides : Sides) (options : SolverOptions α) (d : Derivation α) :
    (d.steps sides options).length = d.stepCount := by
  cases d with
  | linear d => exact d.length_steps sides options.precision
  | searched d => rfl
  | reduced d => exact d.length_steps options.precision

/-- Apart from those of a search, steps depend on the precision alone. -/
theorem Derivation.steps_congr {options options' : SolverOptions α}
    (same : options.precision = options'.precision) (sides : Sides) {d : Derivation α}
    (direct : ∀ s, d ≠ .searched s) : d.steps sides options = d.steps sides options' := by
  cases d with
  | linear d => exact congrArg (d.steps sides) same
  | searched d => exact (direct d rfl).elim
  | reduced d => exact congrArg d.steps same

end Steps

section Derivations

variable {α : Type} [Scalar α]

/-- Options that lead to the same search: they differ in their precision at most. -/
structure SolverOptions.SameSearch (options options' : SolverOptions α) : Prop where
  maxIterations : options.maxIterations = options'.maxIterations
  tolerance : options.tolerance = options'.tolerance
  searchLimit : options.searchLimit = options'.searchLimit

theorem SolverOptions.SameSearch.ofProbe {options options' : SolverOptions α}
    (same : options.SameSearch options') (probe : Probe α) (unknown : Char) :
    SearchDerivation.ofProbe probe unknown options =
      SearchDerivation.ofProbe probe unknown options' := by
  obtain ⟨maxIterations, tolerance, searchLimit, precision⟩ := options
  obtain ⟨maxIterations', tolerance', searchLimit', precision'⟩ := options'
  obtain ⟨rfl, rfl, rfl⟩ := same
  rfl

/-- A problem that is not searched is resolved, or refused, without a look at the options. -/
theorem Problem.derive_cases (p : Problem) :
    (∃ result : Except SolveError (Derivation α),
        (∀ options, p.derive options = result) ∧ ∀ s, result ≠ .ok (.searched s)) ∨
      ∃ probe : Probe α, ∀ options,
        p.derive options = .ok (.searched (.ofProbe probe p.unknown options)) := by
  unfold derive
  cases p.others.isEmpty with
  | false =>
      refine .inl ⟨Derivation.ofSeveral p.sides p.unknown p.others, fun _ => rfl, fun s derived => ?_⟩
      obtain ⟨_, _, _, _, _, -, -, -, -, -, -, other⟩ := Derivation.ofSeveral_ok derived
      cases other
  | true =>
      simp only [if_true, Derivation.ofSingle]
      cases Probe.ofSides (α := α) p.sides with
      | error cause => exact .inl ⟨_, fun _ => rfl, nofun⟩
      | ok probe =>
          simp only [bind, Except.bind]
          cases Probe.affineSlope (probe.along Bindings.empty p.unknown) with
          | none =>
              simp only
              cases Probe.points.any fun x =>
                  isFinite (probe.along Bindings.empty p.unknown x) with
              | true => exact .inr ⟨probe, fun _ => rfl⟩
              | false => exact .inl ⟨_, fun _ => rfl, nofun⟩
          | some slope =>
              refine .inl ⟨_, fun _ => rfl, fun s derived => ?_⟩
              split at derived
              · cases derived
              · split at derived <;> cases derived

def Resolution.IsApproximate : Resolution α → Prop
  | .approximate _ => True
  | .unique _ | .allReals | .noSolution | .reduced _ => False

end Derivations

section Solutions

variable {α : Type} [Printable α]

/-- A solution without the wording of its steps. -/
structure Outline (α : Type) where
  equation : String
  letters : List Char
  resolution : Resolution α
  stepCount : Nat

def Solution.outline (s : Solution α) : Outline α :=
  ⟨s.equation, s.letters, s.resolution, s.steps.length⟩

theorem Problem.outline_report (p : Problem) (options : SolverOptions α) (given : String)
    (d : Derivation α) :
    (p.report options given d).outline =
      ⟨given, p.unknown :: p.others, d.resolution, d.stepCount + 1⟩ := by
  rw [Solution.outline, report, Trace.length, List.length_cons, d.length_steps]
  rfl

/-- A solution is the report of a derivation, and an error says nothing about the options. -/
theorem solve_of_derive [Unicode.Form] {text : String} {p : Problem}
    (stated : Problem.ofClean (Text.normalize text.toList) = .ok p) (options : SolverOptions α) :
    solve options text = (p.derive options).map (p.report options (givenText text)) := by
  rw [solve_eq, resolveClean, stated]
  change (p.derive options >>= _).map _ = (p.derive options).map _
  cases p.derive options <;> rfl

/-- The three ways in which solving a text can go, each for all options at once. -/
theorem solve_cases [Unicode.Form] (text : String) :
    (∃ error, ∀ options : SolverOptions α, solve options text = .error error) ∨
      (∃ (p : Problem) (d : Derivation α), (∀ s, d ≠ .searched s) ∧
        ∀ options, solve options text = .ok (p.report options (givenText text) d)) ∨
      ∃ (p : Problem) (probe : Probe α), ∀ options, solve options text =
        .ok (p.report options (givenText text) (.searched (.ofProbe probe p.unknown options))) := by
  cases stated : Problem.ofClean (Text.normalize text.toList) with
  | error cause =>
      refine .inl ⟨cause, fun options => ?_⟩
      rw [solve_eq, resolveClean, stated]
      rfl
  | ok p =>
      rcases p.derive_cases (α := α) with ⟨result, derived, direct⟩ | ⟨probe, derived⟩
      · cases result with
        | error cause =>
            refine .inl ⟨cause, fun options => ?_⟩
            rw [solve_of_derive stated, derived]
            rfl
        | ok d =>
            refine .inr (.inl ⟨p, d, fun s same => direct s (congrArg _ same), fun options => ?_⟩)
            rw [solve_of_derive stated, derived]
            rfl
      · refine .inr (.inr ⟨p, probe, fun options => ?_⟩)
        rw [solve_of_derive stated, derived]
        rfl

/-- The options reach the estimate of a search and the wording of the steps, and nothing else: under
any two options a text fails with the same error, or is resolved in the same way and in as many
steps, unless it is searched; under equal precision the whole solution is the same then; and options
that differ in their precision only agree on searches too. -/
theorem solve_options [Unicode.Form] (options options' : SolverOptions α) (text : String) :
    (∀ error, solve options text = .error error ↔ solve options' text = .error error) ∧
      (∀ outline : Outline α, ¬ outline.resolution.IsApproximate →
        ((solve options text).map Solution.outline = .ok outline ↔
          (solve options' text).map Solution.outline = .ok outline)) ∧
      (options.precision = options'.precision →
        ∀ solution : Solution α, ¬ solution.resolution.IsApproximate →
          (solve options text = .ok solution ↔ solve options' text = .ok solution)) ∧
      (options.SameSearch options' →
        (solve options text).map Solution.outline = (solve options' text).map Solution.outline) := by
  rcases solve_cases (α := α) text with
    ⟨cause, failed⟩ | ⟨p, d, direct, solved⟩ | ⟨p, probe, searched⟩
  · simp [failed]
  · have outline (o : SolverOptions α) : (solve o text).map Solution.outline =
        .ok ⟨givenText text, p.unknown :: p.others, d.resolution, d.stepCount + 1⟩ := by
      rw [solved, Except.map, p.outline_report]
    refine ⟨by simp [solved], by simp [outline], fun same solution _ => ?_, by simp [outline]⟩
    have report : p.report options (givenText text) d = p.report options' (givenText text) d := by
      simp only [Problem.report, Derivation.steps_congr same p.sides direct, same]
    rw [solved, solved, report]
  · have outline (o : SolverOptions α) : (solve o text).map Solution.outline =
        .ok ⟨givenText text, p.unknown :: p.others,
          .approximate (SearchDerivation.ofProbe probe p.unknown o).estimate, 5⟩ := by
      rw [searched, Except.map, p.outline_report]
      rfl
    refine ⟨by simp [searched], fun result direct => ?_, fun _ solution direct => ?_, fun same => ?_⟩
    · have other (o : SolverOptions α) :
          (solve o text).map Solution.outline ≠ .ok result := fun found => by
        rw [outline, Except.ok.injEq] at found
        exact direct (found ▸ trivial)
      exact iff_of_false (other options) (other options')
    · have other (o : SolverOptions α) : solve o text ≠ .ok solution := fun found => by
        rw [searched, Except.ok.injEq] at found
        exact direct (found ▸ trivial)
      exact iff_of_false (other options) (other options')
    · rw [outline, outline, same.ofProbe]

/-- A linear equation under options of all kinds, and a quadratic one under another precision. -/
theorem solve_options_both :
    (∃ outline : Outline Float, ¬ outline.resolution.IsApproximate ∧
      (solve default "2x + 3 = 7").map Solution.outline = .ok outline ∧
        (solve ⟨0, ofNat 1, ofNat 2, 3⟩ "2x + 3 = 7").map Solution.outline = .ok outline) ∧
    (∃ solution : Solution Float, ¬ solution.resolution.IsApproximate ∧
      solve default "2x + 3 = 7" = .ok solution ∧
        solve ⟨0, ofNat 1, ofNat 2, 10⟩ "2x + 3 = 7" = .ok solution) ∧
    (default : SolverOptions Float).SameSearch { (default : SolverOptions Float) with precision := 3 } ∧
    (solve default "x*x = 2").map Solution.outline =
      (solve { (default : SolverOptions Float) with precision := 3 } "x*x = 2").map
        Solution.outline := by
  have stated : Problem.ofClean (Text.normalize "2x + 3 = 7".toList) =
      .ok ⟨⟨"2x+3".toList, ['7'], 5⟩, 'x', []⟩ := by decide +kernel
  obtain ⟨d, derived, kind⟩ := exists_ok
    (x := (⟨⟨"2x+3".toList, ['7'], 5⟩, 'x', []⟩ : Problem).derive (default : SolverOptions Float))
    (p := fun d => match d.resolution with
      | .unique _ => true
      | .allReals | .noSolution | .reduced _ | .approximate _ => false) (by decide +kernel)
  obtain ⟨solution, solved, -, -, resolution⟩ := exists_solution stated derived
  have direct : ¬ solution.resolution.IsApproximate := by
    rw [resolution]
    intro approximate
    cases found : d.resolution with
    | approximate estimate => simp [found] at kind
    | _ => simp [found, Resolution.IsApproximate] at approximate
  have same : (default : SolverOptions Float).SameSearch
      { (default : SolverOptions Float) with precision := 3 } := ⟨rfl, rfl, rfl⟩
  have outline : (solve default "2x + 3 = 7").map Solution.outline = .ok solution.outline := by
    rw [solved]
    rfl
  refine ⟨⟨solution.outline, direct, outline, ?_⟩, ⟨solution, direct, solved, ?_⟩, same, ?_⟩
  · exact ((solve_options default ⟨0, ofNat 1, ofNat 2, 3⟩ _).2.1 _ direct).mp outline
  · exact ((solve_options default ⟨0, ofNat 1, ofNat 2, 10⟩ _).2.2.1 rfl _ direct).mp solved
  · exact (solve_options _ _ _).2.2.2 same

end Solutions

end WorkedAlgebra
