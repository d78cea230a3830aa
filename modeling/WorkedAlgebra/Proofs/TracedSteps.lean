import WorkedAlgebra.Solver

/-!
Traced computations run. A computation is silent or adds steps, and each is said of every trace it
is started with: what was noted before plays no part and stays as it is. One lemma tells this of
each thing a computation can do, and one of each way to go on after it, so that a computation is
followed in its own order. A failure leaves the trace alone only when all that ran before it was
silent; nothing here says that of a failure that comes after a step.

Resolving is then seen to add the steps of a derivation and to have its result.
-/

namespace WorkedAlgebra

namespace Traced

variable {β γ δ : Type} {x : Traced β} {k : β → Traced γ} {plain : Except SolveError β}
  {value : β} {next : γ} {steps more : List String} {error : SolveError}

/-- From any trace the computation has this result and leaves the trace as it is. -/
def Silent (x : Traced β) (result : Except SolveError β) : Prop :=
  ∀ trace, x.run trace = (result, trace)

def Adds (x : Traced β) (value : β) (steps : List String) : Prop :=
  ∀ trace, x.run trace = (.ok value, ⟨trace.lines ++ steps⟩)

theorem run_bind_of_ok {trace later : Trace} (first : x.run trace = (.ok value, later)) :
    (x >>= k).run trace = (k value).run later := by
  change ExceptT.bindCont k (x.run trace).1 (x.run trace).2 = _
  rw [first]
  rfl

theorem run_bind_of_error {trace later : Trace} (first : x.run trace = (.error error, later)) :
    (x >>= k).run trace = (.error error, later) := by
  change ExceptT.bindCont k (x.run trace).1 (x.run trace).2 = _
  rw [first]
  rfl

theorem silent_pure (value : β) : Silent (pure value) (.ok value) := fun _ => rfl

theorem silent_throw (error : SolveError) : Silent (throw error : Traced β) (.error error) :=
  fun _ => rfl

/-- What knows of no trace is silent. -/
theorem silent_lift (plain : Except SolveError β) : Silent (liftM plain) plain := fun _ => rfl

theorem Silent.bind {rest : β → Except SolveError γ} (first : Silent x plain)
    (second : ∀ value, plain = .ok value → Silent (k value) (rest value)) :
    Silent (x >>= k) (plain >>= rest) := by
  intro trace
  cases plain with
  | error error => exact run_bind_of_error (first trace)
  | ok value => rw [run_bind_of_ok (first trace), second value rfl trace]; rfl

/-- A loop of silent rounds is silent. -/
theorem silent_mapM {k : β → Traced γ} {round : β → Except SolveError γ}
    (silent : ∀ a, Silent (k a) (round a)) (items : List β) :
    Silent (items.mapM k) (items.mapM round) := by
  induction items with
  | nil => exact silent_pure []
  | cons a items ih =>
      rw [List.mapM_cons, List.mapM_cons]
      exact (silent a).bind fun _ _ => ih.bind fun _ _ => silent_pure _

theorem adds_nil_iff : Adds x value [] ↔ Silent x (.ok value) := by
  simp only [Adds, Silent, List.append_nil]

theorem adds_push (step : String) : Adds (push step) () [step] := fun _ => rfl

namespace Adds

theorem bind (first : Adds x value steps) (second : Adds (k value) next more) :
    Adds (x >>= k) next (steps ++ more) := by
  intro trace
  rw [run_bind_of_ok (first trace), second, List.append_assoc]

/-- Steps, and then the end. -/
theorem done (first : Adds x value steps) : Adds (x >>= fun _ => pure next) next steps := by
  intro trace
  rw [run_bind_of_ok (first trace)]
  rfl

/-- A step, and what comes after it. -/
theorem push {x : Traced β} {step : String} (rest : Adds x value more) :
    Adds (do Traced.push step; x) value (step :: more) := (adds_push step).bind rest

end Adds

theorem adds_pushAll : ∀ steps, Adds (pushAll steps) () steps
  | [] => adds_nil_iff.mpr (silent_pure ())
  | _ :: steps => (adds_pushAll steps).push

/-- A computation follows another one that knows of no trace: where that one succeeds it adds the
steps that belong to the value, and where that one fails it does so in silence. -/
structure Follows (x : Traced β) (plain : Except SolveError δ) (result : δ → β)
    (steps : δ → List String) : Prop where
  adds : ∀ {d}, plain = .ok d → Adds x (result d) (steps d)
  fails : ∀ {error}, plain = .error error → Silent x (.error error)

namespace Follows

variable {result : δ → γ} {write : δ → List String}

theorem throw (error : SolveError) :
    Follows (throw error : Traced γ) (.error error : Except SolveError δ) result write where
  adds := nofun
  fails failed := Except.error.inj failed ▸ silent_throw error

theorem of_adds {x : Traced γ} {d : δ} (adds : Adds x (result d) (write d)) :
    Follows x (.ok d) result write where
  adds done := Except.ok.inj done ▸ adds
  fails := nofun

/-- Silent work that both begin with. -/
theorem after {rest : β → Except SolveError δ} (first : Silent x plain)
    (second : ∀ value, plain = .ok value → Follows (k value) (rest value) result write) :
    Follows (x >>= k) (plain >>= rest) result write := by
  cases plain with
  | error error =>
      exact ⟨nofun, fun failed => Except.error.inj failed ▸ fun trace =>
        run_bind_of_error (first trace)⟩
  | ok value =>
      refine ⟨fun done trace => ?_, fun failed trace => ?_⟩
      · rw [run_bind_of_ok (first trace), (second value rfl).adds done]
      · rw [run_bind_of_ok (first trace), (second value rfl).fails failed]

end Follows
end Traced

section Resolving

variable {α : Type} [Printable α] {sides : Sides} {options : SolverOptions α}

def Traced.Derives (x : Traced (Resolution α)) (derived : Except SolveError (Derivation α))
    (sides : Sides) (options : SolverOptions α) : Prop :=
  x.Follows derived Derivation.resolution (Derivation.steps sides options)

open Traced

theorem Probe.adds_refine (probe : Probe α) (unknown : Char) (options : SolverOptions α) :
    let d := SearchDerivation.ofProbe probe unknown options
    Adds (probe.refine unknown options) (.approximate d.estimate) (d.steps options) :=
  .push (.push (.push (.done (adds_push _))))

theorem resolveSingle_derives (sides : Sides) (unknown : Char) (options : SolverOptions α) :
    (resolveSingle sides unknown options).Derives (Derivation.ofSingle sides unknown options) sides
      options := by
  refine .after (silent_lift _) fun probe _ => ?_
  cases affine : Probe.affineSlope (probe.along Bindings.empty unknown) with
  | none =>
      simp only [affine]
      by_cases finite : Probe.points.any fun p =>
          Scalar.isFinite (probe.along Bindings.empty unknown p)
      · rw [if_pos finite, if_neg (by simpa using finite)]
        exact .of_adds (probe.adds_refine unknown options)
      · rw [if_neg finite, if_pos (by simpa using finite)]
        exact .throw _
  | some slope =>
      simp only [affine]
      refine .after (silent_lift _) fun left _ => .after (silent_lift _) fun right _ => ?_
      exact .of_adds (.push (.push (.push (.done (adds_pushAll _)))))

theorem resolveSeveral_derives (sides : Sides) (main : Char) (others : List Char)
    (options : SolverOptions α) :
    (resolveSeveral sides main others options).Derives (Derivation.ofSeveral sides main others)
      sides options := by
  refine .after (silent_lift _) fun probe _ => ?_
  cases nonlinear : probe.firstNonlinear (main :: others) with
  | some letter => exact .throw _
  | none =>
      refine .after (silent_lift _) fun left _ => .after (silent_lift _) fun right _ =>
        .after (silent_lift _) fun mainReading _ =>
        .after (silent_mapM (fun _ => silent_lift _) others) fun readings _ => ?_
      exact .of_adds (.push (.push (.push (.bind (adds_pushAll _) (.done (adds_push _))))))

theorem Problem.resolve_derives (p : Problem) (options : SolverOptions α) :
    (p.resolve options).Derives (p.derive options) p.sides options := by
  rw [resolve, derive]
  split
  · exact resolveSingle_derives p.sides p.unknown options
  · exact resolveSeveral_derives p.sides p.unknown p.others options

def Problem.report (p : Problem) (options : SolverOptions α) (given : String) (d : Derivation α) :
    Solution α where
  equation := given
  unknown := p.unknown
  others := p.others
  steps := ⟨s!"Original equation: {given}" :: d.steps p.sides options⟩
  resolution := d.resolution
  precision := options.precision

def givenText (text : String) : String := String.ofList (Text.trim text.toList)

/-- A solution is the report of a derivation. -/
theorem solve_eq [Unicode.Form] (options : SolverOptions α) (text : String) :
    solve options text = (resolveClean options (Text.normalize text.toList)).map
      fun r => r.1.report options (givenText text) r.2 := by
  rw [solve, resolveClean]
  cases Problem.ofClean (Text.normalize text.toList) with
  | error cause => rfl
  | ok p =>
      have resolved := p.resolve_derives options
      dsimp only [bind, Except.bind]
      cases derived : p.derive options with
      | error cause =>
          rw [resolved.fails derived]
          rfl
      | ok d =>
          rw [resolved.adds derived]
          rfl

end Resolving
end WorkedAlgebra
