import WorkedAlgebra.Proofs.Outcomes

/-!
What resolving does to a trace, for any sides and any letters. A failure leaves the trace as it is
and a success only adds to it. Failures are few: once the sides are expressions and their difference
is finite at a point where all letters that have a value are zero, reading the forms of the sides
cannot fail any more.
-/

namespace WorkedAlgebra

open Scalar Text

section Values

variable {α : Type} [Scalar α]

def Bindings.Le (b b' : Bindings α) : Prop := ∀ c v, b c = some v → b' c = some v

/-- A tree that has a value keeps it when more letters get one. -/
theorem Expr.evaluate_of_le {b b' : Bindings α} (le : b.Le b') {e : Expr α} {v : α}
    (value : e.evaluate b = .ok v) : e.evaluate b' = .ok v := by
  induction e generalizing v with
  | number w => exact value
  | letter c =>
      rw [evaluate] at value ⊢
      cases given : b c with
      | none =>
          rw [given] at value
          cases value
      | some w =>
          rw [given] at value
          rw [le c w given]
          exact value
  | unary operator e ih =>
      obtain ⟨w, operand, result⟩ := bind_ok_iff.mp value
      exact bind_ok_iff.mpr ⟨w, ih operand, result⟩
  | binary operator l r ihl ihr =>
      obtain ⟨x, left, rest⟩ := bind_ok_iff.mp value
      obtain ⟨y, right, result⟩ := bind_ok_iff.mp rest
      exact bind_ok_iff.mpr ⟨x, ihl left, bind_ok_iff.mpr ⟨y, ihr right, result⟩⟩

def Bindings.Zeros (b : Bindings α) : Prop := ∀ c v, b c = some v → v = zero

theorem Bindings.zeros_all (names : List Char) : (all names (zero : α)).Zeros := by
  intro c v given
  unfold all at given
  split at given
  · exact (Option.some.inj given).symm
  · cases given

theorem Bindings.Zeros.set {b : Bindings α} (zeros : b.Zeros) (name : Char) :
    (b.set name zero).Zeros := by
  intro c v given
  unfold Bindings.set at given
  split at given
  · exact (Option.some.inj given).symm
  · exact zeros c v given

theorem Bindings.zeros_empty : (empty : Bindings α).Zeros := nofun

/-- A side that has a finite value with its letters zero has a linear form, whichever other letters
have a value. -/
theorem LinearForm.exists_form {letter : Char} (alpha : letter.isAlpha = true) {offset : Nat}
    {side : List Char} {e : Expr α} (parsed : Expr.ofSide offset side = .ok e) {b : Bindings α}
    (zeros : b.Zeros) {v : α} (value : e.evaluate b = .ok v) (finite : isFinite v = true) :
    ∃ form : LinearForm α, decompose letter offset side = .ok form ∧ form.constant = v := by
  have more : b.Le fun c => if c ∈ lettersOf side then some zero else b c := by
    intro c w given
    change ite _ _ _ = some w
    split
    · rw [zeros c w given]
    · exact given
  exact exists_decompose alpha parsed (fun c mem => if_pos mem) (Expr.evaluate_of_le more value)
    finite

end Values

section Failures

variable {sides : Sides} {main : Char} {others : List Char} {probe : Probe Float}

theorem Probe.exists_sides {b : Bindings Float} (finite : isFinite (probe.difference b) = true) :
    ∃ l r, probe.left.evaluate b = .ok l ∧ probe.right.evaluate b = .ok r ∧ isFinite l = true ∧
      isFinite r = true := by
  have undefined_infinite : isFinite (undefined : Float) = false := by decide +kernel
  unfold difference at finite
  split at finite
  · rename_i l r left right
    exact ⟨l, r, left, right, finite_of_sub finite⟩
  · rw [undefined_infinite] at finite
    cases finite

/-- Sides with a finite difference where letters are zero have linear forms. -/
theorem Probe.exists_forms (trees : ofSides sides = .ok probe) (alpha : main.isAlpha = true)
    {b : Bindings Float} (zeros : b.Zeros) (finite : isFinite (probe.difference b) = true) :
    ∃ left right : LinearForm Float, LinearForm.decompose main 0 sides.left = .ok left ∧
      LinearForm.decompose main sides.rightOffset sides.rightOrZero = .ok right := by
  obtain ⟨hleft, hright⟩ := ofSides_ok_iff.mp trees
  obtain ⟨l, r, left, right, finiteLeft, finiteRight⟩ := exists_sides finite
  obtain ⟨formLeft, decomposedLeft, -⟩ := LinearForm.exists_form alpha hleft zeros left finiteLeft
  obtain ⟨formRight, decomposedRight, -⟩ :=
    LinearForm.exists_form alpha hright zeros right finiteRight
  exact ⟨formLeft, formRight, decomposedLeft, decomposedRight⟩

/-- The difference of the sides is finite at no point that is probed; where a letter of the sides
has no value the difference has none either. -/
def Probe.Infinite (probe : Probe Float) (letter : Char) : Prop :=
  ∀ x ∈ points, isFinite (probe.along Bindings.empty letter x) = false

theorem Derivation.ofSingle_error_iff (trees : Probe.ofSides sides = .ok probe)
    (alpha : main.isAlpha = true) (options : SolverOptions Float) :
    (∃ error, ofSingle sides main options = .error error) ↔ probe.Infinite main := by
  rw [ofSingle, trees]
  simp only [bind, Except.bind]
  cases affine : Probe.affineSlope (probe.along Bindings.empty main) with
  | none =>
      by_cases infinite : probe.Infinite main
      · refine iff_of_true ⟨.expression .notFinite none, ?_⟩ infinite
        rw [if_neg (by simpa [Probe.Infinite] using infinite)]
        rfl
      · refine iff_of_false ?_ infinite
        rw [if_pos (by simpa [Probe.Infinite] using infinite)]
        rintro ⟨error, ⟨⟩⟩
  | some slope =>
      have finite := (Probe.affineSlope_eq_some_iff.mp affine).1 zero List.mem_cons_self
      obtain ⟨left, right, formLeft, formRight⟩ :=
        Probe.exists_forms trees alpha (Bindings.zeros_empty.set main) finite
      rw [formLeft, formRight]
      refine iff_of_false ?_ fun infinite => ?_
      · rintro ⟨error, ⟨⟩⟩
      · exact Bool.false_ne_true ((infinite zero List.mem_cons_self).symm.trans finite)

theorem Derivation.ofSeveral_error_iff (trees : Probe.ofSides sides = .ok probe)
    (alpha : ∀ c ∈ main :: others, c.isAlpha = true) :
    (∃ error, ofSeveral (α := Float) sides main others = .error error) ↔
      ∃ letter, probe.firstNonlinear (main :: others) = some letter := by
  rw [ofSeveral, trees]
  simp only [bind, Except.bind]
  cases nonlinear : probe.firstNonlinear (main :: others) with
  | some letter => exact iff_of_true ⟨_, rfl⟩ ⟨letter, rfl⟩
  | none =>
      refine iff_of_false ?_ (by rintro ⟨letter, ⟨⟩⟩)
      obtain ⟨slope, _, affine, -⟩ :=
        Probe.firstNonlinear_eq_none_iff.mp nonlinear main List.mem_cons_self
      have finite := (Probe.affineSlope_eq_some_iff.mp affine).1 zero List.mem_cons_self
      obtain ⟨left, right, formLeft, formRight⟩ :=
        Probe.exists_forms trees (alpha main List.mem_cons_self)
          ((Bindings.zeros_all (main :: others)).set main) finite
      obtain ⟨reading, read⟩ := CoefficientReading.exists_reading trees (main :: others)
        (alpha main List.mem_cons_self)
      obtain ⟨readings, readOthers, -⟩ := exists_mapM fun c mem =>
        CoefficientReading.exists_reading trees (main :: others)
          (alpha c (List.mem_cons_of_mem _ mem))
      simp only [formLeft, formRight, read, readOthers]
      rintro ⟨error, ⟨⟩⟩

end Failures

section Traces

variable {sides : Sides} {main : Char} {others : List Char} {options : SolverOptions Float}

/-- Resolving leaves all traces alone when it fails, and adds the same steps to all of them when it
succeeds. -/
inductive OnlyAppends (resolve : Traced (Resolution Float)) : Prop where
  | failed {error : SolveError} (unchanged : ∀ trace, resolve.run trace = (.error error, trace))
  | resolved {resolution : Resolution Float} {steps : List String} (some : steps ≠ [])
      (appended : ∀ trace, resolve.run trace = (.ok resolution, ⟨trace.lines ++ steps⟩))

namespace OnlyAppends

variable {resolve : Traced (Resolution Float)} {trace : Trace}

theorem unchanged (appends : OnlyAppends resolve) {error : SolveError}
    (failed : (resolve.run trace).1 = .error error) :
    resolve.run trace = (.error error, trace) := by
  cases appends with
  | failed unchanged =>
      rw [unchanged] at failed ⊢
      rw [Except.error.inj failed]
  | resolved _ appended =>
      rw [appended] at failed
      cases failed

theorem isPrefix (appends : OnlyAppends resolve) :
    trace.lines <+: (resolve.run trace).2.lines := by
  cases appends with
  | failed unchanged => rw [unchanged]
  | resolved _ appended =>
      rw [appended]
      exact List.prefix_append _ _

end OnlyAppends

theorem Derivation.steps_ne_nil (d : Derivation Float) : d.steps sides options ≠ [] := by
  cases d with
  | linear d | searched d | reduced d => exact List.cons_ne_nil _ _

namespace Traced.Derives

variable {resolve : Traced (Resolution Float)} {derived : Except SolveError (Derivation Float)}

theorem onlyAppends (derives : resolve.Derives derived sides options) : OnlyAppends resolve := by
  cases result : derived with
  | error fault => exact .failed (derives.fails result)
  | ok d => exact .resolved d.steps_ne_nil (derives.adds result)

theorem error_iff (derives : resolve.Derives derived sides options) {trace : Trace} :
    (∃ error, (resolve.run trace).1 = .error error) ↔ ∃ error, derived = .error error := by
  cases result : derived with
  | error fault => exact iff_of_true ⟨fault, by rw [derives.fails result]⟩ ⟨fault, rfl⟩
  | ok d => exact iff_of_false (by rw [derives.adds result]; exact nofun) nofun

end Traced.Derives

/-- Both sides are expressions of the grammar, once their signs are collapsed. -/
def Sides.Parse (sides : Sides) : Prop :=
  IsExpression Float (collapseSigns sides.left) ∧
    IsExpression Float (collapseSigns sides.rightOrZero)

theorem Sides.parse_iff : sides.Parse ↔ ∃ probe : Probe Float, Probe.ofSides sides = .ok probe := by
  rw [Parse, isExpression_iff 0, isExpression_iff sides.rightOffset]
  constructor
  · rintro ⟨⟨left, hleft⟩, right, hright⟩
    exact ⟨⟨left, right⟩, Probe.ofSides_ok_iff.mpr ⟨hleft, hright⟩⟩
  · rintro ⟨probe, trees⟩
    obtain ⟨hleft, hright⟩ := Probe.ofSides_ok_iff.mp trees
    exact ⟨⟨_, hleft⟩, _, hright⟩

/-- A failure for one of two reasons: a side is no expression, or the probed sides are refused. -/
theorem Sides.error_iff {β : Type} {derive : Except SolveError β} {Refused : Probe Float → Prop}
    (unparsed : ∀ error, Probe.ofSides (α := Float) sides = .error error → derive = .error error)
    (probed : ∀ probe, Probe.ofSides sides = .ok probe →
      ((∃ error, derive = .error error) ↔ Refused probe)) :
    (∃ error, derive = .error error) ↔
      ¬ sides.Parse ∨ ∃ probe, Probe.ofSides sides = .ok probe ∧ Refused probe := by
  rw [parse_iff]
  cases trees : Probe.ofSides (α := Float) sides with
  | error cause => exact iff_of_true ⟨cause, unparsed cause trees⟩ (.inl nofun)
  | ok probe =>
      rw [probed probe trees]
      constructor
      · exact fun refused => .inr ⟨probe, rfl, refused⟩
      · rintro (none | ⟨_, ⟨⟩, refused⟩)
        · exact (none ⟨probe, rfl⟩).elim
        · exact refused

/-- Resolving any sides for any letters: a failure leaves the trace as it was and a success keeps
it as the beginning of the longer one, whose other steps do not depend on it. With one letter
resolving fails exactly when a side is no expression or the difference is finite at no probed
point; with several, exactly when a side is no expression or the difference is not linear in one of
them. -/
theorem resolve_onlyAppends (sides : Sides) {main : Char} {others : List Char}
    (alpha : ∀ c ∈ main :: others, c.isAlpha = true) (options : SolverOptions Float) :
    let single := resolveSingle sides main options
    let several := resolveSeveral sides main others options
    OnlyAppends single ∧ OnlyAppends several ∧
      (∀ trace, (∃ error, (single.run trace).1 = .error error) ↔
        ¬ sides.Parse ∨ ∃ probe, Probe.ofSides sides = .ok probe ∧ probe.Infinite main) ∧
      ∀ trace, (∃ error, (several.run trace).1 = .error error) ↔
        ¬ sides.Parse ∨ ∃ probe : Probe Float, Probe.ofSides sides = .ok probe ∧
          ∃ letter, probe.firstNonlinear (main :: others) = some letter := by
  intro single several
  have single_ := resolveSingle_derives sides main options
  have several_ := resolveSeveral_derives sides main others options
  refine ⟨single_.onlyAppends, several_.onlyAppends, fun trace => ?_, fun trace => ?_⟩
  · refine single_.error_iff.trans (Sides.error_iff (fun error failed => ?_) ?_)
    · rw [Derivation.ofSingle, failed]
      rfl
    · exact fun probe trees =>
        Derivation.ofSingle_error_iff trees (alpha main List.mem_cons_self) options
  · refine several_.error_iff.trans (Sides.error_iff (fun error failed => ?_) ?_)
    · rw [Derivation.ofSeveral, failed]
      rfl
    · exact fun probe trees => Derivation.ofSeveral_error_iff trees alpha

/-- The sides of `x/0=` lead nowhere, for one letter as for two, and those of `2x+3=7` do. -/
theorem resolve_onlyAppends_examples :
    (∀ c ∈ ['x', 'y'], c.isAlpha = true) ∧
      (∀ trace, ∃ error,
        (resolveSingle (α := Float) ⟨"x/0".toList, [], 4⟩ 'x' default).run trace =
          (.error error, trace)) ∧
      (∀ trace, ∃ error,
        (resolveSeveral (α := Float) ⟨"x/0".toList, [], 4⟩ 'x' ['y'] default).run trace =
          (.error error, trace)) ∧
      let line : Traced (Resolution Float) := resolveSingle ⟨"2x+3".toList, ['7'], 5⟩ 'x' default
      ∀ trace, (∃ resolution, (line.run trace).1 = .ok resolution) ∧
        trace.lines <+: (line.run trace).2.lines := by
  have alpha : ∀ c ∈ ['x', 'y'], c.isAlpha = true := by simp [Char.isAlpha]
  have trees : Probe.ofSides (α := Float) ⟨"x/0".toList, [], 4⟩ =
      .ok ⟨.binary .slash (.letter 'x') (.number (ofDecimal 0 0)), .number (ofDecimal 0 0)⟩ := rfl
  obtain ⟨appendsSingle, appendsSeveral, single, several⟩ :=
    resolve_onlyAppends ⟨"x/0".toList, [], 4⟩ alpha default
  refine ⟨alpha, fun trace => ?_, fun trace => ?_, fun trace => ⟨?_, ?_⟩⟩
  · obtain ⟨error, failed⟩ := (single trace).mpr
      (.inr ⟨_, trees, show ∀ x ∈ Probe.points, _ = false by decide +kernel⟩)
    exact ⟨error, appendsSingle.unchanged failed⟩
  · obtain ⟨error, failed⟩ := (several trace).mpr (.inr ⟨_, trees, 'x', by decide +kernel⟩)
    exact ⟨error, appendsSeveral.unchanged failed⟩
  · obtain ⟨d, derived, -⟩ := exists_ok (p := fun _ => true)
      (x := Derivation.ofSingle (α := Float) ⟨"2x+3".toList, ['7'], 5⟩ 'x' default)
      (by decide +kernel)
    exact ⟨_, congrArg Prod.fst ((resolveSingle_derives _ _ _).adds derived trace)⟩
  · exact (resolve_onlyAppends ⟨"2x+3".toList, ['7'], 5⟩ alpha default).1.isPrefix

end Traces

end WorkedAlgebra
