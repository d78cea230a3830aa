import WorkedAlgebra.Proofs.OpposedSearch
import WorkedAlgebra.Proofs.Outcomes

/-!
Swapping the sides of an equation in one letter. The difference of the sides becomes its opposite,
and no test, no division and no search that follows tells opposite differences apart.
-/

namespace WorkedAlgebra

open Rounding Scalar Text Float.Model

section Probing

namespace Probe

variable {f g : Float → Float} (opposed : ∀ x, Opposed (f x) (g x))

theorem isFinite_point {p : Float} (mem : p ∈ points) : isFinite p = true := by
  obtain ⟨t, -, denotes⟩ := exists_exactPoint mem
  exact denotes.finite

include opposed

theorem scale_opposed : scale g = scale f := by
  have sizes (p : Float) : Scalar.abs (g p) = Scalar.abs (f p) := (opposed p).abs_eq
  simp only [scale, List.foldl_map, sizes]

theorem deviation_opposed {p : Float} (finite : isFinite p = true) :
    deviation g p = deviation f p :=
  ((opposed p).sub ((opposed zero).add
    (((opposed one).sub (opposed zero)).mul_right finite))).abs_eq

/-- Opposed functions are affine alike, with opposed slopes. -/
theorem affineSlope_opposed : Option.Rel Opposed (affineSlope f) (affineSlope g) := by
  have finite : (points.map g).all isFinite = (points.map f).all isFinite := by
    simp only [List.all_map, Function.comp_def, fun x => (opposed x).isFinite_eq]
  have near : (points.all fun p => le (deviation g p) (tolerance * scale g)) =
      points.all fun p => le (deviation f p) (tolerance * scale f) := by
    rw [Bool.eq_iff_iff, List.all_eq_true, List.all_eq_true]
    refine forall₂_congr fun p mem => ?_
    rw [deviation_opposed opposed (isFinite_point mem), scale_opposed opposed]
  rw [affineSlope_eq, affineSlope_eq, finite, near]
  split
  · split
    · exact .some ((opposed one).sub (opposed zero))
    · exact .none
  · exact .none

omit opposed

theorem agrees_opposed {a a' b b' : Float} (ha : Opposed a a') (hb : Opposed b b') :
    agrees a' b' = agrees a b := by
  rw [agrees, (ha.sub hb).abs_eq, ha.abs_eq, hb.abs_eq, agrees]

/-- Only a number agrees with anything. -/
theorem number_of_agrees {a b : Float} (agree : agrees a b = true) :
    a.toModel.unpack ≠ .notANumber := by
  intro none
  rw [agrees, le_of_undefined (undefined_abs (undefined_sub none))] at agree
  cases agree

end Probe

end Probing

section Forms

variable {α : Type} [Scalar α]

theorem Expr.ofSide_offset {offset : Nat} {side : List Char} {e : Expr α}
    (parsed : ofSide offset side = .ok e) (other : Nat) : ofSide other side = .ok e :=
  ofText_ok_iff.mpr (ofText_ok_iff.mp parsed)

theorem LinearForm.decompose_offset {letter : Char} {offset : Nat} {side : List Char}
    {form : LinearForm α} (decomposed : decompose letter offset side = .ok form) (other : Nat) :
    decompose letter other side = .ok form := by
  obtain ⟨scanned, e, parsed, constant⟩ := decompose_ok_iff.mp decomposed
  exact decompose_ok_iff.mpr ⟨scanned, e, Expr.ofSide_offset parsed other, constant⟩

/-- The constant of a form is the value of its side with all letters zero. -/
theorem LinearForm.evaluate_constant {letter : Char} {offset : Nat} {side : List Char}
    {form : LinearForm α} (decomposed : decompose letter offset side = .ok form) {e : Expr α}
    (parsed : Expr.ofSide offset side = .ok e) {b : Bindings α}
    (zeros : ∀ c ∈ lettersOf side, b c = some zero) : e.evaluate b = .ok form.constant := by
  obtain ⟨-, e', parsed', constant, -⟩ := decompose_ok_iff.mp decomposed
  obtain rfl : e = e' := Except.ok.inj (parsed.symm.trans parsed')
  rw [← constant, lettersOf_collapseSigns]
  refine Expr.evaluate_side_congr parsed fun c mem => ?_
  rw [zeros c mem, Bindings.all, if_pos (List.contains_iff_mem.mpr mem)]

/-- Where all letters are zero the difference of the sides is that of the constants. -/
theorem Probe.difference_zeros {sides : Sides} {probe : Probe α}
    (trees : ofSides sides = .ok probe) {letter : Char} {left right : LinearForm α}
    (hleft : LinearForm.decompose letter 0 sides.left = .ok left)
    (hright : LinearForm.decompose letter sides.rightOffset sides.rightOrZero = .ok right)
    {b : Bindings α}
    (zeros : ∀ c ∈ lettersOf sides.left ++ lettersOf sides.rightOrZero, b c = some zero) :
    probe.difference b = left.constant - right.constant := by
  obtain ⟨parsedLeft, parsedRight⟩ := ofSides_ok_iff.mp trees
  obtain ⟨zerosLeft, zerosRight⟩ := List.forall_mem_append.mp zeros
  rw [difference, LinearForm.evaluate_constant hleft parsedLeft zerosLeft,
    LinearForm.evaluate_constant hright parsedRight zerosRight]

end Forms

section Verdicts

inductive SameResolution : Resolution Float → Resolution Float → Prop where
  | unique {v w : Float} (value : Scalar.eq v w = true) : SameResolution (.unique v) (.unique w)
  | allReals : SameResolution .allReals .allReals
  | noSolution : SameResolution .noSolution .noSolution
  | approximate {a b : Estimate Float} (value : Scalar.eq a.value b.value = true)
      (residual : Scalar.eq a.residual b.residual = true) (iterations : a.iterations = b.iterations)
      (converged : a.converged = b.converged) : SameResolution (.approximate a) (.approximate b)

inductive SameOutcome :
    Except SolveError (Resolution Float) → Except SolveError (Resolution Float) → Prop where
  | failed {cause cause' : SolveError} : SameOutcome (.error cause) (.error cause')
  | solved {a b : Resolution Float} (same : SameResolution a b) : SameOutcome (.ok a) (.ok b)

/-- With an opposed coefficient and the constants exchanged the verdict is the same. -/
theorem classify_swapped {c c' l r : Float} (coefficient : Opposed c c')
    (number : c.toModel.unpack ≠ .notANumber) (finite : isFinite (l - r) = true) :
    SameResolution (.classify c l r) (.classify c' r l) := by
  obtain ⟨finiteL, finiteR⟩ := finite_of_sub finite
  have balance : Scalar.eq r l = Scalar.eq l r := by
    rw [(denotes_value finiteR).eq_eq (denotes_value finiteL),
      (denotes_value finiteL).eq_eq (denotes_value finiteR)]
    exact decide_eq_decide.mpr eq_comm
  unfold Resolution.classify
  rw [coefficient.isZero_eq, balance]
  by_cases zero : isZero c = true
  · rw [if_pos zero, if_pos zero]
    split
    · exact .allReals
    · exact .noSolution
  · rw [if_neg zero, if_neg zero]
    have finite' : isFinite (r - l) = true := (opposed_sub_comm l r).isFinite_eq.trans finite
    exact .unique ((opposed_sub_comm r l).div coefficient finite' (Bool.eq_false_iff.mpr zero)
      number)

/-- Linear derivations with the forms exchanged and opposed slopes. -/
theorem LinearDerivation.resolution_swapped {d d' : LinearDerivation Float}
    (left : d'.left = d.right) (right : d'.right = d.left) (slope : Opposed d.slope d'.slope)
    (number : d.slope.toModel.unpack ≠ .notANumber)
    (finite : isFinite (d.left.constant - d.right.constant) = true) :
    SameResolution d.resolution d'.resolution := by
  have scanned : Opposed d.scanned d'.scanned := by
    rw [LinearDerivation.scanned, LinearDerivation.scanned, left, right]
    exact opposed_sub_comm _ _
  have agrees : d'.agrees = d.agrees := Probe.agrees_opposed scanned slope
  have coefficient : Opposed d.coefficient d'.coefficient ∧
      d.coefficient.toModel.unpack ≠ .notANumber := by
    unfold LinearDerivation.coefficient
    rw [agrees]
    split
    · exact ⟨scanned, Probe.number_of_agrees ‹_›⟩
    · exact ⟨slope, number⟩
  rw [LinearDerivation.resolution, LinearDerivation.resolution, left, right]
  exact classify_swapped coefficient.1 coefficient.2 finite

end Verdicts

section Equations

def Probe.swapped {α : Type} (probe : Probe α) : Probe α := ⟨probe.right, probe.left⟩

variable {probe : Probe Float}

theorem Probe.difference_swapped (probe : Probe Float) (b : Bindings Float) :
    Opposed (probe.difference b) (probe.swapped.difference b) := by
  unfold difference swapped
  cases probe.left.evaluate b with
  | error fault => cases probe.right.evaluate b <;> exact opposed_undefined
  | ok l =>
      cases probe.right.evaluate b with
      | error fault => exact opposed_undefined
      | ok r => exact opposed_sub_comm l r

theorem Probe.NowhereFinite.swapped {letter : Char} (nowhere : probe.NowhereFinite letter) :
    probe.swapped.NowhereFinite letter := by
  intro p mem
  obtain ⟨l, r, left, right, infinite⟩ := nowhere p mem
  exact ⟨r, l, right, left, (opposed_sub_comm l r).isFinite_eq.trans infinite⟩

theorem Sides.rightOrZero_of_filled {sides : Sides} (filled : sides.right ≠ []) :
    sides.rightOrZero = sides.right := by
  rw [rightOrZero, if_neg (by simpa using filled)]

variable {left right : List Char}

theorem Probe.ofSides_swapped (filledLeft : left ≠ []) (filledRight : right ≠ []) {m n : Nat}
    (trees : ofSides ⟨left, right, m⟩ = .ok probe) :
    ofSides ⟨right, left, n⟩ = .ok probe.swapped := by
  obtain ⟨hleft, hright⟩ := ofSides_ok_iff.mp trees
  rw [Sides.rightOrZero_of_filled filledRight] at hright
  refine ofSides_ok_iff.mpr ⟨Expr.ofSide_offset hright 0, ?_⟩
  rw [Sides.rightOrZero_of_filled filledLeft]
  exact Expr.ofSide_offset hleft n

/-- The letters of a text are one letter, in either case. -/
structure OneLetter (text : List Char) : Prop where
  occurs : ∃ c ∈ text, c.isAlpha = true
  same : ∀ c ∈ text, ∀ d ∈ text, c.isAlpha = true → d.isAlpha = true → c.toLower = d.toLower

theorem distinct_of_same {cs : List Char} {letter : Char} (filled : cs ≠ [])
    (same : ∀ c ∈ cs, c = letter) : distinct cs = [letter] := by
  cases cs with
  | nil => exact (filled rfl).elim
  | cons c cs =>
      obtain ⟨rfl, rest⟩ := List.forall_mem_cons.mp same
      have none : (distinct cs).filter (· != c) = [] := by
        refine List.filter_eq_nil_iff.mpr fun d mem => ?_
        simpa using rest d (mem_distinct.mp mem)
      rw [distinct, none]

theorem lettersOf_cut (left right : List Char) :
    lettersOf (left ++ '=' :: right) = lettersOf left ++ lettersOf right := by
  rw [lettersOf_append]
  rfl

theorem Problem.ofClean_single {letter : Char} (filled : left ≠ []) (absentLeft : '=' ∉ left)
    (absentRight : '=' ∉ right) (occurs : lettersOf left ++ lettersOf right ≠ [])
    (same : ∀ c ∈ lettersOf left ++ lettersOf right, c = letter) :
    Problem.ofClean (left ++ '=' :: right) =
      .ok ⟨⟨left, right, left.length + 1⟩, letter, []⟩ := by
  refine Problem.ofClean_ok_iff.mpr ⟨?_, ?_⟩
  · rw [Sides.split, pieces_cut absentLeft, pieces_of_absent absentRight]
    simp [filled]
  · rw [detectLetters, lettersOf_cut]
    exact distinct_of_same occurs same

/-- Both orders of the sides are about the same letter. -/
theorem OneLetter.exists_problems (single : OneLetter (left ++ right)) (filledLeft : left ≠ [])
    (filledRight : right ≠ []) (absentLeft : '=' ∉ left) (absentRight : '=' ∉ right) :
    ∃ letter, (∀ c ∈ lettersOf left ++ lettersOf right, c = letter) ∧
      Problem.ofClean (left ++ '=' :: right) = .ok ⟨⟨left, right, left.length + 1⟩, letter, []⟩ ∧
        Problem.ofClean (right ++ '=' :: left) =
          .ok ⟨⟨right, left, right.length + 1⟩, letter, []⟩ := by
  obtain ⟨d, memD, alphaD⟩ := single.occurs
  have both := lettersOf_append left right
  have occurs : d.toLower ∈ lettersOf left ++ lettersOf right :=
    both ▸ mem_lettersOf.mpr ⟨d, memD, alphaD, rfl⟩
  have same (c : Char) (mem : c ∈ lettersOf left ++ lettersOf right) : c = d.toLower := by
    rw [← both] at mem
    obtain ⟨e, memE, alphaE, rfl⟩ := mem_lettersOf.mp mem
    exact single.same e memE d memD alphaE alphaD
  have turned {c : Char} : c ∈ lettersOf right ++ lettersOf left ↔
      c ∈ lettersOf left ++ lettersOf right := by
    rw [List.mem_append, List.mem_append, or_comm]
  exact ⟨d.toLower, same,
    Problem.ofClean_single filledLeft absentLeft absentRight (List.ne_nil_of_mem occurs) same,
    Problem.ofClean_single filledRight absentRight absentLeft (List.ne_nil_of_mem (turned.mpr occurs))
      fun c mem => same c (turned.mp mem)⟩

variable {letter : Char} {m n : Nat}

/-- The constants are the values of the sides at zero, which is a probe point. -/
theorem finite_balance {leftForm rightForm : LinearForm Float} (filledRight : right ≠ [])
    (letters : ∀ c ∈ lettersOf left ++ lettersOf right, c = letter)
    (trees : Probe.ofSides ⟨left, right, m⟩ = .ok probe)
    (hleft : LinearForm.decompose letter 0 left = .ok leftForm)
    (hright : LinearForm.decompose letter m right = .ok rightForm)
    (finite : isFinite (probe.along Bindings.empty letter zero) = true) :
    isFinite (leftForm.constant - rightForm.constant) = true := by
  have filled : (⟨left, right, m⟩ : Sides).rightOrZero = right :=
    Sides.rightOrZero_of_filled filledRight
  have zeros (c : Char) (mem : c ∈ lettersOf left ++ lettersOf right) :
      Bindings.empty.set letter (zero : Float) c = some zero := by
    rw [Bindings.set, if_pos (beq_iff_eq.mpr (letters c mem))]
  rwa [Probe.along, Probe.difference_zeros trees hleft (by rwa [filled]) (by rwa [filled])]
    at finite

/-- The affine test leads to the same resolution whichever side is which. -/
theorem Derivation.resolution_swapped {options : SolverOptions Float} (filledLeft : left ≠ [])
    (filledRight : right ≠ []) (letters : ∀ c ∈ lettersOf left ++ lettersOf right, c = letter)
    {d d' : Derivation Float}
    (derived : ofSingle ⟨left, right, m⟩ letter options = .ok d)
    (derived' : ofSingle ⟨right, left, n⟩ letter options = .ok d') :
    SameResolution d.resolution d'.resolution := by
  obtain ⟨probe, trees, run⟩ := ofSingle_ok derived
  obtain ⟨probe', trees', run'⟩ := ofSingle_ok derived'
  obtain rfl : probe.swapped = probe' :=
    Except.ok.inj ((Probe.ofSides_swapped filledLeft filledRight trees).symm.trans trees')
  have opposed (x : Float) : Opposed (probe.along Bindings.empty letter x)
      (probe.swapped.along Bindings.empty letter x) := probe.difference_swapped _
  have affine := Probe.affineSlope_opposed opposed
  rcases run with ⟨curved, rfl⟩ | ⟨slope, leftForm, rightForm, straight, hleft, hright, rfl⟩
  · rcases run' with ⟨curved', rfl⟩ | ⟨slope', leftForm', rightForm', straight', -⟩
    · have same := Bisection.search_opposed options opposed
      obtain ⟨value, residual⟩ :=
        Bisection.search_eq_self (probe.along Bindings.empty letter) options
      refine .approximate ?_ ?_ ?_ ?_ <;>
        simp only [SearchDerivation.estimate, SearchDerivation.ofProbe, same, value, residual]
    · rw [curved, straight'] at affine
      cases affine
  · rcases run' with ⟨curved', rfl⟩ |
      ⟨slope', leftForm', rightForm', straight', hleft', hright', rfl⟩
    · rw [straight, curved'] at affine
      cases affine
    · rw [straight, straight', Option.rel_some_some] at affine
      obtain ⟨finite, -, rfl⟩ := Probe.affineSlope_eq_some_iff.mp straight
      have zeroPoint : (zero : Float) ∈ Probe.points := List.mem_cons_self
      have onePoint : (one : Float) ∈ Probe.points := List.mem_cons_of_mem _ List.mem_cons_self
      rw [Sides.rightOrZero_of_filled filledRight] at hright
      rw [Sides.rightOrZero_of_filled filledLeft] at hright'
      exact LinearDerivation.resolution_swapped
        (Except.ok.inj (hleft'.symm.trans (LinearForm.decompose_offset hright 0)))
        (Except.ok.inj (hright'.symm.trans (LinearForm.decompose_offset hleft n))) affine
        (number_sub (finite one onePoint) (finite zero zeroPoint))
        (finite_balance filledRight letters trees hleft hright (finite zero zeroPoint))

def resolutionOf (options : SolverOptions Float) (clean : List Char) :
    Except SolveError (Resolution Float) :=
  (resolveClean options clean).map fun r => r.2.resolution

theorem solve_resolution [Unicode.Form] (options : SolverOptions Float) (text : String) :
    (solve options text).map Solution.resolution =
      resolutionOf options (normalize text.toList) := by
  rw [solve_eq, resolutionOf]
  cases resolveClean options (normalize text.toList) with
  | error cause => rfl
  | ok r => rfl

theorem resolutionOf_eq {options : SolverOptions Float} {clean : List Char} {sides : Sides}
    (stated : Problem.ofClean clean = .ok ⟨sides, letter, []⟩) :
    resolutionOf options clean =
      (Derivation.ofSingle sides letter options).map Derivation.resolution := by
  rw [resolutionOf, resolveClean, stated]
  change ((Derivation.ofSingle sides letter options >>= _).map _) = _
  cases Derivation.ofSingle sides letter options with
  | error cause => rfl
  | ok d => rfl

/-- Swapping the sides of a clean equation in one letter, whatever else the sides consist of. -/
theorem resolutionOf_swapped (options : SolverOptions Float) (filledLeft : left ≠ [])
    (filledRight : right ≠ []) (absentLeft : '=' ∉ left) (absentRight : '=' ∉ right)
    (single : OneLetter (left ++ right)) :
    SameOutcome (resolutionOf options (left ++ '=' :: right))
      (resolutionOf options (right ++ '=' :: left)) := by
  obtain ⟨letter, among, stated, stated'⟩ :=
    single.exists_problems filledLeft filledRight absentLeft absentRight
  rw [resolutionOf_eq stated, resolutionOf_eq stated']
  cases trees : Probe.ofSides (α := Float) ⟨left, right, left.length + 1⟩ with
  | error cause =>
      cases trees' : Probe.ofSides (α := Float) ⟨right, left, right.length + 1⟩ with
      | ok probe =>
          cases trees.symm.trans (Probe.ofSides_swapped filledRight filledLeft trees')
      | error cause' =>
          rw [Derivation.ofSingle, Derivation.ofSingle, trees, trees']
          exact .failed
  | ok probe =>
      have trees' := Probe.ofSides_swapped (n := right.length + 1) filledLeft filledRight trees
      rcases (Problem.covers_of_ofClean stated trees).single options rfl with
        ⟨nowhere, failed⟩ | ⟨somewhere, d, derived⟩
      · rcases (Problem.covers_of_ofClean stated' trees').single options rfl with
          ⟨-, failed'⟩ | ⟨somewhere', -⟩
        · rw [failed, failed']
          exact .failed
        · exact (somewhere' nowhere.swapped).elim
      · rcases (Problem.covers_of_ofClean stated' trees').single options rfl with
          ⟨nowhere', -⟩ | ⟨-, d', derived'⟩
        · exact (somewhere nowhere'.swapped).elim
        · rw [derived, derived']
          exact .solved (Derivation.resolution_swapped filledLeft filledRight among derived derived')

/-- Swapping the sides changes nothing: for all filled sides whose letters are one letter in either
case, and for all texts that cleanup turns into the one and the other equation, solving fails for
both or gives both the same resolution. -/
theorem solve_swapped [Unicode.Form] (options : SolverOptions Float) (filledLeft : left ≠ [])
    (filledRight : right ≠ []) (absentLeft : '=' ∉ left) (absentRight : '=' ∉ right)
    (single : OneLetter (left ++ right)) :
    SameOutcome (resolutionOf options (left ++ '=' :: right))
        (resolutionOf options (right ++ '=' :: left)) ∧
      ∀ text swapped : String, normalize text.toList = left ++ '=' :: right →
        normalize swapped.toList = right ++ '=' :: left →
          SameOutcome ((solve options text).map Solution.resolution)
            ((solve options swapped).map Solution.resolution) := by
  have same := resolutionOf_swapped options filledLeft filledRight absentLeft absentRight single
  refine ⟨same, fun text swapped clean clean' => ?_⟩
  rw [solve_resolution, solve_resolution, clean, clean']
  exact same

/-- A quadratic equation, whose sides are searched, either way round. -/
theorem solve_swapped_square :
    OneLetter (['x', '*', 'X'] ++ ['2']) ∧
      SameOutcome ((solve default "x * X = 2").map Solution.resolution)
        ((solve default "2 = x * X").map Solution.resolution) := by
  have single : OneLetter (['x', '*', 'X'] ++ ['2']) := ⟨⟨'x', by simp, rfl⟩, by simp⟩
  exact ⟨single, (solve_swapped default (by decide) (by decide) (by decide) (by decide) single).2
    _ _ (by decide +kernel) (by decide +kernel)⟩

end Equations

end WorkedAlgebra
