import WorkedAlgebra.Decimal.Layout
import WorkedAlgebra.Proofs.Derivations
import WorkedAlgebra.Proofs.DiscernedSides
import WorkedAlgebra.Proofs.PolynomialLines

/-!
The check that an equation is linear in several letters, compared with the equation in exact
arithmetic. Probing sees the difference of the sides only on the lines through all zeros and all
ones, where cross terms can cancel; those that do not are found.
-/

namespace WorkedAlgebra

open Rounding Scalar Polynomial

namespace Probe

/-- Wherever both sides are defined their difference is the quotient of two polynomials. -/
def IsQuotientOf (probe : Probe Float) (n d : MvPolynomial Char ℚ) : Prop :=
  ∀ at_ l r, probe.ExactAt at_ l r →
    MvPolynomial.eval at_ d ≠ 0 ∧ l - r = MvPolynomial.eval at_ n / MvPolynomial.eval at_ d

/-- Five points determine a quotient of low degrees on a line. -/
theorem IsQuotientOf.onLine_eq {probe : Probe Float} {n d : MvPolynomial Char ℚ}
    (quotient : probe.IsQuotientOf n d) {base : ℚ} {letter : Char} (degN : n.degreeOf letter ≤ 4)
    (degD : d.degreeOf letter ≤ 3) {k a : ℚ}
    (probed : ∀ t ∈ exactPoints,
      ∃ l r, probe.ExactAt (line base letter t) l r ∧ l - r = k + a * t) :
    onLine base letter n = (C k + C a * X) * onLine base letter d := by
  refine eq_line_mul (natDegree_onLine_le.trans degN) (natDegree_onLine_le.trans degD) ?_
  intro t ht
  obtain ⟨l, r, exact, value⟩ := probed t ht
  obtain ⟨pole, difference⟩ := quotient _ l r exact
  rw [value, eq_div_iff pole] at difference
  rw [eval_onLine, eval_onLine, difference]

theorem IsQuotientOf.affine_onLine {probe : Probe Float} {n d : MvPolynomial Char ℚ}
    (quotient : probe.IsQuotientOf n d) {base : ℚ} {letter : Char} {k a : ℚ}
    (same : onLine base letter n = (C k + C a * X) * onLine base letter d) {t l r : ℚ}
    (exact : probe.ExactAt (line base letter t) l r) : l - r = k + a * t := by
  obtain ⟨pole, difference⟩ := quotient _ l r exact
  rw [difference, ← eval_onLine, ← eval_onLine, same, eval_mul, eval_onLine, mul_div_assoc,
    div_self pole]
  simp

/-- Probing a letter over equal values of all others is probing on a line. -/
theorem along_all {letters : List Char} {letter : Char} {z : Float} {base : ℚ}
    (hz : Denotes z base) (p : Float) (t : ℚ) (hp : Denotes p t) (c : Char) (v : Float)
    (given : (Bindings.all letters z).set letter p c = some v) :
    Denotes v (line base letter t c) := by
  unfold Bindings.set Bindings.all at given
  unfold line
  by_cases same : c = letter
  · rw [if_pos (beq_iff_eq.mpr same)] at given
    rw [if_pos same, ← Option.some.inj given]
    exact hp
  · rw [if_neg (by simpa using same)] at given
    rw [if_neg same]
    split at given
    · rw [← Option.some.inj given]
      exact hz
    · cases given

def IsAffineIn (probe : Probe Float) (letters : List Char) : Prop :=
  ∃ (slope : Char → ℚ) (k : ℚ), ∀ at_ l r, probe.ExactAt at_ l r →
    l - r = k + ∑ letter ∈ letters.toFinset, slope letter * at_ letter

/-- An affine difference takes balanced values at the corners of a parallelogram. -/
theorem IsAffineIn.balanced {probe : Probe Float} {letters : List Char}
    (affine : probe.IsAffineIn letters) {a b c d : Char → ℚ} (corners : ∀ v, a v + d v = b v + c v)
    {p q r s : ℚ} (ha : probe.ExactAt a p 0) (hb : probe.ExactAt b q 0)
    (hc : probe.ExactAt c r 0) (hd : probe.ExactAt d s 0) : p + s = q + r := by
  obtain ⟨slope, k, value⟩ := affine
  have terms : ∑ v ∈ letters.toFinset, slope v * a v + ∑ v ∈ letters.toFinset, slope v * d v =
      ∑ v ∈ letters.toFinset, slope v * b v + ∑ v ∈ letters.toFinset, slope v * c v := by
    rw [← Finset.sum_add_distrib, ← Finset.sum_add_distrib]
    refine Finset.sum_congr rfl fun v _ => ?_
    rw [← mul_add, corners, mul_add]
  linarith [value _ _ _ ha, value _ _ _ hb, value _ _ _ hc, value _ _ _ hd]

/-- The difference of the sides is discerned wherever it is probed in the given letters, and so is
a difference of the two slopes of a letter. -/
def DiscernedOnLines (probe : Probe Float) (letters : List Char) (size error : Char → ℚ) : Prop :=
  ∀ letter ∈ letters,
    probe.Discerned (probe.along (Bindings.all letters zero) letter) (line 0 letter)
        (size letter) (error letter) ∧
      probe.Discerned (probe.along (Bindings.all letters one) letter) (line 1 letter)
          (size letter) (error letter) ∧
        Clear (slopeMargin (probe.exactSlope (line 0 letter)) (error letter))
          (probe.exactSlope (line 0 letter) - probe.exactSlope (line 1 letter))

/-- In each letter that passes the check the exact difference is affine at the probe points, with
the same slope on both lines. -/
theorem DiscernedOnLines.lines {probe : Probe Float} {letters : List Char} {size error : Char → ℚ}
    (discerned : probe.DiscernedOnLines letters size error)
    (linear : probe.firstNonlinear letters = none) {letter : Char} (mem : letter ∈ letters) :
    ∃ a k₀ k₁,
      (∀ t ∈ exactPoints, ∃ l r, probe.ExactAt (line 0 letter t) l r ∧ l - r = k₀ + a * t) ∧
        ∀ t ∈ exactPoints, ∃ l r, probe.ExactAt (line 1 letter t) l r ∧ l - r = k₁ + a * t := by
  obtain ⟨x, y, passedZero, passedOne, agree⟩ := firstNonlinear_eq_none_iff.mp linear letter mem
  obtain ⟨throughZero, throughOne, clear⟩ := discerned letter mem
  have same : probe.exactSlope (line 0 letter) = probe.exactSlope (line 1 letter) :=
    eq_of_agrees throughZero.error_nonneg (throughZero.nearSlope passedZero)
      (throughOne.nearSlope passedOne) agree clear
  exact ⟨_, _, _, fun t => throughZero.line passedZero,
    fun t ht => same ▸ throughOne.line passedOne ht⟩

def SettledOnLines (probe : Probe Float) (s : Nat) (letters : List Char) : Prop :=
  ∀ letter ∈ letters,
    (∀ t ∈ exactPoints, probe.SettledAt s stepLimit (line 0 letter t) ∧
        probe.SettledAt s stepLimit (line 1 letter t)) ∧
      ∀ p ∈ points, isFinite (probe.along (Bindings.all letters zero) letter p) = true ∧
        isFinite (probe.along (Bindings.all letters one) letter p) = true

instance (probe : Probe Float) (s : Nat) (letters : List Char) :
    Decidable (probe.SettledOnLines s letters) :=
  List.decidableBAll (fun letter =>
    (∀ t ∈ exactPoints, probe.SettledAt s stepLimit (line 0 letter t) ∧
        probe.SettledAt s stepLimit (line 1 letter t)) ∧
      ∀ p ∈ points, isFinite (probe.along (Bindings.all letters zero) letter p) = true ∧
        isFinite (probe.along (Bindings.all letters one) letter p) = true) letters

/-- Sides that are settled on all these lines are discerned there. -/
theorem SettledOnLines.discerned {probe : Probe Float} {letters : List Char} {s : Nat}
    (settled : probe.SettledOnLines s letters) (high : s ≤ 23) :
    probe.DiscernedOnLines letters (fun _ => 2 ^ 26 / 2 ^ s) fun _ => 0 := by
  intro letter mem
  obtain ⟨settled, finite⟩ := settled letter mem
  have settledZero := fun t ht => (settled t ht).1
  have settledOne := fun t ht => (settled t ht).2
  have finiteZero := fun p hp => (finite p hp).1
  have finiteOne := fun p hp => (finite p hp).2
  have slopeZero := onGrid_exactSlope (along_all denotes_zero) settledZero finiteZero high
  have slopeOne := onGrid_exactSlope (along_all denotes_one) settledOne finiteOne high
  exact ⟨.of_settled (along_all denotes_zero) settledZero finiteZero high,
    .of_settled (along_all denotes_one) settledOne finiteOne high,
    clear_of_onGrid (slopeZero.sub slopeOne) (slopeMargin_lt_step high slopeZero)⟩

end Probe

/-- A text is reduced in several letters; these are its trees and letters. -/
def SolvedSeverally [Unicode.Form] (options : SolverOptions Float) (text : String)
    (probe : Probe Float) (letters : List Char) : Prop :=
  ∃ solution problem reduction, solve options text = .ok solution ∧
    Problem.ofClean (Text.normalize text.toList) = .ok problem ∧
      Probe.ofSides problem.sides = .ok probe ∧ letters = problem.unknown :: problem.others ∧
        solution.resolution = .reduced reduction

theorem SolvedSeverally.linear [Unicode.Form] {options : SolverOptions Float} {text : String}
    {probe : Probe Float} {letters : List Char}
    (solved : SolvedSeverally options text probe letters) :
    probe.firstNonlinear letters = none := by
  obtain ⟨solution, problem, reduction, solved, stated, trees, rfl, reduced⟩ := solved
  obtain ⟨p, derivation, stated', derived, -, -, resolution⟩ := solve_ok solved
  obtain rfl : problem = p := Except.ok.inj (stated.symm.trans stated')
  rw [reduced] at resolution
  unfold Problem.derive at derived
  split at derived
  · obtain ⟨_, -, ⟨-, rfl⟩ | ⟨slope, left, right, -, -, -, rfl⟩⟩ := Derivation.ofSingle_ok derived
    · cases resolution
    · change Resolution.reduced reduction = Resolution.classify _ _ _ at resolution
      unfold Resolution.classify at resolution
      split at resolution
      · split at resolution <;> cases resolution
      · cases resolution
  · obtain ⟨probe', _, _, _, _, trees', linear, -⟩ := Derivation.ofSeveral_ok derived
    obtain rfl : probe = probe' := Except.ok.inj (trees.symm.trans trees')
    exact linear

theorem SolvedSeverally.exists_letter [Unicode.Form] {options : SolverOptions Float} {text : String}
    {probe : Probe Float} {letters : List Char}
    (solved : SolvedSeverally options text probe letters) : ∃ letter, letter ∈ letters := by
  obtain ⟨_, problem, _, -, -, -, rfl, -⟩ := solved
  exact ⟨problem.unknown, List.mem_cons_self⟩

/-- A quotient that is affine on all the lines, with the same slopes through zero and through one,
is affine everywhere if the lines show it. -/
theorem affine_of_shownOnLines {letters : Finset Char} {slope k₀ k₁ : Char → ℚ} {p₀ p₁ : ℚ}
    {n d : MvPolynomial Char ℚ} (shown : ShownOnLines letters n d)
    (origin : ∀ v ∈ letters, k₀ v = p₀) (ones : ∀ v ∈ letters, k₁ v + slope v = p₁)
    (throughZero : ∀ v ∈ letters, onLine 0 v n = (C (k₀ v) + C (slope v) * X) * onLine 0 v d)
    (throughOne : ∀ v ∈ letters, onLine 1 v n = (C (k₁ v) + C (slope v) * X) * onLine 1 v d) :
    n = affineForm letters slope p₀ * d := by
  refine shown slope p₀ (p₁ - (p₀ + ∑ v ∈ letters, slope v)) fun v hv => ?_
  rw [onLine_sub, onLine_sub, onLine_mul, onLine_mul, throughZero v hv, throughOne v hv,
    onLine_affineForm slope p₀ hv, onLine_affineForm slope p₀ hv, ← sub_mul, ← sub_mul, origin v hv]
  constructor
  · simp
  · have constant : k₁ v - (p₀ + (∑ w ∈ letters, slope w - slope v)) =
        p₁ - (p₀ + ∑ w ∈ letters, slope w) := by
      rw [← ones v hv]
      ring
    rw [add_sub_add_right_eq_sub, ← C_sub, one_mul, constant]

/-- An equation in several letters that is reduced is affine in exact arithmetic: when probing
discerns the difference of the sides, and this is a quotient of low degrees in each letter, it is
affine on the lines where it is probed, with the same slope on both lines of a letter; and it is
affine everywhere if these lines show whether it is, as they do for a polynomial whose cross terms
do not cancel. -/
theorem reduction_affine [Unicode.Form] {options : SolverOptions Float} {text : String}
    {probe : Probe Float}
    {letters : List Char} (solved : SolvedSeverally options text probe letters)
    {size error : Char → ℚ} (discerned : probe.DiscernedOnLines letters size error)
    {n d : MvPolynomial Char ℚ} (quotient : probe.IsQuotientOf n d)
    (degN : ∀ letter ∈ letters, n.degreeOf letter ≤ 4)
    (degD : ∀ letter ∈ letters, d.degreeOf letter ≤ 3) :
    ∃ (slope : Char → ℚ) (k₀ k₁ : ℚ),
      (∀ letter ∈ letters, ∀ t l r,
        (probe.ExactAt (line 0 letter t) l r → l - r = k₀ + slope letter * t) ∧
          (probe.ExactAt (line 1 letter t) l r → l - r = k₁ + slope letter * (t - 1))) ∧
        (ShownOnLines letters.toFinset n d ∨
            d = 1 ∧ n.vars ⊆ letters.toFinset ∧ CrossTermsStand n →
          ∀ at_ l r, probe.ExactAt at_ l r →
            l - r = k₀ + ∑ letter ∈ letters.toFinset, slope letter * at_ letter) := by
  have lines := fun letter (mem : letter ∈ letters) =>
    discerned.lines solved.linear mem
  choose! slope k₀ k₁ lines using lines
  have zeros (letter : Char) (base : ℚ) : line base letter base = fun _ => base := by
    funext c
    simp [line]
  have origin {letter : Char} (mem : letter ∈ letters) :
      k₀ letter = probe.exactDifference fun _ => 0 := by
    obtain ⟨l, r, exact, value⟩ := (lines letter mem).1 0 (by simp [Probe.exactPoints])
    rw [zeros] at exact
    rw [exact.difference, value, mul_zero, add_zero]
  have ones {letter : Char} (mem : letter ∈ letters) :
      k₁ letter + slope letter = probe.exactDifference fun _ => 1 := by
    obtain ⟨l, r, exact, value⟩ := (lines letter mem).2 1 (by simp [Probe.exactPoints])
    rw [zeros] at exact
    rw [exact.difference, value, mul_one]
  have throughZero {letter : Char} (mem : letter ∈ letters) :=
    quotient.onLine_eq (degN letter mem) (degD letter mem) (lines letter mem).1
  have throughOne {letter : Char} (mem : letter ∈ letters) :=
    quotient.onLine_eq (degN letter mem) (degD letter mem) (lines letter mem).2
  refine ⟨slope, probe.exactDifference fun _ => 0, probe.exactDifference fun _ => 1, ?_, ?_⟩
  · intro letter mem t l r
    refine ⟨fun exact => ?_, fun exact => ?_⟩
    · rw [quotient.affine_onLine (throughZero mem) exact, origin mem]
    · rw [quotient.affine_onLine (throughOne mem) exact, ← ones mem]
      ring
  · intro given at_ l r exact
    have shown : ShownOnLines letters.toFinset n d := by
      rcases given with shown | ⟨rfl, vars, stand⟩
      · exact shown
      · obtain ⟨first, mem⟩ := solved.exists_letter
        exact stand.shownOnLines vars ⟨first, List.mem_toFinset.mpr mem⟩
    have affine := affine_of_shownOnLines shown
      (fun v hv => origin (List.mem_toFinset.mp hv)) (fun v hv => ones (List.mem_toFinset.mp hv))
      (fun v hv => throughZero (List.mem_toFinset.mp hv))
      (fun v hv => throughOne (List.mem_toFinset.mp hv))
    obtain ⟨pole, difference⟩ := quotient at_ l r exact
    rw [difference, affine, map_mul, mul_div_assoc, div_self pole, mul_one, eval_affineForm]

section Examples

theorem exists_reduction [Unicode.Form] {text : String} {problem : Problem} {probe : Probe Float}
    (stated : Problem.ofClean (Text.normalize text.toList) = .ok problem)
    (trees : Probe.ofSides problem.sides = .ok probe)
    (derived : (problem.derive (default : SolverOptions Float)).toOption.any
      (fun d => match d.resolution with | .reduced _ => true | _ => false) = true) :
    SolvedSeverally default text probe (problem.unknown :: problem.others) := by
  obtain ⟨d, derived, kind⟩ := exists_ok derived
  obtain ⟨solution, solved, -, -, resolution⟩ := exists_solution stated derived
  cases result : d.resolution with
  | reduced reduction =>
      exact ⟨solution, problem, reduction, solved, stated, trees, rfl, resolution.trans result⟩
  | _ => simp [result] at kind

/-- `x + y = 4` is affine everywhere. -/
theorem reduction_affine_sum :
    ∃ probe, SolvedSeverally default "x+y=4" probe ['x', 'y'] ∧ probe.IsAffineIn ['x', 'y'] := by
  have stated : Problem.ofClean (Text.normalize "x+y=4".toList) =
      .ok ⟨⟨"x+y".toList, ['4'], 4⟩, 'x', ['y']⟩ := by decide +kernel
  have trees : Probe.ofSides (α := Float) ⟨"x+y".toList, ['4'], 4⟩ =
      .ok ⟨.binary .plus (.letter 'x') (.letter 'y'), .number (ofDecimal 4 0)⟩ := rfl
  have solved := exists_reduction stated trees (by decide +kernel)
  let n : MvPolynomial Char ℚ := MvPolynomial.X 'x' + MvPolynomial.X 'y' + MvPolynomial.C (-4)
  have quotient : Probe.IsQuotientOf ⟨.binary .plus (.letter 'x') (.letter 'y'),
      .number (ofDecimal 4 0)⟩ n 1 := by
    have four : Denotes (ofDecimal 4 0) 4 := ⟨by decide +kernel, by decide +kernel⟩
    rintro at_ l r ⟨hl, hr⟩
    rw [Expr.exactValue_number four] at hr
    simp only [Expr.exactValue, Expr.exactOperator] at hl
    simp [n, ← Option.some.inj hl, ← Option.some.inj hr, sub_eq_add_neg]
  have vars : n.vars ⊆ ['x', 'y'].toFinset := by
    refine (MvPolynomial.vars_add_subset _ _).trans (Finset.union_subset ?_ ?_)
    · exact (MvPolynomial.vars_add_subset _ _).trans (by simp)
    · rw [MvPolynomial.vars_C]
      exact Finset.empty_subset _
  have degree (letter : Char) : n.degreeOf letter ≤ 4 := by
    have sum := MvPolynomial.degreeOf_add_le letter (MvPolynomial.X 'x' : MvPolynomial Char ℚ)
      (MvPolynomial.X 'y')
    have bound (c : Char) : (MvPolynomial.X c : MvPolynomial Char ℚ).degreeOf letter ≤ 1 := by
      rw [MvPolynomial.degreeOf_X]
      split <;> simp
    have total := MvPolynomial.degreeOf_add_le letter
      (MvPolynomial.X 'x' + MvPolynomial.X 'y' : MvPolynomial Char ℚ) (MvPolynomial.C (-4))
    rw [MvPolynomial.degreeOf_C] at total
    have := bound 'x'
    have := bound 'y'
    change n.degreeOf letter ≤ _ at total
    omega
  have stand : CrossTermsStand n := by
    intro _ m cross
    have constant : 0 ≠ m := by
      rintro rfl
      simp [IsCross] at cross
    have other (c : Char) : Finsupp.single c 1 ≠ m := fun same =>
      not_isCross_single c 1 (same ▸ cross)
    rw [MvPolynomial.coeff_add, MvPolynomial.coeff_add, MvPolynomial.coeff_X,
      MvPolynomial.coeff_X, MvPolynomial.coeff_C, if_neg (other 'x'), if_neg (other 'y'),
      if_neg constant, add_zero, add_zero]
  have settled : Probe.SettledOnLines ⟨.binary .plus (.letter 'x') (.letter 'y'),
      .number (ofDecimal 4 0)⟩ 2 ['x', 'y'] := by decide +kernel
  obtain ⟨slope, k, -, -, affine⟩ := reduction_affine solved (settled.discerned (by norm_num))
    quotient (fun letter _ => degree letter) (by simp)
  exact ⟨_, solved, slope, k, affine (.inr ⟨rfl, vars, stand⟩)⟩

/-- Beyond these bounds nonlinear equations are reduced: cross terms can cancel on the lines of
every letter, a quintic can vanish at the probe points, and small cross terms are lost beside a
large number or below the tolerance. -/
theorem reduction_nonlinear :
    (∃ probe, SolvedSeverally default "(x-y)(z-w)=0" probe ['x', 'y', 'z', 'w'] ∧
      ¬ probe.IsAffineIn ['x', 'y', 'z', 'w']) ∧
    (∃ probe, SolvedSeverally default "x(x-1)(x-2)(x+1.5)(x-3.25)+y=0" probe ['x', 'y'] ∧
      ¬ probe.IsAffineIn ['x', 'y']) ∧
    (∃ probe, SolvedSeverally default "100000000000000000000+x*y=0" probe ['x', 'y'] ∧
      ¬ probe.IsAffineIn ['x', 'y']) ∧
    ∃ probe, SolvedSeverally default "0.0000000001x*y+x=0" probe ['x', 'y'] ∧
      ¬ probe.IsAffineIn ['x', 'y'] := by
  have corners (v w : Char) (distinct : v ≠ w) (c : Char) :
      (0 : ℚ) + (if c = v ∨ c = w then 1 else 0) = line 0 v 1 c + line 0 w 1 c := by
    unfold line
    by_cases hv : c = v
    · simp [hv, distinct]
    · simp [hv]
  refine ⟨?_, ?_, ?_, ?_⟩
  · have stated : Problem.ofClean (Text.normalize "(x-y)(z-w)=0".toList) =
        .ok ⟨⟨"(x-y)(z-w)".toList, ['0'], 11⟩, 'x', ['y', 'z', 'w']⟩ := by decide +kernel
    obtain ⟨probe, trees, values⟩ := exists_ok
      (x := Probe.ofSides ⟨"(x-y)(z-w)".toList, ['0'], 11⟩)
      (p := fun probe => decide (probe.ExactAt (fun _ => 0) 0 0 ∧
        probe.ExactAt (line 0 'x' 1) 0 0 ∧ probe.ExactAt (line 0 'z' 1) 0 0 ∧
          probe.ExactAt (fun c => if c = 'x' ∨ c = 'z' then 1 else 0) 1 0)) (by decide +kernel)
    obtain ⟨atZero, atX, atZ, atBoth⟩ := of_decide_eq_true values
    refine ⟨probe, exists_reduction stated trees (by decide +kernel), fun affine => ?_⟩
    have := affine.balanced (corners 'x' 'z' (by decide)) atZero atX atZ atBoth
    norm_num at this
  · have stated : Problem.ofClean (Text.normalize "x(x-1)(x-2)(x+1.5)(x-3.25)+y=0".toList) =
        .ok ⟨⟨"x(x-1)(x-2)(x+1.5)(x-3.25)+y".toList, ['0'], 29⟩, 'x', ['y']⟩ := by decide +kernel
    obtain ⟨probe, trees, values⟩ := exists_ok
      (x := Probe.ofSides ⟨"x(x-1)(x-2)(x+1.5)(x-3.25)+y".toList, ['0'], 29⟩)
      (p := fun probe => decide (probe.ExactAt (line 0 'x' 0) 0 0 ∧
        probe.ExactAt (line 0 'x' 1) 0 0 ∧ probe.ExactAt (line 0 'x' 2) 0 0 ∧
          probe.ExactAt (line 0 'x' 3) (-27 / 4) 0)) (by decide +kernel)
    obtain ⟨atZero, atOne, atTwo, atThree⟩ := of_decide_eq_true values
    refine ⟨probe, exists_reduction stated trees (by decide +kernel), fun affine => ?_⟩
    have := affine.balanced (fun c => by unfold line; split <;> norm_num) atZero atOne atTwo
      atThree
    norm_num at this
  · have stated : Problem.ofClean (Text.normalize "100000000000000000000+x*y=0".toList) =
        .ok ⟨⟨"100000000000000000000+x*y".toList, ['0'], 26⟩, 'x', ['y']⟩ := by decide +kernel
    obtain ⟨probe, trees, values⟩ := exists_ok
      (x := Probe.ofSides ⟨"100000000000000000000+x*y".toList, ['0'], 26⟩)
      (p := fun probe => decide (probe.ExactAt (fun _ => 0) (10 ^ 20) 0 ∧
        probe.ExactAt (line 0 'x' 1) (10 ^ 20) 0 ∧ probe.ExactAt (line 0 'y' 1) (10 ^ 20) 0 ∧
          probe.ExactAt (fun c => if c = 'x' ∨ c = 'y' then 1 else 0) (10 ^ 20 + 1) 0))
      (by decide +kernel)
    obtain ⟨atZero, atX, atY, atBoth⟩ := of_decide_eq_true values
    refine ⟨probe, exists_reduction stated trees (by decide +kernel), fun affine => ?_⟩
    have := affine.balanced (corners 'x' 'y' (by decide)) atZero atX atY atBoth
    norm_num at this
  · have stated : Problem.ofClean (Text.normalize "0.0000000001x*y+x=0".toList) =
        .ok ⟨⟨"0.0000000001x*y+x".toList, ['0'], 18⟩, 'x', ['y']⟩ := by decide +kernel
    obtain ⟨probe, trees, values⟩ := exists_ok
      (x := Probe.ofSides ⟨"0.0000000001x*y+x".toList, ['0'], 18⟩)
      (p := fun probe => decide (probe.ExactAt (fun _ => 0) 0 0 ∧
        probe.ExactAt (line 0 'x' 1) 1 0 ∧ probe.ExactAt (line 0 'y' 1) 0 0 ∧
          probe.ExactAt (fun c => if c = 'x' ∨ c = 'y' then 1 else 0)
            (floatValue (ofDecimal 1 10) + 1) 0 ∧ floatValue (ofDecimal 1 10) ≠ 0))
      (by decide +kernel)
    obtain ⟨atZero, atX, atY, atBoth, nonzero⟩ := of_decide_eq_true values
    refine ⟨probe, exists_reduction stated trees (by decide +kernel), fun affine => ?_⟩
    have := affine.balanced (corners 'x' 'y' (by decide)) atZero atX atY atBoth
    exact nonzero (by linarith)

end Examples
end WorkedAlgebra
