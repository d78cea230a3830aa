import WorkedAlgebra.Decimal.Layout
import WorkedAlgebra.Proofs.DiscernedSides
import WorkedAlgebra.Proofs.Rounding.Monotone
import WorkedAlgebra.Proofs.SwappedSides
import WorkedAlgebra.Proofs.WrittenCoefficients

/-!
The verdicts on equations in one letter, compared with the equation in exact arithmetic. Five
points cannot tell a polynomial of degree five from a line, and what is smaller than the tolerance
or than the rounding errors is not seen; where nothing of that kind happens a verdict of the affine
path is right.
-/

namespace WorkedAlgebra

open Rounding Scalar Polynomial

namespace Probe

/-- Wherever both sides are defined their difference is the quotient of two polynomials. -/
def IsQuotient (probe : Probe Float) (n d : ℚ[X]) : Prop :=
  ∀ t l r, probe.ExactAt (fun _ => t) l r → d.eval t ≠ 0 ∧ l - r = n.eval t / d.eval t

/-- Five points determine a quotient of low degrees. -/
theorem IsQuotient.affine {probe : Probe Float} {n d : ℚ[X]} (quotient : probe.IsQuotient n d)
    (degN : n.natDegree ≤ 4) (degD : d.natDegree ≤ 3) {k a : ℚ}
    (line : ∀ t ∈ exactPoints, ∃ l r, probe.ExactAt (fun _ => t) l r ∧ l - r = k + a * t)
    {t l r : ℚ} (exact : probe.ExactAt (fun _ => t) l r) : l - r = k + a * t := by
  have same : n = (C k + C a * X) * d := by
    refine eq_line_mul degN degD fun u hu => ?_
    obtain ⟨l, r, exact, value⟩ := line u hu
    obtain ⟨pole, difference⟩ := quotient u l r exact
    rw [← value, difference, div_mul_cancel₀ _ pole]
  obtain ⟨pole, difference⟩ := quotient t l r exact
  rw [difference, same, eval_mul, mul_div_assoc, div_self pole]
  simp

def differenceAt (probe : Probe Float) (p : Float) : Float := probe.difference fun _ => some p

/-- The difference of sides in one letter is discerned, its slope is none or beyond the margin, and
without a slope neither its exact value at zero nor the computed one is within the errors of
zero. -/
structure SinglyDiscerned (probe : Probe Float) (size error : ℚ) : Prop extends
    probe.Discerned probe.differenceAt (fun t _ => t) size error where
  slope : Clear (slopeMargin (probe.exactSlope fun t _ => t) error) (probe.exactSlope fun t _ => t)
  balance : (probe.exactSlope fun t _ => t) = 0 →
    Clear error (probe.exactDifference fun _ => 0) ∧
      Clear error (floatValue (probe.differenceAt zero))

/-- With one letter it does not matter which letter gets the value. -/
theorem along_eq_differenceAt {sides : Sides} {probe : Probe Float}
    (trees : ofSides sides = .ok probe) {letter : Char}
    (single : ∀ c ∈ lettersOf sides.left ++ lettersOf sides.rightOrZero, c = letter) :
    probe.along Bindings.empty letter = probe.differenceAt := by
  obtain ⟨parsedLeft, parsedRight⟩ := ofSides_ok_iff.mp trees
  obtain ⟨singleLeft, singleRight⟩ := List.forall_mem_append.mp single
  have bound {c : Char} (same : c = letter) (p : Float) :
      Bindings.empty.set letter p c = some p := by
    rw [Bindings.set, if_pos (beq_iff_eq.mpr same)]
  funext p
  rw [along, differenceAt, difference, difference,
    Expr.evaluate_side_congr parsedLeft fun c mem => bound (singleLeft c mem) p,
    Expr.evaluate_side_congr parsedRight fun c mem => bound (singleRight c mem) p]

/-- Without a slope the constants of the sides are equal just when the exact values at zero are. -/
theorem SinglyDiscerned.eq_constants {probe : Probe Float} {size error : ℚ}
    (discerned : probe.SinglyDiscerned size error) (flat : (probe.exactSlope fun t _ => t) = 0)
    {l r : Float} (finiteL : isFinite l = true) (finiteR : isFinite r = true)
    (atZero : probe.differenceAt zero = l - r) :
    Scalar.eq l r = decide (probe.exactDifference (fun _ => 0) = 0) := by
  have hl := denotes_value finiteL
  have hr := denotes_value finiteR
  obtain ⟨v, denotes, near⟩ := discerned.near.atZero
  obtain ⟨balance, computed⟩ := discerned.balance flat
  have finite := denotes.finite
  rw [denotes.value] at computed
  rw [atZero] at finite denotes
  obtain ⟨w, denotes', rounded⟩ := hl.sub_finite hr finite
  obtain rfl := denotes.unique denotes'
  rw [hl.eq_eq hr, decide_eq_decide, ← rounded.sub_eq_zero_iff hl.representable hr.representable]
  constructor
  · rintro rfl
    exact balance.eq_zero (by simpa using near)
  · intro zero
    rw [zero, sub_zero] at near
    exact computed.eq_zero near

end Probe

/-- The coefficient, read off the text or probed, is near the exact slope. -/
theorem LinearDerivation.abs_coefficient_sub_le {d : LinearDerivation Float} {a q ε : ℚ}
    (slope : Near d.slope a ε) (hc : Denotes d.coefficient q) :
    |q - a| ≤ 3 / 2000000000 * (1 + |a|) + 101 / 100 * ε := by
  unfold coefficient at hc
  split at hc
  · rename_i agree
    simpa using Probe.abs_sub_le_of_agrees hc.near slope agree
  · have nonneg := slope.nonneg
    obtain ⟨v, denotes, near⟩ := slope
    obtain rfl := hc.unique denotes
    linarith [abs_nonneg a]

/-- The coefficient is zero just when the exact slope is. -/
theorem LinearDerivation.isZero_coefficient {d : LinearDerivation Float} {a error : ℚ}
    (nonneg : 0 ≤ error) (slope : Near d.slope a (Probe.slopeError a error))
    (clear : Probe.Clear (Probe.slopeMargin a error) a)
    (flat : a = 0 → ∃ q, Denotes d.coefficient q ∧ Probe.Clear (Probe.slopeMargin 0 error) q) :
    isZero d.coefficient = decide (a = 0) := by
  have few := Probe.slopeError_le (a := a) nonneg
  by_cases zero : a = 0
  · obtain ⟨q, hq, told⟩ := flat zero
    have near := abs_coefficient_sub_le slope hq
    rw [zero, sub_zero, abs_zero] at near
    rw [zero, abs_zero] at few
    rw [isZero_eq hq, decide_eq_decide]
    refine iff_of_true (told.eq_zero ?_) zero
    unfold Probe.slopeMargin
    rw [abs_zero]
    linarith
  · rw [decide_eq_false zero, Bool.eq_false_iff]
    intro none
    refine zero (clear.eq_zero ?_)
    have finite : isFinite d.coefficient = true := by
      by_contra infinite
      rw [isZero_of_infinite infinite] at none
      cases none
    have hc : Denotes d.coefficient 0 :=
      ⟨finite, of_decide_eq_true ((isZero_eq (denotes_value finite)).symm.trans none)⟩
    have near := abs_coefficient_sub_le slope hc
    rw [zero_sub, abs_neg] at near
    unfold Probe.slopeMargin
    linarith [abs_nonneg a]

/-- A verdict is right when the difference of the sides lies on the line that it was read from. -/
theorem Resolution.verdict_exact {probe : Probe Float} {k a : ℚ}
    (everywhere : ∀ t x y, probe.ExactAt (fun _ => t) x y → x - y = k + a * t)
    {coefficient left right : Float} (slope : isZero coefficient = decide (a = 0))
    (balance : a = 0 → Scalar.eq left right = decide (k = 0)) :
    (classify coefficient left right = .allReals →
        ∀ t, probe.DefinedAt (fun _ => t) → probe.HoldsAt fun _ => t) ∧
      (classify coefficient left right = .noSolution → ∀ t, ¬ probe.HoldsAt fun _ => t) ∧
        ∀ v, classify coefficient left right = .unique v →
          ∃ root, ∀ t, probe.DefinedAt (fun _ => t) →
            (probe.HoldsAt (fun _ => t) ↔ t = root) := by
  unfold classify
  rw [slope]
  by_cases flat : a = 0
  · rw [balance flat]
    subst flat
    by_cases level : k = 0
    · subst level
      refine ⟨fun _ t ⟨x, y, exact⟩ => ?_, by simp, by simp⟩
      have value := everywhere t x y exact
      rw [zero_mul, add_zero, sub_eq_zero] at value
      exact ⟨y, value ▸ exact⟩
    · refine ⟨by simp [level], fun _ t ⟨x, exact⟩ => level ?_, by simp [level]⟩
      have value := everywhere t x x exact
      rwa [zero_mul, add_zero, sub_self, eq_comm] at value
  · refine ⟨by simp [flat], by simp [flat], fun v _ => ⟨-k / a, fun t ⟨x, y, exact⟩ => ?_⟩⟩
    have value := everywhere t x y exact
    rw [eq_div_iff flat]
    constructor
    · rintro ⟨z, equal⟩
      obtain rfl : x = z := Option.some.inj (exact.1.symm.trans equal.1)
      obtain rfl : y = x := Option.some.inj (exact.2.symm.trans equal.2)
      rw [sub_self] at value
      linarith
    · intro root
      have equal : x = y := by linarith
      exact ⟨y, equal ▸ exact⟩

/-- A text is solved in one letter; these are its trees and the verdict. -/
def SolvedSingly [Unicode.Form] (options : SolverOptions Float) (text : String)
    (probe : Probe Float) (resolution : Resolution Float) : Prop :=
  ∃ solution problem, solve options text = .ok solution ∧ solution.others = [] ∧
    Problem.ofClean (Text.normalize text.toList) = .ok problem ∧
      Probe.ofSides problem.sides = .ok probe ∧ solution.resolution = resolution

/-- The coefficient that a linear verdict on a text rests on. -/
def CoefficientOf [Unicode.Form] (options : SolverOptions Float) (text : String)
    (c : Float) : Prop :=
  ∃ problem d, Problem.ofClean (Text.normalize text.toList) = .ok problem ∧
    problem.derive options = .ok (.linear d) ∧ d.coefficient = c

section Verdicts

variable {options : SolverOptions Float} {text : String} {probe : Probe Float}
  {resolution : Resolution Float}

/-- A verdict comes from a search, or the computed difference of the sides passes the affine
test. -/
theorem SolvedSingly.exists_derivation [Unicode.Form]
    (solved : SolvedSingly options text probe resolution) :
    ∃ problem derivation, Problem.ofClean (Text.normalize text.toList) = .ok problem ∧
      Probe.ofSides problem.sides = .ok probe ∧ problem.derive options = .ok derivation ∧
        resolution = derivation.resolution ∧
          ((∃ d, derivation = .searched d) ∨ ∃ slope left right,
            Probe.affineSlope probe.differenceAt = some slope ∧
              LinearForm.decompose problem.unknown 0 problem.sides.left = .ok left ∧
                LinearForm.decompose problem.unknown problem.sides.rightOffset
                    problem.sides.rightOrZero = .ok right ∧
                  derivation = .linear ⟨problem.unknown, left, right, slope,
                    probe.right.mentions problem.unknown⟩) := by
  obtain ⟨solution, problem, solved, single, stated, trees, rfl⟩ := solved
  obtain ⟨p, derivation, stated', derived, -, others, resolution⟩ := solve_ok solved
  obtain rfl : problem = p := Except.ok.inj (stated.symm.trans stated')
  refine ⟨problem, derivation, stated, trees, derived, resolution, ?_⟩
  have alone : problem.others = [] := others.symm.trans single
  have letters (c : Char) (mem : c ∈ lettersOf problem.sides.left ++
      lettersOf problem.sides.rightOrZero) : c = problem.unknown := by
    simpa [alone] using Problem.mem_letters_of_ofClean stated mem
  rw [Problem.derive, alone, List.isEmpty_nil, if_pos rfl] at derived
  obtain ⟨probe', trees', searched | linear⟩ := Derivation.ofSingle_ok derived
  · exact .inl ⟨_, searched.2⟩
  · obtain rfl : probe = probe' := Except.ok.inj (trees.symm.trans trees')
    rw [Probe.along_eq_differenceAt trees letters] at linear
    exact .inr linear

/-- The verdicts on an equation in one letter are right in exact arithmetic: when probing discerns
the difference of the sides and the coefficient, and this difference is a quotient of polynomials
of degrees four and three at most. -/
theorem singleVerdicts_exact [Unicode.Form] (solved : SolvedSingly options text probe resolution)
    {size error : ℚ} (discerned : probe.SinglyDiscerned size error)
    (coefficient : (probe.exactSlope fun t _ => t) = 0 → ∀ c, CoefficientOf options text c →
      ∃ q, Denotes c q ∧ Probe.Clear (Probe.slopeMargin 0 error) q)
    {n d : ℚ[X]} (quotient : probe.IsQuotient n d) (degN : n.natDegree ≤ 4)
    (degD : d.natDegree ≤ 3) :
    (resolution = .allReals →
        ∀ t, probe.DefinedAt (fun _ => t) → probe.HoldsAt fun _ => t) ∧
      (resolution = .noSolution → ∀ t, ¬ probe.HoldsAt fun _ => t) ∧
        ∀ v, resolution = .unique v →
          ∃ root, ∀ t, probe.DefinedAt (fun _ => t) →
            (probe.HoldsAt (fun _ => t) ↔ t = root) := by
  obtain ⟨problem, derivation, stated, trees, derived, rfl, searched | linear⟩ :=
    solved.exists_derivation
  · obtain ⟨d, rfl⟩ := searched
    exact ⟨nofun, nofun, nofun⟩
  obtain ⟨slope, left, right, passed, decomposeLeft, decomposeRight, rfl⟩ := linear
  obtain ⟨-, -, -, -, finiteLeft⟩ := LinearForm.decompose_ok_iff.mp decomposeLeft
  obtain ⟨-, -, -, -, finiteRight⟩ := LinearForm.decompose_ok_iff.mp decomposeRight
  have atZero := Probe.difference_zeros trees decomposeLeft decomposeRight
    (b := fun _ => some zero) fun _ _ => rfl
  exact Resolution.verdict_exact
    (fun t x y => quotient.affine degN degD fun u => discerned.line passed)
    (LinearDerivation.isZero_coefficient discerned.error_nonneg (discerned.nearSlope passed)
      discerned.slope fun flat => coefficient flat _ ⟨problem, _, stated, derived, rfl⟩)
    fun flat => discerned.eq_constants flat finiteLeft finiteRight atZero

end Verdicts

section Settled

theorem Expr.Settled.hasNumber {s limit : Nat} {at_ : Char → ℚ} {e : Expr Float}
    (settled : e.Settled s limit at_) {v : Float} (number : e.HasNumber v) :
    Denotes v (floatValue v) ∧ OnGrid s limit (floatValue v) := by
  induction e with
  | number w =>
      cases number
      exact ⟨denotes_value settled.1, settled.2⟩
  | letter name => exact number.elim
  | unary operator e ih => exact ih settled number
  | binary operator left right ihl ihr =>
      rcases number with inLeft | inRight
      · exact ihl settled.1 inLeft
      · exact ihr settled.2.1 inRight

variable {s : Nat}

namespace LinearForm

/-- Coefficients on the grid are added without rounding. -/
theorem scanCoefficient_exact (high : s ≤ 23) {letter : Char} (alpha : letter.isAlpha = true)
    {offset : Nat} {text : List Char} (short : text.length ≤ 2 ^ 26) {e : Expr Float}
    (parsed : Expr.ofText offset text = .ok e) {at_ : Char → ℚ}
    (settled : e.Settled s Probe.stepLimit at_) {v : Float}
    (scanned : scanCoefficient letter text = .ok v) :
    ∃ q, Denotes v q ∧ OnGrid s (2 ^ 51) q := by
  have known {m : Float} (hm : m = one ∨ e.HasNumber m) :
      ∃ q, Denotes m q ∧ OnGrid s Probe.stepLimit q := by
    rcases hm with rfl | number
    · exact ⟨1, denotes_one, OnGrid.one (Nat.pow_le_pow_right (by norm_num) (by omega))⟩
    · exact ⟨_, settled.hasNumber number⟩
  have add {n : Nat} {sum m : Float} (h : n ≤ 2 ^ 26 → ∃ q, Denotes sum q ∧
      OnGrid s (n * Probe.stepLimit) q) (hm : ∃ q, Denotes m q ∧ OnGrid s Probe.stepLimit q)
      (bound : n + 1 ≤ 2 ^ 26) :
      ∃ q, Denotes (sum + m) q ∧ OnGrid s ((n + 1) * Probe.stepLimit) q := by
    obtain ⟨p, hp, gridP⟩ := h (by omega)
    obtain ⟨q, hq, gridQ⟩ := hm
    have grid := gridP.add gridQ
    rw [← Nat.succ_mul] at grid
    have steps : (n + 1) * Probe.stepLimit ≤ 2 ^ 53 :=
      (Nat.mul_le_mul_right _ bound).trans (by decide)
    exact ⟨p + q, hp.add_exact hq (grid.mono steps) (by omega), grid⟩
  obtain ⟨w, scanned', final⟩ := scanCoefficient_of_parsed alpha parsed
    (P := fun n sum => n ≤ 2 ^ 26 → ∃ q, Denotes sum q ∧ OnGrid s (n * Probe.stepLimit) q)
    (fun _ => ⟨0, denotes_zero, 0, by simp, by simp⟩)
    (fun n sum h bound => by
      obtain ⟨q, denotes, grid⟩ := h (by omega)
      exact ⟨q, denotes, grid.mono (Nat.mul_le_mul_right _ (Nat.le_succ n))⟩)
    (fun n sum m h hm => by
      obtain ⟨q, denotes, grid⟩ := known hm
      exact ⟨add h ⟨q, denotes, grid⟩, add h ⟨-q, denotes.neg, grid.neg⟩⟩)
  obtain rfl : v = w := Except.ok.inj (scanned.symm.trans scanned')
  obtain ⟨q, denotes, grid⟩ := final short
  exact ⟨q, denotes, grid.mono ((Nat.mul_le_mul_right _ short).trans (by decide))⟩

end LinearForm

/-- Where reading a coefficient off the text and probing both are exact they give the same. -/
theorem LinearDerivation.coefficient_exact (high : s ≤ 23) {d : LinearDerivation Float}
    {p q a : ℚ} (hleft : Denotes d.left.coefficient p) (gridLeft : OnGrid s (2 ^ 51) p)
    (hright : Denotes d.right.coefficient q) (gridRight : OnGrid s (2 ^ 51) q)
    (hslope : Denotes d.slope a) (gridSlope : OnGrid s (2 ^ 27) a) :
    Denotes d.coefficient a := by
  have grid : OnGrid s (2 ^ 52) (p - q) := (gridLeft.sub gridRight).mono (by norm_num)
  have hscanned : Denotes d.scanned (p - q) :=
    hleft.sub_exact hright (grid.mono (by norm_num)) (by omega)
  unfold coefficient
  split
  · rename_i agree
    have near := Probe.abs_sub_le_of_agrees hscanned.near hslope.near agree
    have small := Probe.slopeMargin_lt_step high gridSlope
    unfold Probe.slopeMargin at small
    have same : p - q - a = 0 :=
      (grid.sub gridSlope).eq_zero_of_abs_lt (by linarith [abs_nonneg a])
    exact sub_eq_zero.mp same ▸ hscanned
  · exact hslope

/-- With one letter every letter gets the value of the probe point. -/
theorem Probe.denotes_given (p : Float) (t : ℚ) (hp : Denotes p t) (_ : Char) (v : Float)
    (given : some p = some v) : Denotes v t :=
  Option.some.inj given ▸ hp

variable {probe : Probe Float} (high : s ≤ 23)
  (settled : ∀ t ∈ Probe.exactPoints, probe.SettledAt s Probe.stepLimit fun _ => t)

include high settled

/-- Settled sides in one letter are discerned. -/
theorem Probe.SinglyDiscerned.of_settled
    (finite : ∀ p ∈ points, isFinite (probe.differenceAt p) = true) :
    probe.SinglyDiscerned (2 ^ 26 / 2 ^ s) 0 := by
  have grid := onGrid_exactSlope Probe.denotes_given settled finite high
  exact ⟨.of_settled Probe.denotes_given settled finite high,
    clear_of_onGrid grid (slopeMargin_lt_step high grid),
    fun _ => ⟨(eq_or_ne _ 0).imp_right abs_pos.mpr, (eq_or_ne _ 0).imp_right abs_pos.mpr⟩⟩

/-- The coefficient of settled sides is exact. -/
theorem SolvedSingly.clear_coefficient [Unicode.Form] {options : SolverOptions Float}
    {text : String}
    {resolution : Resolution Float} (solved : SolvedSingly options text probe resolution)
    (short : (Text.normalize text.toList).length ≤ 2 ^ 26) {c : Float}
    (found : CoefficientOf options text c) :
    ∃ q, Denotes c q ∧ Probe.Clear (Probe.slopeMargin 0 0) q := by
  obtain ⟨problem, derivation, stated, trees, derived, -, kind⟩ := solved.exists_derivation
  obtain ⟨problem', d, stated', derived', rfl⟩ := found
  obtain rfl : problem = problem' := Except.ok.inj (stated.symm.trans stated')
  obtain rfl : derivation = .linear d := Except.ok.inj (derived.symm.trans derived')
  obtain ⟨d', same⟩ | ⟨slope, left, right, passed, decomposeLeft, decomposeRight, same⟩ := kind
  · cases same
  cases same
  obtain ⟨cut, letters⟩ := Problem.ofClean_ok_iff.mp stated
  obtain ⟨parsedLeft, parsedRight⟩ := Probe.ofSides_ok_iff.mp trees
  obtain ⟨lengthLeft, lengthRight⟩ := Sides.length_le cut
  obtain ⟨settledLeft, settledRight⟩ := settled 0 (by simp [Probe.exactPoints])
  have alpha : problem.unknown.isAlpha = true :=
    isAlpha_of_mem_detectLetters (letters ▸ List.mem_cons_self)
  obtain ⟨p, hp, gridP⟩ := LinearForm.scanCoefficient_exact high alpha
    ((Text.length_collapseSigns_le _).trans (lengthLeft.trans short)) parsedLeft settledLeft
    (LinearForm.decompose_ok_iff.mp decomposeLeft).1
  obtain ⟨q, hq, gridQ⟩ := LinearForm.scanCoefficient_exact high alpha
    ((Text.length_collapseSigns_le _).trans (lengthRight.trans short)) parsedRight settledRight
    (LinearForm.decompose_ok_iff.mp decomposeRight).1
  have finite := (Probe.affineSlope_eq_some_iff.mp passed).1
  have hslope := Probe.settled_slope Probe.denotes_given settled finite high passed
  have grid := Probe.onGrid_exactSlope Probe.denotes_given settled finite high
  exact ⟨_, LinearDerivation.coefficient_exact high hp gridP hq gridQ hslope grid,
    Probe.clear_of_onGrid grid ((Probe.slopeMargin_zero_le _ _).trans_lt
      (Probe.slopeMargin_lt_step high grid))⟩

end Settled

section Examples

namespace Resolution

def isAllReals : Resolution Float → Bool
  | .allReals => true
  | _ => false

def isNoSolution : Resolution Float → Bool
  | .noSolution => true
  | _ => false

def isUnique : Resolution Float → Bool
  | .unique _ => true
  | _ => false

theorem eq_allReals {resolution : Resolution Float} (kind : resolution.isAllReals = true) :
    resolution = .allReals := by
  cases resolution with
  | allReals => rfl
  | _ => cases kind

theorem eq_noSolution {resolution : Resolution Float} (kind : resolution.isNoSolution = true) :
    resolution = .noSolution := by
  cases resolution with
  | noSolution => rfl
  | _ => cases kind

theorem exists_unique {resolution : Resolution Float} (kind : resolution.isUnique = true) :
    ∃ v, resolution = .unique v := by
  cases resolution with
  | unique v => exact ⟨v, rfl⟩
  | _ => cases kind

end Resolution

/-- The verdict of a text in one letter, found by running the stages. -/
theorem exists_verdict [Unicode.Form] {text : String} {problem : Problem} {probe : Probe Float}
    (stated : Problem.ofClean (Text.normalize text.toList) = .ok problem)
    (single : problem.others = []) (trees : Probe.ofSides problem.sides = .ok probe)
    (p : Resolution Float → Bool)
    (derived : (problem.derive (default : SolverOptions Float)).toOption.any
      (fun d => p d.resolution) = true) :
    ∃ resolution, SolvedSingly default text probe resolution ∧ p resolution = true := by
  obtain ⟨d, derived, kind⟩ := exists_ok derived
  obtain ⟨solution, solved, -, others, resolution⟩ := exists_solution stated derived
  exact ⟨d.resolution, ⟨solution, _, solved, others.trans single, stated, trees, resolution⟩, kind⟩

/-- The same where more is known about the sides. -/
theorem exists_verdict_where [Unicode.Form] {text : String} {problem : Problem}
    (p : Probe Float → Prop) [DecidablePred p] (q : Resolution Float → Bool)
    (stated : Problem.ofClean (Text.normalize text.toList) = .ok problem)
    (single : problem.others = [])
    (known : (Probe.ofSides problem.sides).toOption.any (fun probe => decide (p probe)) = true)
    (derived : (problem.derive (default : SolverOptions Float)).toOption.any
      (fun d => q d.resolution) = true) :
    ∃ probe resolution, SolvedSingly default text probe resolution ∧ p probe ∧
      q resolution = true := by
  obtain ⟨probe, trees, known⟩ := exists_ok known
  obtain ⟨resolution, solved, kind⟩ := exists_verdict stated single trees q derived
  exact ⟨probe, resolution, solved, of_decide_eq_true known, kind⟩

/-- Otherwise verdicts can be wrong: a quintic that vanishes at the probe points passes for zero, a
small term is lost beside a large one, a small slope is below the tolerance, equal sums are rounded
differently in the coefficient or in the constants, and the root of a line can be a pole. -/
theorem singleVerdicts_fail :
    (∃ probe, SolvedSingly default "x(x-1)(x-2)(x+1.5)(x-3.25)=0" probe .allReals ∧
      probe.DefinedAt (fun _ => 3) ∧ ¬ probe.HoldsAt fun _ => 3) ∧
    (∃ probe, SolvedSingly default "x+100000000000000000=0" probe .noSolution ∧
      probe.HoldsAt fun _ => -100000000000000000) ∧
    (∃ probe t, SolvedSingly default "x*1.0000000001-x=5" probe .noSolution ∧
      probe.HoldsAt fun _ => t) ∧
    (∃ probe v, SolvedSingly default "0.1x+0.2x+0.3x=0.3x+0.2x+0.1x" probe (.unique v) ∧
      probe.HoldsAt (fun _ => 0) ∧ probe.HoldsAt fun _ => 1) ∧
    (∃ probe, SolvedSingly default "0.1+0.2+0.3+x=0.3+0.2+0.1+x" probe .noSolution ∧
      probe.HoldsAt fun _ => 0) ∧
    ∃ probe v, SolvedSingly default "(x-5)(x-5)/(x-5)=0" probe (.unique v) ∧
      ∀ t, ¬ probe.HoldsAt fun _ => t := by
  let sum : ℚ := floatValue (ofDecimal 1 1) + floatValue (ofDecimal 2 1) + floatValue (ofDecimal 3 1)
  refine ⟨?_, ?_, ?_, ?_, ?_, ?_⟩
  · have stated : Problem.ofClean (Text.normalize "x(x-1)(x-2)(x+1.5)(x-3.25)=0".toList) =
        .ok ⟨⟨"x(x-1)(x-2)(x+1.5)(x-3.25)".toList, ['0'], 27⟩, 'x', []⟩ := by decide +kernel
    obtain ⟨probe, resolution, solved, exact, kind⟩ := exists_verdict_where
      (fun probe => probe.ExactAt (fun _ => 3) (-27 / 4) 0) Resolution.isAllReals stated rfl
      (by decide +kernel) (by decide +kernel)
    obtain rfl := Resolution.eq_allReals kind
    refine ⟨probe, solved, ⟨_, _, exact⟩, fun ⟨q, hl, hr⟩ => ?_⟩
    rw [exact.1] at hl
    rw [exact.2, ← hl] at hr
    norm_num at hr
  · have stated : Problem.ofClean (Text.normalize "x+100000000000000000=0".toList) =
        .ok ⟨⟨"x+100000000000000000".toList, ['0'], 21⟩, 'x', []⟩ := by decide +kernel
    obtain ⟨probe, resolution, solved, exact, kind⟩ := exists_verdict_where
      (fun probe => probe.ExactAt (fun _ => -100000000000000000) 0 0) Resolution.isNoSolution
      stated rfl (by decide +kernel) (by decide +kernel)
    obtain rfl := Resolution.eq_noSolution kind
    exact ⟨probe, solved, 0, exact⟩
  · have stated : Problem.ofClean (Text.normalize "x*1.0000000001-x=5".toList) =
        .ok ⟨⟨"x*1.0000000001-x".toList, ['5'], 17⟩, 'x', []⟩ := by decide +kernel
    let root : ℚ := 5 / (floatValue (ofDecimal 10000000001 10) - 1)
    obtain ⟨probe, resolution, solved, exact, kind⟩ := exists_verdict_where
      (fun probe => probe.ExactAt (fun _ => root) 5 5) Resolution.isNoSolution stated rfl
      (by decide +kernel) (by decide +kernel)
    obtain rfl := Resolution.eq_noSolution kind
    exact ⟨probe, root, solved, 5, exact⟩
  · have stated : Problem.ofClean (Text.normalize "0.1x+0.2x+0.3x=0.3x+0.2x+0.1x".toList) =
        .ok ⟨⟨"0.1x+0.2x+0.3x".toList, "0.3x+0.2x+0.1x".toList, 15⟩, 'x', []⟩ := by
      decide +kernel
    obtain ⟨probe, resolution, solved, ⟨atZero, atOne⟩, kind⟩ := exists_verdict_where
      (fun probe => probe.ExactAt (fun _ => 0) 0 0 ∧ probe.ExactAt (fun _ => 1) sum sum)
      Resolution.isUnique stated rfl (by decide +kernel) (by decide +kernel)
    obtain ⟨v, rfl⟩ := Resolution.exists_unique kind
    exact ⟨probe, v, solved, ⟨_, atZero⟩, _, atOne⟩
  · have stated : Problem.ofClean (Text.normalize "0.1+0.2+0.3+x=0.3+0.2+0.1+x".toList) =
        .ok ⟨⟨"0.1+0.2+0.3+x".toList, "0.3+0.2+0.1+x".toList, 14⟩, 'x', []⟩ := by decide +kernel
    obtain ⟨probe, resolution, solved, exact, kind⟩ := exists_verdict_where
      (fun probe => probe.ExactAt (fun _ => 0) sum sum) Resolution.isNoSolution stated rfl
      (by decide +kernel) (by decide +kernel)
    obtain rfl := Resolution.eq_noSolution kind
    exact ⟨probe, solved, _, exact⟩
  · have stated : Problem.ofClean (Text.normalize "(x-5)(x-5)/(x-5)=0".toList) =
        .ok ⟨⟨"(x-5)(x-5)/(x-5)".toList, ['0'], 17⟩, 'x', []⟩ := by decide +kernel
    let factor : Expr Float := .binary .minus (.letter 'x') (.number (ofDecimal 5 0))
    have trees : Probe.ofSides ⟨"(x-5)(x-5)/(x-5)".toList, ['0'], 17⟩ =
        .ok ⟨.binary .slash (.binary .star factor factor) factor, .number zero⟩ := rfl
    obtain ⟨resolution, solved, kind⟩ := exists_verdict stated rfl trees
      Resolution.isUnique (by decide +kernel)
    obtain ⟨v, rfl⟩ := Resolution.exists_unique kind
    refine ⟨_, v, solved, fun t ⟨q, hl, hr⟩ => ?_⟩
    have five : Denotes (ofDecimal 5 0) 5 := ⟨by decide +kernel, by decide +kernel⟩
    have value : factor.exactValue (fun _ => t) = some (t - 5) := by
      rw [Expr.exactValue, Expr.exactValue_number five]
      rfl
    obtain rfl : 0 = q := by simpa [Expr.exactValue_number denotes_zero] using hr
    rw [Expr.exactValue, Expr.exactValue, value] at hl
    by_cases pole : t - 5 = 0 <;> simp [Expr.exactOperator, pole] at hl

/-- `0.1x + 0.2 = 0.7` has exactly one root, although probing rounds, and `x + x = 2x + 1` none. -/
theorem singleVerdicts_linear :
    (∃ probe v, SolvedSingly default "0.1x+0.2=0.7" probe (.unique v) ∧
      ∃ root, ∀ t, probe.DefinedAt (fun _ => t) → (probe.HoldsAt (fun _ => t) ↔ t = root)) ∧
    ∃ probe, SolvedSingly default "x+x=2x+1" probe .noSolution ∧
      ∀ t, ¬ probe.HoldsAt fun _ => t := by
  constructor
  · have stated : Problem.ofClean (Text.normalize "0.1x+0.2=0.7".toList) =
        .ok ⟨⟨"0.1x+0.2".toList, "0.7".toList, 9⟩, 'x', []⟩ := by decide +kernel
    let probe : Probe Float := ⟨.binary .plus
      (.binary .star (.number (ofDecimal 1 1)) (.letter 'x')) (.number (ofDecimal 2 1)),
      .number (ofDecimal 7 1)⟩
    have trees : Probe.ofSides ⟨"0.1x+0.2".toList, "0.7".toList, 9⟩ = .ok probe := rfl
    obtain ⟨resolution, solved, kind⟩ := exists_verdict stated rfl trees
      Resolution.isUnique (by decide +kernel)
    have tenth := denotes_value (x := ofDecimal 1 1) (by decide +kernel)
    have fifth := denotes_value (x := ofDecimal 2 1) (by decide +kernel)
    have right := denotes_value (x := ofDecimal 7 1) (by decide +kernel)
    have quotient : probe.IsQuotient (C (floatValue (ofDecimal 1 1)) * X +
        C (floatValue (ofDecimal 2 1) - floatValue (ofDecimal 7 1))) 1 := by
      rintro t l r ⟨hl, hr⟩
      simp only [probe, Expr.exactValue_number right, Option.some.injEq] at hr
      simp only [probe, Expr.exactValue, tenth.finite, fifth.finite, if_true,
        Expr.exactOperator, Option.some.injEq] at hl
      simp [← hl, ← hr]
      ring
    have discerned : probe.SinglyDiscerned 1 (1 / 1000000000000000) :=
      ⟨by decide +kernel, by decide +kernel, by decide +kernel⟩
    have steep : (probe.exactSlope fun t _ => t) ≠ 0 := by decide +kernel
    obtain ⟨v, rfl⟩ := Resolution.exists_unique kind
    exact ⟨probe, v, solved, (singleVerdicts_exact solved discerned
      (fun flat => (steep flat).elim) quotient (by compute_degree!) (by simp)).2.2 v rfl⟩
  · have stated : Problem.ofClean (Text.normalize "x+x=2x+1".toList) =
        .ok ⟨⟨"x+x".toList, "2x+1".toList, 4⟩, 'x', []⟩ := by decide +kernel
    let probe : Probe Float := ⟨.binary .plus (.letter 'x') (.letter 'x'),
      .binary .plus (.binary .star (.number (ofDecimal 2 0)) (.letter 'x'))
        (.number (ofDecimal 1 0))⟩
    have trees : Probe.ofSides ⟨"x+x".toList, "2x+1".toList, 4⟩ = .ok probe := rfl
    obtain ⟨resolution, solved, kind⟩ := exists_verdict stated rfl trees
      Resolution.isNoSolution (by decide +kernel)
    have two_ : Denotes (ofDecimal 2 0) 2 := ⟨by decide +kernel, by decide +kernel⟩
    have one_ : Denotes (ofDecimal 1 0) 1 := ⟨by decide +kernel, by decide +kernel⟩
    have quotient : probe.IsQuotient (C (-1)) 1 := by
      rintro t l r ⟨hl, hr⟩
      simp only [probe, Expr.exactValue, Expr.exactOperator, Option.some.injEq] at hl
      simp only [probe, Expr.exactValue, two_.finite, one_.finite, two_.value, one_.value, if_true,
        Expr.exactOperator, Option.some.injEq] at hr
      simp [← hl, ← hr]
      ring
    have settled : ∀ t ∈ Probe.exactPoints, probe.SettledAt 2 Probe.stepLimit fun _ => t := by
      decide +kernel
    obtain rfl := Resolution.eq_noSolution kind
    exact ⟨probe, solved, (singleVerdicts_exact solved
      (.of_settled (by norm_num) settled (by decide +kernel))
      (fun _ c found => solved.clear_coefficient (by norm_num) settled (by decide +kernel) found)
      quotient (by simp) (by simp)).2.1 rfl⟩

end Examples
end WorkedAlgebra
