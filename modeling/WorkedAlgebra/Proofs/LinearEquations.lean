import WorkedAlgebra.Proofs.ExactNumbers
import WorkedAlgebra.Proofs.Outcomes

/-!
Linear equations over exact numbers. A side that is put together from numbers and letters by signs,
sums, multiples and quotients by constants is affine in its letters, however it is nested. So its
probes lie on lines, nothing is searched for or refused, and a coefficient that is read off the text
is overruled unless it is close to the true one.
-/

namespace WorkedAlgebra

open Scalar Text Exact

section Leaves

variable {α : Type} [Scalar α]

omit [Scalar α] in
theorem Bindings.all_of_mem {letters : List Char} {c : Char} (mem : c ∈ letters) (v : α) :
    Bindings.all letters v c = some v :=
  if_pos (List.contains_iff_mem.mpr mem)

theorem number_of_ofLexeme {lexeme : List Char} {v : α}
    (read : Token.ofLexeme lexeme = .ok (.number v)) :
    ∃ mantissa places, v = ofDecimal mantissa places := by
  rcases Token.ofLexeme_cases read with ⟨mantissa, places, ⟨⟩⟩ | ⟨_, -, -, ⟨⟩⟩ | operator
  · exact ⟨mantissa, places, rfl⟩
  · simp at operator

/-- The numbers of the tree of a side are decimals. -/
theorem Expr.number_of_ofSide {offset : Nat} {side : List Char} {e : Expr α}
    (parsed : ofSide offset side = .ok e) {v : α} (leaf : .number v ∈ e.leaves) :
    ∃ mantissa places, v = ofDecimal mantissa places := by
  obtain ⟨kinds, level, reads, advanced, value⟩ := ofText_ok_iff.mp parsed
  rw [(derives_expr_iff.mpr ⟨level, advanced, value⟩).leaves] at leaf
  obtain ⟨lexeme, -, read⟩ := reads.exists_lexeme (List.mem_filter.mp leaf).1
  exact number_of_ofLexeme read

theorem Expr.letter_of_ofSide {offset : Nat} {side : List Char} {e : Expr α}
    (parsed : ofSide offset side = .ok e) {c : Char} (leaf : .letter c ∈ e.leaves) :
    c ∈ lettersOf side := by
  rw [← letters_of_ofSide parsed]
  exact mem_letters.mpr leaf

end Leaves

section Trees

def Expr.IsConstant {α : Type} (e : Expr α) : Prop := ∀ name, e.mentions name = false

/-- A tree of numbers and letters under signs, sums and differences, products of which one factor
is constant, and quotients by constants that are not zero. -/
inductive Expr.IsLinear : Expr Exact → Prop where
  | number (v : Exact) : IsLinear (.number v)
  | letter (c : Char) : IsLinear (.letter c)
  | plus {e : Expr Exact} (operand : IsLinear e) : IsLinear (.unary .plus e)
  | minus {e : Expr Exact} (operand : IsLinear e) : IsLinear (.unary .minus e)
  | sum {l r : Expr Exact} (left : IsLinear l) (right : IsLinear r) :
      IsLinear (.binary .plus l r)
  | difference {l r : Expr Exact} (left : IsLinear l) (right : IsLinear r) :
      IsLinear (.binary .minus l r)
  | product {l r : Expr Exact} (left : IsLinear l) (right : IsLinear r)
      (constant : l.IsConstant ∨ r.IsConstant) : IsLinear (.binary .star l r)
  | quotient {l r : Expr Exact} (left : IsLinear l) (right : IsLinear r)
      (constant : r.IsConstant) (nonzero : r.evaluate Bindings.empty ≠ .ok zero) :
      IsLinear (.binary .slash l r)

def Expr.IsAffine (letters : Finset Char) (slope : Char → ℚ) (k : ℚ) (e : Expr Exact) : Prop :=
  ∀ (at_ : Char → ℚ) (b : Bindings Exact), (∀ c ∈ letters, b c = some (.number (at_ c))) →
    e.evaluate b = .ok (.number (k + ∑ c ∈ letters, slope c * at_ c))

namespace Expr

variable {letters : Finset Char} {slope slope' : Char → ℚ} {k k' : ℚ} {e l r : Expr Exact}

theorem isAffine_number (letters : Finset Char) (q : ℚ) :
    IsAffine letters 0 q (.number (.number q)) := by
  intro at_ b _
  simp [evaluate]

theorem isAffine_letter {c : Char} (mem : c ∈ letters) :
    IsAffine letters (Pi.single c 1) 0 (.letter c) := by
  intro at_ b bound
  simp [evaluate, bound c mem, Pi.single_apply, mem]

theorem IsAffine.plus (affine : e.IsAffine letters slope k) :
    IsAffine letters slope k (.unary .plus e) := by
  intro at_ b bound
  rw [evaluate, affine at_ b bound]
  rfl

theorem IsAffine.minus (affine : e.IsAffine letters slope k) :
    IsAffine letters (-slope) (-k) (.unary .minus e) := by
  intro at_ b bound
  rw [evaluate, affine at_ b bound]
  change Except.ok (-Exact.number _) = _
  rw [Exact.number_neg, neg_add, ← Finset.sum_neg_distrib]
  simp

theorem IsAffine.sum (left : l.IsAffine letters slope k) (right : r.IsAffine letters slope' k') :
    IsAffine letters (slope + slope') (k + k') (.binary .plus l r) := by
  intro at_ b bound
  rw [evaluate, left at_ b bound, right at_ b bound]
  change Except.ok (Exact.number _ + .number _) = _
  rw [Exact.number_add, add_add_add_comm, ← Finset.sum_add_distrib]
  simp [add_mul]

theorem IsAffine.difference (left : l.IsAffine letters slope k)
    (right : r.IsAffine letters slope' k') :
    IsAffine letters (slope - slope') (k - k') (.binary .minus l r) := by
  intro at_ b bound
  rw [evaluate, left at_ b bound, right at_ b bound]
  change Except.ok (Exact.number _ - .number _) = _
  rw [Exact.number_sub, add_sub_add_comm, ← Finset.sum_sub_distrib]
  simp [sub_mul]

/-- A tree that is affine in no letter has one value. -/
theorem IsAffine.value (constant : e.IsAffine ∅ slope k) (b : Bindings Exact) :
    e.evaluate b = .ok (.number k) := by
  simpa using constant 0 b (by simp)

theorem IsAffine.multiple (left : l.IsAffine ∅ slope' k') (right : r.IsAffine letters slope k) :
    IsAffine letters (k' • slope) (k' * k) (.binary .star l r) := by
  intro at_ b bound
  rw [evaluate, left.value b, right at_ b bound]
  change Except.ok (Exact.number _ * .number _) = _
  rw [Exact.number_mul, mul_add, Finset.mul_sum]
  simp [mul_assoc]

theorem IsAffine.multiple_right (left : l.IsAffine letters slope k)
    (right : r.IsAffine ∅ slope' k') :
    IsAffine letters (k' • slope) (k * k') (.binary .star l r) := by
  intro at_ b bound
  rw [evaluate, left at_ b bound, right.value b]
  change Except.ok (Exact.number _ * .number _) = _
  rw [Exact.number_mul, add_mul, Finset.sum_mul]
  simp [mul_comm, mul_left_comm]

theorem IsAffine.quotient (left : l.IsAffine letters slope k) (right : r.IsAffine ∅ slope' k')
    (nonzero : k' ≠ 0) : IsAffine letters (k'⁻¹ • slope) (k / k') (.binary .slash l r) := by
  intro at_ b bound
  rw [evaluate, left at_ b bound, right.value b]
  change Except.ok (Exact.number _ / .number _) = _
  rw [Exact.number_div nonzero, add_div, Finset.sum_div]
  simp [div_eq_inv_mul, mul_assoc]

structure IsOver (letters : Finset Char) (e : Expr Exact) : Prop where
  numbers : ∀ v, .number v ∈ e.leaves → ∃ q, v = .number q
  known : ∀ c, .letter c ∈ e.leaves → c ∈ letters

theorem IsOver.left {operator : Symbol} (proper : (Expr.binary operator l r).IsOver letters) :
    l.IsOver letters :=
  ⟨fun v leaf => proper.numbers v (List.mem_append_left _ leaf),
    fun c leaf => proper.known c (List.mem_append_left _ leaf)⟩

theorem IsOver.right {operator : Symbol} (proper : (Expr.binary operator l r).IsOver letters) :
    r.IsOver letters :=
  ⟨fun v leaf => proper.numbers v (List.mem_append_right _ leaf),
    fun c leaf => proper.known c (List.mem_append_right _ leaf)⟩

theorem IsOver.operand {operator : Symbol} (proper : (Expr.unary operator e).IsOver letters) :
    e.IsOver letters :=
  ⟨proper.numbers, proper.known⟩

theorem IsOver.constant (proper : e.IsOver letters) (constant : e.IsConstant) : e.IsOver ∅ := by
  refine ⟨proper.numbers, fun c leaf => ?_⟩
  rw [← mentions_iff, constant c] at leaf
  cases leaf

/-- The tree of a side has decimals and letters of the side as leaves. -/
theorem isOver_of_ofSide {offset : Nat} {side : List Char} (parsed : ofSide offset side = .ok e)
    (known : ∀ c ∈ lettersOf side, c ∈ letters) : e.IsOver letters := by
  refine ⟨fun v leaf => ?_, fun c leaf => known c (letter_of_ofSide parsed leaf)⟩
  obtain ⟨mantissa, places, rfl⟩ := number_of_ofSide parsed leaf
  exact ⟨_, ofDecimal_eq mantissa places⟩

/-- A linear tree is affine in any letters that include its own. -/
theorem IsLinear.isAffine (linear : e.IsLinear) {letters : Finset Char}
    (proper : e.IsOver letters) : ∃ slope k, e.IsAffine letters slope k := by
  induction linear generalizing letters with
  | number v =>
      obtain ⟨q, rfl⟩ := proper.numbers v List.mem_cons_self
      exact ⟨_, _, isAffine_number letters q⟩
  | letter c => exact ⟨_, _, isAffine_letter (proper.known c List.mem_cons_self)⟩
  | plus _ ih =>
      obtain ⟨slope, k, affine⟩ := ih proper.operand
      exact ⟨_, _, affine.plus⟩
  | minus _ ih =>
      obtain ⟨slope, k, affine⟩ := ih proper.operand
      exact ⟨_, _, affine.minus⟩
  | sum _ _ ihl ihr =>
      obtain ⟨slope, k, left⟩ := ihl proper.left
      obtain ⟨slope', k', right⟩ := ihr proper.right
      exact ⟨_, _, left.sum right⟩
  | difference _ _ ihl ihr =>
      obtain ⟨slope, k, left⟩ := ihl proper.left
      obtain ⟨slope', k', right⟩ := ihr proper.right
      exact ⟨_, _, left.difference right⟩
  | product _ _ constant ihl ihr =>
      -- The constant factor is affine in no letter, so it has one value.
      rcases constant with constant | constant
      · obtain ⟨slope', k', left⟩ := ihl (proper.left.constant constant)
        obtain ⟨slope, k, right⟩ := ihr proper.right
        exact ⟨_, _, left.multiple right⟩
      · obtain ⟨slope, k, left⟩ := ihl proper.left
        obtain ⟨slope', k', right⟩ := ihr (proper.right.constant constant)
        exact ⟨_, _, left.multiple_right right⟩
  | quotient _ _ constant nonzero ihl ihr =>
      obtain ⟨slope, k, left⟩ := ihl proper.left
      obtain ⟨slope', k', right⟩ := ihr (proper.right.constant constant)
      refine ⟨_, _, left.quotient right fun zeroDivisor => nonzero ?_⟩
      rw [right.value, zeroDivisor, zero_eq]

end Expr
end Trees

namespace Probe

variable {probe : Probe Exact} {letters : Finset Char} {slope slope' : Char → ℚ} {k k' : ℚ}

def IsAffine (probe : Probe Exact) (letters : Finset Char) (slope : Char → ℚ) (k : ℚ) : Prop :=
  ∀ (at_ : Char → ℚ) (b : Bindings Exact), (∀ c ∈ letters, b c = some (.number (at_ c))) →
    probe.difference b = .number (k + ∑ c ∈ letters, slope c * at_ c)

theorem isAffine_of_sides (left : probe.left.IsAffine letters slope k)
    (right : probe.right.IsAffine letters slope' k') :
    probe.IsAffine letters (slope - slope') (k - k') := by
  intro at_ b bound
  have whole := left.difference right at_ b bound
  rw [Expr.evaluate, left at_ b bound, right at_ b bound] at whole
  rw [difference, left at_ b bound, right at_ b bound]
  exact Except.ok.inj whole

/-- Along a letter an affine difference is a line, with the slope of that letter. -/
theorem IsAffine.along (affine : probe.IsAffine letters slope k) {letter : Char}
    (mem : letter ∈ letters) {base : Bindings Exact} (at_ : Char → ℚ)
    (others : ∀ c ∈ letters.erase letter, base c = some (.number (at_ c))) (q : ℚ) :
    probe.along base letter (.number q) =
      .number (k + ∑ c ∈ letters.erase letter, slope c * at_ c + slope letter * q) := by
  rw [Probe.along, affine (Function.update at_ letter q), ← Finset.sum_erase_add _ _ mem,
    Function.update_self, ← add_assoc]
  · congr 3
    refine Finset.sum_congr rfl fun c there => ?_
    rw [Function.update_of_ne (Finset.ne_of_mem_erase there)]
  · intro c there
    rw [Bindings.set]
    by_cases same : c = letter
    · rw [if_pos (beq_iff_eq.mpr same), same, Function.update_self]
    · rw [if_neg (by simpa using same), Function.update_of_ne same]
      exact others c (Finset.mem_erase.mpr ⟨same, there⟩)

theorem IsAffine.affineSlope (affine : probe.IsAffine letters slope k) {letter : Char}
    (mem : letter ∈ letters) {base : Bindings Exact} (at_ : Char → ℚ)
    (others : ∀ c ∈ letters.erase letter, base c = some (.number (at_ c))) :
    Probe.affineSlope (probe.along base letter) = some (.number (slope letter)) :=
  affineSlope_line (affine.along mem at_ others)

/-- A letter is probed beside letters that are zero, which leaves its slope. -/
theorem IsAffine.probed {letters : List Char} (affine : probe.IsAffine letters.toFinset slope k)
    {letter : Char} (mem : letter ∈ letters) :
    probe.along (Bindings.all letters zero) letter one -
      probe.difference (Bindings.all letters zero) = number (slope letter) := by
  have zeros {c : Char} (there : c ∈ letters.toFinset) :
      Bindings.all letters zero c = some (number 0) := by
    rw [Bindings.all_of_mem (List.mem_toFinset.mp there), zero_eq]
  rw [one_eq, affine (fun _ => 0) _ fun c there => zeros there,
    affine.along (List.mem_toFinset.mpr mem) (fun _ => 0) fun c there =>
      zeros (Finset.mem_of_mem_erase there)]
  simp

/-- No letter of an affine difference is refused. -/
theorem IsAffine.firstNonlinear {letters : List Char}
    (affine : probe.IsAffine letters.toFinset slope k) :
    probe.firstNonlinear letters = none := by
  refine firstNonlinear_eq_none_iff.mpr fun letter mem => ?_
  have passes (q : ℚ) : Probe.affineSlope (probe.along (Bindings.all letters (.number q)) letter) =
      some (.number (slope letter)) :=
    affine.affineSlope (List.mem_toFinset.mpr mem) (fun _ => q) fun c there =>
      Bindings.all_of_mem (List.mem_toFinset.mp (Finset.mem_of_mem_erase there)) _
  exact ⟨_, _, zero_eq ▸ passes 0, one_eq ▸ passes 1, agrees_number _⟩

end Probe

/-- The constant of a side that is affine is its value with all letters zero. -/
theorem LinearForm.exists_of_isAffine {letter : Char} (alpha : letter.isAlpha = true)
    {offset : Nat} {side : List Char} {e : Expr Exact} (parsed : Expr.ofSide offset side = .ok e)
    {letters : List Char} (known : ∀ c ∈ lettersOf side, c ∈ letters) {slope : Char → ℚ} {k : ℚ}
    (affine : e.IsAffine letters.toFinset slope k) :
    ∃ form : LinearForm Exact, decompose letter offset side = .ok form ∧
      form.constant = .number k := by
  have value := affine (fun _ => 0) (Bindings.all letters zero) fun c mem => by
    rw [Bindings.all_of_mem (List.mem_toFinset.mp mem), zero_eq]
  refine exists_decompose alpha parsed (fun c mem => Bindings.all_of_mem (known c mem) zero) ?_
    (isFinite_number k)
  simpa using value

/-- Whatever was read off the text, a coefficient that was probed exactly is nearly right. -/
theorem LinearDerivation.isNear_coefficient {d : LinearDerivation Exact} {c : ℚ}
    (probed : d.slope = .number c) : d.coefficient.IsNear c := by
  rw [coefficient]
  cases agree : d.agrees with
  | true =>
      rw [agrees, probed] at agree
      exact isNear_of_agrees agree
  | false =>
      rw [probed]
      exact isNear_number c

theorem CoefficientReading.isNear_coefficient {r : CoefficientReading Exact} {c : ℚ}
    (probed : r.probed = .number c) : r.coefficient.IsNear c := by
  rw [coefficient, isOverruled, probed, isFinite_number, Bool.true_and]
  cases agree : Probe.agrees r.scanned (.number c) with
  | true => exact isNear_of_agrees agree
  | false => exact isNear_number c

section Problems

variable {text : List Char} {p : Problem} {probe : Probe Exact} {slope slope' : Char → ℚ} {k k' : ℚ}
  (stated : Problem.ofClean text = .ok p) (trees : Probe.ofSides p.sides = .ok probe)
  (left : probe.left.IsAffine (p.unknown :: p.others).toFinset slope k)
  (right : probe.right.IsAffine (p.unknown :: p.others).toFinset slope' k')

include stated trees left right

theorem Problem.exists_forms :
    ∃ leftForm rightForm : LinearForm Exact,
      LinearForm.decompose p.unknown 0 p.sides.left = .ok leftForm ∧
        LinearForm.decompose p.unknown p.sides.rightOffset p.sides.rightOrZero = .ok rightForm ∧
          leftForm.constant = .number k ∧ rightForm.constant = .number k' := by
  obtain ⟨hleft, hright⟩ := Probe.ofSides_ok_iff.mp trees
  have alpha := Problem.isAlpha_of_ofClean stated List.mem_cons_self
  obtain ⟨leftForm, formLeft, constantLeft⟩ := LinearForm.exists_of_isAffine alpha hleft
    (fun c mem => Problem.mem_letters_of_ofClean stated (List.mem_append_left _ mem)) left
  obtain ⟨rightForm, formRight, constantRight⟩ := LinearForm.exists_of_isAffine alpha hright
    (fun c mem => Problem.mem_letters_of_ofClean stated (List.mem_append_right _ mem)) right
  exact ⟨leftForm, rightForm, formLeft, formRight, constantLeft, constantRight⟩

/-- One letter: the probes lie on a line, so nothing is searched for. -/
theorem Problem.derive_linear (options : SolverOptions Exact) (alone : p.others = []) :
    ∃ d : LinearDerivation Exact, p.derive options = .ok (.linear d) ∧
      d.slope = .number (slope p.unknown - slope' p.unknown) ∧
        d.left.constant = .number k ∧ d.right.constant = .number k' := by
  have affine := Probe.isAffine_of_sides left right
  have slopes : Probe.affineSlope (probe.along Bindings.empty p.unknown) =
      some (.number (slope p.unknown - slope' p.unknown)) :=
    affine.affineSlope (List.mem_toFinset.mpr List.mem_cons_self) 0 (by simp [alone])
  obtain ⟨leftForm, rightForm, formLeft, formRight, constants⟩ :=
    Problem.exists_forms stated trees left right
  refine ⟨⟨p.unknown, leftForm, rightForm, _, probe.right.mentions p.unknown⟩, ?_, rfl, constants⟩
  rw [Problem.derive, alone, List.isEmpty_nil, if_pos rfl, Derivation.ofSingle, trees]
  simp only [bind, Except.bind, slopes, formLeft, formRight]
  rfl

/-- Several letters: none of them is refused, and each is probed exactly. -/
theorem Problem.derive_reduced (options : SolverOptions Exact) (several : p.others ≠ []) :
    ∃ d : ReductionDerivation Exact, p.derive options = .ok (.reduced d) ∧
      d.constant = .number (k - k') ∧ d.main.letter = p.unknown ∧
        d.main.probed = .number (slope p.unknown - slope' p.unknown) ∧
          List.Forall₂ (fun c r => r.letter = c ∧ r.probed = .number (slope c - slope' c)) p.others
            d.others := by
  have affine := Probe.isAffine_of_sides left right
  obtain ⟨leftForm, rightForm, formLeft, formRight, constantLeft, constantRight⟩ :=
    Problem.exists_forms stated trees left right
  have read {c : Char} (mem : c ∈ p.unknown :: p.others) :
      ∃ r, CoefficientReading.ofSides p.sides probe (p.unknown :: p.others) c = .ok r :=
    CoefficientReading.exists_reading trees _ (Problem.isAlpha_of_ofClean stated mem)
  have probed {c : Char} (mem : c ∈ p.unknown :: p.others) {r : CoefficientReading Exact}
      (reading : CoefficientReading.ofSides p.sides probe (p.unknown :: p.others) c = .ok r) :
      r.letter = c ∧ r.probed = .number (slope c - slope' c) := by
    obtain ⟨_, _, -, -, rfl⟩ := CoefficientReading.ofSides_ok_iff.mp reading
    exact ⟨rfl, affine.probed mem⟩
  obtain ⟨main, reading⟩ := read List.mem_cons_self
  obtain ⟨others, readings, related⟩ := exists_mapM fun c mem => read (List.mem_cons_of_mem _ mem)
  obtain ⟨letter, slopeMain⟩ := probed List.mem_cons_self reading
  refine ⟨⟨main, others, leftForm.constant - rightForm.constant⟩, ?_, ?_, letter, slopeMain,
    related.imp fun _ _ read => probed (List.mem_cons_of_mem _ read.1) read.2⟩
  · rw [Problem.derive, if_neg (by simpa using several), Derivation.ofSeveral, trees]
    simp only [bind, Except.bind, affine.firstNonlinear, formLeft, formRight, reading, readings]
    rfl
  · rw [constantLeft, constantRight, Exact.number_sub]

end Problems
/-- A single number, every number, or none. -/
def Resolution.IsVerdict (resolution : Resolution Exact) : Prop :=
  (∃ q, resolution = .unique (.number q)) ∨ resolution = .allReals ∨ resolution = .noSolution

theorem Resolution.isVerdict_classify (a l r : ℚ) :
    (classify (Exact.number a) (.number l) (.number r)).IsVerdict := by
  rw [classify, isZero_number]
  by_cases zeroSlope : a = 0
  · rw [if_pos (decide_eq_true zeroSlope)]
    split
    · exact .inr (.inl rfl)
    · exact .inr (.inr rfl)
  · rw [if_neg (by simpa using zeroSlope), Exact.number_sub, Exact.number_div zeroSlope]
    exact .inl ⟨_, rfl⟩

/-- A problem whose sides are linear is solved. The difference of its sides is an affine function of
its letters. With one letter there is a verdict on the balanced constants, with several the constant
is that of the difference, and each coefficient that is classified or reported is, up to the
tolerance of probing, the one of its letter. -/
theorem solve_linear [Unicode.Form] (write : Exact → String) (options : SolverOptions Exact)
    {text : String} {p : Problem} {probe : Probe Exact}
    (stated : Problem.ofClean (normalize text.toList) = .ok p)
    (trees : Probe.ofSides p.sides = .ok probe) (left : probe.left.IsLinear)
    (right : probe.right.IsLinear) :
    ∃ (slope : Char → ℚ) (k : ℚ), probe.IsAffine (p.unknown :: p.others).toFinset slope k ∧
      ∃ solution, @solve Exact (writtenBy write) _ options text = .ok solution ∧
        solution.unknown = p.unknown ∧ solution.others = p.others ∧
        (p.others = [] → ∃ d : LinearDerivation Exact, p.derive options = .ok (.linear d) ∧
          solution.resolution = d.resolution ∧ d.resolution.IsVerdict ∧
            d.left.constant - d.right.constant = .number k ∧
              d.coefficient.IsNear (slope p.unknown)) ∧
        (p.others ≠ [] → ∃ reduction, solution.resolution = .reduced reduction ∧
          reduction.unknown = p.unknown ∧ reduction.constant = .number k ∧
            reduction.coefficient.IsNear (slope p.unknown) ∧
              List.Forall₂ (fun c term => term.letter = c ∧ term.coefficient.IsNear (slope c))
                p.others reduction.free) := by
  obtain ⟨hleft, hright⟩ := Probe.ofSides_ok_iff.mp trees
  have known {c : Char} (mem : c ∈ lettersOf p.sides.left ++ lettersOf p.sides.rightOrZero) :
      c ∈ (p.unknown :: p.others).toFinset :=
    List.mem_toFinset.mpr (Problem.mem_letters_of_ofClean stated mem)
  obtain ⟨slope, k, affineLeft⟩ := left.isAffine
    (Expr.isOver_of_ofSide hleft fun c mem => known (List.mem_append_left _ mem))
  obtain ⟨slope', k', affineRight⟩ := right.isAffine
    (Expr.isOver_of_ofSide hright fun c mem => known (List.mem_append_right _ mem))
  refine ⟨_, _, Probe.isAffine_of_sides affineLeft affineRight, ?_⟩
  by_cases alone : p.others = []
  · obtain ⟨d, derived, probed, constantLeft, constantRight⟩ :=
      Problem.derive_linear stated trees affineLeft affineRight options alone
    obtain ⟨solution, solved, unknown, others, resolution⟩ :=
      @exists_solution _ (writtenBy write) _ _ _ _ _ stated derived
    have near := LinearDerivation.isNear_coefficient probed
    refine ⟨solution, solved, unknown, others, fun _ => ⟨d, derived, resolution, ?_, ?_, near⟩,
      fun several => (several alone).elim⟩
    · obtain ⟨a, coefficient, -⟩ := near
      rw [LinearDerivation.resolution, coefficient, constantLeft, constantRight]
      exact Resolution.isVerdict_classify a k k'
    · rw [constantLeft, constantRight, Exact.number_sub]
  · obtain ⟨d, derived, constant, letter, probed, related⟩ :=
      Problem.derive_reduced stated trees affineLeft affineRight options alone
    obtain ⟨solution, solved, unknown, others, resolution⟩ :=
      @exists_solution _ (writtenBy write) _ _ _ _ _ stated derived
    refine ⟨solution, solved, unknown, others, fun none => (alone none).elim, fun _ =>
      ⟨d.reduction, resolution, letter, constant,
        CoefficientReading.isNear_coefficient probed, ?_⟩⟩
    rw [ReductionDerivation.reduction, List.forall₂_map_right_iff]
    exact related.imp fun _ _ read =>
      ⟨read.1, CoefficientReading.isNear_coefficient read.2⟩

/-- Brackets in products and quotients, of which only some are read right off the text. -/
theorem solve_linear_nested :
    (∃ solution,
      @solve Exact (writtenBy fun _ => "") _ default "3(x+1)/2-2*(4-x)=x" = .ok solution ∧
        solution.resolution.IsVerdict) ∧
    ∃ solution reduction,
      @solve Exact (writtenBy fun _ => "") _ default "2(x+y)-y/4=3" = .ok solution ∧
        solution.resolution = .reduced reduction ∧ reduction.constant = .number (-3) := by
  have decimal (n : Nat) : (Expr.number (ofDecimal n 0)).IsLinear := .number _
  have constant (n : Nat) : (Expr.number (ofDecimal n 0 : Exact)).IsConstant := fun _ => rfl
  constructor
  · have stated : Problem.ofClean (normalize "3(x+1)/2-2*(4-x)=x".toList) =
        .ok ⟨⟨"3(x+1)/2-2*(4-x)".toList, ['x'], 17⟩, 'x', []⟩ := by decide +kernel
    have trees : Probe.ofSides (α := Exact) ⟨"3(x+1)/2-2*(4-x)".toList, ['x'], 17⟩ =
        .ok ⟨.binary .minus (.binary .slash (.binary .star (.number (ofDecimal 3 0))
            (.binary .plus (.letter 'x') (.number (ofDecimal 1 0)))) (.number (ofDecimal 2 0)))
          (.binary .star (.number (ofDecimal 2 0))
            (.binary .minus (.number (ofDecimal 4 0)) (.letter 'x'))), .letter 'x'⟩ := rfl
    have thrice := (decimal 3).product ((Expr.IsLinear.letter 'x').sum (decimal 1))
      (.inl (constant 3))
    have half := thrice.quotient (decimal 2) (constant 2) (by simp [Expr.evaluate])
    have twice := (decimal 2).product ((decimal 4).difference (.letter 'x')) (.inl (constant 2))
    obtain ⟨_, _, -, solution, solved, -, -, single, -⟩ := solve_linear (fun _ => "") default stated
      trees (half.difference twice) (.letter 'x')
    obtain ⟨d, -, resolution, verdict, -⟩ := single rfl
    exact ⟨solution, solved, resolution ▸ verdict⟩
  · have stated : Problem.ofClean (normalize "2(x+y)-y/4=3".toList) =
        .ok ⟨⟨"2(x+y)-y/4".toList, ['3'], 11⟩, 'x', ['y']⟩ := by decide +kernel
    have trees : Probe.ofSides (α := Exact) ⟨"2(x+y)-y/4".toList, ['3'], 11⟩ =
        .ok ⟨.binary .minus (.binary .star (.number (ofDecimal 2 0))
            (.binary .plus (.letter 'x') (.letter 'y')))
          (.binary .slash (.letter 'y') (.number (ofDecimal 4 0))), .number (ofDecimal 3 0)⟩ := rfl
    have twice := (decimal 2).product ((Expr.IsLinear.letter 'x').sum (.letter 'y'))
      (.inl (constant 2))
    have quarter := (Expr.IsLinear.letter 'y').quotient (decimal 4) (constant 4)
      (by simp [Expr.evaluate])
    obtain ⟨slope, k, affine, solution, solved, -, -, -, several⟩ := solve_linear (fun _ => "")
      default stated trees (twice.difference quarter) (decimal 3)
    obtain ⟨reduction, resolution, -, balance, -⟩ := several (by simp)
    have atZero := affine (fun _ => 0) (fun _ => some (.number 0)) fun _ _ => rfl
    have value : number k = number (-3) := by
      simpa using atZero.symm.trans (show _ = number (-3) by decide +kernel)
    exact ⟨solution, reduction, solved, resolution, balance.trans value⟩

end WorkedAlgebra
