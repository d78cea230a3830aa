import WorkedAlgebra.Proofs.AffineTest
import WorkedAlgebra.Proofs.ErrorColumns
import WorkedAlgebra.Proofs.PlainEquations
import WorkedAlgebra.Proofs.Rounding.Words
import WorkedAlgebra.Proofs.TreeValues

/-!
What becomes of every text. A side that is an expression has a value wherever its letters have
one, and where the difference of the sides is finite both sides are. So once an equation has passed
its probes nothing that follows can fail.
-/

namespace WorkedAlgebra

open Scalar Text

section Shape

def leftOf (text : List Char) : List Char := text.takeWhile (· != '=')

/-- What stands behind the first equals sign; nothing there is zero. -/
def rightOf (text : List Char) : List Char :=
  let rest := (text.dropWhile (· != '=')).tail
  if rest.isEmpty then ['0'] else rest

/-- A text with a single equals sign and something before it. -/
def IsEquation (text : List Char) : Prop := text.count '=' = 1 ∧ leftOf text ≠ []

theorem leftOf_cut {left : List Char} (absent : '=' ∉ left) (right : List Char) :
    leftOf (left ++ '=' :: right) = left := by
  have before : ∀ c ∈ left, (c != '=') = true := by
    intro c mem
    simpa using fun same : c = '=' => absent (same ▸ mem)
  rw [leftOf, List.takeWhile_append_of_pos before]
  simp

theorem rightOf_cut {left : List Char} (absent : '=' ∉ left) (right : List Char) :
    rightOf (left ++ '=' :: right) = if right.isEmpty then ['0'] else right := by
  have before : ∀ c ∈ left, (c != '=') = true := by
    intro c mem
    simpa using fun same : c = '=' => absent (same ▸ mem)
  rw [rightOf, List.dropWhile_append_of_pos before]
  simp

/-- An equation is cut into its sides. -/
theorem Sides.split_of_isEquation {text : List Char} (equation : IsEquation text) :
    ∃ sides, Sides.split text = .ok sides ∧ sides.left = leftOf text ∧
      sides.rightOrZero = rightOf text ∧ sides.rightOffset = (leftOf text).length + 1 := by
  obtain ⟨once, filled⟩ := equation
  obtain ⟨left, right, rfl⟩ := List.append_of_mem (List.count_pos_iff.mp (once ▸ Nat.one_pos))
  have counts : left.count '=' = 0 ∧ right.count '=' = 0 := by
    rw [List.count_append, List.count_cons_self] at once
    omega
  have absent := List.count_eq_zero.mp counts.1
  rw [leftOf_cut absent] at filled ⊢
  rw [rightOf_cut absent]
  refine ⟨⟨left, right, left.length + 1⟩, ?_, rfl, rfl, rfl⟩
  rw [split, pieces_cut absent, pieces_of_absent (List.count_eq_zero.mp counts.2)]
  simp [filled]

theorem isEquation_of_split {text : List Char} {sides : Sides}
    (cut : Sides.split text = .ok sides) : IsEquation text := by
  obtain ⟨joined, absentLeft, absentRight, filled, -⟩ := Sides.split_ok cut
  rw [joined]
  constructor
  · rw [List.count_append, List.count_cons_self, List.count_eq_zero.mpr absentLeft,
      List.count_eq_zero.mpr absentRight]
  · rwa [leftOf_cut absentLeft]

theorem detectLetters_eq_nil_iff {text : List Char} :
    detectLetters text = [] ↔ ∀ c ∈ text, c.isAlpha = false := by
  simp only [List.eq_nil_iff_forall_not_mem, detectLetters, mem_distinct, mem_lettersOf]
  constructor
  · intro none c mem
    exact Bool.eq_false_iff.mpr fun alpha => none _ ⟨c, mem, alpha, rfl⟩
  · rintro none letter ⟨c, mem, alpha, -⟩
    rw [none c mem] at alpha
    cases alpha

end Shape

section Stages

variable {α : Type} [Scalar α]

theorem Probe.along_defined {sides : Sides} {probe : Probe α} (trees : ofSides sides = .ok probe)
    {b : Bindings α}
    (bound : ∀ c ∈ lettersOf sides.left ++ lettersOf sides.rightOrZero, ∃ v, b c = some v) :
    ∃ l r, probe.left.evaluate b = .ok l ∧ probe.right.evaluate b = .ok r ∧
      probe.difference b = l - r := by
  obtain ⟨hleft, hright⟩ := ofSides_ok_iff.mp trees
  obtain ⟨l, left⟩ := Expr.evaluate_side_ok hleft fun c mem => bound c (List.mem_append_left _ mem)
  obtain ⟨r, right⟩ :=
    Expr.evaluate_side_ok hright fun c mem => bound c (List.mem_append_right _ mem)
  exact ⟨l, r, left, right, by rw [difference, left, right]⟩

theorem LinearForm.exists_scan {letter : Char} (alpha : letter.isAlpha = true) {offset : Nat}
    {side : List Char} {e : Expr α} (parsed : Expr.ofSide offset side = .ok e) :
    ∃ v : α, scanCoefficient letter (collapseSigns side) = .ok v := by
  obtain ⟨v, scanned, -⟩ := scanCoefficient_of_parsed (P := fun _ _ => True) alpha parsed trivial
    (fun _ _ _ => trivial) (fun _ _ _ _ _ => ⟨trivial, trivial⟩)
  exact ⟨v, scanned⟩

/-- A side that is finite with its letters zero has a linear form, with this value as constant. -/
theorem LinearForm.exists_decompose {letter : Char} (alpha : letter.isAlpha = true) {offset : Nat}
    {side : List Char} {e : Expr α} (parsed : Expr.ofSide offset side = .ok e) {b : Bindings α}
    (zeros : ∀ c ∈ lettersOf side, b c = some zero) {v : α} (value : e.evaluate b = .ok v)
    (finite : isFinite v = true) :
    ∃ form : LinearForm α, decompose letter offset side = .ok form ∧ form.constant = v := by
  obtain ⟨coefficient, scanned⟩ := exists_scan alpha parsed
  refine ⟨⟨coefficient, v⟩, decompose_ok_iff.mpr ⟨scanned, e, parsed, ?_, finite⟩, rfl⟩
  rw [← value, lettersOf_collapseSigns]
  refine Expr.evaluate_side_congr parsed fun c mem => ?_
  rw [zeros c mem, Bindings.all, if_pos (List.contains_iff_mem.mpr mem)]

theorem CoefficientReading.exists_reading {sides : Sides} {probe : Probe α}
    (trees : Probe.ofSides sides = .ok probe) (letters : List Char) {letter : Char}
    (alpha : letter.isAlpha = true) :
    ∃ reading, CoefficientReading.ofSides sides probe letters letter = .ok reading := by
  obtain ⟨hleft, hright⟩ := Probe.ofSides_ok_iff.mp trees
  obtain ⟨left, scannedLeft⟩ := LinearForm.exists_scan alpha hleft
  obtain ⟨right, scannedRight⟩ := LinearForm.exists_scan alpha hright
  exact ⟨_, CoefficientReading.ofSides_ok_iff.mpr ⟨left, right, scannedLeft, scannedRight, rfl⟩⟩

theorem exists_mapM {β γ : Type} {f : β → Except SolveError γ} {items : List β}
    (each : ∀ b ∈ items, ∃ c, f b = .ok c) :
    ∃ cs, items.mapM f = .ok cs ∧ List.Forall₂ (fun b c => b ∈ items ∧ f b = .ok c) items cs := by
  induction items with
  | nil => exact ⟨[], rfl, .nil⟩
  | cons b items ih =>
      obtain ⟨c, first⟩ := each b List.mem_cons_self
      obtain ⟨cs, rest, related⟩ := ih fun b' mem => each b' (List.mem_cons_of_mem b mem)
      refine ⟨c :: cs, by rw [List.mapM_cons, first, rest]; rfl, ?_⟩
      exact .cons ⟨List.mem_cons_self, first⟩
        (related.imp fun _ _ found => ⟨List.mem_cons_of_mem b found.1, found.2⟩)

def Probe.NowhereFinite (probe : Probe α) (letter : Char) : Prop :=
  ∀ p ∈ points, ∃ l r, probe.left.evaluate (Bindings.empty.set letter p) = .ok l ∧
    probe.right.evaluate (Bindings.empty.set letter p) = .ok r ∧ isFinite (l - r) = false

/-- Why sides in these letters are not resolved: a single letter leads nowhere, or of several one
is not linear. -/
inductive Probe.Refused (probe : Probe α) : List Char → ExpressionFault → Prop where
  | nowhere {letter : Char} (infinite : probe.NowhereFinite letter) : Refused probe [letter] .notFinite
  | nonlinear {main letter : Char} {others : List Char} (several : others ≠ [])
      (found : probe.firstNonlinear (main :: others) = some letter) :
      Refused probe (main :: others) (.notLinear letter main)

theorem Problem.derive_of_rejected {p : Problem} {options : SolverOptions α} {error : SolveError}
    (rejected : Probe.ofSides (α := α) p.sides = .error error) : p.derive options = .error error := by
  rw [derive, Derivation.ofSingle, Derivation.ofSeveral, rejected]
  split <;> rfl

/-- The letters of the sides are the ones the problem is about. -/
theorem Problem.mem_letters_of_ofClean {text : List Char} {p : Problem}
    (stated : Problem.ofClean text = .ok p) {c : Char}
    (mem : c ∈ lettersOf p.sides.left ++ lettersOf p.sides.rightOrZero) :
    c ∈ p.unknown :: p.others := by
  obtain ⟨cut, detected⟩ := Problem.ofClean_ok_iff.mp stated
  obtain ⟨joined, -⟩ := Sides.split_ok cut
  rw [← detected, detectLetters, mem_distinct, joined, mem_lettersOf]
  rcases List.mem_append.mp mem with left | right
  · obtain ⟨d, there, alpha⟩ := mem_lettersOf.mp left
    exact ⟨d, List.mem_append_left _ there, alpha⟩
  · obtain ⟨d, there, alpha⟩ := mem_lettersOf.mp right
    unfold Sides.rightOrZero at there
    split at there
    · rw [List.mem_singleton.mp there] at alpha
      cases alpha.1
    · exact ⟨d, List.mem_append_right _ (List.mem_cons_of_mem _ there), alpha⟩

theorem Problem.isAlpha_of_ofClean {text : List Char} {p : Problem}
    (stated : Problem.ofClean text = .ok p) {c : Char} (mem : c ∈ p.unknown :: p.others) :
    c.isAlpha = true := by
  obtain ⟨-, detected⟩ := Problem.ofClean_ok_iff.mp stated
  rw [← detected] at mem
  exact isAlpha_of_mem_detectLetters mem

end Stages

section Floats

structure Problem.Covers (p : Problem) (probe : Probe Float) : Prop where
  trees : Probe.ofSides p.sides = .ok probe
  letters : ∀ c ∈ lettersOf p.sides.left ++ lettersOf p.sides.rightOrZero,
    c ∈ p.unknown :: p.others
  alpha : ∀ c ∈ p.unknown :: p.others, c.isAlpha = true

namespace Problem.Covers

variable {p : Problem} {probe : Probe Float} (covers : p.Covers probe)

include covers

theorem decompose_ok {b : Bindings Float} (zeros : ∀ c ∈ p.unknown :: p.others, b c = some zero)
    (finite : isFinite (probe.difference b) = true) :
    ∃ left right : LinearForm Float,
      LinearForm.decompose p.unknown 0 p.sides.left = .ok left ∧
        LinearForm.decompose p.unknown p.sides.rightOffset p.sides.rightOrZero = .ok right := by
  have zeros' (c : Char) (mem : c ∈ lettersOf p.sides.left ++ lettersOf p.sides.rightOrZero) :
      b c = some zero := zeros c (covers.letters c mem)
  obtain ⟨hleft, hright⟩ := Probe.ofSides_ok_iff.mp covers.trees
  obtain ⟨l, r, left, right, difference⟩ :=
    Probe.along_defined covers.trees fun c mem => ⟨_, zeros' c mem⟩
  rw [difference] at finite
  obtain ⟨finiteLeft, finiteRight⟩ := finite_of_sub finite
  have alpha := covers.alpha p.unknown List.mem_cons_self
  obtain ⟨leftForm, formLeft, -⟩ := LinearForm.exists_decompose alpha hleft
    (fun c mem => zeros' c (List.mem_append_left _ mem)) left finiteLeft
  obtain ⟨rightForm, formRight, -⟩ := LinearForm.exists_decompose alpha hright
    (fun c mem => zeros' c (List.mem_append_right _ mem)) right finiteRight
  exact ⟨leftForm, rightForm, formLeft, formRight⟩

theorem single (options : SolverOptions Float) (alone : p.others = []) :
    (probe.NowhereFinite p.unknown ∧
        Derivation.ofSingle p.sides p.unknown options = .error (.expression .notFinite none)) ∨
      ¬ probe.NowhereFinite p.unknown ∧
        ∃ d, Derivation.ofSingle p.sides p.unknown options = .ok d := by
  have defined (x : Float) : ∃ l r, probe.left.evaluate (Bindings.empty.set p.unknown x) = .ok l ∧
      probe.right.evaluate (Bindings.empty.set p.unknown x) = .ok r ∧
        probe.along Bindings.empty p.unknown x = l - r := by
    refine Probe.along_defined covers.trees fun c mem => ⟨x, ?_⟩
    have same : c = p.unknown := by simpa [alone] using covers.letters c mem
    rw [Bindings.set, if_pos (beq_iff_eq.mpr same)]
  have nowhere : probe.NowhereFinite p.unknown ↔ ∀ x ∈ Probe.points,
      isFinite (probe.along Bindings.empty p.unknown x) = false := by
    refine forall₂_congr fun x _ => ?_
    obtain ⟨l, r, left, right, difference⟩ := defined x
    rw [difference, left, right]
    simp
  rw [nowhere, Derivation.ofSingle, covers.trees]
  simp only [bind, Except.bind]
  cases affine : Probe.affineSlope (probe.along Bindings.empty p.unknown) with
  | none =>
      by_cases some_ : ∀ x ∈ Probe.points,
          isFinite (probe.along Bindings.empty p.unknown x) = false
      · refine .inl ⟨some_, ?_⟩
        rw [if_neg (by simpa using some_)]
        rfl
      · refine .inr ⟨some_, ?_⟩
        rw [if_pos (by simpa using some_)]
        exact ⟨_, rfl⟩
  | some slope =>
      have finite := (Probe.affineSlope_eq_some_iff.mp affine).1
      have zeroPoint : (zero : Float) ∈ Probe.points := List.mem_cons_self
      refine .inr ⟨fun none =>
        Bool.false_ne_true ((none _ zeroPoint).symm.trans (finite _ zeroPoint)), ?_⟩
      obtain ⟨left, right, formLeft, formRight⟩ := covers.decompose_ok
        (b := Bindings.empty.set p.unknown zero) (fun c mem => by
          have same : c = p.unknown := by simpa [alone] using mem
          rw [Bindings.set, if_pos (beq_iff_eq.mpr same)]) (finite _ zeroPoint)
      rw [formLeft, formRight]
      exact ⟨_, rfl⟩

theorem several :
    (∃ letter, probe.firstNonlinear (p.unknown :: p.others) = some letter ∧
        Derivation.ofSeveral (α := Float) p.sides p.unknown p.others =
          .error (.expression (.notLinear letter p.unknown) none)) ∨
      probe.firstNonlinear (p.unknown :: p.others) = none ∧
        ∃ d : Derivation Float, Derivation.ofSeveral p.sides p.unknown p.others = .ok d := by
  rw [Derivation.ofSeveral, covers.trees]
  simp only [bind, Except.bind]
  cases nonlinear : probe.firstNonlinear (p.unknown :: p.others) with
  | some letter => exact .inl ⟨letter, rfl, rfl⟩
  | none =>
      refine .inr ⟨rfl, ?_⟩
      obtain ⟨slope, _, affine, -⟩ :=
        Probe.firstNonlinear_eq_none_iff.mp nonlinear p.unknown List.mem_cons_self
      have finite := (Probe.affineSlope_eq_some_iff.mp affine).1 zero List.mem_cons_self
      obtain ⟨left, right, formLeft, formRight⟩ := covers.decompose_ok
        (b := (Bindings.all (p.unknown :: p.others) zero).set p.unknown zero) (fun c mem => by
          rw [Bindings.set, Bindings.all, if_pos (List.contains_iff_mem.mpr mem), ite_self]) finite
      obtain ⟨main, reading⟩ := CoefficientReading.exists_reading covers.trees
        (p.unknown :: p.others) (covers.alpha _ List.mem_cons_self)
      obtain ⟨others, readings, -⟩ := exists_mapM fun c mem =>
        CoefficientReading.exists_reading covers.trees (p.unknown :: p.others)
          (covers.alpha c (List.mem_cons_of_mem _ mem))
      simp only [formLeft, formRight, reading, readings]
      exact ⟨_, rfl⟩

/-- A problem whose sides have trees is refused for one reason, or resolved. -/
theorem derive (options : SolverOptions Float) :
    (∃ fault, probe.Refused (p.unknown :: p.others) fault ∧
        (∀ fault', probe.Refused (p.unknown :: p.others) fault' → fault' = fault) ∧
          p.derive options = .error (.expression fault none)) ∨
      (∀ fault, ¬ probe.Refused (p.unknown :: p.others) fault) ∧
        ∃ d, p.derive options = .ok d := by
  rw [Problem.derive]
  cases others : p.others with
  | nil =>
      rw [if_pos List.isEmpty_nil]
      rcases covers.single options others with ⟨nowhere, failed⟩ | ⟨somewhere, derived⟩
      · refine .inl ⟨.notFinite, .nowhere nowhere, fun fault refused => ?_, failed⟩
        cases refused with
        | nowhere _ => rfl
        | nonlinear several _ => exact (several rfl).elim
      · refine .inr ⟨fun fault refused => ?_, derived⟩
        cases refused with
        | nowhere nowhere => exact somewhere nowhere
        | nonlinear several _ => exact several rfl
  | cons letter rest =>
      rw [if_neg (by simp), ← others]
      have more : p.others ≠ [] := by simp [others]
      rcases covers.several with ⟨letter', found, failed⟩ | ⟨linear, derived⟩
      · refine .inl ⟨.notLinear letter' p.unknown, .nonlinear more found, fun fault refused => ?_,
          failed⟩
        rw [others] at refused found
        cases refused with
        | nonlinear _ found' =>
            cases found.symm.trans found'
            rfl
      · refine .inr ⟨fun fault refused => ?_, derived⟩
        rw [others] at refused linear
        cases refused with
        | nonlinear _ found => cases linear.symm.trans found

end Problem.Covers

theorem Problem.covers_of_ofClean {text : List Char} {p : Problem} {probe : Probe Float}
    (stated : Problem.ofClean text = .ok p) (trees : Probe.ofSides p.sides = .ok probe) :
    p.Covers probe :=
  ⟨trees, fun _ mem => mem_letters_of_ofClean stated mem,
    fun _ mem => isAlpha_of_ofClean stated mem⟩

/-- What stands behind the checks of an equation that has letters. -/
theorem exists_problem {text : List Char} (equation : IsEquation text)
    (letters : ∃ c ∈ text, c.isAlpha = true) :
    ∃ p, Problem.ofClean text = .ok p ∧ detectLetters text = p.unknown :: p.others ∧
      p.sides.left = leftOf text ∧ p.sides.rightOrZero = rightOf text ∧
        p.sides.rightOffset = (leftOf text).length + 1 := by
  obtain ⟨sides, cut, left, right, offset⟩ := Sides.split_of_isEquation equation
  cases detected : detectLetters text with
  | nil =>
      obtain ⟨c, mem, alpha⟩ := letters
      rw [detectLetters_eq_nil_iff.mp detected c mem] at alpha
      cases alpha
  | cons unknown others =>
      exact ⟨⟨sides, unknown, others⟩, Problem.ofClean_ok_iff.mpr ⟨cut, detected⟩, rfl, left, right,
        offset⟩

theorem Expr.ofText_fault {α : Type} [Scalar α] {offset : Nat} {text : List Char}
    {error : SolveError} (failed : ofText (α := α) offset text = .error error) :
    ∃ fault column, error = .expression fault (some column) ∧
      ((∃ f, fault = .token f) ∨ ∃ f, fault = .shape f) := by
  unfold ofText at failed
  split at failed
  · cases failed
    exact ⟨_, _, rfl, .inl ⟨_, rfl⟩⟩
  · split at failed
    · cases failed
      exact ⟨_, _, rfl, .inr ⟨_, rfl⟩⟩
    · cases failed

structure States (text : List Char) (left right : Expr Float) : Prop where
  equation : IsEquation text
  letters : ∃ c ∈ text, c.isAlpha = true
  left : Expr.ofSide 0 (leftOf text) = .ok left
  right : Expr.ofSide ((leftOf text).length + 1) (rightOf text) = .ok right

namespace States

variable {text : List Char} {left right left' right' : Expr Float}

theorem unique (h : States text left right) (h' : States text left' right') :
    left' = left ∧ right' = right :=
  ⟨Except.ok.inj (h'.left.symm.trans h.left), Except.ok.inj (h'.right.symm.trans h.right)⟩

theorem isExpression (h : States text left right) :
    IsExpression Float (collapseSigns (leftOf text)) ∧
      IsExpression Float (collapseSigns (rightOf text)) :=
  ⟨(isExpression_iff 0).mpr ⟨left, h.left⟩, (isExpression_iff _).mpr ⟨right, h.right⟩⟩

theorem classes (h : States text left right) :
    IsEquation text ∧ (¬ ∀ c ∈ text, c.isAlpha = false) ∧
      (IsExpression Float (collapseSigns (leftOf text)) ∧
        IsExpression Float (collapseSigns (rightOf text))) ∧
      ∀ l r, States text l r ↔ l = left ∧ r = right := by
  refine ⟨h.equation, ?_, h.isExpression, fun l r => ⟨h.unique, ?_⟩⟩
  · simpa using h.letters
  · rintro ⟨rfl, rfl⟩
    exact h

end States

/-- The five things that can become of a clean text, each with what it takes. -/
inductive Becomes (clean : List Char) : Except SolveError (Solution Float) → Prop where
  | malformed {cause : Malformation} (shape : ¬ IsEquation clean) :
      Becomes clean (.error (.malformed cause))
  | noVariable (equation : IsEquation clean) (none : ∀ c ∈ clean, c.isAlpha = false) :
      Becomes clean (.error .noVariable)
  | rejected {fault : ExpressionFault} {column : Nat} (equation : IsEquation clean)
      (letters : ∃ c ∈ clean, c.isAlpha = true)
      (rejected : ¬ (IsExpression Float (collapseSigns (leftOf clean)) ∧
        IsExpression Float (collapseSigns (rightOf clean))))
      (cause : (∃ f, fault = .token f) ∨ ∃ f, fault = .shape f) :
      Becomes clean (.error (.expression fault (some column)))
  | refused {left right : Expr Float} {fault : ExpressionFault} (states : States clean left right)
      (reason : ∀ fault', Probe.Refused ⟨left, right⟩ (detectLetters clean) fault' ↔
        fault' = fault) : Becomes clean (.error (.expression fault none))
  | solved {left right : Expr Float} {solution : Solution Float} (states : States clean left right)
      (never : ∀ fault, ¬ Probe.Refused ⟨left, right⟩ (detectLetters clean) fault) :
      Becomes clean (.ok solution)

theorem becomes_rejected {clean : List Char} (equation : IsEquation clean)
    (letters : ∃ c ∈ clean, c.isAlpha = true) {p : Problem} (left : p.sides.left = leftOf clean)
    (right : p.sides.rightOrZero = rightOf clean) {error : SolveError}
    (failed : Probe.ofSides (α := Float) p.sides = .error error) : Becomes clean (.error error) := by
  have rejected : ¬ (IsExpression Float (collapseSigns (leftOf clean)) ∧
      IsExpression Float (collapseSigns (rightOf clean))) := by
    rintro ⟨expressionLeft, expressionRight⟩
    obtain ⟨l, hleft⟩ := (isExpression_iff 0).mp expressionLeft
    obtain ⟨r, hright⟩ := (isExpression_iff p.sides.rightOffset).mp expressionRight
    have trees : Probe.ofSides p.sides = .ok ⟨l, r⟩ :=
      Probe.ofSides_ok_iff.mpr ⟨by rw [left]; exact hleft, by rw [right]; exact hright⟩
    cases failed.symm.trans trees
  simp only [Probe.ofSides, bind_error_iff] at failed
  rcases failed with first | ⟨_, -, second | ⟨_, -, done⟩⟩
  · obtain ⟨fault, column, rfl, cause⟩ := Expr.ofText_fault first
    exact .rejected equation letters rejected cause
  · obtain ⟨fault, column, rfl, cause⟩ := Expr.ofText_fault second
    exact .rejected equation letters rejected cause
  · cases done

theorem becomes_solve [Unicode.Form] (options : SolverOptions Float) (text : String) :
    Becomes (normalize text.toList) (solve options text) := by
  obtain ⟨clean, same⟩ : ∃ clean, normalize text.toList = clean := ⟨_, rfl⟩
  have unstated {error : SolveError} (failed : Problem.ofClean clean = .error error) :
      solve options text = .error error := solve_error_iff.mpr (.inl (same ▸ failed))
  rw [same]
  by_cases equation : IsEquation clean
  case neg =>
    cases cut : Sides.split clean with
    | ok sides => exact (equation (isEquation_of_split cut)).elim
    | error cause =>
        rw [unstated (by rw [Problem.ofClean, cut])]
        exact .malformed equation
  by_cases letters : ∃ c ∈ clean, c.isAlpha = true
  case neg =>
    have none : ∀ c ∈ clean, c.isAlpha = false := by simpa using letters
    obtain ⟨sides, cut, -⟩ := Sides.split_of_isEquation equation
    rw [unstated (by rw [Problem.ofClean, cut, detectLetters_eq_nil_iff.mpr none])]
    exact .noVariable equation none
  obtain ⟨p, stated, detected, left, right, offset⟩ := exists_problem equation letters
  have underived {error : SolveError} (failed : p.derive options = .error error) :
      solve options text = .error error := solve_error_iff.mpr (.inr ⟨p, same ▸ stated, failed⟩)
  cases trees : Probe.ofSides (α := Float) p.sides with
  | error error =>
      rw [underived (Problem.derive_of_rejected trees)]
      exact becomes_rejected equation letters left right trees
  | ok probe =>
      obtain ⟨hleft, hright⟩ := Probe.ofSides_ok_iff.mp trees
      rw [left] at hleft
      rw [right, offset] at hright
      have states : States clean probe.left probe.right := ⟨equation, letters, hleft, hright⟩
      rcases (Problem.covers_of_ofClean stated trees).derive options with
        ⟨fault, refused, only, failed⟩ | ⟨never, d, derived⟩
      · rw [underived failed]
        refine .refused states fun fault' => ?_
        rw [detected]
        exact ⟨only fault', fun h => h ▸ refused⟩
      · obtain ⟨solution, solved, -⟩ := exists_solution (same ▸ stated) derived
        rw [solved]
        exact .solved states (by rw [detected]; exact never)

/-- The outcome for every text. A text that is no equation is malformed; an equation without a
letter has no variable; a side that is no expression is reported with a column; sides that are
expressions are refused without a column for one of two reasons, and solved otherwise. -/
theorem solve_outcome [Unicode.Form] (options : SolverOptions Float) (text : String) :
    let clean := normalize text.toList
    let outcome := solve options text
    ((∃ cause, outcome = .error (.malformed cause)) ↔ ¬ IsEquation clean) ∧
      (outcome = .error .noVariable ↔ IsEquation clean ∧ ∀ c ∈ clean, c.isAlpha = false) ∧
      ((∃ fault column, outcome = .error (.expression fault (some column))) ↔
        IsEquation clean ∧ (∃ c ∈ clean, c.isAlpha = true) ∧
          ¬ (IsExpression Float (collapseSigns (leftOf clean)) ∧
            IsExpression Float (collapseSigns (rightOf clean)))) ∧
      (∀ fault, outcome = .error (.expression fault none) ↔
        ∃ left right, States clean left right ∧
          Probe.Refused ⟨left, right⟩ (detectLetters clean) fault) ∧
      ((∃ solution, outcome = .ok solution) ↔
        ∃ left right, States clean left right ∧
          ∀ fault, ¬ Probe.Refused ⟨left, right⟩ (detectLetters clean) fault) ∧
      ∀ fault column, outcome = .error (.expression fault (some column)) →
        (∃ f, fault = .token f) ∨ ∃ f, fault = .shape f := by
  have becomes := becomes_solve options text
  intro clean outcome
  change Becomes clean outcome at becomes
  generalize clean = clean, outcome = outcome at becomes ⊢
  cases becomes with
  | malformed shape =>
      have unstated (l r : Expr Float) : ¬ States clean l r := fun h => shape h.equation
      simp [shape, unstated]
  | noVariable equation none =>
      have unlettered : ¬ ∃ c ∈ clean, c.isAlpha = true := by simpa using none
      have unstated (l r : Expr Float) : ¬ States clean l r := fun h => unlettered h.letters
      simp only [equation, unlettered, unstated]
      simpa using none
  | rejected equation letters rejected cause =>
      have lettered : ¬ ∀ c ∈ clean, c.isAlpha = false := by simpa using letters
      have unstated (l r : Expr Float) : ¬ States clean l r := fun h => rejected h.isExpression
      simp only [equation, letters, lettered, unstated, rejected]
      simpa using cause
  | refused states reason =>
      obtain ⟨equation, lettered, expressions, trees⟩ := states.classes
      simp [equation, lettered, expressions, trees, reason]
      exact fun _ => eq_comm
  | solved states never =>
      obtain ⟨equation, lettered, expressions, trees⟩ := states.classes
      simp [equation, lettered, expressions, trees, never]

end Floats

end WorkedAlgebra
