import WorkedAlgebra.Proofs.Renaming.Trees
import WorkedAlgebra.Solver

/-!
No letter is special. When the letters of a clean equation are exchanged, occurrence by occurrence
and whatever their case, every stage does the same with the new letters: the equation has the same
resolution with the same numbers, or fails for the same cause at the same column.
-/

namespace WorkedAlgebra

open Text Scalar

section Definitions

variable {α : Type} (σ : Renaming)

def Probe.rename (probe : Probe α) : Probe α := ⟨probe.left.rename σ, probe.right.rename σ⟩

def CoefficientReading.rename (r : CoefficientReading α) : CoefficientReading α :=
  { r with letter := σ.map r.letter }

def Derivation.rename : Derivation α → Derivation α
  | .linear d => .linear { d with unknown := σ.map d.unknown }
  | .searched d => .searched { d with unknown := σ.map d.unknown }
  | .reduced d =>
    .reduced { d with main := d.main.rename σ, others := d.others.map (CoefficientReading.rename σ) }

def Resolution.rename : Resolution α → Resolution α
  | .reduced r => .reduced { r with
      unknown := σ.map r.unknown
      free := r.free.map fun t => { t with letter := σ.map t.letter } }
  | other => other

end Definitions

variable {α : Type} [Scalar α] {σ : Renaming}

theorem Derivation.resolution_rename (d : Derivation α) :
    (d.rename σ).resolution = d.resolution.rename σ := by
  cases d with
  | linear d =>
      change d.resolution = d.resolution.rename σ
      unfold LinearDerivation.resolution Resolution.classify
      split
      · split <;> rfl
      · rfl
  | searched d => rfl
  | reduced d =>
      simp only [rename, resolution, ReductionDerivation.reduction, Resolution.rename, List.map_map]
      rfl

namespace LinearForm

def renameLocated (σ : Renaming) (f : Located ExpressionFault) : Located ExpressionFault :=
  ⟨f.fault.rename σ, f.column⟩

theorem coefficientBefore_renames {before before' : List Char}
    (renames : σ.Renames before before') (letter : Char) :
    coefficientBefore (α := α) (σ.map letter) before' =
      (coefficientBefore letter before).mapError (renameLocated σ) := by
  have rest := renames.dropWhile_marks
  simp only [coefficientBefore, renames.takeWhile_marks, rest.signs_take, ← rest.length_eq]
  cases (before.takeWhile Numeral.isMark).reverse.isEmpty with
  | true => rfl
  | false => cases Numeral.ofMarks? (before.takeWhile Numeral.isMark).reverse <;> rfl

theorem scanFrom_renames {letter : Char} (lower : letter.isLower = true)
    {before before' text text' : List Char} (behind : σ.Renames before before')
    (renames : σ.Renames text text') (sum : α) :
    scanFrom (σ.map letter) before' sum text' =
      (scanFrom letter before sum text).mapError (renameLocated σ) := by
  induction renames generalizing before before' sum with
  | nil => rfl
  | @cons c d cs ds replaces _ ih =>
      have further := behind.cons replaces
      rw [scanFrom, scanFrom, replaces.isLetter_eq lower, coefficientBefore_renames behind]
      split
      · cases coefficientBefore (α := α) letter before with
        | error fault => rfl
        | ok coefficient => exact ih further _
      · exact ih further _

variable {letter : Char} (lower : letter.isLower = true) {text text' : List Char}
  (renames : σ.Renames text text')

include renames

include lower in
theorem scanCoefficient_renames : scanCoefficient (α := α) (σ.map letter) text' =
    σ.result id (scanCoefficient letter text) := by
  rw [scanCoefficient, scanCoefficient, scanFrom_renames lower .nil renames]
  cases scanFrom letter [] (zero : α) text <;> rfl

theorem constantPart_renames (offset : Nat) : constantPart (α := α) offset text' =
    σ.result id (constantPart offset text) := by
  refine Renaming.result_bind (Expr.ofSide_renames renames offset) fun e => ?_
  rw [renames.lettersOf, Expr.evaluateFinite_rename (σ.binds_all _ _)]
  cases e.evaluateFinite (Bindings.all (lettersOf text) (zero : α)) <;> rfl

include lower in
/-- A side with exchanged letters has the same linear form. -/
theorem decompose_renames (offset : Nat) : decompose (α := α) (σ.map letter) offset text' =
    σ.result id (decompose letter offset text) := by
  have collapsed := renames.collapseSigns
  have coefficient : (scanCoefficient (α := α) (σ.map letter)
      (collapseSigns text')).mapError (.offset offset) =
        σ.result id ((scanCoefficient letter (collapseSigns text)).mapError (.offset offset)) := by
    rw [scanCoefficient_renames lower collapsed]
    cases scanCoefficient (α := α) letter (collapseSigns text) with
    | ok v => rfl
    | error error => exact congrArg Except.error (SolveError.rename_offset offset error).symm
  refine Renaming.result_bind coefficient fun coefficient => ?_
  exact Renaming.result_bind (constantPart_renames collapsed offset) fun constant => rfl

end LinearForm

section Probes

variable {sides sides' : Sides} (renames : σ.RenamesSides sides sides')

include renames in
theorem Probe.ofSides_renames :
    Probe.ofSides (α := α) sides' = σ.result (Probe.rename σ) (Probe.ofSides sides) := by
  refine Renaming.result_bind (Expr.ofSide_renames renames.left 0) fun left => ?_
  rw [renames.rightOffset]
  exact Renaming.result_bind (Expr.ofSide_renames renames.rightOrZero sides.rightOffset)
    fun right => rfl

variable {b b' : Bindings α}

theorem Probe.difference_rename (binds : σ.Binds b b') (probe : Probe α) :
    (probe.rename σ).difference b' = probe.difference b := by
  simp only [difference, rename, Expr.evaluate_rename binds]
  cases probe.left.evaluate b with
  | error fault => rfl
  | ok l => cases probe.right.evaluate b <;> rfl

theorem Probe.along_rename (binds : σ.Binds b b') (probe : Probe α) (letter : Char) :
    (probe.rename σ).along b' (σ.map letter) = probe.along b letter :=
  funext fun value => difference_rename (binds.set letter value) probe

theorem Probe.firstNonlinear_rename (probe : Probe α) (letters : List Char) :
    (probe.rename σ).firstNonlinear (letters.map σ.map) =
      (probe.firstNonlinear letters).map σ.map := by
  rw [firstNonlinear, firstNonlinear, List.find?_map]
  congr 2
  funext letter
  simp only [Function.comp_apply, isLinearIn, along_rename (σ.binds_all _ _)]

include renames in
theorem CoefficientReading.ofSides_renames {letter : Char} (lower : letter.isLower = true)
    (probe : Probe α) (letters : List Char) :
    ofSides sides' (probe.rename σ) (letters.map σ.map) (σ.map letter) =
      σ.result (CoefficientReading.rename σ) (ofSides sides probe letters letter) := by
  refine Renaming.result_bind (LinearForm.scanCoefficient_renames lower
    renames.left.collapseSigns) fun left => ?_
  refine Renaming.result_bind (LinearForm.scanCoefficient_renames lower
    renames.rightOrZero.collapseSigns) fun right => ?_
  simp only [Probe.along_rename (σ.binds_all _ _), Probe.difference_rename (σ.binds_all _ _)]
  rfl

end Probes

theorem mapM_renames {β γ γ' : Type} {f : β → Except SolveError γ} {rename : γ → γ'}
    {letters : List β} {names : β → β} {f' : β → Except SolveError γ'}
    (each : ∀ letter ∈ letters, f' (names letter) = σ.result rename (f letter)) :
    (letters.map names).mapM f' = σ.result (List.map rename) (letters.mapM f) := by
  induction letters with
  | nil => rfl
  | cons letter letters ih =>
      obtain ⟨first, rest⟩ := List.forall_mem_cons.mp each
      rw [List.map_cons, List.mapM_cons, List.mapM_cons]
      exact Renaming.result_bind first fun _ => Renaming.result_bind (ih rest) fun _ => rfl

namespace Derivation

variable {sides sides' : Sides} (renames : σ.RenamesSides sides sides')

include renames

theorem ofSingle_renames {unknown : Char} (lower : unknown.isLower = true)
    (options : SolverOptions α) :
    ofSingle sides' (σ.map unknown) options =
      σ.result (Derivation.rename σ) (ofSingle sides unknown options) := by
  refine Renaming.result_bind (Probe.ofSides_renames renames) fun probe => ?_
  have same := Probe.along_rename (α := α) σ.binds_empty probe unknown
  simp only [same]
  cases Probe.affineSlope (probe.along Bindings.empty unknown) with
  | none =>
      simp only
      split
      · simp only [SearchDerivation.ofProbe, same]
        rfl
      · rfl
  | some slope =>
      refine Renaming.result_bind
        (LinearForm.decompose_renames lower renames.left 0) fun left => ?_
      rw [renames.rightOffset]
      refine Renaming.result_bind (LinearForm.decompose_renames lower renames.rightOrZero
        sides.rightOffset) fun right => ?_
      simp only [Probe.rename, Expr.mentions_rename]
      rfl

theorem ofSeveral_renames {main : Char} {others : List Char} (lower : main.isLower = true)
    (lowers : ∀ letter ∈ others, letter.isLower = true) :
    ofSeveral (α := α) sides' (σ.map main) (others.map σ.map) =
      σ.result (Derivation.rename σ) (ofSeveral sides main others) := by
  refine Renaming.result_bind (Probe.ofSides_renames renames) fun probe => ?_
  have found := probe.firstNonlinear_rename (σ := σ) (main :: others)
  rw [List.map_cons] at found
  simp only [found]
  cases probe.firstNonlinear (main :: others) with
  | some letter => rfl
  | none =>
      simp only [Option.map_none, renames.rightOffset]
      refine Renaming.result_bind
        (LinearForm.decompose_renames lower renames.left 0) fun left => ?_
      refine Renaming.result_bind (LinearForm.decompose_renames lower renames.rightOrZero
        sides.rightOffset) fun right => ?_
      refine Renaming.result_bind
        (CoefficientReading.ofSides_renames renames lower probe (main :: others)) fun first => ?_
      refine Renaming.result_bind (mapM_renames fun letter mem =>
        CoefficientReading.ofSides_renames renames (lowers letter mem) probe (main :: others))
        fun readings => ?_
      rfl

end Derivation

end WorkedAlgebra
