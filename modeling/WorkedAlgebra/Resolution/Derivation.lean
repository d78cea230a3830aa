import WorkedAlgebra.Resolution.Bisection
import WorkedAlgebra.Resolution.Probe

/-!
How an equation is resolved, as values: what was read off the text, what was probed, and what
follows. The wording of the steps is in `Resolution.Steps` and plays no part here.

With one unknown the coefficient that was read off the text is used when the probed slope agrees
with it, and the slope otherwise; sides that are not affine are searched for a root. With several
letters only the first one is isolated, and an equation that is not linear in all of them is
refused.
-/

namespace WorkedAlgebra

structure LinearDerivation (α : Type) where
  unknown : Char
  left : LinearForm α
  right : LinearForm α
  /-- Probed slope of the difference of the sides. -/
  slope : α
  /-- Whether the unknown occurs on the right. -/
  onRight : Bool
deriving DecidableEq, Repr

structure SearchDerivation (α : Type) where
  unknown : Char
  outcome : SearchOutcome α
  converged : Bool
deriving DecidableEq, Repr

/-- A letter with the coefficient read off the text and the one found by probing. -/
structure CoefficientReading (α : Type) where
  letter : Char
  scanned : α
  probed : α
deriving DecidableEq, Repr

structure ReductionDerivation (α : Type) where
  main : CoefficientReading α
  others : List (CoefficientReading α)
  constant : α
deriving DecidableEq, Repr

inductive Derivation (α : Type) where
  | linear (d : LinearDerivation α)
  | searched (d : SearchDerivation α)
  | reduced (d : ReductionDerivation α)
deriving DecidableEq, Repr

section Results

variable {α : Type} [Scalar α]

namespace LinearDerivation

def scanned (d : LinearDerivation α) : α := d.left.coefficient - d.right.coefficient

def agrees (d : LinearDerivation α) : Bool := Probe.agrees d.scanned d.slope

def coefficient (d : LinearDerivation α) : α := if d.agrees then d.scanned else d.slope

def resolution (d : LinearDerivation α) : Resolution α :=
  .classify d.coefficient d.left.constant d.right.constant

end LinearDerivation

def SearchDerivation.estimate (d : SearchDerivation α) : Estimate α :=
  ⟨d.outcome.value, d.outcome.residual, d.outcome.iterations, d.converged⟩

namespace CoefficientReading

def isOverruled (r : CoefficientReading α) : Bool :=
  Scalar.isFinite r.probed && !Probe.agrees r.scanned r.probed

def coefficient (r : CoefficientReading α) : α := if r.isOverruled then r.probed else r.scanned

def term (r : CoefficientReading α) : Term α := ⟨r.coefficient, some r.letter⟩

end CoefficientReading

namespace ReductionDerivation

def reduction (d : ReductionDerivation α) : Reduction α where
  unknown := d.main.letter
  coefficient := d.main.coefficient
  constant := d.constant
  free := d.others.map fun r => ⟨r.letter, r.coefficient⟩

end ReductionDerivation

def Derivation.resolution : Derivation α → Resolution α
  | .linear d => d.resolution
  | .searched d => .approximate d.estimate
  | .reduced d => .reduced d.reduction

def SearchDerivation.ofProbe (probe : Probe α) (unknown : Char) (options : SolverOptions α) :
    SearchDerivation α :=
  let outcome := Bisection.search (probe.along Bindings.empty unknown) options
  ⟨unknown, outcome, Scalar.leSqrt outcome.residual options.tolerance⟩

/-- Resolves an equation with one unknown. A side may have no value at zero, so linear forms are
taken only after probing. -/
def Derivation.ofSingle (sides : Sides) (unknown : Char) (options : SolverOptions α) :
    Except SolveError (Derivation α) := do
  let probe : Probe α ← Probe.ofSides sides
  let difference := probe.along Bindings.empty unknown
  match Probe.affineSlope difference with
  | none =>
    if Probe.points.any fun p => Scalar.isFinite (difference p) then
      return .searched (.ofProbe probe unknown options)
    else throw (.expression .notFinite none)
  | some slope =>
    let left ← LinearForm.decompose unknown 0 sides.left
    let right ← LinearForm.decompose unknown sides.rightOffset sides.rightOrZero
    return .linear ⟨unknown, left, right, slope, probe.right.mentions unknown⟩

/-- Reads the coefficient of one letter on both sides, and probes it with all other letters
zero. -/
def CoefficientReading.ofSides (sides : Sides) (probe : Probe α) (letters : List Char)
    (letter : Char) : Except SolveError (CoefficientReading α) := do
  let left ← LinearForm.scanCoefficient letter (Text.collapseSigns sides.left)
  let right ← LinearForm.scanCoefficient letter (Text.collapseSigns sides.rightOrZero)
  let zeros := Bindings.all letters Scalar.zero
  let probed := probe.along zeros letter Scalar.one - probe.difference zeros
  return ⟨letter, left - right, probed⟩

def Derivation.ofSeveral (sides : Sides) (main : Char) (others : List Char) :
    Except SolveError (Derivation α) := do
  let letters := main :: others
  let probe : Probe α ← Probe.ofSides sides
  match probe.firstNonlinear letters with
  | some letter => throw (.expression (.notLinear letter main) none)
  | none =>
    let left : LinearForm α ← LinearForm.decompose main 0 sides.left
    let right : LinearForm α ← LinearForm.decompose main sides.rightOffset sides.rightOrZero
    let mainReading ← CoefficientReading.ofSides sides probe letters main
    let readings ← others.mapM (CoefficientReading.ofSides sides probe letters)
    return .reduced ⟨mainReading, readings, left.constant - right.constant⟩

end Results
end WorkedAlgebra
