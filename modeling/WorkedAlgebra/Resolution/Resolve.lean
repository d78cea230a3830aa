import WorkedAlgebra.Resolution.Steps
import WorkedAlgebra.Trace

/-!
Resolving an equation step by step, with a trace of what is done. Here the order of the work shows:
what may fail comes before the first step that is noted, and the search notes a step before it
starts. What comes out is the same as for the derivations in `Resolution.Derivation`, which are
values and know nothing of a trace.
-/

namespace WorkedAlgebra

variable {α : Type} [Printable α]

def Probe.refine (probe : Probe α) (unknown : Char) (options : SolverOptions α) :
    Traced (Resolution α) := do
  Traced.push (SearchDerivation.openingStep unknown)
  let d := SearchDerivation.ofProbe probe unknown options
  Traced.push (d.bracketStep options)
  Traced.push (d.iterationStep options.precision)
  Traced.push (d.answerStep options.precision)
  return .approximate d.estimate

/-- Resolves an equation with one unknown. Sides that are not affine may have no value at zero, so
linear forms are taken only after probing. -/
def resolveSingle (sides : Sides) (unknown : Char) (options : SolverOptions α) :
    Traced (Resolution α) := do
  let places := options.precision
  let probe : Probe α ← Probe.ofSides sides
  let difference := probe.along Bindings.empty unknown
  match Probe.affineSlope difference with
  | none =>
    if Probe.points.all fun p => !Scalar.isFinite (difference p) then
      throw (.expression .notFinite none)
    else probe.refine unknown options
  | some slope =>
    let left ← LinearForm.decompose unknown 0 sides.left
    let right ← LinearForm.decompose unknown sides.rightOffset sides.rightOrZero
    let d : LinearDerivation α := ⟨unknown, left, right, slope, probe.right.mentions unknown⟩
    Traced.push (d.rightStep sides places)
    Traced.push (d.leftStep sides places)
    Traced.push (d.coefficientStep places)
    Traced.pushAll (d.closingSteps places)
    return d.resolution

def resolveSeveral (sides : Sides) (main : Char) (others : List Char) (options : SolverOptions α) :
    Traced (Resolution α) := do
  let places := options.precision
  let letters := main :: others
  let probe : Probe α ← Probe.ofSides sides
  match probe.firstNonlinear letters with
  | some letter => throw (.expression (.notLinear letter main) none)
  | none =>
    let left : LinearForm α ← LinearForm.decompose main 0 sides.left
    let right : LinearForm α ← LinearForm.decompose main sides.rightOffset sides.rightOrZero
    let mainReading ← CoefficientReading.ofSides sides probe letters main
    let readings ← others.mapM fun letter =>
      (CoefficientReading.ofSides sides probe letters letter : Traced (CoefficientReading α))
    let d : ReductionDerivation α := ⟨mainReading, readings, left.constant - right.constant⟩
    Traced.push d.lettersStep
    Traced.push (d.gatheringStep places)
    Traced.push (d.coefficientStep places)
    Traced.pushAll (ReductionDerivation.isolatingSteps places d.reduction)
    Traced.push d.freeStep
    return .reduced d.reduction

end WorkedAlgebra
