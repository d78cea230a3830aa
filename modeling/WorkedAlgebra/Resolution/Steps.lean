import WorkedAlgebra.Resolution.Derivation

/-!
The worked steps of a derivation, in words.
-/

namespace WorkedAlgebra

variable {α : Type} [Printable α]

open Scalar

def lettersText (letters : List Char) : String :=
  ", ".intercalate (letters.map fun c => s!"{c}")

namespace LinearDerivation

def rightStep (sides : Sides) (places : Nat) (d : LinearDerivation α) : String :=
  let text := String.ofList sides.rightOrZero
  let value := numberText places d.right.constant
  if d.onRight then s!"Evaluate the right side with {d.unknown} = 0: {text} = {value}"
  else s!"Evaluate the right side: {text} = {value}"

def leftStep (sides : Sides) (places : Nat) (d : LinearDerivation α) : String :=
  let text := String.ofList sides.left
  let value := numberText places d.left.constant
  s!"Evaluate the constant part of the left side ({d.unknown} = 0): {text} = {value}"

def coefficientStep (places : Nat) (d : LinearDerivation α) : String :=
  let scanned := numberText places d.scanned
  if !d.agrees then
    let slope := numberText places d.slope
    s!"Coefficient of {d.unknown} (found by evaluating both sides): {slope}"
  else if isZero d.right.coefficient then s!"Coefficient of {d.unknown}: {scanned}"
  else
    let left := numberText places d.left.coefficient
    let right := numberText places d.right.coefficient
    let operand := operandText places d.right.coefficient
    s!"Coefficient of {d.unknown}: {left} on the left, {right} on the right, " ++
      s!"{left} - {operand} = {scanned}"

def solvingSteps (places : Nat) (d : LinearDerivation α) (value : α) : List String :=
  let term := termText places d.coefficient d.unknown
  let sum := Term.sumText places [⟨d.coefficient, some d.unknown⟩, ⟨d.left.constant, none⟩]
  let right := numberText places d.right.constant
  let left := operandText places d.left.constant
  let difference := numberText places (d.right.constant - d.left.constant)
  let divisor := operandText places d.coefficient
  let answer := numberText places value
  ["Solve the equation:",
    s!"  {sum} = {right}",
    s!"  {term} = {right} - {left}",
    s!"  {term} = {difference}",
    s!"  {d.unknown} = {difference} / {divisor}",
    s!"Answer: {d.unknown} = {answer}"]

def closingSteps (places : Nat) (d : LinearDerivation α) : List String :=
  match d.resolution with
  | .unique value => d.solvingSteps places value
  | .noSolution => ["Solution: the equation has no solutions"]
  | _ => [s!"Solution: the equation holds for every value of {d.unknown}"]

def steps (sides : Sides) (places : Nat) (d : LinearDerivation α) : List String :=
  [d.rightStep sides places, d.leftStep sides places, d.coefficientStep places] ++
    d.closingSteps places

end LinearDerivation

namespace SearchDerivation

def openingStep (unknown : Char) : String :=
  s!"The equation is not linear in {unknown}; searching for a root numerically"

def bracketStep (options : SolverOptions α) (d : SearchDerivation α) : String :=
  let places := options.precision
  match d.outcome.bracket with
  | some (lo, hi) =>
    let low := numberText places lo
    let high := numberText places hi
    s!"Sign change found between {d.unknown} = {low} and {d.unknown} = {high}"
  | none =>
    if isZero d.outcome.residual then
      let value := numberText places d.outcome.value
      s!"Sample {d.unknown} = {value} is an exact root"
    else
      let limit := numberText places options.searchLimit
      s!"No sign change between {d.unknown} = -{limit} and {d.unknown} = {limit}; " ++
        "keeping the closest sample"

def iterationStep (places : Nat) (d : SearchDerivation α) : String :=
  let residual := numberText places d.outcome.residual
  s!"Bisection: {d.outcome.iterations} iterations, residual {residual}"

def answerStep (places : Nat) (d : SearchDerivation α) : String :=
  let value := numberText places d.outcome.value
  if d.converged then s!"Answer: {d.unknown} ≈ {value}"
  else s!"Answer: no root located; best estimate {d.unknown} ≈ {value}"

def steps (options : SolverOptions α) (d : SearchDerivation α) : List String :=
  let places := options.precision
  [openingStep d.unknown, d.bracketStep options, d.iterationStep places, d.answerStep places]

end SearchDerivation

namespace ReductionDerivation

def lettersStep (d : ReductionDerivation α) : String :=
  let main := d.main.letter
  let letters := lettersText (main :: d.others.map (·.letter))
  s!"Variables found: {letters}; isolating {main}, the others stay free"

def gatheringStep (places : Nat) (d : ReductionDerivation α) : String :=
  let all := Term.sumText places
    ((d.main :: d.others).map CoefficientReading.term ++ [⟨d.constant, none⟩])
  s!"Move every term to the left: {all} = 0"

def coefficientStep (places : Nat) (d : ReductionDerivation α) : String :=
  let coefficient := numberText places d.main.coefficient
  s!"Coefficient of {d.main.letter}: {coefficient}"

def freeStep (d : ReductionDerivation α) : String :=
  let free := lettersText (d.others.map (·.letter))
  s!"Free variables: {free}"

def isolatingSteps (places : Nat) (r : Reduction α) : List String :=
  match r.isolated? with
  | none => [s!"{r.unknown} cancels out, so it cannot be isolated"]
  | some isolated =>
    let term := termText places r.coefficient r.unknown
    let moved := Term.sumText places r.movedTerms
    let divisor := operandText places r.coefficient
    let divided := Term.quotientText places r.coefficient r.movedTerms
    let answer := Term.sumText places isolated
    [s!"  {term} = {moved}", s!"  {r.unknown} = ({moved}) / {divisor}"] ++
      (if eq r.coefficient one then [] else [s!"  {r.unknown} = {divided}"]) ++
      [s!"Answer: {r.unknown} = {answer}"]

def steps (places : Nat) (d : ReductionDerivation α) : List String :=
  [d.lettersStep, d.gatheringStep places, d.coefficientStep places] ++
    isolatingSteps places d.reduction ++ [d.freeStep]

end ReductionDerivation

def Derivation.steps (sides : Sides) (options : SolverOptions α) : Derivation α → List String
  | .linear d => d.steps sides options.precision
  | .searched d => d.steps options
  | .reduced d => d.steps options.precision

end WorkedAlgebra
