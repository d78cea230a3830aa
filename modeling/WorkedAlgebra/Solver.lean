import WorkedAlgebra.Resolution.Resolve

/-!
Solving an equation given as text: cleanup, cutting into sides, and resolving.
-/

namespace WorkedAlgebra

structure Solution (α : Type) where
  /-- The text as given, trimmed. -/
  equation : String
  /-- The letter solved for: the first one found. -/
  unknown : Char
  /-- The other letters, in order of first appearance. -/
  others : List Char
  steps : Trace
  resolution : Resolution α
  /-- Decimal places of the answer. -/
  precision : Nat

namespace Solution

variable {α : Type}

def letters (s : Solution α) : List Char := s.unknown :: s.others

def value? (s : Solution α) : Option α := s.resolution.value?

def answer [Printable α] (s : Solution α) : String :=
  match s.resolution with
  | .unique value =>
    let text := numberText s.precision value
    s!"{s.unknown} = {text}"
  | .allReals => s!"{s.unknown} ∈ ℝ"
  | .noSolution => "no solution"
  | .approximate estimate =>
    let text := numberText s.precision estimate.value
    if estimate.converged then s!"{s.unknown} ≈ {text}"
    else s!"{s.unknown} ≈ {text} (no root located)"
  | .reduced _ =>
    match s.resolution.isolatedText? s.precision with
    | some text =>
      let free := lettersText s.others
      s!"{s.unknown} = {text} ({free} free)"
    | none => s!"{s.unknown} cannot be isolated"

end Solution

/-- An equation that has the shape of one and holds a letter. -/
structure Problem where
  sides : Sides
  unknown : Char
  others : List Char
deriving DecidableEq, Repr

namespace Problem

/-- The problem that a clean text states. The shape is checked before the letters. -/
def ofClean (text : List Char) : Except SolveError Problem :=
  match Sides.split text with
  | .error cause => .error (.malformed cause)
  | .ok sides =>
    match detectLetters text with
    | [] => .error .noVariable
    | unknown :: others => .ok ⟨sides, unknown, others⟩

/-- How a problem is resolved: one letter is solved for, of several the first is isolated. -/
def derive {α : Type} [Scalar α] (p : Problem) (options : SolverOptions α) :
    Except SolveError (Derivation α) :=
  if p.others.isEmpty then Derivation.ofSingle p.sides p.unknown options
  else Derivation.ofSeveral p.sides p.unknown p.others

def resolve {α : Type} [Printable α] (p : Problem) (options : SolverOptions α) :
    Traced (Resolution α) :=
  if p.others.isEmpty then resolveSingle p.sides p.unknown options
  else resolveSeveral p.sides p.unknown p.others options

end Problem

variable {α : Type}

def resolveClean [Scalar α] (options : SolverOptions α) (text : List Char) :
    Except SolveError (Problem × Derivation α) := do
  let problem ← Problem.ofClean text
  let derivation ← problem.derive options
  return (problem, derivation)

/-- Solves an equation. The trace starts with the equation as given. -/
def solve [Printable α] [Unicode.Form] (options : SolverOptions α) (text : String) :
    Except SolveError (Solution α) := do
  let given := String.ofList (Text.trim text.toList)
  let problem ← Problem.ofClean (Text.normalize text.toList)
  let start : Trace := Trace.push {} s!"Original equation: {given}"
  let (result, steps) := (problem.resolve options).run start
  let resolution ← result
  return {
    equation := given
    unknown := problem.unknown
    others := problem.others
    steps := steps
    resolution := resolution
    precision := options.precision }

end WorkedAlgebra
