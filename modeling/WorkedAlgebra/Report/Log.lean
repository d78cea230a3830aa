import WorkedAlgebra.Decimal.Layout
import WorkedAlgebra.Solver
import WorkedAlgebra.Unicode.Invisible

/-!
Log lines about a run of the solver, for tracking down how an answer came about. They show values
in a notation of their own: quoted text, numbers with a decimal point or an exponent, and named
fields.
-/

namespace WorkedAlgebra.Report.Log

def logNumber (x : Float) : String := Layout.log.write x

/-- A character inside quotes; those that do not show are given by their code point. -/
def escape (c : Char) : String :=
  match c with
  | '"' => "\\\""
  | '\\' => "\\\\"
  | '\x00' => "\\0"
  | '\x09' => "\\t"
  | '\x0a' => "\\n"
  | '\x0d' => "\\r"
  | c =>
    if Unicode.isInvisible c then
      "\\u\x7b" ++ String.ofList (Nat.toDigits 16 c.toNat) ++ "\x7d"
    else String.singleton c

def quote (text : List Char) : String := "\"" ++ "".intercalate (text.map escape) ++ "\""

def letter (c : Char) : String := s!"'{c}'"

def list (items : List String) : String := "[" ++ ", ".intercalate items ++ "]"

def fields (name : String) (values : List (String × String)) : String :=
  name ++ " \x7b " ++ ", ".intercalate (values.map fun (field, value) => field ++ ": " ++ value) ++
    " \x7d"

def form (f : LinearForm Float) : String :=
  fields "LinearForm"
    [("coefficient", logNumber f.coefficient), ("constant", logNumber f.constant)]

def freeTerm (t : FreeTerm Float) : String :=
  fields "FreeTerm" [("variable", letter t.letter), ("coefficient", logNumber t.coefficient)]

def resolution : Resolution Float → String
  | .unique value => fields "Unique" [("value", logNumber value)]
  | .allReals => "AllReals"
  | .noSolution => "NoSolution"
  | .reduced r => fields "PartialReduction" [
      ("variable", letter r.unknown),
      ("coefficient", logNumber r.coefficient),
      ("constant", logNumber r.constant),
      ("free_terms", list (r.free.map freeTerm))]
  | .approximate e => fields "Approximate" [
      ("value", logNumber e.value),
      ("residual", logNumber e.residual),
      ("iterations", toString e.iterations),
      ("converged", toString e.converged)]

def derivationLines : Derivation Float → List String
  | .linear d =>
    let left := form d.left
    let right := form d.right
    let scanned := Layout.plain.write d.scanned
    let slope := Layout.plain.write d.slope
    s!"left {left} right {right}" ::
      if d.agrees then []
      else [s!"scanned coefficient {scanned} disagrees with probed slope {slope}"]
  | .searched d => [s!"sides are not affine in {d.unknown}; bisecting"]
  | .reduced d =>
    ((d.main :: d.others).filter CoefficientReading.isOverruled).map fun r =>
      let scanned := Layout.plain.write r.scanned
      let probed := Layout.plain.write r.probed
      s!"{r.letter}: scanned {scanned} probed {probed}"

def failureLines : SolveError → List String
  | .expression (.notLinear letter _) _ =>
    [s!"not linear in {letter}; refusing a partial reduction"]
  | _ => []

/-- The lines about the resolution of a problem. The equation as given counts as a step too. -/
def outcomeLines (p : Problem) (options : SolverOptions Float) : List String :=
  match p.derive options with
  | .error error => failureLines error
  | .ok d =>
    let steps := (d.steps p.sides options).length + 1
    let result := resolution d.resolution
    derivationLines d ++ [s!"resolved {result} in {steps} steps"]

def lines [Unicode.Form] (options : SolverOptions Float) (text : String) : List String :=
  let clean := Text.normalize text.toList
  let given := quote text.toList
  let normalized := quote clean
  s!"normalized {given} -> {normalized}" ::
    match Problem.ofClean clean with
    | .error _ => []
    | .ok p =>
      let letters := list ((p.unknown :: p.others).map letter)
      s!"variables {letters}" :: outcomeLines p options

end WorkedAlgebra.Report.Log
