import WorkedAlgebra.Report.Json
import WorkedAlgebra.Report.Style
import WorkedAlgebra.Solver

/-!
Reports of solved equations, for the terminal and as JSON.
-/

namespace WorkedAlgebra.Report

/-- One line for each step; the last one stands out, and indented ones stay plain. -/
def stepLines (palette : Palette) : List String → String
  | [] => ""
  | step :: rest =>
    let shown :=
      if step.toList.take 2 == [' ', ' '] then step
      else if rest.isEmpty then brightGreen.strong.paint palette step
      else brightWhite.paint palette step
    shown ++ "\n" ++ stepLines palette rest

def solutionText (palette : Palette) (s : Solution Float) : String :=
  stepLines palette s.steps.lines

def resolutionJson : Resolution Float → Json
  | .unique value => .object [("kind", .string "unique"), ("value", .number value)]
  | .allReals => .object [("kind", .string "all_reals")]
  | .noSolution => .object [("kind", .string "no_solution")]
  | .approximate e => .object [
      ("converged", .bool e.converged),
      ("iterations", .count e.iterations),
      ("kind", .string "approximate"),
      ("residual", .number e.residual),
      ("value", .number e.value)]
  | .reduced r => .object [
      ("coefficient", .number r.coefficient),
      ("constant", .number r.constant),
      ("free_terms", .array (r.free.map fun t => .object [
        ("coefficient", .number t.coefficient),
        ("variable", .string (String.singleton t.letter))])),
      ("kind", .string "partial_reduction"),
      ("variable", .string (String.singleton r.unknown))]

def solutionJson (s : Solution Float) : String :=
  Json.text (.object [
    ("answer", .string s.answer),
    ("equation", .string s.equation),
    ("resolution", resolutionJson s.resolution),
    ("steps", .array (s.steps.lines.map .string)),
    ("variable", .string (String.singleton s.unknown)),
    ("variables", .array (s.letters.map fun c => .string (String.singleton c)))])

def marker (palette : Palette) : Resolution Float → String
  | .unique _ | .allReals => green.paint palette "✔"
  | .noSolution => red.paint palette "✘"
  | .reduced _ | .approximate _ => yellow.paint palette "≈"

def solutionReport (palette : Palette) (json : Bool) (s : Solution Float) : String :=
  if json then solutionJson s ++ "\n"
  else
    solutionText palette s ++ marker palette s.resolution ++ " " ++
      bold.paint palette s.answer ++ "\n"

end WorkedAlgebra.Report
