import WorkedAlgebra.Report.Style
import WorkedAlgebra.Solver

/-!
Error reports that show the normalized equation with a caret under the offending item.
-/

namespace WorkedAlgebra.Report

variable [Unicode.Form]

/-- What to underline; columns count from one. -/
structure Span where
  column : Nat
  length : Nat := 1
deriving DecidableEq, Repr

def diagnostic (palette : Palette) (equation title : String) (span : Option Span) : String :=
  let paint := Style.paint palette
  let heading := paint brightRed.strong "error:" ++ " " ++ paint brightWhite title ++ "\n"
  match span with
  | none => heading
  | some span =>
    let bar := "  " ++ paint dimmed "|" ++ " "
    let line := String.ofList (Text.normalize equation.toList)
    let carets := List.replicate (span.column - 1) ' ' ++ List.replicate (max span.length 1) '^'
    heading ++ bar ++ line ++ "\n" ++ bar ++ paint brightRed (String.ofList carets) ++ "\n"

def solveDiagnostic (palette : Palette) (equation : String) (error : SolveError) : String :=
  diagnostic palette equation error.message (error.column?.map fun c => { column := c })

end WorkedAlgebra.Report
