import WorkedAlgebra.LongHand.Exercise
import WorkedAlgebra.Report.Json
import WorkedAlgebra.Report.Style

/-!
Reports of worked arithmetic, for the terminal and as JSON.
-/

namespace WorkedAlgebra.Report

def operationKey : Operation → String
  | .multiplication => "multiplication"
  | .division => "division"
  | .divisionWithRemainder => "division_with_remainder"

def workedJson (w : Worked) : String :=
  Json.text (.object [
    ("operation", .string (operationKey w.operation)),
    ("steps", .array (w.steps.map .string)),
    ("result", .string w.result),
    ("column", match w.column with
      | some text => .string text
      | none => .null)])

def workedReport (palette : Palette) (json : Bool) (w : Worked) : String :=
  if json then workedJson w ++ "\n"
  else
    let heading := brightWhite.strong.paint palette s!"Worked {w.operation.name}"
    let steps := w.steps.map fun step => s!"  {step}\n"
    let column := match w.column with
      | some text => s!"\n{text}\n"
      | none => ""
    heading ++ "\n" ++ "".intercalate steps ++ column ++
      green.paint palette "✔" ++ " " ++ bold.paint palette w.result ++ "\n"

end WorkedAlgebra.Report
