import WorkedAlgebra.LineReader
import WorkedAlgebra.Report.Diagnostic
import WorkedAlgebra.Report.Log
import WorkedAlgebra.Report.Solution
import WorkedAlgebra.Report.Worked
import WorkedAlgebra.Settings

/-!
What commands print. Every command gives its two output texts and an exit code as values.
-/

namespace WorkedAlgebra.CommandLine

structure Output where
  out : String := ""
  err : String := ""
deriving DecidableEq, Repr

namespace Output

instance : Append Output where
  append a b := { out := a.out ++ b.out, err := a.err ++ b.err }

def print (text : String) : Output := { out := text }

def warn (text : String) : Output := { err := text }

def undecodable : Output := .warn "Error: stream did not contain valid UTF-8\n"

end Output

structure Context where
  palette : Report.Palette
  settings : Settings
  json : Bool
  prettyErrors : Bool
  /-- Whether log lines are written. -/
  logging : Bool

namespace Context

open Report

variable [Unicode.Form]

def log (c : Context) (equation : String) : Output :=
  if c.logging then
    .warn ("".intercalate ((Log.lines c.settings.solver equation).map fun line =>
      s!"[eqstep] {line}\n"))
  else {}

def errorLine (c : Context) (message : String) : Output :=
  .warn (brightRed.paint c.palette "error:" ++ s!" {message}\n")

def diagnose (c : Context) (equation : String) (error : SolveError) : Output :=
  .warn (solveDiagnostic c.palette equation error)

def showSolution (c : Context) (s : Solution Float) : Output :=
  .print (solutionReport c.palette c.json s)

def showWorked (c : Context) (w : Worked) : Output := .print (workedReport c.palette c.json w)

def tokens (c : Context) (equation : String) : Output × Nat :=
  let clean := Text.normalize equation.toList
  let heading := Output.print ("=== Normalized ===\n" ++ String.ofList clean ++ "\n\n")
  match (Token.tokenize 0 clean : Except _ (List (Token Float))) with
  | .ok tokens =>
    let lines := tokens.map fun t => t.text ++ "\n"
    (heading ++ .print ("=== Tokens ===\n" ++ "".intercalate lines), 0)
  | .error fault => (heading ++ c.errorLine s!"Lexing error: {fault.tokenText}", 1)

def arith (c : Context) (operation : Operation) (a b : Int) : Output × Nat :=
  match LongHand.work operation (some a) (some b) with
  | .ok worked => (c.showWorked worked, 0)
  | .error error => (c.errorLine error.message, 1)

/-! ## Batches -/

structure Tally where
  solved : Nat := 0
  failed : Nat := 0
deriving DecidableEq, Repr

def batchLine (c : Context) (file : String) (number : Nat) (equation : String) : Output × Bool :=
  let heading := if c.json then {}
    else Output.print (dimmed.paint c.palette s!"[{file}:{number}] {equation}" ++ "\n")
  let gap := if c.json then {} else Output.print "\n"
  match solve c.settings.solver equation with
  | .ok s => (heading ++ c.log equation ++ c.showSolution s ++ gap, true)
  | .error error =>
    let report := if c.prettyErrors then c.diagnose equation error
      else c.errorLine s!"line {number}: {error.message}"
    (heading ++ c.log equation ++ report ++ gap, false)

/-- The lines of a batch up to the end or a line that cannot be read; every call takes at least
one line off the reader, so `fuel` is the number of lines. -/
def batchLines (c : Context) (file : String) :
    Nat → LineReader → Output → Tally → Output × Except InvalidLine Tally
  | 0, _, output, tally => (output, .ok tally)
  | fuel + 1, reader, output, tally =>
    match reader.next with
    | (.error e, _) => (output, .error e)
    | (.ok none, _) => (output, .ok tally)
    | (.ok (some equation), rest) =>
      let (printed, solved) := c.batchLine file rest.number (String.ofList equation)
      let tally : Tally := if solved then { tally with solved := tally.solved + 1 }
        else { tally with failed := tally.failed + 1 }
      batchLines c file fuel rest (output ++ printed) tally

def batch (c : Context) (file : String) (reader : LineReader) : Output × Nat :=
  match c.batchLines file (reader.lines.length + 1) reader {} {} with
  | (output, .error _) => (output ++ .undecodable, 1)
  | (output, .ok tally) =>
    let summary := if c.json then {}
      else Output.print s!"{tally.solved} solved, {tally.failed} failed\n"
    (output ++ summary, if tally.failed = 0 then 0 else 1)

end Context
end WorkedAlgebra.CommandLine
