import WorkedAlgebra.Resolution.Options
import WorkedAlgebra.Scalar.Binary64
import WorkedAlgebra.Toml.Document

/-!
Settings of the program and their TOML form. Every key is optional: what a document does not say
keeps its default, key by key.
-/

namespace WorkedAlgebra

structure DisplaySettings where
  color : Bool := true
  json : Bool := false
deriving DecidableEq, Repr

structure Settings where
  solver : SolverOptions Float := default
  display : DisplaySettings := {}

namespace Settings

/-- The values of named fields in a table, or in order in an array; a date holds none. Anything
else is no table. -/
def fieldsOf? (names : List String) : Toml.Value → Option (List (Option Toml.Value))
  | .table _ entries => some (names.map (Toml.Entries.get? entries))
  | .array items => some ((List.range names.length).map fun i => items[i]?)
  | .tables items =>
    let values := items.reverse.map fun entries => Toml.Value.table .header entries
    some ((List.range names.length).map fun i => values[i]?)
  | .date => some (names.map fun _ => none)
  | _ => none

/-- The value of a field; its default when the field is missing, nothing when it is of another
kind. -/
def read {β : Type} (kind : Toml.Value → Option β) (fallback : β) :
    Option Toml.Value → Option β
  | none => some fallback
  | some value => kind value

def count? : Toml.Value → Option Nat
  | .integer n => if 0 ≤ n then some n.toNat else none
  | _ => none

/-- Whole numbers count as numbers too. -/
def number? : Toml.Value → Option Float
  | .float x => some x
  | .integer n =>
    let magnitude : Float := Scalar.ofNat n.natAbs
    some (if n < 0 then -magnitude else magnitude)
  | _ => none

def boolean? : Toml.Value → Option Bool
  | .boolean b => some b
  | _ => none

def solverKeys : List String := ["max_iterations", "tolerance", "search_limit", "precision"]

def displayKeys : List String := ["color", "json"]

def solverOf? (value : Toml.Value) : Option (SolverOptions Float) := do
  let fields ← fieldsOf? solverKeys value
  let d : SolverOptions Float := default
  let field (i : Nat) := (fields[i]?).join
  let maxIterations ← read count? d.maxIterations (field 0)
  let tolerance ← read number? d.tolerance (field 1)
  let searchLimit ← read number? d.searchLimit (field 2)
  let precision ← read count? d.precision (field 3)
  return { maxIterations, tolerance, searchLimit, precision }

def displayOf? (value : Toml.Value) : Option DisplaySettings := do
  let fields ← fieldsOf? displayKeys value
  let d : DisplaySettings := {}
  let field (i : Nat) := (fields[i]?).join
  let color ← read boolean? d.color (field 0)
  let json ← read boolean? d.json (field 1)
  return { color, json }

/-- The settings in a root table. Unknown keys mean nothing. -/
def ofEntries? (root : Toml.Entries) : Option Settings := do
  let d : Settings := {}
  let solver ← read solverOf? d.solver (root.get? "solver")
  let display ← read displayOf? d.display (root.get? "display")
  return { solver, display }

def ofToml? [Toml.Library] (text : String) : Option Settings :=
  (Toml.document? text.toList).bind ofEntries?

def solverEntries (o : SolverOptions Float) : Toml.Entries :=
  [("max_iterations", .integer o.maxIterations), ("tolerance", .float o.tolerance),
    ("search_limit", .float o.searchLimit), ("precision", .integer o.precision)]

def displayEntries (d : DisplaySettings) : Toml.Entries :=
  [("color", .boolean d.color), ("json", .boolean d.json)]

def toToml [Toml.Library] (s : Settings) : String :=
  Toml.documentText [("solver", solverEntries s.solver), ("display", displayEntries s.display)]

end Settings
end WorkedAlgebra
