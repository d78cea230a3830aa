import WorkedAlgebra.Toml.Value

/-!
TOML documents, for any library that reads and writes them. A document is read line by line. What a
line says is up to the library and does not depend on the lines before it; what it makes of the
tables that they built up is the same for all libraries.
-/

namespace WorkedAlgebra.Toml

inductive Line where
  | blank
  | entry (path : List String) (key : String) (value : Value)
  | table (path : List String) (key : String)
  /-- The header of another table of an array. -/
  | item (path : List String) (key : String)

def Line.InRange : Line → Prop
  | .entry _ _ value => value.InRange
  | .blank | .table _ _ | .item _ _ => True

/-- What a library does with numbers and truth values, and with single lines. -/
class Library where
  /-- The text of a number or truth value. Other values are not written. -/
  scalarText : Value → String
  /-- The line in front of a text, and what follows it. A value may go on over several lines. -/
  line? : List Char → Option (Line × List Char)
  line?_inRange : ∀ {cs line rest}, line? cs = some (line, rest) → line.InRange

/-- A document in reading: the root table, and the path of the table that lines add to. -/
structure Reading where
  root : Entries
  current : List String

def Reading.add (r : Reading) (path : List String) (key : String) (value : Value) :
    Option Reading := do
  let change (_ : Origin) (inner : Entries) := inner.addDotted path key value
  let root ← r.root.descend false change r.current .header
  return { r with root }

def Line.apply : Line → Reading → Option Reading
  | .blank, r => some r
  | .entry path key value, r => r.add path key value
  | .table path key, r => (r.root.openTable path key).map (⟨·, path ++ [key]⟩)
  | .item path key, r => (r.root.openItem path key).map (⟨·, path ++ [key]⟩)

variable [Library]

namespace Reading

def line? (r : Reading) (cs : List Char) : Option (Reading × List Char) :=
  (Library.line? cs).bind fun (line, rest) => (line.apply r).map (·, rest)

def run : Nat → Reading → List Char → Option Reading
  | _, r, [] => some r
  | 0, _, _ => none
  | fuel + 1, r, cs => do
    let (r, rest) ← r.line? cs
    run fuel r rest

end Reading

/-- The root table of a document. A byte order mark in front is skipped. -/
def document? (text : List Char) : Option Entries :=
  let cs := match text with
    | '\uFEFF' :: rest => rest
    | cs => cs
  (Reading.run (cs.length + 1) ⟨[], []⟩ cs).map (·.root)

def documentText (tables : List (String × Entries)) : String :=
  let line (entry : String × Value) : String :=
    entry.1 ++ " = " ++ Library.scalarText entry.2 ++ "\n"
  "\n".intercalate (tables.map fun table =>
    "[" ++ table.1 ++ "]\n" ++ "".intercalate (table.2.map line))

end WorkedAlgebra.Toml
