import WorkedAlgebra.EquationQueue
import WorkedAlgebra.Text.Blank
import WorkedAlgebra.Text.Pieces

/-!
Equations from a stream of bytes, one on each line. Blank lines and lines that start with `#` are
skipped. A line that is no valid UTF-8 is a read error; it is consumed, but not counted.
-/

namespace WorkedAlgebra

/-- The lines that are left of a stream, and how many were counted so far. -/
structure LineReader where
  lines : List (List UInt8)
  number : Nat
deriving DecidableEq, Repr

namespace LineReader

def ofBytes (bytes : List UInt8) : LineReader := ⟨terminated 10 bytes, 0⟩

def ofText (text : String) : LineReader := ofBytes text.toUTF8.toList

def decode? (line : List UInt8) : Option (List Char) :=
  (String.fromUTF8? ⟨line.toArray⟩).map String.toList

def isEquation (line : List Char) : Bool := !line.isEmpty && line.head? != some '#'

def nextFrom (number : Nat) :
    List (List UInt8) → Except InvalidLine (Option (List Char)) × LineReader
  | [] => (.ok none, ⟨[], number⟩)
  | line :: rest =>
    match decode? line with
    | none => (.error {}, ⟨rest, number⟩)
    | some text =>
      let trimmed := Text.trim text
      if isEquation trimmed then (.ok (some trimmed), ⟨rest, number + 1⟩)
      else nextFrom (number + 1) rest

def next (r : LineReader) : Except InvalidLine (Option (List Char)) × LineReader :=
  nextFrom r.number r.lines

def collect (r : LineReader) : Except InvalidLine (List (List Char)) × LineReader :=
  collectFrom next (r.lines.length + 1) r

end LineReader
end WorkedAlgebra
