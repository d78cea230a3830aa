import WorkedAlgebra.Text.Pieces

/-!
Character data is kept as rows of text: entries separated by semicolons, and in each entry
hexadecimal numbers separated by blanks, of which the first may be a range such as `B2-B3`.
-/

namespace WorkedAlgebra.Unicode

/-- One entry: the code points from `first` to `last`, and the numbers that follow them. -/
structure Entry where
  first : Nat
  last : Nat
  values : List Nat
deriving DecidableEq, Repr, Inhabited

namespace Entry

def hexDigit (c : Char) : Nat :=
  if c.isDigit then c.toNat - '0'.toNat else c.toNat - 'A'.toNat + 10

def hexNumber (digits : List Char) : Nat :=
  digits.foldl (fun n c => 16 * n + hexDigit c) 0

def ofText (text : List Char) : Entry :=
  match pieces ' ' text with
  | [] => ⟨0, 0, []⟩
  | range :: values =>
    let ends := (pieces '-' range).map hexNumber
    ⟨ends.headD 0, ends.getLastD 0, values.map hexNumber⟩

def ofRows (rows : List String) : List Entry :=
  rows.flatMap fun row => (pieces ';' row.toList).map ofText

end Entry
end WorkedAlgebra.Unicode
