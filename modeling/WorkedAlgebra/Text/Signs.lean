/-!
Runs of signs. A run of plus and minus signs has the effect of a single one: minus when the run
holds an odd number of minus signs, plus otherwise.
-/

namespace WorkedAlgebra.Text

def isSign (c : Char) : Bool := c == '+' || c == '-'

def signProduct (a b : Char) : Char := if a == b then '+' else '-'

/-- Puts a sign in front of a text whose runs are collapsed. -/
def prependSign (sign : Char) : List Char → List Char
  | [] => [sign]
  | c :: cs => if isSign c then signProduct sign c :: cs else sign :: c :: cs

/-- Replaces every run of signs by the single sign with its effect. -/
def collapseSigns : List Char → List Char
  | [] => []
  | c :: cs => if isSign c then prependSign c (collapseSigns cs) else c :: collapseSigns cs

end WorkedAlgebra.Text
