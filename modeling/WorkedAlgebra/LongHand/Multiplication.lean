import WorkedAlgebra.LongHand

/-!
Long multiplication: one partial product for each non-zero digit of the second factor, and their
sum.
-/

namespace WorkedAlgebra.LongHand

structure DigitProduct where
  /-- The digit times its place value. -/
  digit : Nat
  product : Nat
deriving DecidableEq, Repr

/-- Digits of a number with their places, `digit · 10 ^ place`, lowest first and without zeros.
`fuel` bounds the number of digits. -/
def placesFrom (place : Nat) (rest : Nat) : Nat → List Nat
  | 0 => []
  | fuel + 1 =>
    if rest = 0 then []
    else
      let others := placesFrom (10 * place) (rest / 10) fuel
      if rest % 10 = 0 then others else rest % 10 * place :: others

def digitPlaces (n : Nat) : List Nat := placesFrom 1 n n

def digitProducts (x y : Nat) : List DigitProduct := (digitPlaces y).map fun d => ⟨d, x * d⟩

def isNegativeProduct (a b : Int) (magnitude : Nat) : Bool :=
  decide (a < 0) != decide (b < 0) && magnitude != 0

def padLeft (width : Nat) (text : String) : String :=
  String.ofList (List.replicate (width - text.length) ' ') ++ text

/-- The written layout: both factors, the partial products when there are several, and the
product, each ending in the last column. -/
def multiplicationColumn (x y : Nat) (products : List Nat) (total : Nat) : String :=
  let widths := ([x, y, total] ++ products).map fun n => (toString n).length
  let width := widths.foldl max 1 + 2
  let rule := String.ofList (List.replicate width '-')
  let row (n : Nat) := padLeft width (toString n)
  let summands := if products.length > 1 then products.map row ++ [rule] else []
  let factor := "×" ++ padLeft (width - 1) (toString y)
  "\n".intercalate ([row x, factor, rule] ++ summands ++ [row total])

def multiply (a b : Int) : Worked :=
  let x := a.natAbs
  let y := b.natAbs
  let parts := digitProducts x y
  let products := parts.map (·.product)
  let magnitude := products.foldl (· + ·) 0
  let negative := isNegativeProduct a b magnitude
  let result := if negative then s!"-{magnitude}" else s!"{magnitude}"
  let summands := " + ".intercalate (products.map toString)
  let sumStep :=
    if products.length > 1 then [s!"Add the partial products: {summands} = {magnitude}"] else []
  let signStep :=
    if a < 0 ∧ b < 0 then ["Both factors are negative, so the product is positive"]
    else if negative then ["One factor is negative, so the product is negative"]
    else []
  { operation := .multiplication
    steps := [s!"Multiply {a} × {b}"] ++ parts.map (fun p => s!"{x} × {p.digit} = {p.product}") ++
      sumStep ++ signStep ++ [s!"Answer: {a} × {b} = {result}"]
    result := result
    column := some (multiplicationColumn x y products magnitude) }

end WorkedAlgebra.LongHand
