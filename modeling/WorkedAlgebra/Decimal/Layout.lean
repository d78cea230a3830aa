import WorkedAlgebra.Decimal.Shortest

/-!
Texts of floating-point numbers. All layouts show the fewest digits that read back; a `Layout`
fixes where the point stands, when an exponent is written, which of two equally near digit strings
is taken, and the texts of numbers that are not finite.
-/

namespace WorkedAlgebra

structure Layout where
  /-- Whether a number with `10 ^ (p - 1) ≤ |x| < 10 ^ p` is written without exponent,
  given `p`. -/
  positional : Int → Bool := fun _ => true
  /-- Whether whole numbers written without exponent end in `.0`. -/
  pointZero : Bool := true
  /-- Whether a positive exponent carries a sign. -/
  plusExponent : Bool := false
  tie : Decimal.Tie := .upper
  infinity : String := "inf"
  negativeInfinity : String := "-inf"
  undefined : String := "NaN"

namespace Layout

/-- Running text: digits only, never an exponent. -/
def plain : Layout where
  pointZero := false

/-- Data files in JSON, which has no text for numbers that are not finite. -/
def json : Layout where
  positional p := decide (-5 < p ∧ p ≤ 16)
  plusExponent := true
  tie := .even
  infinity := "null"
  negativeInfinity := "null"
  undefined := "null"

/-- Settings files: no exponent, and whole numbers keep a decimal point. -/
def settings : Layout where
  undefined := "nan"

/-- Log lines: an exponent below `10 ^ (-4)` and from `10 ^ 16` on. -/
def log : Layout where
  positional p := decide (-4 < p ∧ p ≤ 16)

def positionalText (pointZero : Bool) (d : Decimal) : String :=
  let digits := Nat.toDigits 10 d.digits
  if 0 ≤ d.exponent then
    String.ofList (digits ++ List.replicate d.exponent.natAbs '0') ++ if pointZero then ".0" else ""
  else
    let places := d.exponent.natAbs
    let padded := List.replicate (places + 1 - digits.length) '0' ++ digits
    let whole := padded.length - places
    String.ofList (padded.take whole) ++ "." ++ String.ofList (padded.drop whole)

def exponentText (plus : Bool) (d : Decimal) (p : Int) : String :=
  let digits := Nat.toDigits 10 d.digits
  let fraction := digits.drop 1
  let point := if fraction.isEmpty then "" else "."
  let sign := if 0 < p - 1 && plus then "+" else ""
  String.ofList (digits.take 1) ++ point ++ String.ofList fraction ++ "e" ++ sign ++
    toString (p - 1)

def write (layout : Layout) (x : Float) : String :=
  if x.isNaN then layout.undefined
  else
    let negative := (Binary64.ofFloat x).negative
    if !x.isFinite then
      if negative then layout.negativeInfinity else layout.infinity
    else
      let d := Decimal.shortest layout.tie x.abs
      let p : Int := Decimal.width d.digits + d.exponent
      (if negative then "-" else "") ++
        if d.digits = 0 || layout.positional p then positionalText layout.pointZero d
        else exponentText layout.plusExponent d p

end Layout

instance : Printable Float where
  text := Layout.plain.write

end WorkedAlgebra
