import WorkedAlgebra.Decimal.Layout
import WorkedAlgebra.Decimal.Numeral
import WorkedAlgebra.Text.Pieces
import WorkedAlgebra.Toml.Value

/-!
Literals of a TOML document: keys, strings, numbers and dates. A reader takes the text in front of
it and gives what it read and what is left, or nothing when the text is not of its kind.
-/

namespace WorkedAlgebra.Toml

/-! ## Characters -/

def isBlank (c : Char) : Bool := c == ' ' || c == '\t'

def skipBlanks (cs : List Char) : List Char := cs.dropWhile isBlank

/-- Characters that may stand in comments and quotes: no controls other than the tab. -/
def isPrintable (c : Char) : Bool := c == '\t' || (0x20 ≤ c.toNat && c.toNat != 0x7F)

def isBareKey (c : Char) : Bool := c.isAlphanum || c == '_' || c == '-'

def newline? : List Char → Option (List Char)
  | '\n' :: rest => some rest
  | '\r' :: '\n' :: rest => some rest
  | _ => none

def skipComment : List Char → List Char
  | '#' :: rest => rest.dropWhile isPrintable
  | cs => cs

/-- Text behind the end of a line, which may hold blanks and a comment. -/
def lineEnd? (cs : List Char) : Option (List Char) :=
  match skipComment (skipBlanks cs) with
  | [] => some []
  | rest => newline? rest

/-! ## Strings -/

def hexValue? (c : Char) : Option Nat :=
  if c.isDigit then some (c.toNat - '0'.toNat)
  else if 'a' ≤ c ∧ c ≤ 'f' then some (c.toNat - 'a'.toNat + 10)
  else if 'A' ≤ c ∧ c ≤ 'F' then some (c.toNat - 'A'.toNat + 10)
  else none

def codePoint? (digits : List Char) : Option Char := do
  let values ← digits.mapM hexValue?
  let n := values.foldl (fun n d => 16 * n + d) 0
  if n.isValidChar then some (Char.ofNat n) else none

/-- An escape behind its backslash, and what follows it. -/
def escape? : List Char → Option (Char × List Char)
  | 'b' :: rest => some ('\x08', rest)
  | 't' :: rest => some ('\t', rest)
  | 'n' :: rest => some ('\n', rest)
  | 'f' :: rest => some ('\x0c', rest)
  | 'r' :: rest => some ('\r', rest)
  | '"' :: rest => some ('"', rest)
  | '\\' :: rest => some ('\\', rest)
  | 'u' :: rest =>
    if rest.length < 4 then none else (codePoint? (rest.take 4)).map (·, rest.drop 4)
  | 'U' :: rest =>
    if rest.length < 8 then none else (codePoint? (rest.take 8)).map (·, rest.drop 8)
  | _ => none

/-- A quoted text on one line, behind its opening quote. Single quotes know no escapes. -/
def quoted? (quote : Char) : Nat → List Char → Option (List Char × List Char)
  | 0, _ => none
  | _, [] => none
  | fuel + 1, c :: rest =>
    if c == quote then some ([], rest)
    else if c == '\\' && quote == '"' then do
      let (escaped, rest) ← escape? rest
      let (text, rest) ← quoted? quote fuel rest
      return (escaped :: text, rest)
    else if isPrintable c then do
      let (text, rest) ← quoted? quote fuel rest
      return (c :: text, rest)
    else none

/-- A quoted text over several lines, behind its opening quotes. Up to two quotes may stand before
the closing three. A backslash at the end of a line joins it with the next text. -/
def multiline? (quote : Char) : Nat → List Char → Option (List Char × List Char)
  | 0, _ => none
  | _, [] => none
  | fuel + 1, c :: rest =>
    let quotes := ((c :: rest).takeWhile (· == quote)).length
    if 3 ≤ quotes then
      let inner := min quotes 5 - 3
      some (List.replicate inner quote, (c :: rest).drop (inner + 3))
    else if c == '\\' && quote == '"' then
      match newline? (skipBlanks rest) with
      | some next =>
        multiline? quote fuel (next.dropWhile fun d => isBlank d || d == '\n' || d == '\r')
      | none => do
        let (escaped, rest) ← escape? rest
        let (text, rest) ← multiline? quote fuel rest
        return (escaped :: text, rest)
    else
      match newline? (c :: rest) with
      | some next => do
        let (text, rest) ← multiline? quote fuel next
        return ('\n' :: text, rest)
      | none =>
        if isPrintable c then do
          let (text, rest) ← multiline? quote fuel rest
          return (c :: text, rest)
        else none

def string? (cs : List Char) : Option (List Char × List Char) :=
  match cs with
  | a :: b :: c :: rest =>
    if (a == '"' || a == '\'') && a == b && b == c then
      multiline? a cs.length ((newline? rest).getD rest)
    else if a == '"' || a == '\'' then quoted? a cs.length (b :: c :: rest)
    else none
  | a :: rest => if a == '"' || a == '\'' then quoted? a cs.length rest else none
  | [] => none

/-! ## Keys -/

def key? : List Char → Option (String × List Char)
  | [] => none
  | c :: rest =>
    if c == '"' || c == '\'' then
      (quoted? c (rest.length + 1) rest).map fun (text, left) => (String.ofList text, left)
    else
      let bare := (c :: rest).takeWhile isBareKey
      if bare.isEmpty then none
      else some (String.ofList bare, (c :: rest).dropWhile isBareKey)

/-- Keys joined by points, as those before the last one and the last one. -/
def keys? : Nat → List Char → Option ((List String × String) × List Char)
  | 0, _ => none
  | fuel + 1, cs => do
    let (key, rest) ← key? (skipBlanks cs)
    match skipBlanks rest with
    | '.' :: next =>
      let ((path, last), left) ← keys? fuel next
      return ((key :: path, last), left)
    | left => return (([], key), left)

/-- How deep keys, arrays and tables in braces may go: less than this. -/
def depthLimit : Nat := 80

def keyPath? (cs : List Char) : Option ((List String × String) × List Char) :=
  (keys? (cs.length + 1) cs).filter fun ((path, _), _) => path.length + 1 < depthLimit

/-! ## Numbers -/

/-- Digits that may be grouped by single underscores between them. -/
def digits? (isDigit : Char → Bool) (cs : List Char) : Option (List Char) :=
  let groups := pieces '_' cs
  if groups.all fun group => !group.isEmpty && group.all isDigit then some groups.flatten else none

def signed : List Char → Bool × List Char
  | '-' :: rest => (true, rest)
  | '+' :: rest => (false, rest)
  | cs => (false, cs)

def wholeDigits? (cs : List Char) : Option (List Char) :=
  if cs.length > 1 && cs.head? == some '0' then none else digits? Char.isDigit cs

def ofRadix? (radix : Nat) (cs : List Char) : Option Nat := do
  let digits ← digits? (fun c => match hexValue? c with
    | some d => decide (d < radix)
    | none => false) cs
  let values ← digits.mapM hexValue?
  return values.foldl (fun n d => radix * n + d) 0

/-- An integer of 64 bits; those in other bases have no sign. -/
def integer? (word : List Char) : Option Int := do
  let n : Int ← match word with
    | '0' :: 'x' :: digits => (ofRadix? 16 digits).map Int.ofNat
    | '0' :: 'o' :: digits => (ofRadix? 8 digits).map Int.ofNat
    | '0' :: 'b' :: digits => (ofRadix? 2 digits).map Int.ofNat
    | _ =>
      let (negative, digits) := signed word
      (wholeDigits? digits).map fun ds =>
        if negative then -(Numeral.ofDigits ds : Int) else Numeral.ofDigits ds
  if fitsInteger n then some n else none

/-- The floating-point number nearest to `mantissa · 10 ^ exponent`. Far beyond the range of
finite numbers the exponent itself does not matter. -/
def scaled (mantissa : Nat) (exponent : Int) : Float :=
  let size : Int := Decimal.width mantissa + exponent
  if mantissa = 0 ∨ size < -400 then Scalar.zero
  else if 400 < size then Scalar.infinity
  else Decimal.toFloat ⟨mantissa, exponent⟩

/-- The parts of a float literal behind its sign: whole digits, digits behind the point, and the
exponent. A point or an exponent has to be there. -/
def floatParts? (word : List Char) : Option (List Char × List Char × Int) := do
  let isMark (c : Char) := c == '.' || c == 'e' || c == 'E'
  let whole ← wholeDigits? (word.takeWhile fun c => !isMark c)
  let rest := word.dropWhile fun c => !isMark c
  let isExponent (c : Char) := c == 'e' || c == 'E'
  let point := rest.takeWhile fun c => !isExponent c
  let fraction ← match point with
    | '.' :: digits => digits? Char.isDigit digits
    | _ => some []
  match rest.dropWhile fun c => !isExponent c with
  | [] => if point.isEmpty then none else some (whole, fraction, 0)
  | _ :: power =>
    let (negative, digits) := signed power
    let digits ← digits? Char.isDigit digits
    let size : Int := Numeral.ofDigits digits
    return (whole, fraction, if negative then -size else size)

/-- A float. A literal too large for a finite number is refused, unless it is negative. -/
def float? (word : List Char) : Option Float := do
  let (negative, rest) := signed word
  let sign (x : Float) : Float := if negative then -x else x
  if rest == ['i', 'n', 'f'] then return sign Scalar.infinity
  if rest == ['n', 'a', 'n'] then return sign Scalar.undefined
  let (whole, fraction, exponent) ← floatParts? rest
  let value := sign (scaled (Numeral.ofDigits (whole ++ fraction)) (exponent - fraction.length))
  if value.isFinite || negative then some value else none

/-! ## Dates and times -/

/-- A number of exactly `count` digits with a value in a range. -/
def field? (count low high : Nat) (cs : List Char) : Option (List Char) :=
  let digits := cs.take count
  let n := Numeral.ofDigits digits
  if digits.length = count && digits.all Char.isDigit && low ≤ n && n ≤ high then
    some (cs.drop count)
  else none

def mark? (c : Char) : List Char → Option (List Char)
  | d :: rest => if c == d then some rest else none
  | [] => none

def isLeapYear (year : Nat) : Bool := year % 4 == 0 && (year % 100 != 0 || year % 400 == 0)

def daysIn (year month : Nat) : Nat :=
  if month = 2 then if isLeapYear year then 29 else 28
  else if [4, 6, 9, 11].contains month then 30
  else 31

def calendarDate? (cs : List Char) : Option (List Char) := do
  let year := Numeral.ofDigits (cs.take 4)
  let afterYear ← mark? '-' (← field? 4 0 9999 cs)
  let month := Numeral.ofDigits (afterYear.take 2)
  let afterMonth ← mark? '-' (← field? 2 1 12 afterYear)
  field? 2 1 (daysIn year month) afterMonth

def clockTime? (cs : List Char) : Option (List Char) := do
  let minutes ← mark? ':' (← field? 2 0 23 cs)
  let seconds ← mark? ':' (← field? 2 0 59 minutes)
  match ← field? 2 0 60 seconds with
  | '.' :: fraction =>
    let rest := fraction.dropWhile Char.isDigit
    if rest.length = fraction.length then none else some rest
  | rest => some rest

/-- Whether a text is an offset from universal time, or nothing. -/
def isOffset : List Char → Bool
  | [] | ['Z'] | ['z'] => true
  | sign :: rest =>
    (sign == '+' || sign == '-') &&
      (do field? 2 0 59 (← mark? ':' (← field? 2 0 23 rest))) == some []

def isDate (word : List Char) : Bool :=
  match calendarDate? word with
  | some [] => true
  | some (separator :: rest) =>
    (separator == 'T' || separator == 't' || separator == ' ') &&
      match clockTime? rest with
      | some offset => isOffset offset
      | none => false
  | none => clockTime? word == some []

/-! ## Words -/

def isWordMark (c : Char) : Bool := c.isAlphanum || ['+', '-', '_', '.', ':'].contains c

/-- The unquoted word in front of a text. A time may stand behind a date and a single blank. -/
def word (cs : List Char) : List Char × List Char :=
  let first := cs.takeWhile isWordMark
  match cs.dropWhile isWordMark with
  | ' ' :: d :: rest =>
    if calendarDate? first == some [] && d.isDigit then
      (first ++ ' ' :: (d :: rest).takeWhile isWordMark, (d :: rest).dropWhile isWordMark)
    else (first, ' ' :: d :: rest)
  | rest => (first, rest)

def wordValue? (word : List Char) : Option Value :=
  if word == ['t', 'r', 'u', 'e'] then some (.boolean true)
  else if word == ['f', 'a', 'l', 's', 'e'] then some (.boolean false)
  else if isDate word then some .date
  else
    match integer? word with
    | some n => some (.integer n)
    | none => (float? word).map .float

end WorkedAlgebra.Toml
