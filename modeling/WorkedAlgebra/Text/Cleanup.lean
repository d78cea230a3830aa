import WorkedAlgebra.Text.Blank
import WorkedAlgebra.Unicode.CompatibilityForm

/-!
Cleanup of equation text that was typed or recognized from an image.

One pass takes the composed compatibility form, drops white space and folds look-alike characters.
Passes repeat until the text stops changing: a character may expand into a blank and a mark, and
once the blank is gone the mark composes with the letter before it. Every such pass removes a
blank or a look-alike for good, so their number in the expanded text bounds the number of passes.
-/

namespace WorkedAlgebra.Text

/-- Cyrillic letters that are commonly recognized in place of a Latin one. -/
def foldLetter : Char → Char
  | 'а' => 'a' | 'А' => 'A'
  | 'в' => 'b' | 'В' => 'B'
  | 'с' => 'c' | 'С' => 'C'
  | 'е' => 'e' | 'Е' => 'E'
  | 'н' => 'h' | 'Н' => 'H'
  | 'к' => 'k' | 'К' => 'K'
  | 'м' => 'm' | 'М' => 'M'
  | 'о' => 'o' | 'О' => 'O'
  | 'р' => 'p' | 'Р' => 'P'
  | 'т' => 't' | 'Т' => 'T'
  | 'у' => 'y' | 'У' => 'Y'
  | 'х' => 'x' | 'Х' => 'X'
  | c => c

/-- Decimal commas, dashes, multiplication and division signs become their plain counterparts. -/
def fold : Char → Char
  | ',' => '.'
  | '\u2212' | '\u2013' | '\u2014' => '-'
  | '\u00D7' | '\u00B7' | '\u2219' => '*'
  | '\u00F7' | ':' => '/'
  | c => foldLetter c

/-- Characters that no clean text holds. -/
def isUnclean (c : Char) : Bool := isBlank c || fold c != c

def pass (form : List Char → List Char) (text : List Char) : List Char :=
  ((form text).filter fun c => !isBlank c).map fold

/-- Repeats `step` until the text stops changing, at most `fuel` times. -/
def settle (step : List Char → List Char) : Nat → List Char → List Char
  | 0, text => text
  | fuel + 1, text =>
    let next := step text
    if next = text then text else settle step fuel next

/-- More passes than a text can need: those that remove something, one that only composes, and
one that finds nothing to change. -/
def passBound (expand : Char → List Char) (text : List Char) : Nat :=
  ((text.flatMap expand).countP isUnclean) + 2

/-- Cleanup for a given compatibility form and the expansion of single characters under it. -/
def normalizeBy (form : List Char → List Char) (expand : Char → List Char)
    (text : List Char) : List Char :=
  settle (pass form) (passBound expand text) text

def normalize [Unicode.Form] (text : List Char) : List Char :=
  normalizeBy Unicode.Form.form Unicode.Form.expand text

end WorkedAlgebra.Text
