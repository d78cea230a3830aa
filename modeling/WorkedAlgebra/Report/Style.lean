/-!
Styled terminal text: escape codes around a text, or the bare text where colors are off.
-/

namespace WorkedAlgebra.Report

inductive Color where
  | red
  | green
  | yellow
  | cyan
  | brightRed
  | brightGreen
  | brightWhite
  /-- The color of the program's name: a full one on terminals that have it, else cyan. -/
  | accent
deriving DecidableEq, Repr

/-- How text is shown: whether it is styled at all, and whether the terminal has full colors. -/
structure Palette where
  enabled : Bool
  fullColor : Bool := false
deriving DecidableEq, Repr

/-- The palette that environment variables ask for. Colors are on when they are forced, or on a
terminal when nothing turns them off. -/
def Palette.ofEnvironment (setting? : String → Option String) (terminal : Bool) : Palette :=
  let isOn (name : String) : Option Bool := (setting? name).map (· != "0")
  { enabled :=
      if isOn "CLICOLOR_FORCE" = some true then true
      else if (isOn "NO_COLOR").isSome then false
      else (isOn "CLICOLOR").getD true && terminal
    fullColor := match setting? "COLORTERM" with
      | some value => value == "truecolor" || value == "24bit"
      | none => false }

def Color.code (palette : Palette) : Color → String
  | .red => "31"
  | .green => "32"
  | .yellow => "33"
  | .cyan => "36"
  | .brightRed => "91"
  | .brightGreen => "92"
  | .brightWhite => "97"
  | .accent => if palette.fullColor then "38;2;0;180;225" else "36"

structure Style where
  bold : Bool := false
  dimmed : Bool := false
  color : Option Color := none
deriving DecidableEq, Repr

namespace Style

def reset : String := "\x1b[0m"

/-- The escape sequence that switches a style on: bold and dimmed come before the color. -/
def opening (palette : Palette) (style : Style) : String :=
  let codes := (if style.bold then ["1"] else []) ++ (if style.dimmed then ["2"] else []) ++
    (style.color.map (·.code palette)).toList
  "\x1b[" ++ ";".intercalate codes ++ "m"

/-- A text in a style. Where the text itself switches styles off, the style is switched on
again. -/
def paint (palette : Palette) (style : Style) (text : String) : String :=
  if palette.enabled then
    let on := style.opening palette
    on ++ (reset ++ on).intercalate (text.splitOn reset) ++ reset
  else text

end Style

def red : Style where
  color := some .red

def green : Style where
  color := some .green

def yellow : Style where
  color := some .yellow

def brightRed : Style where
  color := some .brightRed

def brightGreen : Style where
  color := some .brightGreen

def brightWhite : Style where
  color := some .brightWhite

def accent : Style where
  color := some .accent

def dimmed : Style where
  dimmed := true

def bold : Style where
  bold := true

def Style.strong (style : Style) : Style := { style with bold := true }

end WorkedAlgebra.Report
