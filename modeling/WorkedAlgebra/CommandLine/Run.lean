import WorkedAlgebra.CommandLine.Arguments
import WorkedAlgebra.CommandLine.Files
import WorkedAlgebra.CommandLine.Prompt

/-!
A run of the program as a function of what it is given. At most one file is written.

The home directory and the palette of the terminal are given, however the system finds them. What a
library says about a document that it refuses is left out of the failure, and the usage text is a
summary.
-/

namespace WorkedAlgebra.CommandLine

structure World where
  input : List UInt8 := []
  environment : List (String × String) := []
  files : Files
  /-- The user's home directory, if the system knows one. -/
  home? : Option String := none
  /-- How the terminal shows colors, as long as nothing turns them off. -/
  palette : Report.Palette := { enabled := false }

def World.variable? (w : World) (name : String) : Option String :=
  (w.environment.find? fun entry => entry.1 == name).map Prod.snd

structure Outcome where
  code : Nat
  output : Output
  /-- The file that was written, with its new text. -/
  written : Option (String × String) := none

def Outcome.files (o : Outcome) (before : Files) : Files :=
  match o.written with
  | some (path, text) => before.write path text
  | none => before

structure Failure where
  context : String
  cause : Option FileFault := none

namespace Failure

def text (f : Failure) : String :=
  match f.cause with
  | some cause => s!"Error: {f.context}\n\nCaused by:\n    {cause.message}\n"
  | none => s!"Error: {f.context}\n"

def line (f : Failure) : String :=
  match f.cause with
  | some cause => s!"{f.context}: {cause.message}"
  | none => f.context

def outcome (f : Failure) (output : Output) : Outcome :=
  { code := 1, output := output ++ .warn f.text }

end Failure

namespace World

variable [Unicode.Form] [Toml.Library]

def userConfig? (w : World) : Option String :=
  w.home?.map fun home =>
    let separator := if home.isEmpty || Files.endsInSlash home then "" else "/"
    s!"{home}{separator}.eqstep/config.toml"

def isLogging (w : World) : Bool := w.variable? "EQSTEP_DEBUG" == some "1"

def loadSettings (w : World) (path : String) : Except Failure Settings :=
  match w.files.readText path with
  | .error fault => .error { context := s!"reading {path}", cause := some fault }
  | .ok text =>
    match Settings.ofToml? text with
    | some settings => .ok settings
    | none => .error { context := s!"parsing {path}" }

/-- The user's own settings, if there are any; broken ones are reported and do not count. -/
def userSettings (w : World) : Settings × Output :=
  match w.userConfig? with
  | none => ({}, {})
  | some path =>
    if w.files.contains path then
      match w.loadSettings path with
      | .ok settings => (settings, {})
      | .error failure =>
        let label := Report.yellow.strong.paint w.palette "warn:"
        ({}, .warn s!"{label} {failure.line}; using built-in settings\n")
    else ({}, {})

/-- The settings of a run. A file that is named has to be valid, unless it is to be created. -/
def settings (w : World) (flags : GlobalFlags) (command : Command) :
    Except Failure (Settings × Output) :=
  match flags.config with
  | none => .ok w.userSettings
  | some path =>
    if command = .config true ∧ !w.files.contains path then .ok ({}, {})
    else (w.loadSettings path).map (·, {})

def context (w : World) (flags : GlobalFlags) (settings : Settings) : Context where
  palette :=
    { w.palette with enabled := w.palette.enabled && !flags.noColor && settings.display.color }
  settings := settings
  json := flags.json || settings.display.json
  prettyErrors := flags.prettyErrors
  logging := w.isLogging

def runSolve (w : World) (c : Context) (equation : String) (out : Option String) : Outcome :=
  let log := c.log equation
  match solve c.settings.solver equation with
  | .error error =>
    let report := if c.prettyErrors then c.diagnose equation error else c.errorLine error.message
    { code := 1, output := log ++ report }
  | .ok s =>
    let shown := log ++ c.showSolution s
    match out with
    | none => { code := 0, output := shown }
    | some path =>
      match w.files.obstacle? path with
      | some fault => Failure.outcome { context := s!"writing {path}", cause := some fault } shown
      | none =>
        let note := if c.json then {} else Output.print s!"report written to {path}\n"
        { code := 0, output := shown ++ note, written := some (path, Report.solutionJson s) }

def runBatch (w : World) (c : Context) (file : String) : Outcome :=
  let finish (bytes : List UInt8) : Outcome :=
    let (output, code) := c.batch file (LineReader.ofBytes bytes)
    { code, output }
  if file == "-" then finish w.input
  else
    match w.files.read file with
    | .ok bytes => finish bytes
    | .error .isDirectory => Failure.outcome { context := FileFault.message .isDirectory } {}
    | .error fault => Failure.outcome { context := s!"opening {file}", cause := some fault } {}

def runConfig (w : World) (c : Context) (flags : GlobalFlags) (init : Bool) : Outcome :=
  let text := c.settings.toToml
  if !init then { code := 0, output := .print text }
  else
    match flags.config.or w.userConfig? with
    | none => Failure.outcome { context := "no home directory to place the config in" } {}
    | some path =>
      if w.files.contains path then
        { code := 1, output := .warn s!"config already exists at {path}\n" }
      else
        match w.files.obstacle? path with
        | some fault => Failure.outcome { context := s!"writing {path}", cause := some fault } {}
        | none => { code := 0, output := .print s!"wrote {path}\n", written := some (path, text) }

def runCommand (w : World) (c : Context) (flags : GlobalFlags) : Command → Outcome
  | .solve equation out => w.runSolve c equation out
  | .batch file => w.runBatch c file
  | .arith operation a b =>
    let (output, code) := c.arith operation a b
    { code, output }
  | .tokens equation =>
    let (output, code) := c.tokens equation
    { code, output }
  | .config init => w.runConfig c flags init
  | .prompt =>
    let (output, code) := c.sessionOn w.input
    { code, output }

end World

def versionText (name : String) : String := s!"{name} 0.2.0\n"

def usage : String :=
  "Step-by-step linear equation solver\n\n" ++
    "Usage: eqstep [OPTIONS] [EQUATION] [COMMAND]\n\n" ++
    "Commands: solve, batch, arith, tokens, config, repl\n" ++
    "Options: --pretty-errors, --json, --no-color, --config <FILE>, -h/--help, -V/--version\n"

/-- A run of the program. A command line that asks for nothing valid ends in code 2. -/
def run [Unicode.Form] [Toml.Library] (arguments : List String) (w : World) : Outcome :=
  match requestOf arguments with
  | .version name => { code := 0, output := .print (versionText name) }
  | .help => { code := 0, output := .print usage }
  | .invalid => { code := 2, output := .warn usage }
  | .run flags command =>
    match w.settings flags command with
    | .error failure => failure.outcome {}
    | .ok (settings, warning) =>
      let outcome := w.runCommand (w.context flags settings) flags command
      { outcome with output := warning ++ outcome.output }

end WorkedAlgebra.CommandLine
