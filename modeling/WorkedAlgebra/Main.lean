import WorkedAlgebra.CommandLine.Run
import WorkedAlgebra.Toml.Format

/-!
The program. It looks up the places that a run may read or write, runs, prints and writes. At the
prompt, lines are answered as they come.
-/

namespace WorkedAlgebra.CommandLine

def knownVariables : List String :=
  ["HOME", "CLICOLOR", "CLICOLOR_FORCE", "NO_COLOR", "COLORTERM", "EQSTEP_DEBUG"]

/-- The home directory that the account of the process has. -/
def accountHome? : IO (Option String) := do
  try
    let status ← IO.FS.lines "/proc/self/status"
    let accounts ← IO.FS.lines "/etc/passwd"
    let user? := (status.toList.find? (·.startsWith "Uid:")).bind fun line =>
      ((Text.words line.toList)[1]?).map String.ofList
    return accounts.toList.findSome? fun line =>
      let fields := (pieces ':' line.toList).map String.ofList
      if user?.isSome && fields[2]? == user? then fields[5]? else none
  catch _ => return none

def ancestry (path : String) : List String :=
  let steps := (pieces '/' path.toList).map String.ofList
  (List.range steps.length).map fun i => "/".intercalate (steps.take (i + 1))

def pathsOf (flags : GlobalFlags) (command : Command) (w : World) : List String :=
  let named := match command with
    | .batch file => ancestry file
    | .solve _ (some out) => ancestry out
    | _ => []
  named ++ (flags.config.toList ++ w.userConfig?.toList).flatMap ancestry

def lookAt (files : Files) (path : String) : IO Files := do
  if path.isEmpty then return files
  let steps := stepsOf path
  try
    let bytes ← IO.FS.readBinFile path
    return { files with contents := (steps, bytes.toList) :: files.contents }
  catch
    | .inappropriateType .. => return { files with directories := steps :: files.directories }
    | _ => return files

partial def readAll (input : IO.FS.Stream) (read : ByteArray) : IO ByteArray := do
  let more ← input.read 4096
  if more.isEmpty then return read else readAll input (read ++ more)

/-- The bytes of a line, with the line feed that may end it. -/
partial def readLineBytes (input : IO.FS.Stream) (line : ByteArray) : IO ByteArray := do
  let next ← input.read 1
  if next.isEmpty then return line
  else if next.toList == [10] then return line ++ next
  else readLineBytes input (line ++ next)

def emit (output : Output) : IO Unit := do
  IO.eprint output.err
  IO.print output.out
  (← IO.getStdout).flush

/-- Answers lines until one leaves the prompt or is no text, or the input ends. -/
partial def converse (c : Context) (input : IO.FS.Stream) : IO UInt32 := do
  emit c.promptText
  let line ← readLineBytes input .empty
  if line.isEmpty then
    emit (.print "\n")
    return 0
  else
    match LineReader.decode? line.toList with
    | none =>
      emit .undecodable
      return 1
    | some text =>
      match c.reply text with
      | none => return 0
      | some output =>
        emit output
        converse c input

/-- Writes a file in one step, by way of a temporary one beside it. -/
def writeFile (path text : String) : IO Unit := do
  match (ancestry path).reverse with
  | _ :: parent :: _ => unless parent.isEmpty do IO.FS.createDirAll parent
  | _ => pure ()
  let temporary := path ++ ".tmp"
  IO.FS.writeFile temporary text
  IO.FS.rename temporary path

def perform (arguments : List String) (w : World) : IO UInt32 := do
  let outcome := run arguments w
  emit outcome.output
  match outcome.written with
  | some (path, text) => writeFile path text
  | none => pure ()
  return outcome.code.toUInt32

def prompt (flags : GlobalFlags) (w : World) : IO UInt32 := do
  match w.settings flags .prompt with
  | .error failure =>
    emit (failure.outcome {}).output
    return 1
  | .ok (settings, warning) =>
    let c := w.context flags settings
    emit (warning ++ c.banner)
    converse c (← IO.getStdin)

end WorkedAlgebra.CommandLine

open WorkedAlgebra.CommandLine in
def main (arguments : List String) : IO UInt32 := do
  let environment ← knownVariables.filterMapM fun name => do
    return (← IO.getEnv name).map fun value => (name, value)
  let setting? (name : String) := environment.lookup name
  let home? ← match setting? "HOME" with
    | none | some "" => accountHome?
    | some home => pure (some home)
  let terminal ← (← IO.getStdout).isTty
  let bare : World :=
    { environment, files := { contents := [] }, home?
      palette := .ofEnvironment setting? terminal }
  match requestOf arguments with
  | .run flags command =>
    let files ← (pathsOf flags command bare).foldlM lookAt bare.files
    if command = .prompt then prompt flags { bare with files }
    else
      let input ← if command = .batch "-" then readAll (← IO.getStdin) .empty else pure .empty
      perform arguments { bare with files, input := input.toList }
  | _ => perform arguments bare
