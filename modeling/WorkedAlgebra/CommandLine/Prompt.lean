import WorkedAlgebra.CommandLine.Output

/-!
The interactive prompt. The reply to a line depends on that line alone.
-/

namespace WorkedAlgebra.CommandLine.Context

open Report

variable [Unicode.Form] [Toml.Library]

def banner (c : Context) : Output :=
  let title := accent.strong.paint c.palette "eqstep · step-by-step linear equations"
  let hint := dimmed.paint c.palette "type an equation such as 2x + 3 = 7, or 'help'"
  .print s!"\n{title}\n{hint}\n"

def promptText (c : Context) : Output :=
  .print (accent.strong.paint c.palette "eqstep ›" ++ " ")

def helpText (c : Context) : Output :=
  let heading := yellow.strong.paint c.palette "commands:"
  .print ("\n".intercalate [heading,
    "  <equation>          solve, e.g. 3x + 2x - 1 = 9",
    "  mul|div|divmod A B  worked integer arithmetic",
    "  config              show effective settings",
    "  help                this text",
    "  exit                leave"] ++ "\n")

/-- Works an exercise with the first two words as operands; one that is missing or no number is
reported. -/
def replyArith (c : Context) (operation : Operation) (words : List (List Char)) : Output :=
  let operand (i : Nat) := (words[i]?).bind LongHand.operand?
  match LongHand.work operation (operand 0) (operand 1) with
  | .ok worked => c.showWorked worked
  | .error error => .warn (red.strong.paint c.palette "err:" ++ s!" {error.message}\n")

def replyEquation (c : Context) (equation : String) : Output :=
  c.log equation ++ match solve c.settings.solver equation with
    | .ok s => c.showSolution s
    | .error error => c.diagnose equation error

def reply (c : Context) (line : List Char) : Option Output :=
  let trimmed := Text.trim line
  match Text.words trimmed with
  | [] => some {}
  | first :: words =>
    match String.ofList first with
    | "help" | "?" => some c.helpText
    | "exit" | "quit" => none
    | "config" => some (.print c.settings.toToml)
    | "mul" => some (c.replyArith .multiplication words)
    | "div" => some (c.replyArith .division words)
    | "divmod" => some (c.replyArith .divisionWithRemainder words)
    | _ => some (c.replyEquation (String.ofList trimmed))

/-- The prompt with the reply to each line, up to a line that leaves, one that is no text, or the
end of the input; and the code that the session ends in. -/
def converse (c : Context) : List (List UInt8) → Output × Nat
  | [] => (c.promptText ++ .print "\n", 0)
  | line :: rest =>
    match LineReader.decode? line with
    | none => (c.promptText ++ .undecodable, 1)
    | some text =>
      match c.reply text with
      | none => (c.promptText, 0)
      | some output =>
        let (others, code) := c.converse rest
        (c.promptText ++ output ++ others, code)

def sessionOn (c : Context) (input : List UInt8) : Output × Nat :=
  let (output, code) := c.converse (terminated 10 input)
  (c.banner ++ output, code)

def session (c : Context) (input : String) : Output := (c.sessionOn input.toUTF8.toList).1

end WorkedAlgebra.CommandLine.Context
