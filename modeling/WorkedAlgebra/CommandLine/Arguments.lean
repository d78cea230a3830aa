import WorkedAlgebra.LongHand.Exercise

/-!
The command line: global flags, a command with operands and options, or an equation by itself.

Words are read from left to right. Flags may stand anywhere, also between operands; behind `--`
all words are operands. A word that starts with a hyphen is an operand only where the command
takes negative numbers or hyphens there. The global flags are known on both sides of the command
name, and each flag may be given once on either side.
-/

namespace WorkedAlgebra.CommandLine

structure GlobalFlags where
  prettyErrors : Bool := false
  json : Bool := false
  noColor : Bool := false
  config : Option String := none
deriving DecidableEq, Repr

inductive Command where
  | solve (equation : String) (out : Option String)
  | batch (file : String)
  | arith (operation : Operation) (a b : Int)
  | tokens (equation : String)
  | config (init : Bool)
  | prompt
deriving DecidableEq, Repr

inductive Request where
  | run (flags : GlobalFlags) (command : Command)
  /-- The version, under the name of the program or of a command. -/
  | version (name : String)
  | help
  | invalid
deriving DecidableEq, Repr

/-! ## One level of words -/

inductive Level where
  | top
  | solve
  | batch
  | arith
  | tokens
  | config
  | prompt
deriving DecidableEq, Repr

namespace Level

def ofName? : String → Option Level
  | "solve" => some .solve
  | "batch" => some .batch
  | "arith" => some .arith
  | "tokens" => some .tokens
  | "config" => some .config
  | "repl" => some .prompt
  | _ => none

def fullName : Level → String
  | .top => "eqstep"
  | .solve => "eqstep-solve"
  | .batch => "eqstep-batch"
  | .arith => "eqstep-arith"
  | .tokens => "eqstep-tokens"
  | .config => "eqstep-config"
  | .prompt => "eqstep-repl"

def takesOperand (level : Level) (count : Nat) : Bool :=
  match level with
  | .top | .batch => count == 0
  | .solve | .tokens => true
  | .arith => decide (count < 3)
  | .config | .prompt => false

def takesNegative (level : Level) : Bool := level == .solve || level == .tokens

def takesHyphen (level : Level) (count : Nat) : Bool :=
  level == .arith && (count == 1 || count == 2)

end Level

inductive ValueOption where
  | config
  | out
deriving DecidableEq, Repr

structure Words where
  flags : GlobalFlags := {}
  init : Bool := false
  out : Option String := none
  /-- Operands, the last one first. -/
  operands : List String := []
  /-- The option that the next word is the value of. -/
  awaiting : Option ValueOption := none
  /-- Whether `--` was read. -/
  onlyOperands : Bool := false

namespace Words

/-- Gives an option its value; a value is not empty, and an option is given once. -/
def setValue (w : Words) (option : ValueOption) (value : String) : Option Words :=
  if value.isEmpty then none
  else
    match option with
    | .config =>
      if w.flags.config.isSome then none
      else some { w with flags := { w.flags with config := some value }, awaiting := none }
    | .out =>
      if w.out.isSome then none else some { w with out := some value, awaiting := none }

/-- Sets a flag that takes no value; a flag is given once. -/
def setFlag (w : Words) (level : Level) (name : String) : Option Words :=
  match name with
  | "pretty-errors" =>
    if w.flags.prettyErrors then none
    else some { w with flags := { w.flags with prettyErrors := true } }
  | "json" =>
    if w.flags.json then none else some { w with flags := { w.flags with json := true } }
  | "no-color" =>
    if w.flags.noColor then none else some { w with flags := { w.flags with noColor := true } }
  | "init" =>
    if level != .config || w.init then none else some { w with init := true }
  | _ => none

end Words

inductive Effect where
  | goOn (words : Words)
  /-- The word is no flag or option, so it is a value or an operand. -/
  | plain
  | version
  | help
  | invalid

def longOption? (level : Level) (name : List Char) : Option ValueOption :=
  if name == "config".toList then some .config
  else if level == .solve && name == "out".toList then some .out
  else none

def readLong (level : Level) (w : Words) (body : List Char) : Effect :=
  let name := body.takeWhile (· != '=')
  let value := (body.dropWhile (· != '=')).drop 1
  let attached := body.contains '='
  match longOption? level name with
  | some option =>
    if w.awaiting.isSome then .invalid
    else if attached then
      match w.setValue option (String.ofList value) with
      | some next => .goOn next
      | none => .invalid
    else .goOn { w with awaiting := some option }
  | none =>
    let flag := String.ofList name
    if ["pretty-errors", "json", "no-color", "version", "help"].contains flag ||
        (flag == "init" && level == .config) then
      if attached || w.awaiting.isSome then .invalid
      else if flag == "version" then .version
      else if flag == "help" then .help
      else
        match w.setFlag level flag with
        | some next => .goOn next
        | none => .invalid
    else if !name.isEmpty && level.takesHyphen w.operands.length then .plain
    else .invalid

def isNumber (text : List Char) : Bool :=
  let isExponent (c : Char) := c == 'e' || c == 'E'
  let mantissa := text.takeWhile fun c => !isExponent c
  let power := text.dropWhile fun c => !isExponent c
  mantissa.all Numeral.isMark && mantissa.count '.' ≤ 1 && mantissa.head? != some '.' &&
    (power.isEmpty ||
      (!mantissa.isEmpty && power.length > 1 && (power.drop 1).all Char.isDigit))

def isShort (level : Level) (c : Char) : Bool :=
  c == 'h' || c == 'V' || (c == 'o' && level == .solve)

def readShort (level : Level) (w : Words) (body : List Char) : Effect :=
  let count := w.operands.length
  if level.takesNegative && isNumber body then .plain
  else if level.takesHyphen count && !body.all (isShort level) then .plain
  else if w.awaiting.isSome then .invalid
  else
    match body with
    | 'h' :: _ => .help
    | 'V' :: _ => .version
    | 'o' :: value =>
      if level != .solve then .invalid
      else if value.isEmpty then .goOn { w with awaiting := some .out }
      else
        let value := if value.head? == some '=' then value.drop 1 else value
        match w.setValue .out (String.ofList value) with
        | some next => .goOn next
        | none => .invalid
    | _ => .invalid

def readPlain (level : Level) (w : Words) (word : String) : Effect :=
  match w.awaiting with
  | some option =>
    if w.onlyOperands then .invalid
    else
      match w.setValue option word with
      | some next => .goOn next
      | none => .invalid
  | none =>
    if level.takesOperand w.operands.length then
      .goOn { w with operands := word :: w.operands }
    else .invalid

def readWord (level : Level) (w : Words) (word : String) : Effect :=
  if w.onlyOperands then readPlain level w word
  else
    match word.toList with
    | ['-', '-'] => .goOn { w with onlyOperands := true }
    | '-' :: '-' :: body =>
      match readLong level w body with
      | .plain => readPlain level w word
      | effect => effect
    | '-' :: c :: body =>
      match readShort level w (c :: body) with
      | .plain => readPlain level w word
      | effect => effect
    | _ => readPlain level w word

/-! ## From words to a request -/

def operation? : String → Option Operation
  | "mul" | "multiply" | "x" => some .multiplication
  | "div" | "divide" => some .division
  | "divmod" | "rem" => some .divisionWithRemainder
  | _ => none

def commandOf (level : Level) (w : Words) : Option Command :=
  match level, w.operands.reverse with
  | .top, [] => some .prompt
  | .top, equation :: _ => some (.solve equation none)
  | .solve, [] | .tokens, [] => none
  | .solve, words => some (.solve (" ".intercalate words) w.out)
  | .tokens, words => some (.tokens (" ".intercalate words))
  | .batch, [file] => if file.isEmpty then none else some (.batch file)
  | .arith, [name, a, b] => do
    let operation ← operation? name
    let a ← LongHand.operand? a.toList
    let b ← LongHand.operand? b.toList
    return .arith operation a b
  | .config, [] => some (.config w.init)
  | .prompt, [] => some .prompt
  | _, _ => none

/-- Flags given in front of the command name and behind it; of two files the latter counts. -/
def GlobalFlags.join (outer inner : GlobalFlags) : GlobalFlags where
  prettyErrors := outer.prettyErrors || inner.prettyErrors
  json := outer.json || inner.json
  noColor := outer.noColor || inner.noColor
  config := inner.config.or outer.config

/-- Whether operands that were read are valid so far; a word is checked before the next one. -/
def isValidSoFar (level : Level) (w : Words) : Bool :=
  match level, w.operands.reverse with
  | .batch, file :: _ => !file.isEmpty
  | .arith, name :: numbers =>
    (operation? name).isSome && numbers.all fun n => (LongHand.operand? n.toList).isSome
  | _, _ => true

def readWords (level : Level) (outer : GlobalFlags) (w : Words) : List String → Request
  | [] =>
    if w.awaiting.isSome then .invalid
    else
      match commandOf level w with
      | some command => .run (outer.join w.flags) command
      | none => .invalid
  | word :: rest =>
    let named := if level == .top && w.awaiting.isNone && !w.onlyOperands
      then Level.ofName? word else none
    match named with
    | some command => readWords command w.flags {} rest
    | none =>
      match readWord level w word with
      | .goOn next => if isValidSoFar level next then readWords level outer next rest else .invalid
      | .version => .version level.fullName
      | .help => .help
      | _ => .invalid

def requestOf (arguments : List String) : Request := readWords .top {} {} arguments

end WorkedAlgebra.CommandLine
