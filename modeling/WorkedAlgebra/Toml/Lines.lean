import WorkedAlgebra.Toml.Document
import WorkedAlgebra.Toml.Literal

/-!
The lines of a document from text. Reading gives what the line in front of a text says, or nothing
when it breaks a rule of the format or nests values too deeply.
-/

namespace WorkedAlgebra.Toml

/-- Skips blanks, comments and line breaks between the items of an array. -/
def skipGaps : Nat → List Char → List Char
  | 0, cs => cs
  | fuel + 1, cs =>
    let rest := skipComment (skipBlanks cs)
    match newline? rest with
    | some next => skipGaps fuel next
    | none => rest

mutual

/-- A value in front of the text. There is `room` for so many arrays and tables in each other. -/
def value? : Nat → Nat → List Char → Option (Value × List Char)
  | 0, _, _ => none
  | fuel + 1, room, cs =>
    match cs with
    | '[' :: rest =>
      if room = 0 then none
      else do
        let (items, left) ← items? fuel (room - 1) (skipGaps rest.length rest)
        return (.array items, left)
    | '{' :: rest =>
      if room = 0 then none
      else
        match skipBlanks rest with
        | '}' :: left => some (.table .inline [], left)
        | inner => do
          let (entries, left) ← fields? fuel (room - 1) [] inner
          return (.table .inline entries, left)
    | '"' :: _ | '\'' :: _ =>
      (string? cs).map fun (text, left) => (.string (String.ofList text), left)
    | _ =>
      let (text, left) := word cs
      (wordValue? text).map (·, left)
termination_by structural fuel => fuel

/-- The items of an array up to its closing bracket; a comma may follow the last one. -/
def items? : Nat → Nat → List Char → Option (List Value × List Char)
  | 0, _, _ => none
  | fuel + 1, room, cs =>
    match cs with
    | ']' :: left => some ([], left)
    | _ => do
      let (item, rest) ← value? fuel room cs
      match skipGaps rest.length rest with
      | ',' :: next =>
        let (items, left) ← items? fuel room (skipGaps next.length next)
        return (item :: items, left)
      | ']' :: left => return ([item], left)
      | _ => none
termination_by structural fuel => fuel

/-- The fields of an inline table up to its closing brace, added to those read before. -/
def fields? : Nat → Nat → Entries → List Char → Option (Entries × List Char)
  | 0, _, _, _ => none
  | fuel + 1, room, entries, cs => do
    let ((path, key), value, rest) ← field fuel room cs
    let entries ← entries.addDotted path key value
    match skipBlanks rest with
    | ',' :: next => fields? fuel room entries next
    | '}' :: left => return (entries, left)
    | _ => none
termination_by structural fuel => fuel

def field : Nat → Nat → List Char → Option ((List String × String) × Value × List Char)
  | 0, _, _ => none
  | fuel + 1, room, cs => do
    let (path, rest) ← keyPath? cs
    match rest with
    | '=' :: next =>
      let (value, left) ← value? fuel room (skipBlanks next)
      return (path, value, left)
    | _ => none
termination_by structural fuel => fuel

end

namespace Line

/-- A header behind its opening brackets; the closing ones end the line. -/
def header? (closing : List Char) (cs : List Char) :
    Option ((List String × String) × List Char) := do
  let (path, rest) ← keyPath? cs
  if closing.isPrefixOf rest then
    let next ← lineEnd? (rest.drop closing.length)
    return (path, next)
  else none

def plain? (text : List Char) : Option (Line × List Char) :=
  match lineEnd? text with
  | some next => some (.blank, next)
  | none => do
    let ((path, key), value, rest) ← field (text.length + 1) (depthLimit - 1) text
    let next ← lineEnd? rest
    return (.entry path key value, next)

def unindented? : List Char → Option (Line × List Char)
  | '[' :: '[' :: rest =>
    (header? [']', ']'] rest).map fun ((path, key), next) => (.item path key, next)
  | '[' :: rest => (header? [']'] rest).map fun ((path, key), next) => (.table path key, next)
  | text => plain? text

def read? (cs : List Char) : Option (Line × List Char) := unindented? (skipBlanks cs)

end Line
end WorkedAlgebra.Toml
