import WorkedAlgebra.Decimal.Layout

/-!
JSON texts with an indentation of two blanks. Objects keep the order of their fields.
-/

namespace WorkedAlgebra.Report

inductive Json where
  | null
  | bool (value : Bool)
  | count (value : Nat)
  | number (value : Float)
  | string (value : String)
  | array (items : List Json)
  | object (fields : List (String × Json))

namespace Json

def hexDigits (n width : Nat) : String :=
  let digits := Nat.toDigits 16 n
  String.ofList (List.replicate (width - digits.length) '0' ++ digits)

/-- A character inside quotes. Only quotes, backslashes and control characters are escaped. -/
def escape (c : Char) : String :=
  match c with
  | '"' => "\\\""
  | '\\' => "\\\\"
  | '\x08' => "\\b"
  | '\x09' => "\\t"
  | '\x0a' => "\\n"
  | '\x0c' => "\\f"
  | '\x0d' => "\\r"
  | c => if c.toNat < 0x20 then "\\u" ++ hexDigits c.toNat 4 else String.singleton c

def quote (text : String) : String :=
  "\"" ++ "".intercalate (text.toList.map escape) ++ "\""

def breakLine (level : Nat) : String :=
  "\n" ++ String.ofList (List.replicate (2 * level) ' ')

mutual

def pretty (level : Nat) : Json → String
  | .null => "null"
  | .bool value => if value then "true" else "false"
  | .count value => toString value
  | .number value => Layout.json.write value
  | .string value => quote value
  | .array [] => "[]"
  | .array (item :: items) =>
    "[" ++ breakLine (level + 1) ++ item.pretty (level + 1) ++ prettyItems (level + 1) items ++
      breakLine level ++ "]"
  | .object [] => "\x7b\x7d"
  | .object ((name, value) :: fields) =>
    "\x7b" ++ breakLine (level + 1) ++ quote name ++ ": " ++ value.pretty (level + 1) ++
      prettyFields (level + 1) fields ++ breakLine level ++ "\x7d"

def prettyItems (level : Nat) : List Json → String
  | [] => ""
  | item :: items =>
    "," ++ breakLine level ++ item.pretty level ++ prettyItems level items

def prettyFields (level : Nat) : List (String × Json) → String
  | [] => ""
  | (name, value) :: fields =>
    "," ++ breakLine level ++ quote name ++ ": " ++ value.pretty level ++
      prettyFields level fields

end

def text (value : Json) : String := value.pretty 0

end Json
end WorkedAlgebra.Report
