/-!
Values and tables of a TOML document. A table remembers how it came about, because that decides
whether later lines may add to it.
-/

namespace WorkedAlgebra.Toml

inductive Origin where
  /-- Written in braces; nothing can be added. -/
  | inline
  /-- Opened by a header of its own. -/
  | header
  /-- Named on the way in a longer header. -/
  | implied
  /-- Named on the way in a dotted key. -/
  | dotted
deriving DecidableEq, Repr

inductive Value where
  | string (text : String)
  | integer (value : Int)
  | float (value : Float)
  | boolean (value : Bool)
  /-- A date, a time, or both. -/
  | date
  | array (items : List Value)
  | table (origin : Origin) (entries : List (String × Value))
  /-- An array of tables built up by headers, the latest table first. -/
  | tables (items : List (List (String × Value)))
deriving Inhabited

abbrev Entries := List (String × Value)

def fitsInteger (n : Int) : Bool :=
  decide (Int64.minValue.toInt ≤ n ∧ n ≤ Int64.maxValue.toInt)

inductive Value.InRange : Value → Prop
  | string (text : String) : InRange (.string text)
  | integer {n : Int} (fits : fitsInteger n = true) : InRange (.integer n)
  | float (x : Float) : InRange (.float x)
  | boolean (b : Bool) : InRange (.boolean b)
  | date : InRange .date
  | array {items : List Value} (each : ∀ v ∈ items, InRange v) : InRange (.array items)
  | table (origin : Origin) {entries : Entries} (each : ∀ e ∈ entries, InRange e.2) :
      InRange (.table origin entries)
  | tables {items : List Entries} (each : ∀ entries ∈ items, ∀ e ∈ entries, InRange e.2) :
      InRange (.tables items)

namespace Entries

def get? (entries : Entries) (key : String) : Option Value :=
  (List.find? (fun entry => entry.1 == key) entries).map Prod.snd

/-- Replaces the value of a key, or adds the key at the end. -/
def put (entries : Entries) (key : String) (value : Value) : Entries :=
  match entries with
  | [] => [(key, value)]
  | (name, old) :: rest =>
    if name == key then (name, value) :: rest else (name, old) :: put rest key value

/-- Goes down a path of tables and changes the table at its end. Missing tables on the way are
created with the given origin. With `dotted`, tables that have a header are closed. -/
def descend (dotted : Bool) (change : Origin → Entries → Option Entries) :
    List String → Origin → Entries → Option Entries
  | [], origin, entries => change origin entries
  | key :: path, _, entries =>
    match entries.get? key with
    | none => do
      let created := if dotted then Origin.dotted else .implied
      let inner ← descend dotted change path created []
      return entries.put key (.table created inner)
    | some (.table .inline _) => none
    | some (.table origin inner) =>
      if dotted && origin == .header then none
      else do
        let inner ← descend dotted change path origin inner
        return entries.put key (.table origin inner)
    | some (.tables (latest :: earlier)) => do
      let inner ← descend dotted change path .header latest
      return entries.put key (.tables (inner :: earlier))
    | some _ => none

/-- Adds a value under a dotted key. All tables on its path have to come from dotted keys, and the
last key has to be new. -/
def addDotted (path : List String) (key : String) (value : Value) (entries : Entries) :
    Option Entries :=
  let add (origin : Origin) (inner : Entries) : Option Entries :=
    if (origin == .dotted) == path.isEmpty || (inner.get? key).isSome then none
    else some (inner.put key value)
  descend true add path .header entries

/-- Opens a table by its header. It has to be new, or only implied so far. -/
def openTable (path : List String) (key : String) (entries : Entries) : Option Entries :=
  let opening (_ : Origin) (inner : Entries) : Option Entries :=
    match inner.get? key with
    | none => some (inner.put key (.table .header []))
    | some (.table .implied own) => some (inner.put key (.table .header own))
    | some _ => none
  descend false opening path .header entries

def openItem (path : List String) (key : String) (entries : Entries) : Option Entries :=
  let opening (_ : Origin) (inner : Entries) : Option Entries :=
    match inner.get? key with
    | none => some (inner.put key (.tables [[]]))
    | some (.tables items) => some (inner.put key (.tables ([] :: items)))
    | some _ => none
  descend false opening path .header entries

end Entries

end WorkedAlgebra.Toml
