import WorkedAlgebra.Proofs.Document.KnownEntries
import WorkedAlgebra.Proofs.Document.Lines
import WorkedAlgebra.Proofs.DocumentIntegers
import WorkedAlgebra.Proofs.FileEffects

/-!
Settings read back from a file. A file may hold the lines of some of the six keys, each under the
header of its table, and whatever else the format allows between them; loading it gives the values
of these keys, and the default of every other key.
-/

namespace WorkedAlgebra

open Toml

namespace Settings

inductive Key where
  | maxIterations
  | tolerance
  | searchLimit
  | precision
  | color
  | json
deriving DecidableEq, Repr

namespace Key

def table : Key → String
  | .maxIterations | .tolerance | .searchLimit | .precision => "solver"
  | .color | .json => "display"

def name : Key → String
  | .maxIterations => "max_iterations"
  | .tolerance => "tolerance"
  | .searchLimit => "search_limit"
  | .precision => "precision"
  | .color => "color"
  | .json => "json"

def value (s : Settings) : Key → Value
  | .maxIterations => .integer s.solver.maxIterations
  | .tolerance => .float s.solver.tolerance
  | .searchLimit => .float s.solver.searchLimit
  | .precision => .integer s.solver.precision
  | .color => .boolean s.display.color
  | .json => .boolean s.display.json

def line [Library] (s : Settings) (k : Key) : String :=
  k.name ++ " = " ++ Library.scalarText (k.value s) ++ "\n"

def inSolver : List Key := [.maxIterations, .tolerance, .searchLimit, .precision]

def inDisplay : List Key := [.color, .json]

variable {k k' : Key}

theorem table_inSolver : ∀ k ∈ inSolver, k.table = "solver" := by decide

theorem table_inDisplay : ∀ k ∈ inDisplay, k.table = "display" := by decide

theorem isBare (k : Key) : IsBare k.name := by
  cases k <;> exact ⟨List.cons_ne_nil _ _, List.all_eq_true.mp rfl⟩

theorem eq_of_name (tables : k.table = k'.table) (names : k.name = k'.name) : k = k' := by
  cases k <;> cases k' <;> first | rfl | (exact absurd names (by decide))

end Key

variable {s : Settings} {k : Key} {keys : List Key}

def Defined (s : Settings) : Prop :=
  s.solver.tolerance.isNaN = false ∧ s.solver.searchLimit.isNaN = false

theorem plain_value (fit : s.CountsFit) (defined : s.Defined) (k : Key) : (k.value s).Plain := by
  cases k with
  | maxIterations => exact .natural fit.1
  | tolerance => exact .float defined.1
  | searchLimit => exact .float defined.2
  | precision => exact .natural fit.2
  | color | json => exact .boolean _

/-- The settings that agree with `s` on some keys, and with the defaults on the others. -/
def only (s : Settings) (keys : List Key) : Settings where
  solver :=
    let d : SolverOptions Float := default
    { maxIterations := if .maxIterations ∈ keys then s.solver.maxIterations else d.maxIterations
      tolerance := if .tolerance ∈ keys then s.solver.tolerance else d.tolerance
      searchLimit := if .searchLimit ∈ keys then s.solver.searchLimit else d.searchLimit
      precision := if .precision ∈ keys then s.solver.precision else d.precision }
  display :=
    let d : DisplaySettings := {}
    { color := if .color ∈ keys then s.display.color else d.color
      json := if .json ∈ keys then s.display.json else d.json }

theorem only_all (s : Settings) : s.only (Key.inSolver ++ Key.inDisplay) = s := rfl

/-- None of the keys is in a root table, and what stands under the names of their tables is none
or a table. -/
def Unset (root : Entries) : Prop :=
  ∀ k : Key, root.get? k.table = none ∨
    ∃ origin inner, root.get? k.table = some (.table origin inner) ∧
      Entries.get? inner k.name = none

/-- A text that holds the lines of some keys, from a state of reading on that leaves out what these
lines say. Each of them stands under the header of its table. Between them stand other lines,
whatever they say, as long as they do not set one of the six keys. -/
inductive FileOf [Library] (s : Settings) : List Key → Toml.Reading → List Char → Prop
  | done (r : Toml.Reading) : FileOf s [] r []
  | other {keys : List Key} {r next : Toml.Reading} {text rest : List Char}
      (line : r.line? (text ++ rest) = some (next, rest)) (nonempty : text ≠ [])
      (unset : Unset next.root) (more : FileOf s keys next rest) : FileOf s keys r (text ++ rest)
  | known {keys : List Key} {r : Toml.Reading} {rest : List Char} (k : Key)
      (under : r.current = [k.table]) (more : FileOf s keys r rest) :
      FileOf s (k :: keys) r ((k.line s).toList ++ rest)

def start : Toml.Reading := ⟨[], []⟩

section Entries

def entriesOf (s : Settings) : List Key → String → String → Option Value
  | [] => fun _ _ => none
  | k :: keys => oneMore (entriesOf s keys) k.table k.name (k.value s)

theorem entriesOf_key (s : Settings) (keys : List Key) (k : Key) :
    entriesOf s keys k.table k.name = if k ∈ keys then some (k.value s) else none := by
  induction keys with
  | nil => rfl
  | cons k' keys ih =>
    rw [entriesOf, oneMore, ih]
    by_cases same : k = k'
    · simp [same]
    · rw [if_neg fun both => same (Key.eq_of_name both.1 both.2)]
      simp [same]

theorem exists_key {name key : String} (known : entriesOf s keys name key ≠ none) :
    ∃ k : Key, k.table = name ∧ k.name = key := by
  induction keys with
  | nil => exact absurd rfl known
  | cons k keys ih =>
    rw [entriesOf, oneMore] at known
    split at known
    · rename_i both
      exact ⟨k, both.1.symm, both.2.symm⟩
    · exact ih known

/-- What is found under the name of a table is a table without the key. -/
theorem Unset.of_found {root : Entries} {value : Value} (unset : Unset root)
    (found : root.get? k.table = some value) :
    ∃ origin inner, value = .table origin inner ∧ Entries.get? inner k.name = none := by
  rcases unset k with absent | ⟨origin, inner, there, free⟩
  · rw [absent] at found
    cases found
  · rw [there] at found
    cases found
    exact ⟨origin, inner, rfl, free⟩

theorem Unset.lacksRoot {root : Entries} (unset : Unset root) :
    Entries.LacksRoot (entriesOf s keys) root := by
  intro name origin inner there key known
  obtain ⟨k, rfl, rfl⟩ := exists_key known
  obtain ⟨_, _, same, free⟩ := unset.of_found there
  cases same
  exact free

theorem Unset.header {r : Toml.Reading} (unset : Unset r.root) (under : r.UnderHeader)
    (current : r.current = [k.table]) :
    ∃ inner, r.root.get? k.table = some (.table .header inner) ∧
      Entries.get? inner k.name = none := by
  rcases under k.table current with ⟨inner, there⟩ | ⟨items, there⟩
  · obtain ⟨_, _, same, free⟩ := unset.of_found there
    cases same
    exact ⟨inner, there, free⟩
  · obtain ⟨_, _, same, -⟩ := unset.of_found there
    cases same

theorem run_succ [Library] {fuel : Nat} {r : Toml.Reading} {cs : List Char} (nonempty : cs ≠ []) :
    Toml.Reading.run (fuel + 1) r cs =
      (r.line? cs).bind fun (next, rest) => Toml.Reading.run fuel next rest := by
  cases cs with
  | nil => exact absurd rfl nonempty
  | cons c cs => rfl

theorem line_ne_nil [Library] (s : Settings) (k : Key) : (k.line s).toList ≠ [] := by
  simp [Key.line]

/-- A reader gets through a file and finds the entries of the keys besides what the other lines
say. -/
theorem FileOf.run [Library] (lossless : Library.Lossless) {r : Toml.Reading} {cs : List Char}
    (file : FileOf s keys r cs) (fit : s.CountsFit) (defined : s.Defined) {done : List Key}
    (distinct : (keys.reverse ++ done).Nodup) {a : Toml.Reading}
    (further : Entries.ExtendsRoot (entriesOf s done) r.root a.root)
    (current : a.current = r.current) (under : r.UnderHeader) (unset : Unset r.root) {fuel : Nat}
    (enough : cs.length ≤ fuel) :
    ∃ out root, Toml.Reading.run fuel a cs = some out ∧ Unset root ∧
      Entries.ExtendsRoot (entriesOf s (keys.reverse ++ done)) root out.root := by
  induction file generalizing done a fuel with
  | done r => exact ⟨a, r.root, by cases fuel <;> rfl, unset, further⟩
  | @other keys r next text rest line nonempty unset' more ih =>
    obtain ⟨said, read, applied⟩ := Toml.Reading.line?_eq_some.mp line
    obtain ⟨out, applied', current', further'⟩ :=
      said.apply_further further current unset'.lacksRoot applied
    have length := List.length_pos_iff.mpr nonempty
    rw [List.length_append] at enough
    obtain ⟨fuel, rfl⟩ : ∃ n, fuel = n + 1 := ⟨fuel - 1, by omega⟩
    have step := Toml.Reading.line?_eq_some.mpr ⟨said, read, applied'⟩
    rw [run_succ (List.append_ne_nil_of_left_ne_nil nonempty rest), step]
    exact ih distinct further' current' (said.apply_underHeader under applied) unset' (by omega)
  | @known keys r rest k under' more ih =>
    obtain ⟨inner, there, free⟩ := unset.header under under'
    rw [List.reverse_cons, List.append_assoc, List.singleton_append] at distinct ⊢
    have new : k ∉ done := (List.nodup_cons.mp (List.nodup_append.mp distinct).2.1).1
    have unknown : entriesOf s done k.table k.name = none := by
      rw [entriesOf_key, if_neg new]
    obtain ⟨out, added, current', further'⟩ :=
      add_known further (current.trans under') there free unknown (k.value s)
    have length := List.length_pos_iff.mpr (line_ne_nil s k)
    rw [List.length_append] at enough
    obtain ⟨fuel, rfl⟩ : ∃ n, fuel = n + 1 := ⟨fuel - 1, by omega⟩
    have step : a.line? ((k.line s).toList ++ rest) = some (out, rest) :=
      Toml.Reading.line?_eq_some.mpr
        ⟨_, lossless.entry k.isBare (plain_value fit defined k) rest, added⟩
    rw [run_succ (List.append_ne_nil_of_left_ne_nil (line_ne_nil s k) rest), step]
    exact ih distinct further' (current'.trans current) under unset (by omega)

end Entries

section Fields

variable {e a : Entries}

/-- What the tables of a file hold of the keys. -/
theorem Unset.fields (unset : Unset e) (further : Entries.ExtendsRoot (entriesOf s keys) e a)
    (k : Key) :
    (a.get? k.table = none ∧ ∀ k' : Key, k'.table = k.table → k' ∉ keys) ∨
      ∃ origin inner, a.get? k.table = some (.table origin inner) ∧
        ∀ k' : Key, k'.table = k.table →
          Entries.get? inner k'.name = if k' ∈ keys then some (k'.value s) else none := by
  have beside := further k.table
  rcases unset k with absent | ⟨origin, inner, there, -⟩
  · rw [absent] at beside
    generalize a.get? k.table = there at beside
    cases beside with
    | same unknown =>
      refine .inl ⟨rfl, fun k' table mem => ?_⟩
      have none := unknown k'.name
      rw [← table, entriesOf_key, if_pos mem] at none
      cases none
  · rw [there] at beside
    obtain ⟨inner', there', further'⟩ := beside.exists_table
    refine .inr ⟨origin, inner', there', fun k' table => ?_⟩
    obtain ⟨_, _, same, free⟩ := unset.of_found (k := k') (table ▸ there)
    cases same
    rw [further' k'.name, free, Option.or_none, ← table, entriesOf_key]

theorem read_of {β : Type} {kind : Value → Option β} {present : Prop} [Decidable present]
    {fallback x : β} {v : Value} (here : kind v = some x) :
    read kind fallback (if present then some v else none) =
      some (if present then x else fallback) := by
  split <;> first | exact here | rfl

theorem count?_natural (n : Nat) : count? (.integer n) = some n := by
  simp [count?]

theorem number?_float (x : Float) : number? (.float x) = some x := rfl

theorem boolean?_boolean (b : Bool) : boolean? (.boolean b) = some b := rfl

theorem solverOf?_table {origin : Origin} {inner : Entries}
    (fields : ∀ k : Key, k.table = "solver" →
      inner.get? k.name = if k ∈ keys then some (k.value s) else none) :
    solverOf? (.table origin inner) = some (s.only keys).solver := by
  have values : fieldsOf? solverKeys (.table origin inner) = some
      (Key.inSolver.map fun k => if k ∈ keys then some (k.value s) else none) := by
    simp only [fieldsOf?, solverKeys, Key.inSolver, List.map_cons, List.map_nil]
    rw [← fields .maxIterations rfl, ← fields .tolerance rfl, ← fields .searchLimit rfl,
      ← fields .precision rfl]
    rfl
  rw [solverOf?, values]
  simp only [Key.inSolver, List.map_cons, List.map_nil, Option.bind_eq_bind, Option.bind_some,
    List.getElem?_cons_zero, List.getElem?_cons_succ, Option.join_some, Key.value,
    read_of (count?_natural _), read_of (number?_float _)]
  rfl

theorem displayOf?_table {origin : Origin} {inner : Entries}
    (fields : ∀ k : Key, k.table = "display" →
      inner.get? k.name = if k ∈ keys then some (k.value s) else none) :
    displayOf? (.table origin inner) = some (s.only keys).display := by
  have values : fieldsOf? displayKeys (.table origin inner) = some
      (Key.inDisplay.map fun k => if k ∈ keys then some (k.value s) else none) := by
    simp only [fieldsOf?, displayKeys, Key.inDisplay, List.map_cons, List.map_nil]
    rw [← fields .color rfl, ← fields .json rfl]
    rfl
  rw [displayOf?, values]
  simp only [Key.inDisplay, List.map_cons, List.map_nil, Option.bind_eq_bind, Option.bind_some,
    List.getElem?_cons_zero, List.getElem?_cons_succ, Option.join_some, Key.value,
    read_of (boolean?_boolean _)]
  rfl

theorem ofEntries?_of_further (unset : Unset e)
    (further : Entries.ExtendsRoot (entriesOf s keys) e a) :
    ofEntries? a = some (s.only keys) := by
  have solver : read solverOf? (default : SolverOptions Float) (a.get? "solver") =
      some (s.only keys).solver := by
    rcases unset.fields further .precision with ⟨absent, free⟩ | ⟨origin, inner, there, fields⟩
    · rw [show a.get? "solver" = none from absent]
      simp only [only, free .maxIterations rfl, free .tolerance rfl, free .searchLimit rfl,
        free .precision rfl, if_false]
      rfl
    · rw [show a.get? "solver" = _ from there]
      exact solverOf?_table fields
  have display : read displayOf? ({} : DisplaySettings) (a.get? "display") =
      some (s.only keys).display := by
    rcases unset.fields further .json with ⟨absent, free⟩ | ⟨origin, inner, there, fields⟩
    · rw [show a.get? "display" = none from absent]
      simp only [only, free .color rfl, free .json rfl, if_false]
      rfl
    · rw [show a.get? "display" = _ from there]
      exact displayOf?_table fields
  have solver' : read solverOf? ({} : Settings).solver (a.get? "solver") =
      some (s.only keys).solver := solver
  have display' : read displayOf? ({} : Settings).display (a.get? "display") =
      some (s.only keys).display := display
  simp only [ofEntries?, solver', display']
  rfl

end Fields

section Files

theorem unset_nil : Unset [] := fun _ => .inl rfl

theorem underHeader_start : start.UnderHeader := fun _ current => by cases current

variable [Library] (lossless : Library.Lossless)

include lossless

theorem FileOf.ne_mark {r : Toml.Reading} {cs : List Char} (file : FileOf s keys r cs)
    (rest : List Char) : cs ≠ '\uFEFF' :: rest := by
  rintro same
  cases file with
  | done => cases same
  | other line nonempty unset more =>
    obtain ⟨said, read, -⟩ := Toml.Reading.line?_eq_some.mp line
    rw [same, lossless.mark] at read
    cases read
  | known k under more =>
    obtain ⟨c, cs, chars, bare⟩ := k.isBare.exists_cons
    rw [Key.line, String.toList_append, String.toList_append, String.toList_append, chars] at same
    exact ne_of_isBareKey bare rfl (List.cons.inj same).1

/-- A file that holds the lines of some keys of `s` has the values of `s` for these keys, and the
default of every other key. -/
theorem ofToml?_of_fileOf {text : String} (file : FileOf s keys start text.toList)
    (fit : s.CountsFit) (defined : s.Defined) (distinct : keys.Nodup) :
    ofToml? text = some (s.only keys) := by
  have reversed : (keys.reverse ++ []).Nodup := by
    rwa [List.append_nil, List.nodup_reverse]
  obtain ⟨out, root, ran, unset, further⟩ := file.run lossless fit defined reversed
    (a := start) (fun _ => .same fun _ => rfl) rfl underHeader_start unset_nil
    (Nat.le_succ text.toList.length)
  rw [List.append_nil] at further
  have whole : document? text.toList = some out.root := by
    unfold document?
    split
    · rename_i rest same
      exact absurd same (file.ne_mark lossless rest)
    · exact congrArg (Option.map (·.root)) ran
  have same : s.only keys.reverse = s.only keys := by
    simp only [only, List.mem_reverse]
  rw [ofToml?, whole, Option.bind_some, ofEntries?_of_further unset further, same]

end Files

section Written

def headers : Entries := [("solver", .table .header []), ("display", .table .header [])]

theorem unset_headers : Unset headers ∧ Unset [("solver", .table .header [])] := by
  constructor <;> intro k <;> cases k <;> first | exact .inl rfl | exact .inr ⟨_, _, rfl, rfl⟩

theorem isBare_tables : IsBare "solver" ∧ IsBare "display" :=
  ⟨⟨List.cons_ne_nil _ _, List.all_eq_true.mp rfl⟩, ⟨List.cons_ne_nil _ _, List.all_eq_true.mp rfl⟩⟩

variable [Library]

/-- The document of settings with the lines of some keys alone. -/
def part (s : Settings) (keys : List Key) : String :=
  let entries (k : Key) := (k.name, k.value s)
  documentText [("solver", (Key.inSolver.filter (· ∈ keys)).map entries),
    ("display", (Key.inDisplay.filter (· ∈ keys)).map entries)]

theorem toToml_eq_part (s : Settings) : s.toToml = s.part (Key.inSolver ++ Key.inDisplay) := rfl

def linesOf (s : Settings) (keys : List Key) : List Char := keys.flatMap fun k => (k.line s).toList

theorem toList_lines (s : Settings) (keys : List Key) :
    ("".intercalate (keys.map (Key.line s))).toList = linesOf s keys := by
  induction keys with
  | nil => rfl
  | cons k keys ih =>
    cases keys with
    | nil => simp [linesOf]
    | cons k' keys =>
      rw [List.map_cons, List.map_cons, String.intercalate_cons_cons, String.toList_append,
        String.toList_append, ← List.map_cons, ih]
      simp [linesOf]

theorem toList_part (s : Settings) (keys : List Key) :
    (s.part keys).toList = '[' :: ("solver".toList ++ ']' :: '\n' ::
      (linesOf s (Key.inSolver.filter (· ∈ keys)) ++ '\n' ::
        ('[' :: ("display".toList ++ ']' :: '\n' ::
          linesOf s (Key.inDisplay.filter (· ∈ keys)))))) := by
  have lines (keys : List Key) :
      ("".intercalate ((keys.map fun k => (k.name, k.value s)).map fun entry =>
        entry.1 ++ " = " ++ Library.scalarText entry.2 ++ "\n")).toList = linesOf s keys := by
    rw [← toList_lines, List.map_map]
    rfl
  rw [part, documentText, List.map_cons, List.map_cons, List.map_nil,
    String.intercalate_cons_cons, String.intercalate_singleton]
  simp only [String.toList_append, lines]
  simp

/-- Lines of keys of one table may stand together under its header. -/
theorem FileOf.lines {r : Toml.Reading} {rest : List Char} {name : String} (among : List Key)
    (tables : ∀ k ∈ among, k.table = name) (under : r.current = [name])
    (more : FileOf s keys r rest) : FileOf s (among ++ keys) r (linesOf s among ++ rest) := by
  induction among with
  | nil => exact more
  | cons k among ih =>
    obtain ⟨first, others⟩ := List.forall_mem_cons.mp tables
    rw [linesOf, List.flatMap_cons, List.append_assoc, List.cons_append]
    exact .known k (by rw [first, under]) (ih others)

theorem FileOf.header (lossless : Library.Lossless) {r : Toml.Reading} {root : Entries}
    {name : String} {rest : List Char} (bare : IsBare name)
    (opened : r.root.openTable [] name = some root) (unset : Unset root)
    (more : FileOf s keys ⟨root, [name]⟩ rest) :
    FileOf s keys r ('[' :: (name.toList ++ ']' :: '\n' :: rest)) := by
  have line : r.line? ('[' :: (name.toList ++ ']' :: '\n' :: rest)) = some (⟨root, [name]⟩, rest) :=
    Toml.Reading.line?_eq_some.mpr
      ⟨.table [] name, lossless.header bare rest, by rw [Line.apply, opened]; rfl⟩
  have text : '[' :: (name.toList ++ ']' :: '\n' :: rest) =
      ('[' :: (name.toList ++ [']', '\n'])) ++ rest := by simp
  rw [text] at line ⊢
  exact .other line (List.cons_ne_nil _ _) unset more

theorem FileOf.blank (lossless : Library.Lossless) {r : Toml.Reading} {rest : List Char}
    (unset : Unset r.root) (more : FileOf s keys r rest) : FileOf s keys r ('\n' :: rest) :=
  have line : r.line? (['\n'] ++ rest) = some (r, rest) :=
    Toml.Reading.line?_eq_some.mpr ⟨.blank, lossless.blank rest, rfl⟩
  .other line (List.cons_ne_nil _ _) unset more

/-- A document of settings with some of their keys holds the lines of these keys. -/
theorem fileOf_part (lossless : Library.Lossless) (s : Settings) (keys : List Key) :
    FileOf s (Key.inSolver.filter (· ∈ keys) ++ Key.inDisplay.filter (· ∈ keys)) start
      (s.part keys).toList := by
  have display : FileOf s (Key.inDisplay.filter (· ∈ keys)) ⟨headers, ["display"]⟩
      (linesOf s (Key.inDisplay.filter (· ∈ keys))) := by
    have lines := FileOf.lines (Key.inDisplay.filter (· ∈ keys))
      (fun k mem => Key.table_inDisplay k (List.mem_of_mem_filter mem)) rfl
      (.done (s := s) ⟨headers, ["display"]⟩)
    rwa [List.append_nil, List.append_nil] at lines
  have solver := FileOf.lines (Key.inSolver.filter (· ∈ keys))
    (fun k mem => Key.table_inSolver k (List.mem_of_mem_filter mem)) rfl
    (FileOf.blank lossless (r := ⟨[("solver", .table .header [])], ["solver"]⟩) unset_headers.2
      (.header lossless isBare_tables.2 rfl unset_headers.1 display))
  rw [toList_part]
  exact .header lossless isBare_tables.1 rfl unset_headers.2 solver

end Written

/-- Settings read back, whole or in part, by any library that loses nothing of the scalars that it
writes. A file with the lines of some keys of `s`, each under the header of its table, and with any
other lines between them that set none of the six keys, loads as the settings that agree with `s` on
these keys and with the defaults on the others. For every choice of keys there is such a file; the
document of `s` is the one with all keys, and loads as `s`. -/
theorem load_part [Library] (lossless : Library.Lossless) (fit : s.CountsFit)
    (defined : s.Defined) :
    (∀ (w : CommandLine.World) (path text : String) (keys : List Key), keys.Nodup →
      FileOf s keys start text.toList → w.files.read path = .ok text.toUTF8.toList →
      w.loadSettings path = .ok (s.only keys)) ∧
    (∀ keys, FileOf s (Key.inSolver.filter (· ∈ keys) ++ Key.inDisplay.filter (· ∈ keys)) start
      (s.part keys).toList) ∧
    s.part (Key.inSolver ++ Key.inDisplay) = s.toToml ∧ s.toToml? = some s.toToml ∧
    ∀ (w : CommandLine.World) (path : String), w.files.read path = .ok s.toToml.toUTF8.toList →
      w.loadSettings path = .ok s := by
  have loads (w : CommandLine.World) (path text : String) (keys : List Key) (distinct : keys.Nodup)
      (file : FileOf s keys start text.toList)
      (found : w.files.read path = .ok text.toUTF8.toList) :
      w.loadSettings path = .ok (s.only keys) := by
    rw [CommandLine.World.loadSettings, CommandLine.Files.readText_of_read found]
    dsimp only
    rw [ofToml?_of_fileOf lossless file fit defined distinct]
  refine ⟨loads, fileOf_part lossless s, (toToml_eq_part s).symm, toToml?_eq fit,
    fun w path found => ?_⟩
  rw [toToml_eq_part] at found
  exact (loads w path _ _ (by decide) (fileOf_part lossless s _) found).trans
    (congrArg _ (only_all s))

/-- A file with two of the keys, between lines that the settings know nothing of. -/
theorem load_part_extended :
    let d : SolverOptions Float := default
    let s : Settings := { solver := { d with precision := 3, tolerance := Scalar.infinity } }
    let keys : List Key := [.precision, .tolerance]
    let text := "theme = 1\n[solver]\nseed.first = 2 # more\nprecision = 3\n" ++
      "\ntolerance = inf\n[[other]]\n"
    let w : CommandLine.World :=
      { files := .ofTexts [("eqstep.toml", text), ("whole.toml", s.toToml)] }
    s.CountsFit ∧ s.Defined ∧ keys.Nodup ∧ FileOf s keys start text.toList ∧
      w.loadSettings "eqstep.toml" = .ok (s.only keys) ∧ w.loadSettings "whole.toml" = .ok s := by
  intro d s keys text w
  have fit : s.CountsFit := ⟨by decide, by decide⟩
  have defined : s.Defined := ⟨by decide +kernel, by decide +kernel⟩
  let theme : String × Value := ("theme", .integer 1)
  let seed : Entries := [("seed", .table .dotted [("first", .integer 2)])]
  let solver : Toml.Reading := ⟨[theme, ("solver", .table .header seed)], ["solver"]⟩
  let other : Toml.Reading := ⟨solver.root ++ [("other", .tables [[]])], ["other"]⟩
  have unset : Unset [theme] ∧ Unset [theme, ("solver", .table .header [])] ∧ Unset solver.root ∧
      Unset other.root := by
    refine ⟨?_, ?_, ?_, ?_⟩ <;> intro k <;> cases k <;>
      first | exact .inl rfl | exact .inr ⟨_, _, rfl, rfl⟩
  have last : FileOf s [] solver ("[[other]]\n".toList ++ []) := by
    have line : solver.line? ("[[other]]\n".toList ++ []) = some (other, []) := by cbv
    exact .other line (by decide) unset.2.2.2 (.done other)
  have known : FileOf s keys solver ("precision = 3\n".toList ++ '\n' ::
      ("tolerance = inf\n".toList ++ ("[[other]]\n".toList ++ []))) := by
    have precision : Key.line s .precision = "precision = 3\n" := by decide +kernel
    have tolerance : Key.line s .tolerance = "tolerance = inf\n" := by decide +kernel
    rw [← precision, ← tolerance]
    exact .known .precision rfl (.blank format_lossless unset.2.2.1 (.known .tolerance rfl last))
  generalize behind : "precision = 3\n".toList ++ '\n' ::
    ("tolerance = inf\n".toList ++ ("[[other]]\n".toList ++ [])) = tail at known
  have seeded : FileOf s keys ⟨[theme, ("solver", .table .header [])], ["solver"]⟩
      ("seed.first = 2 # more\n".toList ++ tail) := by
    have line : Toml.Reading.line? ⟨[theme, ("solver", .table .header [])], ["solver"]⟩
        ("seed.first = 2 # more\n".toList ++ tail) = some (solver, tail) := by cbv
    exact .other line (by decide) unset.2.2.1 known
  have opened : FileOf s keys ⟨[theme], []⟩
      ("[solver]\n".toList ++ ("seed.first = 2 # more\n".toList ++ tail)) :=
    .header format_lossless isBare_tables.1 rfl unset.2.1 seeded
  have file : FileOf s keys start text.toList := by
    have whole : text.toList = "theme = 1\n".toList ++
        ("[solver]\n".toList ++ ("seed.first = 2 # more\n".toList ++ tail)) := by
      rw [← behind]
      decide +kernel
    rw [whole]
    generalize "[solver]\n".toList ++ ("seed.first = 2 # more\n".toList ++ tail) = rest at opened
    have line : start.line? ("theme = 1\n".toList ++ rest) = some (⟨[theme], []⟩, rest) := by cbv
    exact .other line (by decide) unset.1 opened
  obtain ⟨loads, -, -, -, whole⟩ := load_part format_lossless fit defined
  exact ⟨fit, defined, by decide, file, loads w _ text keys (by decide) file (by decide +kernel),
    whole w _ (by decide +kernel)⟩

end Settings

end WorkedAlgebra
