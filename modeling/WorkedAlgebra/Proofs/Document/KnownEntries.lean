import Mathlib.Tactic.ByContra
import WorkedAlgebra.Toml.Document

/-!
Tables with further entries. A line changes tables only at the first keys of its paths, so it does
the same to tables that hold known entries besides, as long as its own keys are others. Known
entries can therefore be left out when a document is read, and put back afterwards.
-/

namespace WorkedAlgebra.Toml

namespace Entries

theorem get?_cons (name key : String) (value : Value) (entries : Entries) :
    get? ((name, value) :: entries) key = if name == key then some value else entries.get? key := by
  rw [get?, List.find?_cons]
  cases name == key <;> rfl

@[simp] theorem get?_put (entries : Entries) (key other : String) (value : Value) :
    (entries.put key value).get? other =
      if other = key then some value else entries.get? other := by
  induction entries with
  | nil =>
    rw [put, get?_cons]
    grind [get?]
  | cons entry entries ih =>
    obtain ⟨name, old⟩ := entry
    rw [put]
    split
    · rename_i same
      rw [beq_iff_eq.mp same, get?_cons, get?_cons]
      grind
    · rename_i apart
      rw [get?_cons, get?_cons, ih]
      grind

section Steady

variable {known : String → Option Value} {e a out : Entries} {key : String}

/-- The entries of `a` are the known ones and, for other keys, those of `e`. -/
def Extends (known : String → Option Value) (e a : Entries) : Prop :=
  ∀ key, a.get? key = (known key).or (e.get? key)

def Lacks (known : String → Option Value) (e : Entries) : Prop :=
  ∀ key, known key ≠ none → e.get? key = none

/-- A change that known entries do not take part in. -/
def Steady (op : Entries → Option Entries) : Prop :=
  ∀ ⦃known e a out⦄, Extends known e a → Lacks known out → op e = some out →
    ∃ out', op a = some out' ∧ Extends known out out'

/-- A change of the entry of one key, which sees no other entry. -/
def ActsAt (key : String) (g : Option Value → Option Value)
    (op : Entries → Option Entries) : Prop :=
  ∀ e, op e = (g (e.get? key)).map (e.put key)

theorem ActsAt.steady {g : Option Value → Option Value} {op : Entries → Option Entries}
    (acts : ActsAt key g op) : Steady op := by
  intro known e a out further lacks done
  rw [acts e] at done
  obtain ⟨value, there, rfl⟩ := Option.map_eq_some_iff.mp done
  have unknown : known key = none := by
    by_contra isKnown
    have absent := lacks key isKnown
    simp at absent
  have same : a.get? key = e.get? key := by
    rw [further key, unknown, Option.none_or]
  refine ⟨a.put key value, by rw [acts a, same, there]; rfl, fun other => ?_⟩
  rw [get?_put, get?_put]
  split
  · rename_i here
    rw [here, unknown, Option.none_or]
  · exact further other

theorem steady_none : Steady fun _ => none := by
  intro known e a out further lacks done
  cases done

theorem steady_some : Steady some := by
  intro known e a out further lacks done
  cases done
  exact ⟨a, rfl, further⟩

/-- What a descent does to the value of the first key of its path. -/
def beneath (dotted : Bool) (change : Origin → Entries → Option Entries) (path : List String) :
    Option Value → Option Value
  | none =>
    let created := if dotted then Origin.dotted else .implied
    (descend dotted change path created []).map (.table created)
  | some (.table .inline _) => none
  | some (.table origin inner) =>
    if dotted && origin == .header then none
    else (descend dotted change path origin inner).map (.table origin)
  | some (.tables (latest :: earlier)) =>
    (descend dotted change path .header latest).map fun inner => .tables (inner :: earlier)
  | some _ => none

variable {dotted : Bool} {change : Origin → Entries → Option Entries} {path : List String}
  {origin : Origin}

theorem actsAt_descend : ActsAt key (beneath dotted change path)
    (descend dotted change (key :: path) origin) := by
  intro e
  rw [descend]
  cases found : e.get? key with
  | none =>
    dsimp only [beneath]
    cases descend dotted change path (if dotted then .dotted else .implied) [] <;> rfl
  | some value =>
    cases value with
    | table kind inner =>
      cases kind with
      | «inline» => rfl
      | header | implied | dotted =>
        simp only [beneath]
        split
        · rfl
        · cases descend dotted change path _ inner <;> rfl
    | tables items =>
      cases items with
      | nil => rfl
      | cons latest earlier =>
        simp only [beneath]
        cases descend dotted change path .header latest <;> rfl
    | string _ | integer _ | float _ | boolean _ | date | array _ => rfl

/-- A descent is steady when the changes at its end are. -/
theorem steady_descend (each : ∀ origin, Steady (change origin)) :
    Steady (descend dotted change path origin) := by
  cases path with
  | nil => exact each origin
  | cons key path => exact actsAt_descend.steady

/-- What a value is added over: nothing, where adding is allowed at all. -/
def added (closed : Bool) (value : Value) (old : Option Value) : Option Value :=
  if closed || old.isSome then none else some value

theorem actsAt_add (closed : Bool) (value : Value) : ActsAt key (added closed value) fun inner =>
    if closed || (inner.get? key).isSome then none else some (inner.put key value) := by
  intro e
  dsimp only [added]
  cases closed || (e.get? key).isSome <;> rfl

theorem steady_addDotted (path : List String) (key : String) (value : Value) :
    Steady (addDotted path key value) := by
  unfold addDotted
  exact steady_descend fun _ => (actsAt_add _ value).steady

end Steady

section Root

variable {known : String → String → Option Value} {e a out : Entries} {name : String}

/-- Two values of one key of the root table, of which the second one is a table with the known
entries besides. -/
inductive Beside (known : String → Option Value) : Option Value → Option Value → Prop
  | same {value : Option Value} (unknown : ∀ key, known key = none) : Beside known value value
  | table (origin : Origin) {inner inner' : Entries} (further : Extends known inner inner') :
      Beside known (some (.table origin inner)) (some (.table origin inner'))

def ExtendsRoot (known : String → String → Option Value) (e a : Entries) : Prop :=
  ∀ name, Beside (known name) (e.get? name) (a.get? name)

def LacksRoot (known : String → String → Option Value) (e : Entries) : Prop :=
  ∀ ⦃name origin inner⦄, e.get? name = some (.table origin inner) → Lacks (known name) inner

def SteadyRoot (op : Entries → Option Entries) : Prop :=
  ∀ ⦃known e a out⦄, ExtendsRoot known e a → LacksRoot known out → op e = some out →
    ∃ out', op a = some out' ∧ ExtendsRoot known out out'

def Tablewise (g : Option Value → Option Value) : Prop :=
  ∀ origin, ∃ origin' op, Steady op ∧
    ∀ inner, g (some (.table origin inner)) = (op inner).map (.table origin')

theorem ActsAt.steadyRoot {g : Option Value → Option Value} {op : Entries → Option Entries}
    (acts : ActsAt name g op) (tablewise : Tablewise g) : SteadyRoot op := by
  intro known e a out further lacks done
  rw [acts e] at done
  obtain ⟨value, there, rfl⟩ := Option.map_eq_some_iff.mp done
  obtain ⟨value', there', beside⟩ : ∃ value', g (a.get? name) = some value' ∧
      Beside (known name) (some value) (some value') := by
    have beside := further name
    generalize e.get? name = old, a.get? name = old' at there beside
    cases beside with
    | same unknown => exact ⟨value, there, .same unknown⟩
    | table origin inside =>
      obtain ⟨origin', change, steady, changes⟩ := tablewise origin
      rw [changes] at there ⊢
      obtain ⟨inner, changed, rfl⟩ := Option.map_eq_some_iff.mp there
      have behind := get?_put e name name (.table origin' inner)
      rw [if_pos rfl] at behind
      obtain ⟨inner', changed', inside'⟩ := steady inside (lacks behind) changed
      exact ⟨_, by rw [changed']; rfl, .table origin' inside'⟩
  refine ⟨a.put name value', by rw [acts a, there']; rfl, fun other => ?_⟩
  rw [get?_put, get?_put]
  split
  · rename_i here
    rw [here]
    exact beside
  · exact further other

variable {dotted : Bool} {change : Origin → Entries → Option Entries}

theorem tablewise_beneath (each : ∀ origin, Steady (change origin)) (path : List String) :
    Tablewise (beneath dotted change path) := by
  intro origin
  cases origin with
  | «inline» => exact ⟨.inline, _, steady_none, fun _ => rfl⟩
  | header =>
    cases dotted with
    | true => exact ⟨.header, _, steady_none, fun _ => rfl⟩
    | false => exact ⟨.header, _, steady_descend each, fun _ => rfl⟩
  | implied => exact ⟨.implied, _, steady_descend each, fun _ => if_neg (by simp)⟩
  | dotted => exact ⟨.dotted, _, steady_descend each, fun _ => if_neg (by simp)⟩

/-- A descent from the root table is steady when the changes at its end are, and that of the root
table itself. -/
theorem steadyRoot_descend (each : ∀ origin, Steady (change origin))
    (top : SteadyRoot (change .header)) (path : List String) :
    SteadyRoot (descend dotted change path .header) := by
  cases path with
  | nil => exact top
  | cons key path => exact actsAt_descend.steadyRoot (tablewise_beneath each path)

theorem tablewise_added (closed : Bool) (value : Value) : Tablewise (added closed value) :=
  fun origin => ⟨origin, _, steady_none, fun _ => by simp [added]⟩

theorem steadyRoot_addDotted (path : List String) (key : String) (value : Value) :
    SteadyRoot (addDotted path key value) := by
  unfold addDotted
  exact steadyRoot_descend (fun _ => (actsAt_add _ value).steady)
    ((actsAt_add _ value).steadyRoot (tablewise_added _ value)) path

def opened : Option Value → Option Value
  | none => some (.table .header [])
  | some (.table .implied own) => some (.table .header own)
  | some _ => none

theorem steadyRoot_openTable (path : List String) (key : String) :
    SteadyRoot (openTable path key) := by
  have acts : ActsAt key opened fun inner =>
      match inner.get? key with
      | none => some (inner.put key (.table .header []))
      | some (.table .implied own) => some (inner.put key (.table .header own))
      | some _ => none := by
    intro e
    dsimp only
    unfold opened
    split <;> simp_all
  have tablewise : Tablewise opened := by
    intro origin
    cases origin with
    | implied => exact ⟨.header, _, steady_some, fun _ => rfl⟩
    | «inline» | header | dotted => exact ⟨.header, _, steady_none, fun _ => rfl⟩
  exact steadyRoot_descend (fun _ => acts.steady) (acts.steadyRoot tablewise) path

def openedItem : Option Value → Option Value
  | none => some (.tables [[]])
  | some (.tables items) => some (.tables ([] :: items))
  | some _ => none

theorem steadyRoot_openItem (path : List String) (key : String) :
    SteadyRoot (openItem path key) := by
  have acts : ActsAt key openedItem fun inner =>
      match inner.get? key with
      | none => some (inner.put key (.tables [[]]))
      | some (.tables items) => some (inner.put key (.tables ([] :: items)))
      | some _ => none := by
    intro e
    dsimp only
    unfold openedItem
    split <;> simp_all
  have tablewise : Tablewise openedItem := fun origin => ⟨origin, _, steady_none, fun _ => rfl⟩
  exact steadyRoot_descend (fun _ => acts.steady) (acts.steadyRoot tablewise) path

end Root

end Entries

open Entries

section Lines

variable {known : String → String → Option Value} {line : Line} {r a next : Reading}
  {name key : String} {value : Value}

/-- A line does the same to tables with known entries besides. -/
theorem Line.apply_further (further : ExtendsRoot known r.root a.root)
    (current : a.current = r.current) (lacks : LacksRoot known next.root)
    (applied : line.apply r = some next) :
    ∃ out, line.apply a = some out ∧ out.current = next.current ∧
      ExtendsRoot known next.root out.root := by
  cases line with
  | blank =>
    cases applied
    exact ⟨a, rfl, current, further⟩
  | entry path key value =>
    obtain ⟨root, changed, same⟩ := Option.bind_eq_some_iff.mp applied
    cases same
    obtain ⟨root', changed', further'⟩ :=
      steadyRoot_descend (fun _ => steady_addDotted path key value)
        (steadyRoot_addDotted path key value) r.current further lacks changed
    refine ⟨{ a with root := root' }, ?_, current, further'⟩
    rw [Line.apply, Reading.add, current, changed']
    rfl
  | table path key =>
    obtain ⟨root, changed, same⟩ := Option.map_eq_some_iff.mp applied
    cases same
    obtain ⟨root', changed', further'⟩ := steadyRoot_openTable path key further lacks changed
    exact ⟨⟨root', path ++ [key]⟩, by rw [Line.apply, changed']; rfl, rfl, further'⟩
  | item path key =>
    obtain ⟨root, changed, same⟩ := Option.map_eq_some_iff.mp applied
    cases same
    obtain ⟨root', changed', further'⟩ := steadyRoot_openItem path key further lacks changed
    exact ⟨⟨root', path ++ [key]⟩, by rw [Line.apply, changed']; rfl, rfl, further'⟩

def oneMore (known : String → String → Option Value) (name key : String) (value : Value) :
    String → String → Option Value :=
  fun n k => if n = name ∧ k = key then some value else known n k

theorem Entries.Beside.exists_table {known : String → Option Value} {origin : Origin}
    {inner : Entries} {v : Option Value} (beside : Beside known (some (.table origin inner)) v) :
    ∃ inner', v = some (.table origin inner') ∧ Extends known inner inner' := by
  cases beside with
  | same unknown => exact ⟨inner, rfl, fun key => by rw [unknown, Option.none_or]⟩
  | table _ further => exact ⟨_, rfl, further⟩

/-- A known entry under the header of its table adds to the known entries alone. -/
theorem add_known {inner : Entries} (further : ExtendsRoot known r.root a.root)
    (current : a.current = [name]) (there : r.root.get? name = some (.table .header inner))
    (free : inner.get? key = none) (unknown : known name key = none) (value : Value) :
    ∃ out, a.add [] key value = some out ∧ out.current = a.current ∧
      ExtendsRoot (oneMore known name key value) r.root out.root := by
  have beside := further name
  rw [there] at beside
  obtain ⟨inner', there', further'⟩ := beside.exists_table
  have free' : Entries.get? inner' key = none := by rw [further' key, unknown, free]; rfl
  let grown : Value := .table .header (Entries.put inner' key value)
  refine ⟨{ a with root := a.root.put name grown }, ?_, rfl, ?_⟩
  · simp [Reading.add, current, descend, there', addDotted, free', grown]
  · intro other
    by_cases here : other = name
    · rw [here, there, get?_put, if_pos rfl]
      refine .table .header fun k => ?_
      rw [get?_put, further' k, oneMore]
      split <;> simp_all
    · have same : oneMore known name key value other = known other := by
        funext k
        rw [oneMore, if_neg fun both => here both.1]
      rw [same, get?_put, if_neg here]
      exact further other

/-- A table of its own that lines add to has a header, or is the latest of an array. -/
def Reading.UnderHeader (r : Reading) : Prop :=
  ∀ name, r.current = [name] → (∃ inner, r.root.get? name = some (.table .header inner)) ∨
    ∃ items, r.root.get? name = some (.tables items)

theorem Line.apply_underHeader (under : r.UnderHeader) (applied : line.apply r = some next) :
    next.UnderHeader := by
  intro name current
  cases line with
  | blank =>
    cases applied
    exact under name current
  | entry path key value =>
    obtain ⟨root, changed, same⟩ := Option.bind_eq_some_iff.mp applied
    cases same
    rw [show r.current = [name] from current, actsAt_descend r.root] at changed
    obtain ⟨value, there, rfl⟩ := Option.map_eq_some_iff.mp changed
    rw [get?_put, if_pos rfl]
    rcases under name current with ⟨inner, header⟩ | ⟨items, header⟩
    · rw [header] at there
      obtain ⟨inner', -, rfl⟩ := Option.map_eq_some_iff.mp there
      exact .inl ⟨inner', rfl⟩
    · rw [header] at there
      cases items with
      | nil => cases there
      | cons latest earlier =>
        obtain ⟨inner', -, rfl⟩ := Option.map_eq_some_iff.mp there
        exact .inr ⟨_, rfl⟩
  | table path key =>
    obtain ⟨root, changed, same⟩ := Option.map_eq_some_iff.mp applied
    cases same
    obtain ⟨rfl, last⟩ := List.append_eq_singleton_iff.mp current |>.resolve_right (by simp)
    cases last
    refine .inl ?_
    simp only [openTable, descend] at changed
    split at changed
    · cases changed
      exact ⟨[], by rw [get?_put, if_pos rfl]⟩
    · cases changed
      exact ⟨_, by rw [get?_put, if_pos rfl]⟩
    · cases changed
  | item path key =>
    obtain ⟨root, changed, same⟩ := Option.map_eq_some_iff.mp applied
    cases same
    obtain ⟨rfl, last⟩ := List.append_eq_singleton_iff.mp current |>.resolve_right (by simp)
    cases last
    refine .inr ?_
    simp only [openItem, descend] at changed
    split at changed
    · cases changed
      exact ⟨_, by rw [get?_put, if_pos rfl]⟩
    · cases changed
      exact ⟨_, by rw [get?_put, if_pos rfl]⟩
    · cases changed

end Lines

end WorkedAlgebra.Toml
