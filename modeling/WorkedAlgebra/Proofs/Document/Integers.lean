import WorkedAlgebra.Toml.Document

/-!
The integers of a document. Whatever tables and arrays a document builds up, each integer in them
has 64 bits, as those of its lines have.
-/

namespace WorkedAlgebra.Toml

namespace Entries

def InRange (entries : Entries) : Prop := ∀ e ∈ entries, e.2.InRange

variable {entries out : Entries} {key : String} {value : Value}

theorem InRange.nil : InRange [] := fun _ mem => absurd mem List.not_mem_nil

theorem InRange.get? (inRange : entries.InRange) (found : entries.get? key = some value) :
    value.InRange := by
  obtain ⟨entry, mem, rfl⟩ := Option.map_eq_some_iff.mp found
  exact inRange entry (List.mem_of_find?_eq_some mem)

theorem InRange.put (inRange : entries.InRange) (new : value.InRange) :
    (entries.put key value).InRange := by
  induction entries with
  | nil => exact List.forall_mem_singleton.mpr new
  | cons entry entries ih =>
    obtain ⟨first, others⟩ := List.forall_mem_cons.mp inRange
    rw [Entries.put]
    split
    · exact List.forall_mem_cons.mpr ⟨new, others⟩
    · exact List.forall_mem_cons.mpr ⟨first, ih others⟩

/-- What a change of one table keeps, it keeps at the end of a path as well. -/
theorem InRange.descend {dotted : Bool} {change : Origin → Entries → Option Entries}
    (keeps : ∀ {origin inner out}, InRange inner → change origin inner = some out → InRange out)
    {path : List String} {origin : Origin} (inRange : entries.InRange)
    (changed : descend dotted change path origin entries = some out) : out.InRange := by
  induction path generalizing origin entries out with
  | nil => exact keeps inRange changed
  | cons name path ih =>
    rw [Entries.descend] at changed
    split at changed
    · obtain ⟨inner, below, rest⟩ := Option.bind_eq_some_iff.mp changed
      cases rest
      exact inRange.put (.table _ (ih .nil below))
    · cases changed
    · rename_i found
      split at changed
      · cases changed
      · obtain ⟨inner, below, rest⟩ := Option.bind_eq_some_iff.mp changed
        cases rest
        cases inRange.get? found with
        | table _ each => exact inRange.put (.table _ (ih each below))
    · rename_i found
      obtain ⟨inner, below, rest⟩ := Option.bind_eq_some_iff.mp changed
      cases rest
      cases inRange.get? found with
      | tables each =>
        obtain ⟨first, others⟩ := List.forall_mem_cons.mp each
        exact inRange.put (.tables (List.forall_mem_cons.mpr ⟨ih first below, others⟩))
    · cases changed

theorem InRange.addDotted {path : List String} (inRange : entries.InRange) (new : value.InRange)
    (added : entries.addDotted path key value = some out) : out.InRange := by
  refine inRange.descend ?_ added
  intro origin inner out within changed
  split at changed
  · cases changed
  · cases changed
    exact within.put new

theorem InRange.openTable {path : List String} (inRange : entries.InRange)
    (opened : entries.openTable path key = some out) : out.InRange := by
  refine inRange.descend ?_ opened
  intro origin inner out within changed
  split at changed
  · cases changed
    exact within.put (.table _ InRange.nil)
  · rename_i found
    cases changed
    cases within.get? found with
    | table _ each => exact within.put (.table _ each)
  · cases changed

theorem InRange.openItem {path : List String} (inRange : entries.InRange)
    (opened : entries.openItem path key = some out) : out.InRange := by
  refine inRange.descend ?_ opened
  intro origin inner out within changed
  split at changed
  · cases changed
    exact within.put (.tables (List.forall_mem_singleton.mpr InRange.nil))
  · rename_i found
    cases changed
    cases within.get? found with
    | tables each => exact within.put (.tables (List.forall_mem_cons.mpr ⟨InRange.nil, each⟩))
  · cases changed

end Entries

theorem Line.apply_inRange {line : Line} {r out : Reading} (new : line.InRange)
    (inRange : r.root.InRange) (applied : line.apply r = some out) : out.root.InRange := by
  cases line with
  | blank =>
    cases applied
    exact inRange
  | entry path key value =>
    obtain ⟨root, changed, same⟩ := Option.bind_eq_some_iff.mp applied
    cases same
    exact inRange.descend (fun within => within.addDotted new) changed
  | table path key =>
    obtain ⟨root, opened, rfl⟩ := Option.map_eq_some_iff.mp applied
    exact inRange.openTable opened
  | item path key =>
    obtain ⟨root, opened, rfl⟩ := Option.map_eq_some_iff.mp applied
    exact inRange.openItem opened

section Documents

variable [Library]

namespace Reading

theorem line?_eq_some {r next : Reading} {cs rest : List Char} :
    r.line? cs = some (next, rest) ↔
      ∃ line, Library.line? cs = some (line, rest) ∧ line.apply r = some next := by
  rw [line?, Option.bind_eq_some_iff]
  constructor
  · rintro ⟨⟨line, left⟩, read, applied⟩
    obtain ⟨_, changed, same⟩ := Option.map_eq_some_iff.mp applied
    cases same
    exact ⟨line, read, changed⟩
  · rintro ⟨line, read, applied⟩
    exact ⟨(line, rest), read, Option.map_eq_some_iff.mpr ⟨next, applied, rfl⟩⟩

theorem run_inRange {fuel : Nat} {r out : Reading} {cs : List Char} (inRange : r.root.InRange)
    (read : run fuel r cs = some out) : out.root.InRange := by
  induction fuel generalizing r cs with
  | zero =>
    cases cs with
    | nil =>
      cases read
      exact inRange
    | cons c cs => cases read
  | succ fuel ih =>
    cases cs with
    | nil =>
      cases read
      exact inRange
    | cons c cs =>
      obtain ⟨⟨next, rest⟩, line, others⟩ := Option.bind_eq_some_iff.mp read
      obtain ⟨said, read, applied⟩ := line?_eq_some.mp line
      exact ih (said.apply_inRange (Library.line?_inRange read) inRange applied) others

end Reading

theorem document?_inRange {text : List Char} {root : Entries}
    (read : document? text = some root) : root.InRange := by
  obtain ⟨r, ran, rfl⟩ := Option.map_eq_some_iff.mp read
  exact Reading.run_inRange Entries.InRange.nil ran

end Documents

end WorkedAlgebra.Toml
