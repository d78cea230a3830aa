import WorkedAlgebra.Proofs.Document.Integers
import WorkedAlgebra.Settings

/-!
The counts of settings from a document have 64 bits, as all its integers, and such settings can be
written.
-/

namespace WorkedAlgebra.Settings

open Toml

def CountsFit (s : Settings) : Prop :=
  fitsInteger s.solver.maxIterations = true ∧ fitsInteger s.solver.precision = true

/-- The document of settings, unless one of the counts is no integer of the format. -/
def toToml? [Library] (s : Settings) : Option String :=
  if fitsInteger s.solver.maxIterations && fitsInteger s.solver.precision then some s.toToml
  else none

theorem toToml?_eq [Library] {s : Settings} (fit : s.CountsFit) : s.toToml? = some s.toToml := by
  rw [toToml?, fit.1, fit.2]
  rfl

theorem fieldsOf?_inRange {names : List String} {value : Value} {fields : List (Option Value)}
    (inRange : value.InRange) (found : fieldsOf? names value = some fields) :
    ∀ v, some v ∈ fields → v.InRange := by
  intro v mem
  cases inRange with
  | table origin each =>
    cases found
    obtain ⟨name, -, entry⟩ := List.mem_map.mp mem
    exact Entries.InRange.get? each entry
  | array each =>
    cases found
    obtain ⟨i, -, item⟩ := List.mem_map.mp mem
    exact each v (List.mem_of_getElem? item)
  | tables each =>
    cases found
    obtain ⟨i, -, item⟩ := List.mem_map.mp mem
    obtain ⟨entries, among, rfl⟩ := List.mem_map.mp (List.mem_of_getElem? item)
    exact .table _ (each entries (List.mem_reverse.mp among))
  | date =>
    cases found
    obtain ⟨name, -, none⟩ := List.mem_map.mp mem
    cases none
  | _ => cases found

theorem read_count?_fits {fallback n : Nat} {field : Option Value}
    (inRange : ∀ v, field = some v → v.InRange) (small : fitsInteger fallback = true)
    (counted : read count? fallback field = some n) : fitsInteger n = true := by
  cases field with
  | none =>
    cases counted
    exact small
  | some value =>
    cases inRange value rfl with
    | @integer m fits =>
      simp only [read, count?] at counted
      split at counted
      · rename_i nonneg
        cases counted
        rwa [Int.toNat_of_nonneg nonneg]
      · cases counted
    | _ => cases counted

theorem countsFit_default : CountsFit {} := ⟨by decide, by decide⟩

/-- The counts of settings from a document are integers of the format. -/
theorem countsFit_of_ofToml? [Library] {text : String} {s : Settings}
    (loaded : ofToml? text = some s) :
    s.CountsFit := by
  obtain ⟨root, read, entries⟩ := Option.bind_eq_some_iff.mp loaded
  have inRange := document?_inRange read
  obtain ⟨solver, solverRead, others⟩ := Option.bind_eq_some_iff.mp entries
  obtain ⟨display, -, same⟩ := Option.bind_eq_some_iff.mp others
  cases same
  cases table : root.get? "solver" with
  | none =>
    rw [table] at solverRead
    cases solverRead
    exact countsFit_default
  | some value =>
    rw [table] at solverRead
    obtain ⟨fields, found, reads⟩ := Option.bind_eq_some_iff.mp solverRead
    have fieldInRange := fieldsOf?_inRange (inRange.get? table) found
    obtain ⟨maxIterations, first, reads⟩ := Option.bind_eq_some_iff.mp reads
    obtain ⟨tolerance, -, reads⟩ := Option.bind_eq_some_iff.mp reads
    obtain ⟨searchLimit, -, reads⟩ := Option.bind_eq_some_iff.mp reads
    obtain ⟨precision, last, reads⟩ := Option.bind_eq_some_iff.mp reads
    cases reads
    have present (i : Nat) : ∀ v, (fields[i]?).join = some v → v.InRange := fun v here =>
      fieldInRange v (List.mem_of_getElem? (Option.join_eq_some_iff.mp here))
    exact ⟨read_count?_fits (present 0) countsFit_default.1 first,
      read_count?_fits (present 3) countsFit_default.2 last⟩

end WorkedAlgebra.Settings
