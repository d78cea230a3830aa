import WorkedAlgebra.Proofs.Document.Integers
import WorkedAlgebra.Toml.Lines

/-!
The library that the program uses: lines as the format defines them, and numbers in the layout of
settings.
-/

namespace WorkedAlgebra.Toml

theorem integer?_fits {word : List Char} {n : Int} (read : integer? word = some n) :
    fitsInteger n = true := by
  have checked {number : Option Int}
      (kept : (number.bind fun n => if fitsInteger n then some n else none) = some n) :
      fitsInteger n = true := by
    obtain ⟨m, -, same⟩ := Option.bind_eq_some_iff.mp kept
    split at same
    · cases same
      assumption
    · cases same
  unfold integer? at read
  split at read <;> exact checked read

theorem wordValue?_inRange {word : List Char} {value : Value}
    (read : wordValue? word = some value) : value.InRange := by
  unfold wordValue? at read
  split at read
  · cases read
    exact .boolean _
  · split at read
    · cases read
      exact .boolean _
    · split at read
      · cases read
        exact .date
      · split at read
        · rename_i whole
          cases read
          exact .integer (integer?_fits whole)
        · obtain ⟨x, -, rfl⟩ := Option.map_eq_some_iff.mp read
          exact .float x

/-- What is read in front of a text with some fuel has its integers in range, of every kind. -/
structure ReadsInRange (fuel : Nat) : Prop where
  value : ∀ {room cs v rest}, value? fuel room cs = some (v, rest) → v.InRange
  items : ∀ {room cs items rest}, items? fuel room cs = some (items, rest) → ∀ v ∈ items, v.InRange
  fields : ∀ {room entries cs out rest}, entries.InRange →
    fields? fuel room entries cs = some (out, rest) → out.InRange
  field : ∀ {room cs path v rest}, field fuel room cs = some (path, v, rest) → v.InRange

theorem readsInRange (fuel : Nat) : ReadsInRange fuel := by
  induction fuel with
  | zero => constructor <;> simp [value?, items?, fields?, field]
  | succ fuel ih =>
    constructor
    case value =>
      intro room cs v rest read
      unfold value? at read
      split at read
      · split at read
        · cases read
        · obtain ⟨⟨items, left⟩, inner, same⟩ := Option.bind_eq_some_iff.mp read
          cases same
          exact .array (ih.items inner)
      · split at read
        · cases read
        · split at read
          · cases read
            exact .table _ Entries.InRange.nil
          · obtain ⟨⟨entries, left⟩, inner, same⟩ := Option.bind_eq_some_iff.mp read
            cases same
            exact .table _ (ih.fields Entries.InRange.nil inner)
      · obtain ⟨⟨text, left⟩, -, same⟩ := Option.map_eq_some_iff.mp read
        cases same
        exact .string _
      · obtain ⟨⟨text, left⟩, -, same⟩ := Option.map_eq_some_iff.mp read
        cases same
        exact .string _
      · obtain ⟨w, value, same⟩ := Option.map_eq_some_iff.mp read
        cases same
        exact wordValue?_inRange value
    case items =>
      intro room cs items rest read
      unfold items? at read
      split at read
      · cases read
        exact fun v mem => absurd mem List.not_mem_nil
      · obtain ⟨⟨item, next⟩, first, others⟩ := Option.bind_eq_some_iff.mp read
        have itemInRange := ih.value first
        dsimp only at others
        split at others
        · obtain ⟨⟨items, left⟩, inner, same⟩ := Option.bind_eq_some_iff.mp others
          cases same
          exact List.forall_mem_cons.mpr ⟨itemInRange, ih.items inner⟩
        · cases others
          exact List.forall_mem_singleton.mpr itemInRange
        · cases others
    case fields =>
      intro room entries cs out rest inRange read
      unfold fields? at read
      obtain ⟨⟨⟨path, key⟩, v, next⟩, first, others⟩ := Option.bind_eq_some_iff.mp read
      obtain ⟨added, adds, others⟩ := Option.bind_eq_some_iff.mp others
      have addedInRange := inRange.addDotted (ih.field first) adds
      split at others
      · exact ih.fields addedInRange others
      · cases others
        exact addedInRange
      · cases others
    case field =>
      intro room cs path v rest read
      unfold field at read
      obtain ⟨⟨path', next⟩, -, others⟩ := Option.bind_eq_some_iff.mp read
      dsimp only at others
      split at others
      · obtain ⟨⟨w, left⟩, value, same⟩ := Option.bind_eq_some_iff.mp others
        cases same
        exact ih.value value
      · cases others

theorem Line.plain?_inRange {text rest : List Char} {line : Line}
    (read : plain? text = some (line, rest)) : line.InRange := by
  unfold plain? at read
  split at read
  · cases read
    trivial
  · obtain ⟨⟨⟨path, key⟩, v, next⟩, first, others⟩ := Option.bind_eq_some_iff.mp read
    obtain ⟨behind, -, same⟩ := Option.bind_eq_some_iff.mp others
    cases same
    exact (readsInRange _).field first

theorem Line.read?_inRange {cs rest : List Char} {line : Line}
    (read : read? cs = some (line, rest)) : line.InRange := by
  unfold read? unindented? at read
  split at read
  · obtain ⟨header, -, same⟩ := Option.map_eq_some_iff.mp read
    cases same
    trivial
  · obtain ⟨header, -, same⟩ := Option.map_eq_some_iff.mp read
    cases same
    trivial
  · exact plain?_inRange read

def Value.scalarText : Value → String
  | .integer value => toString value
  | .float value => Layout.settings.write value
  | .boolean value => if value then "true" else "false"
  | _ => ""

instance format : Library where
  scalarText := Value.scalarText
  line? := Line.read?
  line?_inRange := Line.read?_inRange

end WorkedAlgebra.Toml
