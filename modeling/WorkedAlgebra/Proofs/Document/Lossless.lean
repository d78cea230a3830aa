import WorkedAlgebra.Toml.Document
import WorkedAlgebra.Toml.Literal

/-!
What is relied on of a library of documents: that truth values, integers and defined floating-point
numbers read back as they were written, each on the line of its key, and that the header of a table
and an empty line are read as such.
-/

namespace WorkedAlgebra.Toml

/-- The values that a document shows without loss: truth values, natural numbers of 64 bits, and
floating-point numbers that are defined. -/
inductive Value.Plain : Value → Prop
  | natural {n : Nat} (fits : fitsInteger n = true) : Plain (.integer n)
  | float {x : Float} (number : x.isNaN = false) : Plain (.float x)
  | boolean (b : Bool) : Plain (.boolean b)

structure IsBare (name : String) : Prop where
  nonempty : name.toList ≠ []
  bare : ∀ c ∈ name.toList, isBareKey c = true

section Bare

variable {name : String}

theorem IsBare.exists_cons (bare : IsBare name) :
    ∃ c cs, name.toList = c :: cs ∧ isBareKey c = true := by
  obtain ⟨c, cs, chars⟩ := List.exists_cons_of_ne_nil bare.nonempty
  exact ⟨c, cs, chars, bare.bare c (chars ▸ List.mem_cons_self)⟩

theorem ne_of_isBareKey {c d : Char} (bare : isBareKey c = true) (other : isBareKey d = false) :
    c ≠ d := by
  rintro rfl
  rw [bare] at other
  cases other

end Bare

/-- A library that loses nothing of the scalars that it writes. -/
structure Library.Lossless [Library] : Prop where
  entry : ∀ {name : String} {v : Value}, IsBare name → v.Plain → ∀ rest,
    line? ((name ++ " = " ++ scalarText v ++ "\n").toList ++ rest) =
      some (.entry [] name v, rest)
  header : ∀ {name : String}, IsBare name → ∀ rest,
    line? ('[' :: (name.toList ++ ']' :: '\n' :: rest)) = some (.table [] name, rest)
  blank : ∀ rest, line? ('\n' :: rest) = some (.blank, rest)
  /-- No line starts with a byte order mark. -/
  mark : ∀ rest, line? ('\uFEFF' :: rest) = none

end WorkedAlgebra.Toml
