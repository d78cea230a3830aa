import WorkedAlgebra.Scalar

/-!
What a caller can choose about solving.
-/

namespace WorkedAlgebra

structure SolverOptions (α : Type) where
  /-- Cap on the halvings of a bracket. -/
  maxIterations : Nat
  /-- A bracket half as wide as this is not halved further. -/
  tolerance : α
  /-- The search for a bracket covers the numbers of at most this magnitude. -/
  searchLimit : α
  /-- Decimal places shown in steps and answers. -/
  precision : Nat
deriving DecidableEq, Repr

instance {α : Type} [Scalar α] : Inhabited (SolverOptions α) where
  default :=
    { maxIterations := 100
      tolerance := Scalar.ofDecimal 1 9
      searchLimit := Scalar.ofNat 1000000
      precision := 10 }

end WorkedAlgebra
