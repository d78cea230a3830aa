import WorkedAlgebra.Terms

/-!
What solving an equation can result in.
-/

namespace WorkedAlgebra

structure FreeTerm (α : Type) where
  letter : Char
  coefficient : α
deriving DecidableEq, Repr

structure Estimate (α : Type) where
  value : α
  /-- The magnitude of the difference of the sides at `value`. -/
  residual : α
  iterations : Nat
  converged : Bool
deriving DecidableEq, Repr

/-- `coefficient · unknown + Σ free + constant = 0`; nothing is eliminated. -/
structure Reduction (α : Type) where
  unknown : Char
  coefficient : α
  constant : α
  free : List (FreeTerm α)
deriving DecidableEq, Repr

inductive Resolution (α : Type) where
  | unique (value : α)
  | allReals
  | noSolution
  | reduced (reduction : Reduction α)
  | approximate (estimate : Estimate α)
deriving DecidableEq, Repr

/-- The terms on the other side when the unknown stays alone on the left. -/
def Reduction.movedTerms {α : Type} [Scalar α] (r : Reduction α) : List (Term α) :=
  ⟨-r.constant, none⟩ :: r.free.map fun t => ⟨-t.coefficient, some t.letter⟩

/-- What the unknown equals, unless it cancels out. -/
def Reduction.isolated? {α : Type} [Scalar α] (r : Reduction α) : Option (List (Term α)) :=
  if Scalar.isZero r.coefficient then none
  else some (r.movedTerms.map fun t => { t with coefficient := t.coefficient / r.coefficient })

namespace Resolution

variable {α : Type}

def value? : Resolution α → Option α
  | .unique value => some value
  | .approximate estimate => some estimate.value
  | _ => none

/-- Classifies `coefficient · x + left = right`. -/
def classify [Scalar α] (coefficient left right : α) : Resolution α :=
  if Scalar.isZero coefficient then
    if Scalar.eq left right then .allReals else .noSolution
  else .unique ((right - left) / coefficient)

def isolatedText? [Printable α] (places : Nat) : Resolution α → Option String
  | .reduced reduction => reduction.isolated?.map (Term.sumText places)
  | _ => none

end Resolution
end WorkedAlgebra
