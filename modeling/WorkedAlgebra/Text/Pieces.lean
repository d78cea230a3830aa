/-!
Cutting a sequence at a separator.
-/

namespace WorkedAlgebra

/-- The parts of a sequence between its separators; there is one part more than separators. -/
def pieces {α : Type} [BEq α] (separator : α) : List α → List (List α)
  | [] => [[]]
  | c :: cs =>
    if c == separator then [] :: pieces separator cs
    else
      match pieces separator cs with
      | [] => [[c]]
      | piece :: rest => (c :: piece) :: rest

/-- The parts of a sequence that its separators terminate. Only the last part may lack its
separator, and then it is not empty. -/
def terminated {α : Type} [BEq α] (separator : α) (cs : List α) : List (List α) :=
  let parts := pieces separator cs
  match parts.getLast? with
  | some [] => parts.dropLast
  | _ => parts

end WorkedAlgebra
