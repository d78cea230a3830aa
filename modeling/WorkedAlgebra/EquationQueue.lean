/-!
Sources of equations. A source gives one equation after the other and then none; all sources are
collected in the same way. The simplest one is a queue of texts that are already at hand.
-/

namespace WorkedAlgebra

structure InvalidLine where
deriving DecidableEq, Repr

/-- The equations that are left of a source up to its end or the first read error, by at most
`fuel` calls. -/
def collectFrom {σ : Type} (next : σ → Except InvalidLine (Option (List Char)) × σ) :
    Nat → σ → Except InvalidLine (List (List Char)) × σ
  | 0, source => (.ok [], source)
  | fuel + 1, source =>
    match next source with
    | (.error e, rest) => (.error e, rest)
    | (.ok none, rest) => (.ok [], rest)
    | (.ok (some equation), rest) =>
      let (others, last) := collectFrom next fuel rest
      (others.map (equation :: ·), last)

structure EquationQueue where
  items : List (List Char)
deriving DecidableEq, Repr

namespace EquationQueue

def next : EquationQueue → Except InvalidLine (Option (List Char)) × EquationQueue
  | ⟨[]⟩ => (.ok none, ⟨[]⟩)
  | ⟨equation :: rest⟩ => (.ok (some equation), ⟨rest⟩)

def collect (q : EquationQueue) : Except InvalidLine (List (List Char)) × EquationQueue :=
  collectFrom next (q.items.length + 1) q

theorem collectFrom_next {fuel : Nat} {items : List (List Char)} (enough : items.length < fuel) :
    collectFrom next fuel ⟨items⟩ = (.ok items, ⟨[]⟩) := by
  induction items generalizing fuel with
  | nil =>
      cases fuel with
      | zero => exact absurd enough (Nat.not_lt_zero _)
      | succ n => rfl
  | cons equation items ih =>
      cases fuel with
      | zero => exact absurd enough (Nat.not_lt_zero _)
      | succ n =>
          simp only [collectFrom, next, ih (Nat.lt_of_succ_lt_succ enough)]
          rfl

/-- A queue gives back all that was put into it, and is empty then. -/
theorem collect_eq (q : EquationQueue) : q.collect = (.ok q.items, ⟨[]⟩) :=
  collectFrom_next (Nat.lt_succ_self _)

end EquationQueue
end WorkedAlgebra
