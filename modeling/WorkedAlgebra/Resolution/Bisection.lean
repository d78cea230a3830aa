import WorkedAlgebra.Resolution.Options

/-!
A bounded root search. The function is sampled at zero and at the powers of two from one half up
to the search limit, on both sides of zero; between two neighbouring samples of opposite signs,
those nearest zero, the interval is halved. The best sample of all is always kept.
-/

namespace WorkedAlgebra

structure Sample (α : Type) where
  point : α
  value : α
deriving DecidableEq, Repr

structure SearchOutcome (α : Type) where
  value : α
  residual : α
  iterations : Nat
  bracket : Option (α × α)
deriving DecidableEq, Repr

namespace Bisection

variable {α : Type} [Scalar α]

open Scalar

/-- The points `r, 2r, 4r, …` that do not exceed the limit, ascending, at most `count` of them. -/
def doublings (limit r : α) : Nat → List α
  | 0 => []
  | count + 1 => if le r limit then r :: doublings limit (r * two) count else []

def grid (limit : α) : List α :=
  let positive : List α := doublings limit (ofDecimal 5 1) 128
  (positive.map (- ·)).reverse ++ zero :: positive

def finiteSamples (f : α → α) (points : List α) : List (Sample α) :=
  (points.map fun x => ⟨x, f x⟩).filter fun s => isFinite s.value

/-- The sample whose value has the smaller magnitude; the first when they are equal. -/
def closer (a b : Sample α) : Sample α := if lt (abs b.value) (abs a.value) then b else a

/-- The first sample of smallest magnitude. -/
def closest : List (Sample α) → Option (Sample α)
  | [] => none
  | s :: rest => some (rest.foldl closer s)

def opposite (a b : α) : Bool :=
  !isZero a && !isZero b && isNegative a != isNegative b

def signChanges : List (Sample α) → List (Sample α × Sample α)
  | a :: b :: rest =>
    if opposite a.value b.value then (a, b) :: signChanges (b :: rest)
    else signChanges (b :: rest)
  | _ => []

def distance (pair : Sample α × Sample α) : α := abs pair.1.point + abs pair.2.point

/-- Whether a pair comes before another: it is nearer to zero, or as near and above zero while the
other starts below. -/
def isNearer (a b : Sample α × Sample α) : Bool :=
  lt (distance a) (distance b) ||
    (!lt (distance b) (distance a) && !isNegative a.1.point && isNegative b.1.point)

/-- The first of the pairs nearest to zero. -/
def nearest : List (Sample α × Sample α) → Option (Sample α × Sample α)
  | [] => none
  | pair :: rest => some (rest.foldl (fun best p => if isNearer p best then p else best) pair)

/-- Halves the bracket from `lo` to `hi`, at most `fuel` times, and counts the halvings on top of
`done`. It stops early where the function is not finite, at a root, and when the halves are as
narrow as the tolerance. -/
def halve (f : α → α) (tolerance : α) (lo hi : Sample α) (best : Sample α) (done : Nat) :
    Nat → Sample α × Nat
  | 0 => (best, done)
  | fuel + 1 =>
    let half := (hi.point - lo.point) / two
    let middle : Sample α := ⟨lo.point + half, f (lo.point + half)⟩
    if !isFinite middle.value then (best, done + 1)
    else
      let best := closer best middle
      if isZero middle.value || le half tolerance then (best, done + 1)
      else if isNegative middle.value == isNegative lo.value then
        halve f tolerance middle hi best (done + 1) fuel
      else halve f tolerance lo middle best (done + 1) fuel

def search (f : α → α) (options : SolverOptions α) : SearchOutcome α :=
  let samples := finiteSamples f (grid options.searchLimit)
  let best := (closest samples).getD ⟨zero, infinity⟩
  let bracket := nearest (signChanges samples)
  let (best, iterations) :=
    match bracket with
    | some (lo, hi) =>
      if isZero best.value then (best, 0)
      else halve f options.tolerance lo hi best 0 options.maxIterations
    | none => (best, 0)
  ⟨best.point, abs best.value, iterations, bracket.map fun p => (p.1.point, p.2.point)⟩

end Bisection
end WorkedAlgebra
