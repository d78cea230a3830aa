import WorkedAlgebra.Proofs.Rounding.Grid
import WorkedAlgebra.Resolution.Probe

/-!
Expressions over floating point, read in exact arithmetic: the numbers of a tree and its four
operations as rational ones. A tree that is settled on a grid at some values of its letters is
evaluated there without rounding.
-/

namespace WorkedAlgebra

open Rounding

namespace Expr

def exactOperator : Symbol → ℚ → ℚ → Option ℚ
  | .plus, l, r => some (l + r)
  | .minus, l, r => some (l - r)
  | .star, l, r => some (l * r)
  | .slash, l, r => if r = 0 then none else some (l / r)
  | _, _, _ => none

/-- The exact value of a tree, unless it divides by zero. A number that is not finite has none. -/
def exactValue (at_ : Char → ℚ) : Expr Float → Option ℚ
  | .number v => if Scalar.isFinite v then some (floatValue v) else none
  | .letter name => some (at_ name)
  | .unary .minus e => (e.exactValue at_).map (- ·)
  | .unary _ e => e.exactValue at_
  | .binary operator left right =>
    match left.exactValue at_, right.exactValue at_ with
    | some l, some r => exactOperator operator l r
    | _, _ => none

theorem exactValue_number {v : Float} {q : ℚ} (h : Denotes v q) (at_ : Char → ℚ) :
    (Expr.number v).exactValue at_ = some q := by
  rw [exactValue, if_pos h.finite, h.value]

def Settled (s limit : Nat) (at_ : Char → ℚ) : Expr Float → Prop
  | .number v => Scalar.isFinite v = true ∧ OnGrid s limit (floatValue v)
  | .letter name => OnGrid s limit (at_ name)
  | .unary _ e => e.Settled s limit at_
  | .binary operator left right =>
    left.Settled s limit at_ ∧ right.Settled s limit at_ ∧
      ∃ q, (Expr.binary operator left right).exactValue at_ = some q ∧ OnGrid s limit q

/-- Whether a value is there and lies on the grid. -/
instance (s limit : Nat) (value : Option ℚ) :
    Decidable (∃ q, value = some q ∧ OnGrid s limit q) :=
  match value with
  | some q => decidable_of_iff (OnGrid s limit q) (by simp)
  | none => isFalse (by simp)

instance decidableSettled (s limit : Nat) (at_ : Char → ℚ) :
    (e : Expr Float) → Decidable (e.Settled s limit at_)
  | .number v => inferInstanceAs (Decidable (_ ∧ OnGrid s limit (floatValue v)))
  | .letter name => inferInstanceAs (Decidable (OnGrid s limit (at_ name)))
  | .unary _ e => decidableSettled s limit at_ e
  | .binary operator left right =>
    have := decidableSettled s limit at_ left
    have := decidableSettled s limit at_ right
    inferInstanceAs (Decidable (left.Settled s limit at_ ∧ right.Settled s limit at_ ∧
      ∃ q, (Expr.binary operator left right).exactValue at_ = some q ∧ OnGrid s limit q))

theorem exactOperator_denotes {operator : Symbol} {x y z : Float} {p q r : ℚ} {s : Nat}
    (hx : Denotes x p) (hy : Denotes y q) (exact : exactOperator operator p q = some r)
    (grid : OnGrid s (2 ^ 53) r) (fine : s ≤ 1074)
    (computed : applyOperator operator x y = .ok z) : Denotes z r := by
  cases operator with
  | plus =>
      obtain rfl : p + q = r := Option.some.inj exact
      obtain rfl : x + y = z := Except.ok.inj computed
      exact hx.add_exact hy grid fine
  | minus =>
      obtain rfl : p - q = r := Option.some.inj exact
      obtain rfl : x - y = z := Except.ok.inj computed
      exact hx.sub_exact hy grid fine
  | star =>
      obtain rfl : p * q = r := Option.some.inj exact
      obtain rfl : x * y = z := Except.ok.inj computed
      exact hx.mul_exact hy grid fine
  | slash =>
      obtain rfl : x / y = z := Except.ok.inj computed
      by_cases zero : q = 0
      · simp [exactOperator, zero] at exact
      · obtain rfl : p / q = r := by simpa [exactOperator, zero] using exact
        exact hx.div_exact hy zero grid fine
  | _ => cases exact

/-- A settled tree is evaluated exactly. -/
theorem evaluate_exact {b : Bindings Float} {at_ : Char → ℚ}
    (bound : ∀ c v, b c = some v → Denotes v (at_ c)) {s limit : Nat} (digits : limit ≤ 2 ^ 53)
    (fine : s ≤ 1074) (e : Expr Float) (settled : e.Settled s limit at_) {v : Float}
    (computed : e.evaluate b = .ok v) :
    ∃ q, e.exactValue at_ = some q ∧ OnGrid s limit q ∧ Denotes v q := by
  induction e generalizing v with
  | number x =>
      obtain rfl : x = v := Except.ok.inj computed
      exact ⟨floatValue x, if_pos settled.1, settled.2, denotes_value settled.1⟩
  | letter name =>
      simp only [evaluate] at computed
      split at computed
      · rename_i x hx
        obtain rfl : x = v := Except.ok.inj computed
        exact ⟨at_ name, rfl, settled, bound name x hx⟩
      · cases computed
  | unary operator e ih =>
      simp only [evaluate, bind, Except.bind] at computed
      cases inner : e.evaluate b with
      | error fault => simp [inner] at computed
      | ok x =>
          obtain ⟨q, exact, grid, denotes⟩ := ih settled inner
          rw [inner] at computed
          obtain rfl : applySign operator x = v := Except.ok.inj computed
          cases operator with
          | minus => exact ⟨-q, by simp [exactValue, exact], grid.neg, denotes.neg⟩
          | _ => exact ⟨q, exact, grid, denotes⟩
  | binary operator left right ihl ihr =>
      obtain ⟨settledLeft, settledRight, r, exact, grid⟩ := settled
      simp only [evaluate, bind, Except.bind] at computed
      cases leftValue : left.evaluate b with
      | error fault => simp [leftValue] at computed
      | ok x =>
          cases rightValue : right.evaluate b with
          | error fault => simp [leftValue, rightValue] at computed
          | ok y =>
              obtain ⟨p, exactLeft, -, hx⟩ := ihl settledLeft leftValue
              obtain ⟨q, exactRight, -, hy⟩ := ihr settledRight rightValue
              rw [leftValue, rightValue] at computed
              refine ⟨r, exact, grid, ?_⟩
              simp only [exactValue, exactLeft, exactRight] at exact
              exact exactOperator_denotes hx hy exact (grid.mono digits) fine computed

end Expr

namespace Probe

def ExactAt (probe : Probe Float) (at_ : Char → ℚ) (l r : ℚ) : Prop :=
  probe.left.exactValue at_ = some l ∧ probe.right.exactValue at_ = some r

instance (probe : Probe Float) (at_ : Char → ℚ) (l r : ℚ) :
    Decidable (probe.ExactAt at_ l r) :=
  inferInstanceAs (Decidable (_ ∧ _))

def DefinedAt (probe : Probe Float) (at_ : Char → ℚ) : Prop := ∃ l r, probe.ExactAt at_ l r

theorem definedAt_iff {probe : Probe Float} {at_ : Char → ℚ} :
    probe.DefinedAt at_ ↔
      (probe.left.exactValue at_).isSome ∧ (probe.right.exactValue at_).isSome := by
  simp only [DefinedAt, ExactAt, Option.isSome_iff_exists, exists_and_left, exists_and_right]

instance (probe : Probe Float) (at_ : Char → ℚ) : Decidable (probe.DefinedAt at_) :=
  decidable_of_iff _ definedAt_iff.symm

def HoldsAt (probe : Probe Float) (at_ : Char → ℚ) : Prop := ∃ q, probe.ExactAt at_ q q

/-- The difference of the sides in exact arithmetic; zero where it is not defined. -/
def exactDifference (probe : Probe Float) (at_ : Char → ℚ) : ℚ :=
  match probe.left.exactValue at_, probe.right.exactValue at_ with
  | some l, some r => l - r
  | _, _ => 0

theorem ExactAt.difference {probe : Probe Float} {at_ : Char → ℚ} {l r : ℚ}
    (exact : probe.ExactAt at_ l r) : probe.exactDifference at_ = l - r := by
  rw [exactDifference, exact.1, exact.2]

def SettledAt (probe : Probe Float) (s limit : Nat) (at_ : Char → ℚ) : Prop :=
  probe.left.Settled s limit at_ ∧ probe.right.Settled s limit at_

instance (probe : Probe Float) (s limit : Nat) (at_ : Char → ℚ) :
    Decidable (probe.SettledAt s limit at_) :=
  inferInstanceAs (Decidable (_ ∧ _))

theorem undefined_not_finite : Scalar.isFinite (Scalar.undefined : Float) = false := rfl

/-- The difference of settled sides is exact where it is finite. -/
theorem difference_exact {probe : Probe Float} {b : Bindings Float} {at_ : Char → ℚ}
    (bound : ∀ c v, b c = some v → Denotes v (at_ c)) {s limit : Nat}
    (digits : limit + limit ≤ 2 ^ 53) (fine : s ≤ 1074) (settled : probe.SettledAt s limit at_)
    (finite : Scalar.isFinite (probe.difference b) = true) :
    ∃ l r, probe.ExactAt at_ l r ∧ OnGrid s (limit + limit) (l - r) ∧
      Denotes (probe.difference b) (l - r) := by
  unfold difference at finite ⊢
  split at finite
  · rename_i x y leftValue rightValue
    obtain ⟨l, exactLeft, gridLeft, hx⟩ :=
      Expr.evaluate_exact bound (by omega) fine _ settled.1 leftValue
    obtain ⟨r, exactRight, gridRight, hy⟩ :=
      Expr.evaluate_exact bound (by omega) fine _ settled.2 rightValue
    have grid := gridLeft.sub gridRight
    exact ⟨l, r, ⟨exactLeft, exactRight⟩, grid, hx.sub_exact hy (grid.mono digits) fine⟩
  · rw [undefined_not_finite] at finite
    cases finite

end Probe
end WorkedAlgebra
