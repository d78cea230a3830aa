import Mathlib.Algebra.Order.Floor.Ring
import Mathlib.Data.Rat.Floor
import WorkedAlgebra.Proofs.AffineTest

/-!
Exact arithmetic as a number type for solving: the rational numbers, and beside them a bound above
all of them and the result of operations that have none. Probing a line over these numbers finds
its slope.
-/

namespace WorkedAlgebra

/-- A rational number, or what an operation gives that does not end in one. -/
inductive Exact where
  | number (value : ℚ)
  | infinite
  | undefined
deriving DecidableEq

namespace Exact

def lift (f : ℚ → ℚ → ℚ) : Exact → Exact → Exact
  | .number p, .number q => .number (f p q)
  | _, _ => .undefined

def quotient : Exact → Exact → Exact
  | .number p, .number q => if q = 0 then .undefined else .number (p / q)
  | _, _ => .undefined

def negation : Exact → Exact
  | .number q => .number (-q)
  | _ => .undefined

def magnitude : Exact → Exact
  | .number q => .number |q|
  | x => x

def isLess : Exact → Exact → Bool
  | .number p, .number q => decide (p < q)
  | .number _, .infinite => true
  | _, _ => false

def isSame : Exact → Exact → Bool
  | .number p, .number q => decide (p = q)
  | .infinite, .infinite => true
  | _, _ => false

/-- At most the square root, which no negative number has. -/
def isLessSqrt : Exact → Exact → Bool
  | .number r, .number t => decide (0 ≤ t ∧ (r ≤ 0 ∨ r * r ≤ t))
  | .number _, .infinite | .infinite, .infinite => true
  | _, _ => false

/-- The nearest whole number, a half going away from zero. -/
def nearest : Exact → Exact
  | .number q => .number (if 0 ≤ q then ⌊q + 1 / 2⌋ else -⌊-q + 1 / 2⌋)
  | x => x

end Exact

instance : Scalar Exact where
  add := Exact.lift (· + ·)
  sub := Exact.lift (· - ·)
  mul := Exact.lift (· * ·)
  div := Exact.quotient
  neg := Exact.negation
  ofDecimal mantissa places := .number (mantissa / 10 ^ places)
  undefined := .undefined
  infinity := .infinite
  abs := Exact.magnitude
  isFinite x := x matches .number _
  eq := Exact.isSame
  le x y := Exact.isLess x y || Exact.isSame x y
  lt := Exact.isLess
  leSqrt := Exact.isLessSqrt
  round := Exact.nearest

@[reducible]
def Exact.writtenBy (write : Exact → String) : Printable Exact := { text := write }

namespace Exact

open Scalar

section Operations

variable (p q : ℚ)

@[simp]
theorem number_add : (number p + number q : Exact) = number (p + q) := rfl

@[simp]
theorem number_sub : (number p - number q : Exact) = number (p - q) := rfl

@[simp]
theorem number_mul : (number p * number q : Exact) = number (p * q) := rfl

@[simp]
theorem number_neg : (-number q : Exact) = number (-q) := rfl

theorem number_div {p q : ℚ} (nonzero : q ≠ 0) :
    (number p / number q : Exact) = number (p / q) :=
  if_neg nonzero

@[simp]
theorem abs_number : Scalar.abs (number q) = number |q| := rfl

@[simp]
theorem isFinite_number : isFinite (number q) = true := rfl

@[simp]
theorem ofDecimal_eq (mantissa places : Nat) :
    (ofDecimal mantissa places : Exact) = number (mantissa / 10 ^ places) := rfl

@[simp]
theorem zero_eq : (zero : Exact) = number 0 := by
  simp [zero, ofNat]

@[simp]
theorem one_eq : (one : Exact) = number 1 := by
  simp [one, ofNat]

@[simp]
theorem two_eq : (two : Exact) = number 2 := by
  simp [two, ofNat]

@[simp]
theorem isZero_number : isZero (number q) = decide (q = 0) := by
  rw [isZero, zero_eq]
  rfl

theorem le_number : le (number p) (number q) = true ↔ p ≤ q := by
  change (decide (p < q) || decide (p = q)) = true ↔ p ≤ q
  simp [le_iff_lt_or_eq]

@[simp]
theorem larger_number : larger (number p) (number q) = number (max p q) := by
  change (if decide (p < q) = true then number q else number p) = number (max p q)
  simp only [decide_eq_true_eq]
  split
  · rw [max_eq_right (le_of_lt ‹_›)]
  · rw [max_eq_left (not_lt.mp ‹_›)]

end Operations

/-- A number that differs from another one by the tolerance of probing at most. -/
def IsNear (x : Exact) (c : ℚ) : Prop :=
  ∃ q, x = number q ∧ |q - c| ≤ 1 / 10 ^ 9 * (1 + max |c| |q|)

theorem isNear_number (c : ℚ) : (number c).IsNear c :=
  ⟨c, rfl, by rw [sub_self, abs_zero]; positivity⟩

/-- What agrees with a number is near it. -/
theorem isNear_of_agrees {x : Exact} {c : ℚ} (agree : Probe.agrees x (number c) = true) :
    x.IsNear c := by
  cases x with
  | number q =>
      refine ⟨q, rfl, ?_⟩
      simpa [Probe.agrees, Probe.tolerance, le_number, max_comm |c|] using agree
  | infinite | undefined =>
      simp only [Probe.agrees] at agree
      cases agree

end Exact

namespace Probe

open Scalar Exact

theorem exists_number_of_mem_points {p : Exact} (mem : p ∈ points) : ∃ q, p = number q := by
  simp only [points, zero_eq, one_eq, two_eq, ofDecimal_eq, Exact.number_neg, List.mem_cons,
    List.not_mem_nil, or_false] at mem
  rcases mem with rfl | rfl | rfl | rfl | rfl <;> exact ⟨_, rfl⟩

theorem foldl_larger_number {values : List Exact} (each : ∀ v ∈ values, ∃ q, v = number q) (m : ℚ) :
    ∃ q, values.foldl (fun m v => larger m (Scalar.abs v)) (number m) = number q ∧ m ≤ q := by
  induction values generalizing m with
  | nil => exact ⟨m, rfl, le_rfl⟩
  | cons v values ih =>
      obtain ⟨r, rfl⟩ := each v List.mem_cons_self
      obtain ⟨q, folded, above⟩ := ih (fun w mem => each w (List.mem_cons_of_mem _ mem)) (max m |r|)
      refine ⟨q, ?_, (le_max_left m |r|).trans above⟩
      rw [List.foldl_cons, abs_number, larger_number, folded]

/-- The slope of a line is found. -/
theorem affineSlope_line {f : Exact → Exact} {k a : ℚ}
    (line : ∀ q, f (number q) = number (k + a * q)) : affineSlope f = some (number a) := by
  have values : ∀ v ∈ points.map f, ∃ q, v = number q := by
    intro v mem
    obtain ⟨p, there, rfl⟩ := List.mem_map.mp mem
    obtain ⟨q, rfl⟩ := exists_number_of_mem_points there
    exact ⟨_, line q⟩
  have slope : f one - f zero = number a := by
    rw [one_eq, zero_eq, line, line, Exact.number_sub]
    congr 1
    ring
  refine affineSlope_eq_some_iff.mpr ⟨fun p mem => ?_, fun p mem => ?_, slope⟩
  · obtain ⟨q, value⟩ := values (f p) (List.mem_map_of_mem mem)
    rw [value, isFinite_number]
  · obtain ⟨m, largest, nonneg⟩ := foldl_larger_number values 0
    obtain ⟨q, rfl⟩ := exists_number_of_mem_points mem
    have met : deviation f (number q) = number 0 := by
      rw [deviation, slope, zero_eq, line, line]
      simp
    rw [met, tolerance, scale, zero_eq, largest, one_eq, ofDecimal_eq, Exact.number_add,
      Exact.number_mul, le_number]
    positivity

theorem agrees_number (c : ℚ) : agrees (number c) (number c) = true := by
  rw [agrees, tolerance, one_eq, ofDecimal_eq, Exact.number_sub, abs_number, abs_number,
    larger_number, Exact.number_add, Exact.number_mul, le_number, sub_self, abs_zero]
  positivity

end Probe
end WorkedAlgebra
