import WorkedAlgebra.Resolution.Bisection
import WorkedAlgebra.Proofs.NumberTexts

/-!
What a root search picks from its samples. The closest sample has the least magnitude, and the
bracket is a pair of neighbouring samples of opposite signs, missing only when all samples are on
one side of zero.
-/

namespace WorkedAlgebra.Bisection

open Scalar

section AnyNumbers

variable {α : Type} [Scalar α] {f : α → α} {points : List α} {samples : List (Sample α)}

theorem mem_finiteSamples {s : Sample α} :
    s ∈ finiteSamples f points ↔ s.point ∈ points ∧ s.value = f s.point ∧
      isFinite s.value = true := by
  obtain ⟨point, value⟩ := s
  simp only [finiteSamples, List.mem_filter, List.mem_map, Sample.mk.injEq]
  constructor
  · rintro ⟨⟨x, mem, rfl, rfl⟩, finite⟩
    exact ⟨mem, rfl, finite⟩
  · rintro ⟨mem, rfl, finite⟩
    exact ⟨⟨point, mem, rfl, rfl⟩, finite⟩

/-- A choice between two that is made along a list ends with a member of the list. -/
theorem foldl_mem {β : Type} {choose : β → β → β} (one : ∀ a b, choose a b = a ∨ choose a b = b)
    (first : β) (rest : List β) : rest.foldl choose first ∈ first :: rest := by
  induction rest generalizing first with
  | nil => exact List.mem_singleton_self first
  | cons b rest ih =>
      rw [List.foldl_cons]
      rcases one first b with kept | changed
      · rw [kept]
        exact List.cons_subset_cons first (List.subset_cons_self b rest) (ih first)
      · rw [changed]
        exact List.mem_cons_of_mem first (ih b)

/-- A choice between two that keeps to the one with the smaller key ends with the least key of
all. -/
theorem foldl_le {β κ : Type} [Preorder κ] (key : β → κ) (choose : β → β → β) {P : β → Prop}
    (one : ∀ a b, P a → P b →
      P (choose a b) ∧ key (choose a b) ≤ key a ∧ key (choose a b) ≤ key b)
    {first : β} {rest : List β} (start : P first) (later : ∀ b ∈ rest, P b) :
    ∀ b ∈ first :: rest, key (rest.foldl choose first) ≤ key b := by
  induction rest generalizing first with
  | nil =>
      intro b mem
      rw [List.mem_singleton.mp mem]
      exact le_rfl
  | cons second rest ih =>
      obtain ⟨next, later⟩ := List.forall_mem_cons.mp later
      obtain ⟨chosen, leFirst, leSecond⟩ := one first second start next
      obtain ⟨least, rests⟩ := List.forall_mem_cons.mp (ih chosen later)
      exact List.forall_mem_cons.mpr ⟨least.trans leFirst,
        List.forall_mem_cons.mpr ⟨least.trans leSecond, rests⟩⟩

theorem closer_or (a b : Sample α) : closer a b = a ∨ closer a b = b := by
  unfold closer
  split
  · exact .inr rfl
  · exact .inl rfl

theorem closest_mem {s : Sample α} (found : closest samples = some s) : s ∈ samples := by
  cases samples with
  | nil => cases found
  | cons first rest => exact Option.some.inj found ▸ foldl_mem closer_or first rest

theorem nearest_mem {pairs : List (Sample α × Sample α)} {pair : Sample α × Sample α}
    (found : nearest pairs = some pair) : pair ∈ pairs := by
  cases pairs with
  | nil => cases found
  | cons first rest =>
      refine Option.some.inj found ▸ foldl_mem (fun a b => ?_) first rest
      split
      · exact .inr rfl
      · exact .inl rfl

theorem nearest_eq_none_iff {pairs : List (Sample α × Sample α)} :
    nearest pairs = none ↔ pairs = [] := by
  cases pairs <;> simp [nearest]

/-- A sign change is a pair of neighbours with values of opposite signs. -/
theorem mem_signChanges_iff {a b : Sample α} : (a, b) ∈ signChanges samples ↔
    opposite a.value b.value = true ∧ [a, b] <:+: samples := by
  induction samples with
  | nil => simp [signChanges]
  | cons s rest ih =>
      cases rest with
      | nil => simp [signChanges, List.infix_cons_iff]
      | cons t rest =>
          have first : [a, b] <+: s :: t :: rest ↔ a = s ∧ b = t := by
            simp [List.cons_prefix_cons]
          rw [signChanges, List.infix_cons_iff, first, and_or_left, ← ih]
          split
          · rename_i differ
            rw [List.mem_cons, Prod.mk.injEq]
            refine or_congr ⟨?_, And.right⟩ Iff.rfl
            rintro ⟨rfl, rfl⟩
            exact ⟨differ, rfl, rfl⟩
          · rename_i alike
            refine (or_iff_right ?_).symm
            rintro ⟨differ, rfl, rfl⟩
            exact alike differ

theorem opposite_iff {a b : α} : opposite a b = true ↔
    isZero a = false ∧ isZero b = false ∧ isNegative a ≠ isNegative b := by
  simp [opposite, and_assoc]

/-- Numbers are on different sides of zero when their product is below it. -/
theorem opposite_eq_mul {R : Type} [Ring R] [LinearOrder R] [IsStrictOrderedRing R] {a b : α}
    {x y : R} (zeroA : isZero a = decide (x = 0)) (zeroB : isZero b = decide (y = 0))
    (negativeA : isNegative a = decide (x < 0)) (negativeB : isNegative b = decide (y < 0)) :
    opposite a b = decide (x * y < 0) := by
  rw [Bool.eq_iff_iff, opposite_iff, zeroA, zeroB, negativeA, negativeB]
  simp only [ne_eq, decide_eq_decide, decide_eq_false_iff_not, decide_eq_true_eq, mul_neg_iff]
  rcases lt_trichotomy x 0 with below | zero | above <;>
    rcases lt_trichotomy y 0 with below' | zero' | above' <;>
    simp [*, not_lt_of_gt, ne_of_lt, ne_of_gt]

/-- Without a sign change all values that are not zero have the sign of the first one. -/
theorem sign_of_signChanges_nil (none : signChanges samples = [])
    (nonzero : ∀ s ∈ samples, isZero s.value = false) {s t : Sample α} (hs : s ∈ samples)
    (ht : t ∈ samples) : isNegative s.value = isNegative t.value := by
  suffices ∀ first ∈ samples.head?, ∀ t ∈ samples, isNegative t.value = isNegative first.value by
    cases samples with
    | nil => cases hs
    | cons first rest =>
        exact (this first rfl s hs).trans (this first rfl t ht).symm
  clear hs ht
  induction samples with
  | nil => nofun
  | cons first rest ih =>
      rintro _ ⟨⟩ t ht
      obtain ⟨nonzeroFirst, nonzeroRest⟩ := List.forall_mem_cons.mp nonzero
      cases rest with
      | nil => rw [List.mem_singleton.mp ht]
      | cons second rest =>
          rw [signChanges] at none
          split at none
          · cases none
          · rename_i same
            have nonzeroSecond := nonzeroRest second List.mem_cons_self
            have equal : isNegative second.value = isNegative first.value := by
              by_contra differ
              exact same (opposite_iff.mpr ⟨nonzeroFirst, nonzeroSecond, Ne.symm differ⟩)
            rcases List.mem_cons.mp ht with rfl | ht
            · rfl
            · exact (ih none nonzeroRest second rfl t ht).trans equal

section Halving

variable (f : α → α) (tolerance : α) (lo hi best : Sample α) (done fuel : Nat)

def middleOf : Sample α :=
  ⟨lo.point + (hi.point - lo.point) / two, f (lo.point + (hi.point - lo.point) / two)⟩

/-- One step of halving. -/
theorem halve_succ :
    halve f tolerance lo hi best done (fuel + 1) =
      if !isFinite (middleOf f lo hi).value then (best, done + 1)
      else if isZero (middleOf f lo hi).value || le ((hi.point - lo.point) / two) tolerance then
        (closer best (middleOf f lo hi), done + 1)
      else if isNegative (middleOf f lo hi).value == isNegative lo.value then
        halve f tolerance (middleOf f lo hi) hi (closer best (middleOf f lo hi)) (done + 1) fuel
      else
        halve f tolerance lo (middleOf f lo hi) (closer best (middleOf f lo hi)) (done + 1) fuel :=
  rfl

/-- One step of halving stops where the function is not finite, stops with the middle at hand, or
goes on in the half where the sign changes. -/
theorem halve_cases :
    (isFinite (middleOf f lo hi).value = false ∧
        halve f tolerance lo hi best done (fuel + 1) = (best, done + 1)) ∨
      isFinite (middleOf f lo hi).value = true ∧
        ((isZero (middleOf f lo hi).value || le ((hi.point - lo.point) / two) tolerance) = true ∧
            halve f tolerance lo hi best done (fuel + 1) =
              (closer best (middleOf f lo hi), done + 1) ∨
          (isZero (middleOf f lo hi).value || le ((hi.point - lo.point) / two) tolerance) = false ∧
            (isNegative (middleOf f lo hi).value = isNegative lo.value ∧
                halve f tolerance lo hi best done (fuel + 1) =
                  halve f tolerance (middleOf f lo hi) hi (closer best (middleOf f lo hi))
                    (done + 1) fuel ∨
              isNegative (middleOf f lo hi).value ≠ isNegative lo.value ∧
                halve f tolerance lo hi best done (fuel + 1) =
                  halve f tolerance lo (middleOf f lo hi) (closer best (middleOf f lo hi))
                    (done + 1) fuel)) := by
  rw [halve_succ]
  split
  · rename_i infinite
    exact .inl ⟨by simpa using infinite, rfl⟩
  · rename_i finite
    refine .inr ⟨by simpa using finite, ?_⟩
    split
    · rename_i stop
      exact .inl ⟨stop, rfl⟩
    · rename_i further
      refine .inr ⟨by simpa using further, ?_⟩
      split
      · rename_i same
        exact .inl ⟨by simpa using same, rfl⟩
      · rename_i differ
        exact .inr ⟨by simpa using differ, rfl⟩

end Halving

section Search

variable (f : α → α) (options : SolverOptions α)

def samplesOf : List (Sample α) := finiteSamples f (grid options.searchLimit)

def bestOf : Sample α := (closest (samplesOf f options)).getD ⟨zero, infinity⟩

def bracketOf : Option (Sample α × Sample α) := nearest (signChanges (samplesOf f options))

theorem search_bracket :
    (search f options).bracket = (bracketOf f options).map fun p => (p.1.point, p.2.point) := by
  simp only [search, bracketOf, samplesOf]

variable {f options}

/-- The ends of a bracket are samples with values of opposite signs, in the order of the samples. -/
theorem bracketOf_ends {order : Sample α → Sample α → Prop}
    (ordered : (samplesOf f options).Pairwise order) {a b : Sample α}
    (bracket : bracketOf f options = some (a, b)) :
    a ∈ samplesOf f options ∧ b ∈ samplesOf f options ∧ order a b ∧
      opposite a.value b.value = true := by
  obtain ⟨differ, neighbours⟩ := mem_signChanges_iff.mp (nearest_mem bracket)
  refine ⟨neighbours.subset List.mem_cons_self,
    neighbours.subset (List.mem_cons_of_mem a List.mem_cons_self), ?_, differ⟩
  exact List.rel_of_pairwise_cons (ordered.sublist neighbours.sublist) List.mem_cons_self

/-- Without a bracket, or at an exact root, the best sample is kept. -/
theorem search_of_kept (kept : bracketOf f options = none ∨ isZero (bestOf f options).value = true) :
    search f options = ⟨(bestOf f options).point, Scalar.abs (bestOf f options).value, 0,
      (bracketOf f options).map fun p => (p.1.point, p.2.point)⟩ := by
  simp only [search, bracketOf, bestOf, samplesOf] at kept ⊢
  split
  · rename_i lo hi some
    rw [some] at kept
    rw [if_pos (kept.resolve_left nofun)]
  · rfl

theorem search_of_bracket {lo hi : Sample α} {run : Sample α × Nat}
    (some : bracketOf f options = some (lo, hi)) (nonzero : isZero (bestOf f options).value = false)
    (halved : halve f options.tolerance lo hi (bestOf f options) 0 options.maxIterations = run) :
    search f options =
      ⟨run.1.point, Scalar.abs run.1.value, run.2, .some (lo.point, hi.point)⟩ := by
  simp only [search, bracketOf, bestOf, samplesOf] at some nonzero halved ⊢
  simp only [some, nonzero, ← halved]
  rfl

end Search

end AnyNumbers

section Floats

variable {f : Float → Float} {samples : List (Sample Float)}

theorem closer_le {a b : Sample Float} (ha : isFinite a.value = true)
    (hb : isFinite b.value = true) :
    isFinite (closer a b).value = true ∧
      |floatValue (closer a b).value| ≤ |floatValue a.value| ∧
        |floatValue (closer a b).value| ≤ |floatValue b.value| := by
  have less := (denotes_value hb).abs.lt_eq (denotes_value ha).abs
  unfold closer
  split
  · rename_i smaller
    rw [less, decide_eq_true_eq] at smaller
    exact ⟨hb, smaller.le, le_rfl⟩
  · rename_i notSmaller
    rw [less, decide_eq_true_eq, not_lt] at notSmaller
    exact ⟨ha, le_rfl, notSmaller⟩

/-- The closest sample has the least magnitude. -/
theorem closest_le {s : Sample Float} (found : closest samples = some s)
    (finite : ∀ t ∈ samples, isFinite t.value = true) :
    ∀ t ∈ samples, |floatValue s.value| ≤ |floatValue t.value| := by
  cases samples with
  | nil => cases found
  | cons first rest =>
      obtain ⟨finiteFirst, finiteRest⟩ := List.forall_mem_cons.mp finite
      have least := foldl_le (fun t : Sample Float => |floatValue t.value|) closer
        (P := fun t => isFinite t.value = true) (fun _ _ => closer_le) finiteFirst finiteRest
      rwa [Option.some.inj found] at least

theorem isZero_of_abs_le {x y : Float} (hx : isFinite x = true) (hy : isFinite y = true)
    (le : |floatValue x| ≤ |floatValue y|) (zero : isZero y = true) : isZero x = true := by
  rw [isZero_eq (denotes_value hy), decide_eq_true_iff] at zero
  rw [zero, abs_zero, abs_nonpos_iff] at le
  rw [isZero_eq (denotes_value hx), le, decide_eq_true_iff]

end Floats

end WorkedAlgebra.Bisection
