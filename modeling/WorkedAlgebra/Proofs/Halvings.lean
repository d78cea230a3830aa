import WorkedAlgebra.Proofs.SampleGrid

/-!
The samples that halving takes. Halving keeps the closest of them and counts them, it looks at the
function nowhere else, and all of them lie in the bracket.
-/

namespace WorkedAlgebra.Bisection

open Rounding Scalar

section Samples

variable {α : Type} [Scalar α] (f : α → α) (tolerance : α)

def middles (lo hi : Sample α) : Nat → List (Sample α)
  | 0 => []
  | fuel + 1 =>
    middleOf f lo hi ::
      if !isFinite (middleOf f lo hi).value then []
      else if isZero (middleOf f lo hi).value || le ((hi.point - lo.point) / two) tolerance then []
      else if isNegative (middleOf f lo hi).value == isNegative lo.value then
        middles (middleOf f lo hi) hi fuel
      else middles lo (middleOf f lo hi) fuel

/-- Halving keeps the closest of its finite samples, and counts all of them. -/
theorem halve_eq_fold (fuel : Nat) (lo hi best : Sample α) (done : Nat) :
    halve f tolerance lo hi best done fuel =
      (((middles f tolerance lo hi fuel).filter fun s => isFinite s.value).foldl closer best,
        done + (middles f tolerance lo hi fuel).length) := by
  induction fuel generalizing lo hi best done with
  | zero => rfl
  | succ fuel ih =>
      rw [middles]
      rcases halve_cases f tolerance lo hi best done fuel with
        ⟨infinite, stop⟩ | ⟨finite, ⟨last, stop⟩ | ⟨more, ⟨same, further⟩ | ⟨differ, further⟩⟩⟩
      · rw [stop]
        simp [infinite]
      · rw [stop]
        simp [finite, last]
      · rw [further, ih]
        simp [finite, more, same, Nat.add_assoc, Nat.add_comm 1]
      · rw [further, ih]
        simp [finite, more, differ, Nat.add_assoc, Nat.add_comm 1]

/-- Halving ends with the sample that it started from, or with a finite one of its own. -/
theorem halve_mem (fuel : Nat) (lo hi best : Sample α) (done : Nat) :
    (halve f tolerance lo hi best done fuel).1 = best ∨
      (halve f tolerance lo hi best done fuel).1 ∈ middles f tolerance lo hi fuel ∧
        isFinite (halve f tolerance lo hi best done fuel).1.value = true := by
  rw [halve_eq_fold]
  exact (List.mem_cons.mp (foldl_mem closer_or best _)).imp_right List.mem_filter.mp

theorem length_middles_le (fuel : Nat) (lo hi : Sample α) :
    (middles f tolerance lo hi fuel).length ≤ fuel := by
  induction fuel generalizing lo hi with
  | zero => exact le_rfl
  | succ fuel ih =>
      rw [middles, List.length_cons, Nat.succ_le_succ_iff]
      split_ifs
      · exact Nat.zero_le fuel
      · exact Nat.zero_le fuel
      · exact ih _ _
      · exact ih _ _

theorem value_of_mem_middles {fuel : Nat} {lo hi s : Sample α}
    (mem : s ∈ middles f tolerance lo hi fuel) : s.value = f s.point := by
  induction fuel generalizing lo hi with
  | zero => cases mem
  | succ fuel ih =>
      rcases List.mem_cons.mp mem with rfl | mem
      · rfl
      · split_ifs at mem
        · cases mem
        · cases mem
        · exact ih mem
        · exact ih mem

variable {f tolerance}

/-- A function that has the same values at the samples is halved alike. -/
theorem middles_congr {g : α → α} (fuel : Nat) {lo hi : Sample α}
    (same : ∀ s ∈ middles f tolerance lo hi fuel, g s.point = f s.point) :
    middles g tolerance lo hi fuel = middles f tolerance lo hi fuel := by
  induction fuel generalizing lo hi with
  | zero => rfl
  | succ fuel ih =>
      rw [middles] at same
      obtain ⟨first, later⟩ := List.forall_mem_cons.mp same
      have middle : middleOf g lo hi = middleOf f lo hi := congrArg (Sample.mk _) first
      rw [middles, middles, middle]
      congr 1
      split_ifs at later ⊢
      · rfl
      · rfl
      · exact ih later
      · exact ih later

end Samples

section Between

variable {f : Float → Float} {tolerance : Float}

/-- Each middle lies between the ends of the half that it is taken from. -/
theorem middles_between {fuel : Nat} {lo hi s : Sample Float} {p q : ℚ} (hlo : Denotes lo.point p)
    (hhi : Denotes hi.point q) (ascending : p ≤ q) (boundLo : |p| ≤ gridBound)
    (boundHi : |q| ≤ gridBound) (mem : s ∈ middles f tolerance lo hi fuel) :
    ∃ m, Denotes s.point m ∧ p ≤ m ∧ m ≤ q := by
  induction fuel generalizing lo hi p q with
  | zero => cases mem
  | succ fuel ih =>
      have between : ∃ m, Denotes (middleOf f lo hi).point m ∧ p ≤ m ∧ m ≤ q :=
        hlo.middle hhi ascending boundLo boundHi
      obtain ⟨m, point, low, high⟩ := between
      have bound : |m| ≤ gridBound := abs_le.mpr
        ⟨(abs_le.mp boundLo).1.trans low, high.trans (abs_le.mp boundHi).2⟩
      rcases List.mem_cons.mp mem with rfl | mem
      · exact ⟨m, point, low, high⟩
      · split_ifs at mem
        · cases mem
        · cases mem
        · obtain ⟨v, value, lowV, highV⟩ := ih point hhi high bound boundHi mem
          exact ⟨v, value, low.trans lowV, highV⟩
        · obtain ⟨v, value, lowV, highV⟩ := ih hlo point low boundLo bound mem
          exact ⟨v, value, lowV, highV.trans high⟩

end Between

end WorkedAlgebra.Bisection
