import Mathlib

/-!
Polynomials in several letters on the lines where all letters but one have the same value. On the
lines through zero only pure powers are left, on those through one all terms with the same power
of the letter add up.
-/

namespace WorkedAlgebra

open Polynomial

/-- One letter has the value `t`, all others have the value `base`. -/
def line (base : ℚ) (letter : Char) (t : ℚ) : Char → ℚ := fun c => if c = letter then t else base

noncomputable def onLine (base : ℚ) (letter : Char) (p : MvPolynomial Char ℚ) : ℚ[X] :=
  ∑ m ∈ p.support, C (p.coeff m * ∏ c ∈ m.support.erase letter, base ^ m c) * X ^ m letter

variable {base : ℚ} {letter : Char} {p : MvPolynomial Char ℚ}

theorem prod_line (m : Char →₀ ℕ) (t : ℚ) :
    ∏ c ∈ m.support, line base letter t c ^ m c =
      (∏ c ∈ m.support.erase letter, base ^ m c) * t ^ m letter := by
  have others : ∏ c ∈ m.support.erase letter, line base letter t c ^ m c =
      ∏ c ∈ m.support.erase letter, base ^ m c := by
    refine Finset.prod_congr rfl fun c hc => ?_
    rw [line, if_neg (Finset.ne_of_mem_erase hc)]
  by_cases mem : letter ∈ m.support
  · rw [← Finset.prod_erase_mul _ _ mem, others, line, if_pos rfl]
  · have absent : m letter = 0 := Finsupp.notMem_support_iff.mp mem
    rw [absent, pow_zero, mul_one, ← others, Finset.erase_eq_of_notMem mem]

theorem eval_onLine (t : ℚ) :
    (onLine base letter p).eval t = MvPolynomial.eval (line base letter t) p := by
  rw [MvPolynomial.eval_eq, onLine, eval_finsetSum]
  refine Finset.sum_congr rfl fun m _ => ?_
  rw [prod_line, eval_mul, eval_C, eval_pow, eval_X, ← mul_assoc]

theorem onLine_sub (q : MvPolynomial Char ℚ) :
    onLine base letter (p - q) = onLine base letter p - onLine base letter q := by
  refine funext fun t => ?_
  simp only [eval_sub, eval_onLine, map_sub]

theorem onLine_mul (q : MvPolynomial Char ℚ) :
    onLine base letter (p * q) = onLine base letter p * onLine base letter q := by
  refine funext fun t => ?_
  simp only [eval_mul, eval_onLine, map_mul]

theorem onLine_one : onLine base letter 1 = 1 := by
  refine funext fun t => ?_
  rw [eval_onLine, map_one, eval_one]

theorem natDegree_onLine_le :
    (onLine base letter p).natDegree ≤ p.degreeOf letter := by
  refine natDegree_sum_le_of_forall_le _ _ fun m hm => ?_
  exact (natDegree_C_mul_X_pow_le _ _).trans (MvPolynomial.monomial_le_degreeOf letter hm)

theorem coeff_onLine (k : ℕ) :
    (onLine base letter p).coeff k =
      ∑ m ∈ p.support.filter (fun m => m letter = k),
        p.coeff m * ∏ c ∈ m.support.erase letter, base ^ m c := by
  rw [onLine, finsetSum_coeff, Finset.sum_filter]
  refine Finset.sum_congr rfl fun m _ => ?_
  rw [coeff_C_mul_X_pow]
  exact if_congr eq_comm rfl rfl

def IsCross (m : Char →₀ ℕ) : Prop := 2 ≤ m.support.card

instance : DecidablePred IsCross := fun _ => inferInstanceAs (Decidable (_ ≤ _))

/-- In all letters and powers, the coefficients of the cross terms with that power of the letter add
up to zero. -/
def CrossTermsCancel (p : MvPolynomial Char ℚ) : Prop :=
  ∀ letter k, k ≠ 0 →
    ∑ m ∈ p.support.filter (fun m => IsCross m ∧ m letter = k), p.coeff m = 0

/-- The cross terms cancel only if there are none. -/
def CrossTermsStand (p : MvPolynomial Char ℚ) : Prop :=
  CrossTermsCancel p → ∀ m, IsCross m → p.coeff m = 0

theorem eq_single_of_not_isCross {m : Char →₀ ℕ} (pure_ : ¬ IsCross m) (occurs : m letter ≠ 0) :
    m = Finsupp.single letter (m letter) := by
  have mem : letter ∈ m.support := Finsupp.mem_support_iff.mpr occurs
  have card : m.support.card = 1 := by
    have := Finset.card_pos.mpr ⟨letter, mem⟩
    unfold IsCross at pure_
    omega
  obtain ⟨c, -, single⟩ := Finsupp.card_support_eq_one.mp card
  have same : letter = c := by
    by_contra distinct
    rw [single, Finsupp.single_eq_of_ne distinct] at occurs
    exact occurs rfl
  rw [single, same, Finsupp.single_eq_same]

theorem not_isCross_single (c : Char) (k : ℕ) : ¬ IsCross (Finsupp.single c k) := by
  have := Finsupp.card_support_le_one'.mpr ⟨c, k, rfl⟩
  unfold IsCross
  omega

/-- On the lines through zero only the pure powers are left. -/
theorem coeff_onLine_zero {k : ℕ} (nonzero : k ≠ 0) :
    (onLine 0 letter p).coeff k = p.coeff (Finsupp.single letter k) := by
  rw [coeff_onLine, Finset.sum_eq_single (Finsupp.single letter k)]
  · rw [Finsupp.support_single letter nonzero, Finset.erase_singleton, Finset.prod_empty,
      mul_one]
  · intro m hm distinct
    have power : m letter = k := (Finset.mem_filter.mp hm).2
    have other : (m.support.erase letter).Nonempty := by
      by_contra alone
      have card := Finset.pred_card_le_card_erase (s := m.support) (a := letter)
      rw [Finset.not_nonempty_iff_eq_empty.mp alone, Finset.card_empty] at card
      have pure_ : ¬ IsCross m := by
        unfold IsCross
        omega
      exact distinct (power ▸ eq_single_of_not_isCross pure_ (power ▸ nonzero))
    obtain ⟨c, hc⟩ := other
    have occurs : m c ≠ 0 := Finsupp.mem_support_iff.mp (Finset.mem_of_mem_erase hc)
    rw [Finset.prod_eq_zero hc (zero_pow occurs), mul_zero]
  · intro absent
    rw [Finset.mem_filter, not_and] at absent
    have none : p.coeff (Finsupp.single letter k) = 0 := by
      by_contra present
      exact absent (MvPolynomial.mem_support_iff.mpr present) Finsupp.single_eq_same
    rw [none, zero_mul]

/-- On the lines through one the cross terms come on top. -/
theorem coeff_onLine_one {k : ℕ} (nonzero : k ≠ 0) :
    (onLine 1 letter p).coeff k = p.coeff (Finsupp.single letter k) +
      ∑ m ∈ p.support.filter (fun m => IsCross m ∧ m letter = k), p.coeff m := by
  simp only [coeff_onLine, one_pow, Finset.prod_const_one, mul_one]
  rw [← Finset.sum_filter_add_sum_filter_not _ IsCross, add_comm, Finset.filter_filter,
    Finset.filter_filter]
  congr 1
  · rw [Finset.sum_eq_single (Finsupp.single letter k)]
    · intro m hm distinct
      obtain ⟨-, power, pure_⟩ := Finset.mem_filter.mp hm
      exact (distinct (power ▸ eq_single_of_not_isCross pure_ (power ▸ nonzero))).elim
    · intro absent
      rw [Finset.mem_filter, not_and] at absent
      by_contra present
      exact absent (MvPolynomial.mem_support_iff.mpr present)
        ⟨Finsupp.single_eq_same, not_isCross_single letter k⟩
  · simp only [and_comm]

section Lines

variable {letters : Finset Char} (slope : Char → ℚ)

noncomputable def affineForm (letters : Finset Char) (slope : Char → ℚ) (k : ℚ) :
    MvPolynomial Char ℚ :=
  MvPolynomial.C k + ∑ v ∈ letters, MvPolynomial.C (slope v) * MvPolynomial.X v

theorem eval_affineForm (k : ℚ) (at_ : Char → ℚ) :
    MvPolynomial.eval at_ (affineForm letters slope k) = k + ∑ v ∈ letters, slope v * at_ v := by
  simp [affineForm]

/-- An affine polynomial is a line on every line. -/
theorem onLine_affineForm (k : ℚ) {v : Char} (hv : v ∈ letters) :
    onLine base v (affineForm letters slope k) =
      C (k + base * (∑ w ∈ letters, slope w - slope v)) + C (slope v) * X := by
  refine funext fun t => ?_
  have others : ∑ w ∈ letters.erase v, slope w * line base v t w =
      base * (∑ w ∈ letters, slope w - slope v) := by
    rw [← Finset.sum_erase_eq_sub hv, Finset.mul_sum]
    refine Finset.sum_congr rfl fun w hw => ?_
    rw [line, if_neg (Finset.ne_of_mem_erase hw), mul_comm]
  rw [eval_onLine, eval_affineForm, ← Finset.sum_erase_add _ _ hv, others, line, if_pos rfl,
    eval_add, eval_C, eval_mul, eval_C, eval_X, add_assoc]

/-- Only an affine quotient agrees with an affine function on the lines through zero, and up to a
constant on those through one. -/
def ShownOnLines (letters : Finset Char) (n d : MvPolynomial Char ℚ) : Prop :=
  ∀ (slope : Char → ℚ) (k κ : ℚ),
    (∀ v ∈ letters, onLine 0 v (n - affineForm letters slope k * d) = 0 ∧
      onLine 1 v (n - affineForm letters slope k * d) = C κ * onLine 1 v d) →
      n = affineForm letters slope k * d

theorem coeff_single_of_lines
    (throughZero : ∀ v ∈ letters, ∃ k, onLine 0 v p = C k + C (slope v) * X) {v : Char}
    (hv : v ∈ letters) {k : ℕ} (nonzero : k ≠ 0) :
    p.coeff (Finsupp.single v k) = if k = 1 then slope v else 0 := by
  obtain ⟨k₀, zero⟩ := throughZero v hv
  rw [← coeff_onLine_zero nonzero, zero]
  simp [coeff_C, nonzero, coeff_X, eq_comm]

/-- The cross terms of a polynomial cancel that is a line on all these lines, with the same slope
through zero and through one. -/
theorem crossTermsCancel_of_lines (vars : p.vars ⊆ letters)
    (throughZero : ∀ v ∈ letters, ∃ k, onLine 0 v p = C k + C (slope v) * X)
    (throughOne : ∀ v ∈ letters, ∃ k, onLine 1 v p = C k + C (slope v) * X) :
    CrossTermsCancel p := by
  intro v k nonzero
  by_cases hv : v ∈ letters
  · obtain ⟨k₁, one⟩ := throughOne v hv
    have cancel : (onLine 1 v p).coeff k = _ := coeff_onLine_one nonzero
    rw [one, coeff_single_of_lines slope throughZero hv nonzero] at cancel
    simpa [coeff_C, nonzero, coeff_X, eq_comm] using cancel
  · refine Finset.sum_eq_zero fun m hm => ?_
    obtain ⟨support, -, rfl⟩ := Finset.mem_filter.mp hm
    exact (hv (vars ((MvPolynomial.mem_vars_iff_mem_support v).mpr
      ⟨m, support, Finsupp.mem_support_iff.mpr nonzero⟩))).elim

/-- A polynomial that is a line on all these lines, with the same slope through zero and through
one, has no cross terms unless they cancel, and no higher powers. -/
theorem eq_affine_of_lines (vars : p.vars ⊆ letters) (stand : CrossTermsStand p)
    (throughZero : ∀ v ∈ letters, ∃ k, onLine 0 v p = C k + C (slope v) * X)
    (throughOne : ∀ v ∈ letters, ∃ k, onLine 1 v p = C k + C (slope v) * X) :
    p = affineForm letters slope (p.coeff 0) := by
  have power {v : Char} (hv : v ∈ letters) {k : ℕ} (nonzero : k ≠ 0) :=
    coeff_single_of_lines slope throughZero hv nonzero
  have cross := stand (crossTermsCancel_of_lines slope vars throughZero throughOne)
  ext m
  rw [affineForm, MvPolynomial.coeff_add, MvPolynomial.coeff_C, MvPolynomial.coeff_sum]
  simp only [MvPolynomial.coeff_C_mul, MvPolynomial.coeff_X]
  by_cases several : IsCross m
  · have others (v : Char) : Finsupp.single v 1 ≠ m := fun same =>
      not_isCross_single v 1 (same ▸ several)
    have nonzero : 0 ≠ m := by
      rintro rfl
      simp [IsCross] at several
    simp [cross m several, others, nonzero]
  · by_cases constant : m = 0
    · simp [constant]
    · obtain ⟨v, occurs⟩ := Finsupp.ne_iff.mp constant
      rw [Finsupp.zero_apply] at occurs
      have single := eq_single_of_not_isCross several occurs
      have match_ (w : Char) : Finsupp.single w 1 = m ↔ w = v ∧ 1 = m v := by
        rw [single, Finsupp.single_eq_single_iff]
        simp
      rw [if_neg (Ne.symm constant), zero_add]
      simp only [match_, mul_ite, mul_one, mul_zero]
      by_cases hv : v ∈ letters
      · rw [single, power hv occurs, Finset.sum_eq_single v]
        · simp [eq_comm]
        · intro w _ other
          rw [if_neg fun h => other h.1]
        · exact fun absent => (absent hv).elim
      · have absent : p.coeff m = 0 := by
          by_contra present
          exact hv (vars ((MvPolynomial.mem_vars_iff_mem_support v).mpr
            ⟨m, MvPolynomial.mem_support_iff.mpr present, Finsupp.mem_support_iff.mpr occurs⟩))
        rw [absent, Finset.sum_eq_zero]
        intro w hw
        have different : ¬ (w = v ∧ 1 = m v) := fun h => hv (h.1 ▸ hw)
        rw [if_neg different]

/-- Cross terms that do not cancel show on the lines. -/
theorem CrossTermsStand.shownOnLines (stand : CrossTermsStand p) (vars : p.vars ⊆ letters)
    (some_ : letters.Nonempty) : ShownOnLines letters p 1 := by
  intro slope k κ lines
  simp only [onLine_sub, mul_one, onLine_one] at lines ⊢
  have throughZero {v : Char} (hv : v ∈ letters) : onLine 0 v p = C k + C (slope v) * X := by
    rw [sub_eq_zero.mp (lines v hv).1, onLine_affineForm slope k hv, zero_mul, add_zero]
  have throughOne {v : Char} (hv : v ∈ letters) :
      onLine 1 v p = C (κ + (k + 1 * (∑ w ∈ letters, slope w - slope v))) + C (slope v) * X := by
    rw [sub_eq_iff_eq_add.mp (lines v hv).2, onLine_affineForm slope k hv, ← add_assoc, ← C_add]
  have affine := eq_affine_of_lines slope vars stand (fun v hv => ⟨_, throughZero hv⟩)
    fun v hv => ⟨_, throughOne hv⟩
  obtain ⟨v, hv⟩ := some_
  have constant : p.coeff 0 = k := by
    have same := throughZero hv
    rw [affine, onLine_affineForm slope _ hv, zero_mul, add_zero] at same
    simpa using congrArg (eval 0) same
  rwa [constant] at affine

end Lines
end WorkedAlgebra
