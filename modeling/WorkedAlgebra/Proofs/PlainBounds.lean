import WorkedAlgebra.Proofs.NearlyAffine
import WorkedAlgebra.Proofs.PlainReadings

/-!
How far the numbers that are read off plain sides are from exact ones. With moderately many terms of
moderate size all errors stay below the tolerance of probing.
-/

namespace WorkedAlgebra

open Rounding Scalar Probe

def leadFactor : Option TermSign → ℚ
  | none | some .plus => 1
  | some .minus => -1

theorem abs_leadFactor_mul (lead : Option TermSign) (q : ℚ) : |leadFactor lead * q| = |q| := by
  rcases lead with _ | _ | _ <;> simp [leadFactor]

theorem Denotes.signed {v : Float} {q : ℚ} (h : Denotes v q) (lead : Option TermSign) :
    Denotes (WorkedAlgebra.signed lead v) (leadFactor lead * q) := by
  rcases lead with _ | _ | _
  · rwa [leadFactor, one_mul]
  · rwa [leadFactor, one_mul]
  · rw [leadFactor, neg_one_mul]
    exact h.neg

theorem Near.join {u v : Float} {p q ε η m : ℚ} (hu : Near u p ε) (hv : Near v q η) (s : TermSign)
    (bound : |p + leadFactor (some s) * q| + (ε + η) ≤ m) (small : m < 2 ^ (1023 : Int)) :
    Near (s.join u v) (p + leadFactor (some s) * q) (ε + η + slack m) := by
  cases s with
  | plus =>
      rw [leadFactor, one_mul] at *
      exact hu.add hv bound (.inl small)
  | minus =>
      rw [leadFactor, neg_one_mul, ← sub_eq_add_neg] at *
      exact hu.sub hv bound (.inl small)

/-- Errors add up step by step. -/
theorem Near.foldl {β : Type} (items : List β) (step : Float → β → Float)
    (exact_ weight : β → ℚ) {m : ℚ} (bounded : ∀ b ∈ items, |exact_ b| ≤ weight b)
    (grow : ∀ b ∈ items, ∀ v p ε, Near v p ε → |p| + weight b + ε + 2 * slack m ≤ m →
      Near (step v b) (p + exact_ b) (ε + 2 * slack m)) {v : Float} {p ε : ℚ} (start : Near v p ε)
    (room : |p| + (items.map weight).sum + ε + 2 * items.length * slack m ≤ m)
    (nonneg : 0 ≤ slack m) :
    Near (items.foldl step v) (p + (items.map exact_).sum) (ε + 2 * items.length * slack m) := by
  induction items generalizing v p ε with
  | nil => simpa using start
  | cons b items ih =>
      have rest : 0 ≤ (items.map weight).sum := List.sum_nonneg (by
        intro w hw
        obtain ⟨c, hc, rfl⟩ := List.mem_map.mp hw
        exact (abs_nonneg _).trans (bounded c (List.mem_cons_of_mem b hc)))
      have count : (0 : ℚ) ≤ items.length * slack m := mul_nonneg (Nat.cast_nonneg _) nonneg
      simp only [List.map_cons, List.sum_cons, List.length_cons, Nat.cast_add, Nat.cast_one] at room
      have next := grow b List.mem_cons_self v p ε start (by linarith)
      have size := (abs_add_le p (exact_ b)).trans
        (add_le_add_right (bounded b List.mem_cons_self) |p|)
      have final := ih (fun c hc => bounded c (List.mem_cons_of_mem b hc))
        (fun c hc => grow c (List.mem_cons_of_mem b hc)) next (by linarith)
      simp only [List.foldl_cons, List.map_cons, List.sum_cons, List.length_cons, Nat.cast_add,
        Nat.cast_one]
      rw [← add_assoc]
      exact final.mono (by linarith)

namespace PlainTerm

def Finite : PlainTerm → Prop
  | .number n | .product n _ => isFinite (n.scalar : Float) = true
  | .letter _ => True

instance : (t : PlainTerm) → Decidable t.Finite
  | .number n | .product n _ => inferInstanceAs (Decidable (Scalar.isFinite (n.scalar : Float) = true))
  | .letter _ => isTrue trivial

/-- The magnitude of the literal; one for a letter alone. -/
def weight : PlainTerm → ℚ
  | .number n | .product n _ => |floatValue n.scalar|
  | .letter _ => 1

def exact (at_ : Char → ℚ) : PlainTerm → ℚ
  | .number n => floatValue n.scalar
  | .letter l => at_ l.name
  | .product n l => floatValue n.scalar * at_ l.name

def exactConstant : PlainTerm → ℚ
  | .number n => floatValue n.scalar
  | _ => 0

def exactCoefficient (letter : Char) : PlainTerm → ℚ
  | .number _ => 0
  | .letter l => if l.name = letter then 1 else 0
  | .product n l => if l.name = letter then floatValue n.scalar else 0

theorem weight_nonneg (t : PlainTerm) : 0 ≤ t.weight := by
  cases t with
  | number n | product n l => exact abs_nonneg _
  | letter l => exact zero_le_one

theorem abs_exactCoefficient_le (letter : Char) (t : PlainTerm) :
    |t.exactCoefficient letter| ≤ t.weight := by
  cases t with
  | number n => simp [exactCoefficient, weight]
  | letter l => by_cases here : l.name = letter <;> simp [exactCoefficient, weight, here]
  | product n l => by_cases here : l.name = letter <;> simp [exactCoefficient, weight, here]

theorem abs_exact_le {at_ : Char → ℚ} (bound : ∀ c, |at_ c| ≤ 13 / 4) (t : PlainTerm) :
    |t.exact at_| ≤ 13 / 4 * t.weight := by
  cases t with
  | number n =>
      have := abs_nonneg (floatValue n.scalar)
      unfold exact weight
      linarith
  | letter l => simpa [exact, weight] using bound l.name
  | product n l =>
      rw [exact, weight, abs_mul, mul_comm]
      exact mul_le_mul_of_nonneg_right (bound l.name) (abs_nonneg _)

/-- Where one letter is `x` and the others are zero. -/
theorem exact_line (letter : Char) (x : ℚ) (t : PlainTerm) :
    t.exact (fun c => if c = letter then x else 0) =
      t.exactConstant + t.exactCoefficient letter * x := by
  cases t with
  | number n => simp [exact, exactConstant, exactCoefficient]
  | letter l => simp [exact, exactConstant, exactCoefficient]
  | product n l => simp [exact, exactConstant, exactCoefficient]

variable {m : ℚ} {t : PlainTerm}

theorem near_value {at_ : Char → Float} {exactAt : Char → ℚ}
    (denotes : ∀ c, Denotes (at_ c) (exactAt c)) (bound : ∀ c, |exactAt c| ≤ 13 / 4)
    (finite : t.Finite) (size : 13 / 4 * t.weight ≤ m) (small : m < 2 ^ (1023 : Int))
    (nonneg : 0 ≤ slack m) (lead : Option TermSign) :
    Near (t.value at_ lead) (leadFactor lead * t.exact exactAt) (slack m) := by
  cases t with
  | number n => exact ((denotes_value finite).signed lead).near.mono nonneg
  | letter l => exact ((denotes l.name).signed lead).near.mono nonneg
  | product n l =>
      have literal := ((denotes_value finite).signed lead).near
      have fits : |leadFactor lead * floatValue n.scalar * exactAt l.name| + 0 * |exactAt l.name| ≤
          m := by
        rw [zero_mul, add_zero, mul_assoc, abs_leadFactor_mul]
        exact (abs_exact_le bound (.product n l)).trans size
      have product := literal.mul (denotes l.name) fits (.inl small)
      rw [zero_mul, zero_add, mul_assoc] at product
      exact product

theorem near_addTo {letter : Char} (lower : letter.toLower = letter) (finite : t.Finite)
    {sum : Float} {a ε : ℚ} (start : Near sum a ε) (lead : Option TermSign)
    (room : |a| + t.weight + ε ≤ m) (small : m < 2 ^ (1023 : Int)) (nonneg : 0 ≤ slack m) :
    Near (t.addTo letter sum lead) (a + leadFactor lead * t.exactCoefficient letter)
      (ε + slack m) := by
  have size := abs_add_le a (leadFactor lead * t.exactCoefficient letter)
  rw [abs_leadFactor_mul] at size
  have fits := (add_le_add_left (size.trans (add_le_add_right
    (t.abs_exactCoefficient_le letter) |a|)) (ε + 0)).trans (by linarith : _ ≤ m)
  have same (l : Letter) : LinearForm.isLetter letter l.written = decide (l.name = letter) := by
    rw [LinearForm.isLetter, lower]
    rfl
  cases t with
  | number n => simpa [addTo, coefficient?, exactCoefficient] using start.mono (by linarith)
  | letter l =>
      by_cases here : l.name = letter
      · simp only [exactCoefficient, here, if_true, addTo, coefficient?, same, decide_true]
          at fits ⊢
        simpa using start.add (denotes_one.signed lead).near fits (.inl small)
      · simpa [addTo, coefficient?, exactCoefficient, same, here] using start.mono (by linarith)
  | product n l =>
      by_cases here : l.name = letter
      · simp only [exactCoefficient, here, if_true, addTo, coefficient?, same, decide_true]
          at fits ⊢
        simpa using start.add ((denotes_value finite).signed lead).near fits (.inl small)
      · simpa [addTo, coefficient?, exactCoefficient, same, here] using start.mono (by linarith)

end PlainTerm

namespace PlainSide

def total (q : PlainTerm → ℚ) (side : PlainSide) : ℚ :=
  leadFactor side.lead * q side.first +
    (side.rest.map fun st => leadFactor (some st.1) * q st.2).sum

def size (side : PlainSide) : Nat := side.rest.length + 1

/-- The sum of the magnitudes of all literals, with one for each letter that has none. -/
def weight (side : PlainSide) : ℚ := side.first.weight + (side.rest.map fun st => st.2.weight).sum

def Finite (side : PlainSide) : Prop := side.first.Finite ∧ ∀ st ∈ side.rest, st.2.Finite

instance (side : PlainSide) : Decidable side.Finite :=
  inferInstanceAs (Decidable (_ ∧ ∀ st ∈ side.rest, st.2.Finite))

theorem total_add_mul (f g : PlainTerm → ℚ) (x : ℚ) (side : PlainSide) :
    side.total (fun t => f t + g t * x) = side.total f + side.total g * x := by
  have rest : (side.rest.map fun st => leadFactor (some st.1) * (f st.2 + g st.2 * x)).sum =
      (side.rest.map fun st => leadFactor (some st.1) * f st.2).sum +
        (side.rest.map fun st => leadFactor (some st.1) * g st.2).sum * x := by
    rw [← List.sum_map_mul_right, ← List.sum_map_add]
    simp only [mul_add, mul_assoc]
  rw [total, total, total, rest]
  ring

theorem abs_total_le {q : PlainTerm → ℚ} {a : ℚ} (bound : ∀ t, |q t| ≤ a * t.weight)
    (side : PlainSide) : |side.total q| ≤ a * side.weight := by
  have rest : |(side.rest.map fun st => leadFactor (some st.1) * q st.2).sum| ≤
      a * (side.rest.map fun st => st.2.weight).sum := by
    induction side.rest with
    | nil => simp
    | cons st rest ih =>
        simp only [List.map_cons, List.sum_cons, mul_add]
        refine (abs_add_le _ _).trans (add_le_add ?_ ih)
        rw [abs_leadFactor_mul]
        exact bound st.2
  rw [total, weight, mul_add]
  refine (abs_add_le _ _).trans (add_le_add ?_ rest)
  rw [abs_leadFactor_mul]
  exact bound side.first

theorem weight_rest_nonneg (rest : List (TermSign × PlainTerm)) :
    0 ≤ (rest.map fun st => st.2.weight).sum :=
  List.sum_nonneg (by
    intro w hw
    obtain ⟨st, -, rfl⟩ := List.mem_map.mp hw
    exact st.2.weight_nonneg)

variable {m : ℚ} {side : PlainSide}

theorem near_value {at_ : Char → Float} {exactAt : Char → ℚ}
    (denotes : ∀ c, Denotes (at_ c) (exactAt c)) (bound : ∀ c, |exactAt c| ≤ 13 / 4)
    (finite : side.Finite) (room : 13 / 4 * side.weight + 2 * side.size * slack m ≤ m)
    (small : m < 2 ^ (1023 : Int)) (nonneg : 0 ≤ slack m) :
    Near (side.value at_) (side.total (·.exact exactAt)) (2 * side.size * slack m) := by
  have first := side.first.weight_nonneg
  have rest := weight_rest_nonneg side.rest
  have count : (0 : ℚ) ≤ side.rest.length * slack m := mul_nonneg (Nat.cast_nonneg _) nonneg
  simp only [size, Nat.cast_add, Nat.cast_one] at room ⊢
  unfold weight at room
  have start := side.first.near_value denotes bound finite.1 (by linarith) small nonneg side.lead
  have lead : |leadFactor side.lead * side.first.exact exactAt| ≤ 13 / 4 * side.first.weight := by
    rw [abs_leadFactor_mul]
    exact side.first.abs_exact_le bound
  have weights : (side.rest.map fun st => 13 / 4 * st.2.weight).sum =
      13 / 4 * (side.rest.map fun st => st.2.weight).sum := List.sum_map_mul_left _ _ _
  have sum := Near.foldl side.rest (fun v st => st.1.join v (st.2.value at_ none))
    (fun st => leadFactor (some st.1) * st.2.exact exactAt) (fun st => 13 / 4 * st.2.weight)
    (fun st _ => by
      rw [abs_leadFactor_mul]
      exact st.2.abs_exact_le bound)
    (fun st mem v p ε near fits => by
      have size := (abs_add_le p (leadFactor (some st.1) * st.2.exact exactAt)).trans
        (add_le_add_right ((abs_leadFactor_mul _ _).trans_le (st.2.abs_exact_le bound)) |p|)
      have pos := abs_nonneg p
      have := near.nonneg
      have term := st.2.near_value denotes bound (finite.2 st mem) (by linarith) small nonneg none
      rw [leadFactor, one_mul] at term
      exact (near.join term st.1 (by linarith) small).mono (by linarith))
    start (by rw [weights]; linarith) nonneg
  exact sum.mono (by linarith)

theorem near_coefficient {letter : Char} (lower : letter.toLower = letter) (finite : side.Finite)
    (room : side.weight + 2 * side.size * slack m ≤ m) (small : m < 2 ^ (1023 : Int))
    (nonneg : 0 ≤ slack m) :
    Near (side.coefficient letter) (side.total (·.exactCoefficient letter))
      (2 * side.size * slack m) := by
  have first := side.first.weight_nonneg
  have rest := weight_rest_nonneg side.rest
  have count : (0 : ℚ) ≤ side.rest.length * slack m := mul_nonneg (Nat.cast_nonneg _) nonneg
  simp only [size, Nat.cast_add, Nat.cast_one] at room ⊢
  unfold weight at room
  have start := PlainTerm.near_addTo lower finite.1 denotes_zero.near side.lead
    (by rw [abs_zero]; linarith) small nonneg
  have lead : |leadFactor side.lead * side.first.exactCoefficient letter| ≤ side.first.weight := by
    rw [abs_leadFactor_mul]
    exact side.first.abs_exactCoefficient_le letter
  rw [zero_add, zero_add] at start
  have sum := Near.foldl side.rest (fun sum st => st.2.addTo letter sum (some st.1))
    (fun st => leadFactor (some st.1) * st.2.exactCoefficient letter) (fun st => st.2.weight)
    (fun st _ => by
      rw [abs_leadFactor_mul]
      exact st.2.abs_exactCoefficient_le letter)
    (fun st mem v p ε near fits =>
      (PlainTerm.near_addTo lower (finite.2 st mem) near (some st.1) (by linarith) small
        nonneg).mono (by linarith))
    start (by linarith) nonneg
  exact sum.mono (by linarith)

theorem weight_nonneg (side : PlainSide) : 0 ≤ side.weight :=
  add_nonneg side.first.weight_nonneg (weight_rest_nonneg side.rest)

/-- Where one letter is `x` and the others are zero. -/
theorem total_line (letter : Char) (x : ℚ) (side : PlainSide) :
    side.total (·.exact fun c => if c = letter then x else 0) =
      side.total PlainTerm.exactConstant + side.total (·.exactCoefficient letter) * x := by
  rw [← total_add_mul]
  exact congrArg (fun q => side.total q) (funext fun t => t.exact_line letter x)

end PlainSide

/-- One letter has a value and the others are zero. -/
def alone (letter : Char) (x : Float) (c : Char) : Float := if c = letter then x else zero

structure Moderate (left right : PlainSide) : Prop where
  finiteLeft : left.Finite
  finiteRight : right.Finite
  bound : (left.size + right.size : Nat) * (left.weight + right.weight + 1) ≤ 100000

instance (left right : PlainSide) : Decidable (Moderate left right) :=
  decidable_of_iff (left.Finite ∧ right.Finite ∧
      (left.size + right.size : Nat) * (left.weight + right.weight + 1) ≤ 100000)
    ⟨fun h => ⟨h.1, h.2.1, h.2.2⟩, fun h => ⟨h.finiteLeft, h.finiteRight, h.bound⟩⟩

theorem denotes_alone {x : Float} {t : ℚ} (h : Denotes x t) (letter c : Char) :
    Denotes (alone letter x c) (if c = letter then t else 0) := by
  unfold alone
  split
  · exact h
  · exact denotes_zero

theorem abs_alone_le {t : ℚ} (ht : t ∈ exactPoints) (letter c : Char) :
    |if c = letter then t else 0| ≤ 13 / 4 := by
  split
  · exact abs_exactPoint_le ht
  · norm_num

namespace Moderate

variable {left right : PlainSide}

def top (left right : PlainSide) : ℚ := 13 / 4 * (left.weight + right.weight + 1)

theorem slack_top_nonneg (left right : PlainSide) : 0 ≤ slack (top left right) := by
  have := left.weight_nonneg
  have := right.weight_nonneg
  exact slack_nonneg (by unfold top; linarith)

theorem two_le_size (left right : PlainSide) : (2 : ℚ) ≤ (left.size + right.size : Nat) := by
  have : 2 ≤ left.size + right.size := by
    unfold PlainSide.size
    omega
  exact_mod_cast this

theorem count_slack_le (h : Moderate left right) :
    (left.size + right.size : Nat) * slack (top left right) ≤ 361 / 10000000000000 := by
  have hl := left.weight_nonneg
  have hr := right.weight_nonneg
  have bound := h.bound
  have many := two_le_size left right
  obtain ⟨n, hn⟩ : ∃ n : ℚ, ((left.size + right.size : Nat) : ℚ) = n := ⟨_, rfl⟩
  rw [hn] at bound many ⊢
  have count : n ≤ 100000 := by
    have : n * 1 ≤ n * (left.weight + right.weight + 1) :=
      mul_le_mul_of_nonneg_left (by linarith) (by linarith)
    linarith
  have tiny : n * 2 ^ (-1075 : Int) ≤ n * (1 / 2 ^ 100) :=
    mul_le_mul_of_nonneg_left two_zpow_tiny (by linarith)
  have expanded : n * slack (top left right) =
      13 / 4 / 2 ^ 53 * (n * (left.weight + right.weight + 1)) + n * 2 ^ (-1075 : Int) := by
    rw [slack, top, two_zpow_neg]
    ring
  rw [expanded]
  linarith

theorem slack_le (h : Moderate left right) :
    slack (top left right) ≤ 361 / 20000000000000 := by
  have := mul_le_mul_of_nonneg_right (two_le_size left right) (slack_top_nonneg left right)
  linarith [h.count_slack_le]

theorem top_lt (h : Moderate left right) : top left right < 2 ^ (1023 : Int) := by
  have hl := left.weight_nonneg
  have hr := right.weight_nonneg
  have many := two_le_size left right
  have bound := h.bound
  have : 2 * (left.weight + right.weight + 1) ≤
      (left.size + right.size : Nat) * (left.weight + right.weight + 1) :=
    mul_le_mul_of_nonneg_right many (by linarith)
  calc top left right ≤ 2 ^ 20 := by
        unfold top
        linarith
    _ = 2 ^ (20 : Int) := by norm_num
    _ < 2 ^ (1023 : Int) := zpow_lt_zpow_right₀ (by norm_num) (by norm_num)

def differenceOn (left right : PlainSide) (letter : Char) (x : Float) : Float :=
  left.value (alone letter x) - right.value (alone letter x)

variable {letter : Char}

def errorCount (left right : PlainSide) : ℚ := 2 * (left.size + right.size : Nat) + 1

theorem budget (h : Moderate left right) :
    17 / 2 * (errorCount left right * slack (top left right)) + 25 / 4 * slack (top left right) ≤
      leastTolerance := by
  have many := h.count_slack_le
  have one := h.slack_le
  unfold errorCount leastTolerance
  linarith

theorem room (h : Moderate left right) :
    13 / 4 * left.weight + 2 * left.size * slack (top left right) ≤ top left right ∧
      13 / 4 * right.weight + 2 * right.size * slack (top left right) ≤ top left right ∧
        13 / 4 * (left.weight + right.weight) + 1 ≤ top left right ∧
          errorCount left right * slack (top left right) ≤ 1 := by
  have hl := left.weight_nonneg
  have hr := right.weight_nonneg
  have many := h.count_slack_le
  have one := h.slack_le
  have nonneg := slack_top_nonneg left right
  have countLeft : (0 : ℚ) ≤ left.size * slack (top left right) :=
    mul_nonneg (Nat.cast_nonneg _) nonneg
  have countRight : (0 : ℚ) ≤ right.size * slack (top left right) :=
    mul_nonneg (Nat.cast_nonneg _) nonneg
  push_cast at many
  have sum : top left right = 13 / 4 * (left.weight + right.weight + 1) := rfl
  unfold errorCount
  push_cast
  refine ⟨?_, ?_, ?_, ?_⟩
  · linarith
  · linarith
  · linarith
  · linarith

/-- The difference is that of a line, up to rounding. -/
theorem nearLine (h : Moderate left right) (letter : Char) :
    NearLine (differenceOn left right letter)
      (left.total PlainTerm.exactConstant - right.total PlainTerm.exactConstant)
      (left.total (·.exactCoefficient letter) - right.total (·.exactCoefficient letter))
      (errorCount left right * slack (top left right)) := by
  intro p mem t hp
  obtain ⟨u, hu, denotes⟩ := exists_exactPoint mem
  obtain rfl := hp.unique denotes
  have bound := abs_alone_le hu letter
  have values := denotes_alone hp letter
  have small := h.top_lt
  have nonneg := slack_top_nonneg left right
  obtain ⟨roomLeft, roomRight, both, few⟩ := h.room
  have nearLeft := PlainSide.near_value values bound h.finiteLeft roomLeft small nonneg
  have nearRight := PlainSide.near_value values bound h.finiteRight roomRight small nonneg
  have sizeLeft := left.abs_total_le fun s => s.abs_exact_le bound
  have sizeRight := right.abs_total_le fun s => s.abs_exact_le bound
  have near := nearLeft.sub nearRight (by
    have := abs_sub (left.total (·.exact fun c => if c = letter then t else 0))
      (right.total (·.exact fun c => if c = letter then t else 0))
    unfold errorCount at few
    push_cast at few
    linarith) (.inl small)
  rw [PlainSide.total_line, PlainSide.total_line] at near
  rw [show left.total PlainTerm.exactConstant - right.total PlainTerm.exactConstant +
      (left.total (·.exactCoefficient letter) - right.total (·.exactCoefficient letter)) * t =
      left.total PlainTerm.exactConstant + left.total (·.exactCoefficient letter) * t -
        (right.total PlainTerm.exactConstant + right.total (·.exactCoefficient letter) * t) by ring]
  refine near.mono (le_of_eq ?_)
  unfold errorCount
  push_cast
  ring

theorem abs_coefficient_le (left right : PlainSide) (letter : Char) :
    |left.total (·.exactCoefficient letter) - right.total (·.exactCoefficient letter)| ≤
      left.weight + right.weight := by
  have bound (t : PlainTerm) : |t.exactCoefficient letter| ≤ 1 * t.weight := by
    rw [one_mul]
    exact t.abs_exactCoefficient_le letter
  have sizeLeft := left.abs_total_le bound
  have sizeRight := right.abs_total_le bound
  rw [one_mul] at sizeLeft sizeRight
  exact (abs_sub _ _).trans (add_le_add sizeLeft sizeRight)

/-- Sides of moderate size pass the affine test. -/
theorem affineSlope (h : Moderate left right) (letter : Char) :
    Probe.affineSlope (differenceOn left right letter) =
      some (differenceOn left right letter one - differenceOn left right letter zero) := by
  refine (h.nearLine letter).affineSlope (fun t ht => ?_) (fun t ht => ?_) h.room.2.2.1 h.top_lt
    h.budget
  · have bound := abs_alone_le ht letter
    have sizeLeft := left.abs_total_le fun s => s.abs_exact_le bound
    have sizeRight := right.abs_total_le fun s => s.abs_exact_le bound
    rw [PlainSide.total_line] at sizeLeft sizeRight
    have size := (abs_sub _ _).trans (add_le_add sizeLeft sizeRight)
    rw [← mul_add] at size
    rwa [add_sub_add_comm, ← sub_mul] at size
  · rw [abs_mul, mul_comm]
    exact mul_le_mul (abs_exactPoint_le ht) (abs_coefficient_le left right letter) (abs_nonneg _)
      (by norm_num)

/-- On sides of moderate size the probed slope agrees with the coefficient that was read off. -/
theorem agrees (h : Moderate left right) (lower : letter.toLower = letter) :
    Probe.agrees (left.coefficient letter - right.coefficient letter)
      (differenceOn left right letter one - differenceOn left right letter zero) = true := by
  have hl := left.weight_nonneg
  have hr := right.weight_nonneg
  have small := h.top_lt
  have nonneg := slack_top_nonneg left right
  obtain ⟨roomLeft, roomRight, both, few⟩ := h.room
  have slopes := abs_coefficient_le left right letter
  have one_ := h.slack_le
  have sum : top left right = 13 / 4 * (left.weight + right.weight + 1) := rfl
  have errors : 0 ≤ errorCount left right * slack (top left right) :=
    (h.nearLine letter).atZero.nonneg
  have scannedLeft := PlainSide.near_coefficient lower h.finiteLeft (by linarith) small nonneg
  have scannedRight := PlainSide.near_coefficient lower h.finiteRight (by linarith) small nonneg
  have scanned : Near (left.coefficient letter - right.coefficient letter)
      (left.total (·.exactCoefficient letter) - right.total (·.exactCoefficient letter))
      (errorCount left right * slack (top left right)) := by
    refine (scannedLeft.sub scannedRight ?_ (.inl small)).mono (le_of_eq ?_)
    · unfold errorCount at few
      push_cast at few
      linarith
    · unfold errorCount
      push_cast
      ring
  have budget := h.budget
  have little : leastTolerance ≤ 1 := by norm_num [leastTolerance]
  have probed := (h.nearLine letter).slope (by linarith) small
  exact agrees_of_near scanned probed (by linarith) h.top_lt (by linarith)

end Moderate
end WorkedAlgebra
