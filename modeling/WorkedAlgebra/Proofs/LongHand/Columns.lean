import WorkedAlgebra.Proofs.Derivations
import WorkedAlgebra.Proofs.LongHand.Products

/-!
The written layout of a long multiplication. Its lines are the factors, the partial products when
there are several, and the product; all of them are equally long, and every number ends in the last
column.
-/

namespace WorkedAlgebra.LongHand

inductive Row where
  | number (n : Nat)
  /-- The second factor behind the sign of multiplication. -/
  | factor (n : Nat)
  | rule
deriving DecidableEq, Repr

namespace Row

/-- A line of some width in which a row is aligned: a number stands behind two blanks at least and
ends in the last column, and the second factor stands behind its sign and one blank at least. -/
inductive Aligned (width : Nat) : Row → List Char → Prop
  | number {n blanks : Nat} (room : 2 ≤ blanks)
      (full : blanks + (Nat.toDigits 10 n).length = width) :
      Aligned width (.number n) (List.replicate blanks ' ' ++ Nat.toDigits 10 n)
  | factor {n blanks : Nat} (apart : 1 ≤ blanks)
      (full : 1 + blanks + (Nat.toDigits 10 n).length = width) :
      Aligned width (.factor n) ('×' :: (List.replicate blanks ' ' ++ Nat.toDigits 10 n))
  | rule : Aligned width .rule (List.replicate width '-')

theorem Aligned.length_eq {width : Nat} {row : Row} {line : List Char}
    (aligned : row.Aligned width line) : line.length = width := by
  cases aligned with
  | number room full => simpa using full
  | factor apart full =>
    rw [List.length_cons, List.length_append, List.length_replicate]
    omega
  | rule => exact List.length_replicate

def line (width : Nat) : Row → String
  | .number n => padLeft width (toString n)
  | .factor n => "×" ++ padLeft (width - 1) (toString n)
  | .rule => String.ofList (List.replicate width '-')

def HasRoom (width : Nat) : Row → Prop
  | .number n | .factor n => (toString n).length + 2 ≤ width
  | .rule => True

theorem length_toString (n : Nat) : (toString n).length = (Nat.toDigits 10 n).length := by
  rw [← String.length_toList]
  simp

theorem toList_padLeft (width n : Nat) :
    (padLeft width (toString n)).toList =
      List.replicate (width - (Nat.toDigits 10 n).length) ' ' ++ Nat.toDigits 10 n := by
  rw [padLeft, length_toString]
  simp

theorem aligned_line {width : Nat} {row : Row} (room : row.HasRoom width) :
    row.Aligned width (row.line width).toList := by
  cases row with
  | number n =>
    rw [HasRoom, length_toString] at room
    rw [line, toList_padLeft]
    exact .number (by omega) (by omega)
  | factor n =>
    rw [HasRoom, length_toString] at room
    rw [line, String.toList_append, toList_padLeft]
    exact .factor (by omega) (by omega)
  | rule =>
    rw [line, String.toList_ofList]
    exact .rule

/-- No line of a row is broken. -/
theorem Aligned.unbroken {width : Nat} {row : Row} {line : List Char}
    (aligned : row.Aligned width line) : '\n' ∉ line := by
  have blanks (k : Nat) (n : Nat) : '\n' ∉ List.replicate k ' ' ++ Nat.toDigits 10 n := by
    rw [List.mem_append, not_or]
    refine ⟨fun mem => ?_, fun mem => ?_⟩
    · exact absurd (List.eq_of_mem_replicate mem) (by decide)
    · exact absurd (Numeral.isDigit_of_mem_toDigits _ mem) (by decide)
  cases aligned with
  | number => exact blanks _ _
  | factor => exact List.not_mem_cons_of_ne_of_not_mem (by decide) (blanks _ _)
  | rule => exact fun mem => absurd (List.eq_of_mem_replicate mem) (by decide)

end Row

/-- The parts of lines that were joined are these lines. -/
theorem pieces_intercalate {lines : List (List Char)} (nonempty : lines ≠ [])
    (unbroken : ∀ line ∈ lines, '\n' ∉ line) : pieces '\n' (['\n'].intercalate lines) = lines := by
  induction lines with
  | nil => exact absurd rfl nonempty
  | cons first others ih =>
    have first_unbroken := unbroken first List.mem_cons_self
    cases others with
    | nil => simpa [List.intercalate] using pieces_of_absent first_unbroken
    | cons next others =>
      have cut := pieces_cut first_unbroken (['\n'].intercalate (next :: others))
      rw [ih (List.cons_ne_nil _ _) fun line mem => unbroken line (List.mem_cons_of_mem first mem)]
        at cut
      simpa [List.intercalate] using cut

/-- What stands in the lines of the layout: both factors, the products with the digits of the
second one when there are several, and the product. -/
def layoutRows (x y : Nat) : List Row :=
  [.number x, .factor y, .rule] ++
    (if 2 ≤ (placeValues y).length then
      (placeValues y).map (fun d => .number (x * d)) ++ [.rule] else []) ++
    [.number (x * y)]

def layoutWidth (x y : Nat) : Nat :=
  (([x, y, x * y] ++ (placeValues y).map (x * ·)).map fun n => (toString n).length).foldl max 1 + 2

theorem multiplicationColumn_eq (x y : Nat) :
    multiplicationColumn x y ((placeValues y).map (x * ·)) (x * y) =
      "\n".intercalate ((layoutRows x y).map (Row.line (layoutWidth x y))) := by
  have several : 1 < ((placeValues y).map (x * ·)).length ↔ 2 ≤ (placeValues y).length := by
    rw [List.length_map, Nat.lt_iff_add_one_le]
  simp only [multiplicationColumn, layoutRows, gt_iff_lt, several, List.map_append, List.map_map]
  split <;> simp [layoutWidth, Row.line, Function.comp_def]

theorem le_foldl_max {start n : Nat} {widths : List Nat} (mem : n ∈ widths) :
    n ≤ widths.foldl max start :=
  (List.max?_eq_some_iff.mp List.max?_cons').2 n (List.mem_cons_of_mem start mem)

/-- The width is taken from all numbers that are written. -/
theorem hasRoom_of_mem {x y : Nat} {row : Row} (mem : row ∈ layoutRows x y) :
    row.HasRoom (layoutWidth x y) := by
  have written {n : Nat} (mem : .number n ∈ layoutRows x y ∨ .factor n ∈ layoutRows x y) :
      n ∈ [x, y, x * y] ++ (placeValues y).map (x * ·) := by
    unfold layoutRows at mem
    split at mem <;> simp at mem ⊢ <;> tauto
  have room {n : Nat} (among : n ∈ [x, y, x * y] ++ (placeValues y).map (x * ·)) :
      (toString n).length + 2 ≤ layoutWidth x y :=
    Nat.add_le_add_right
      (le_foldl_max (List.mem_map_of_mem (f := fun n => (toString n).length) among)) 2
  cases row with
  | number n => exact room (written (.inl mem))
  | factor n => exact room (written (.inr mem))
  | rule => trivial

theorem pieces_multiplicationColumn (x y : Nat) :
    pieces '\n' (multiplicationColumn x y ((placeValues y).map (x * ·)) (x * y)).toList =
      (layoutRows x y).map fun row => (row.line (layoutWidth x y)).toList := by
  rw [multiplicationColumn_eq, String.toList_intercalate, List.map_map]
  refine pieces_intercalate (by simp [layoutRows]) fun line mem => ?_
  obtain ⟨row, written, rfl⟩ := List.mem_map.mp mem
  exact (Row.aligned_line (hasRoom_of_mem written)).unbroken

/-- The lines of the written layout are the factors, the partial products when there are several,
and the product. All of them have one width, in which each number ends in the last column. -/
theorem multiply_columns (a b : Int) :
    ∃ width text, (multiply a b).column = some text ∧
      List.Forall₂ (Row.Aligned width) (layoutRows a.natAbs b.natAbs)
        (pieces '\n' text.toList) ∧
      ∀ line ∈ pieces '\n' text.toList, line.length = width := by
  have products : (digitProducts a.natAbs b.natAbs).map (·.product) =
      (placeValues b.natAbs).map (a.natAbs * ·) := by
    simp [digitProducts_eq]
  have total : ((placeValues b.natAbs).map (a.natAbs * ·)).foldl (· + ·) 0 =
      a.natAbs * b.natAbs := by
    rw [← products, products_total, Int.natAbs_mul]
  have aligned {row : Row} (mem : row ∈ layoutRows a.natAbs b.natAbs) :=
    Row.aligned_line (hasRoom_of_mem mem)
  refine ⟨layoutWidth a.natAbs b.natAbs, multiplicationColumn a.natAbs b.natAbs
    ((placeValues b.natAbs).map (a.natAbs * ·)) (a.natAbs * b.natAbs), ?_, ?_, ?_⟩
  · simp only [multiply, products, total]
  · rw [pieces_multiplicationColumn]
    exact List.forall₂_map_right_iff.mpr (List.forall₂_same.mpr fun row mem => aligned mem)
  · intro line mem
    rw [pieces_multiplicationColumn] at mem
    obtain ⟨row, written, rfl⟩ := List.mem_map.mp mem
    exact (aligned written).length_eq

end WorkedAlgebra.LongHand
