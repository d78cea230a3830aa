import WorkedAlgebra.Decimal.Layout
import WorkedAlgebra.Proofs.Derivations
import WorkedAlgebra.Proofs.OffendingItems
import WorkedAlgebra.Proofs.WrittenCoefficients
import WorkedAlgebra.Report.Diagnostic

/-!
The columns of failures to solve an equation. Only reading a side gives a column. It counts the
characters before the item at fault, but of a run of signs in the same side it counts one only, so
it is too small when signs are adjacent before the item.
-/

namespace WorkedAlgebra

open Text

def Columnless {β : Type} (x : Except SolveError β) : Prop :=
  ∀ error, x = .error error → error.column? = none

namespace Columnless

theorem ok {β : Type} (b : β) : Columnless (.ok b) := by
  intro error failed
  cases failed

theorem bind {β γ : Type} {x : Except SolveError β} {f : β → Except SolveError γ}
    (first : Columnless x) (second : ∀ b, x = .ok b → Columnless (f b)) :
    Columnless (x >>= f) := by
  cases x with
  | error fault =>
      intro error failed
      cases failed
      exact first fault rfl
  | ok b => exact second b rfl

theorem mapM {β γ : Type} {f : β → Except SolveError γ} {bs : List β}
    (each : ∀ b ∈ bs, Columnless (f b)) : Columnless (bs.mapM f) := by
  induction bs with
  | nil => exact ok []
  | cons b bs ih =>
      rw [List.mapM_cons]
      refine bind (each b List.mem_cons_self) fun _ _ => bind (ih fun b' mem => ?_) fun _ _ => ok _
      exact each b' (List.mem_cons_of_mem b mem)

end Columnless

section Columns

variable {α : Type} [Scalar α]

theorem LinearForm.columnless_scan {letter : Char} (alpha : letter.isAlpha = true) {offset : Nat}
    {side : List Char} {e : Expr α} (parsed : Expr.ofSide offset side = .ok e) :
    Columnless (scanCoefficient (α := α) letter (collapseSigns side)) := by
  obtain ⟨v, scanned, -⟩ := scanCoefficient_of_parsed (P := fun _ _ => True) alpha parsed trivial
    (fun _ _ _ => trivial) (fun _ _ _ _ _ => ⟨trivial, trivial⟩)
  rw [scanned]
  exact .ok v

/-- A side that is an expression can only lack a value, which is nowhere in its text. -/
theorem LinearForm.columnless_decompose {letter : Char} (alpha : letter.isAlpha = true)
    {offset : Nat} {side : List Char} {e : Expr α} (parsed : Expr.ofSide offset side = .ok e) :
    Columnless (decompose (α := α) letter offset side) := by
  have again : Expr.ofSide (α := α) offset (collapseSigns side) = .ok e := by
    rw [Expr.ofSide, collapseSigns_collapseSigns]
    exact parsed
  refine .bind ?_ fun _ _ => .bind (.bind ?_ fun _ _ => ?_) fun _ _ => .ok _
  · intro error failed
    cases scanned : scanCoefficient (α := α) letter (collapseSigns side) with
    | ok v =>
        rw [scanned] at failed
        cases failed
    | error fault =>
        rw [scanned] at failed
        cases failed
        have none := columnless_scan alpha parsed fault scanned
        cases fault with
        | noVariable | malformed _ => rfl
        | expression _ column =>
            cases none
            rfl
  · rw [again]
    exact .ok e
  · intro error failed
    split at failed
    · cases failed
    · cases failed
      rfl

theorem CoefficientReading.columnless {sides : Sides} {probe : Probe α} {letters : List Char}
    {letter : Char} (alpha : letter.isAlpha = true) (trees : Probe.ofSides sides = .ok probe) :
    Columnless (ofSides sides probe letters letter) := by
  obtain ⟨hleft, hright⟩ := Probe.ofSides_ok_iff.mp trees
  exact .bind (LinearForm.columnless_scan alpha hleft) fun _ _ =>
    .bind (LinearForm.columnless_scan alpha hright) fun _ _ => .ok _

theorem Derivation.columnless_ofSingle {sides : Sides} {unknown : Char} {options : SolverOptions α}
    (alpha : unknown.isAlpha = true) {probe : Probe α} (trees : Probe.ofSides sides = .ok probe) :
    Columnless (ofSingle sides unknown options) := by
  obtain ⟨hleft, hright⟩ := Probe.ofSides_ok_iff.mp trees
  refine .bind (trees ▸ .ok probe) fun probe' _ => ?_
  dsimp only
  cases Probe.affineSlope (probe'.along Bindings.empty unknown) with
  | none =>
      dsimp only
      split
      · exact .ok _
      · intro error failed
        cases failed
        rfl
  | some slope =>
      exact .bind (LinearForm.columnless_decompose alpha hleft) fun _ _ =>
        .bind (LinearForm.columnless_decompose alpha hright) fun _ _ => .ok _

theorem Derivation.columnless_ofSeveral {sides : Sides} {main : Char} {others : List Char}
    (alpha : ∀ letter ∈ main :: others, letter.isAlpha = true) {probe : Probe α}
    (trees : Probe.ofSides sides = .ok probe) :
    Columnless (ofSeveral (α := α) sides main others) := by
  obtain ⟨hleft, hright⟩ := Probe.ofSides_ok_iff.mp trees
  have alphaMain := alpha main List.mem_cons_self
  refine .bind (trees ▸ .ok probe) fun probe' same => ?_
  cases nonlinear : probe'.firstNonlinear (main :: others) with
  | some letter =>
      intro error failed
      cases failed
      rfl
  | none =>
      refine .bind (LinearForm.columnless_decompose alphaMain hleft) fun _ _ =>
        .bind (LinearForm.columnless_decompose alphaMain hright) fun _ _ =>
          .bind (CoefficientReading.columnless alphaMain same) fun _ _ =>
            .bind (.mapM fun letter mem => ?_) fun _ _ => .ok _
      exact CoefficientReading.columnless (alpha letter (List.mem_cons_of_mem main mem)) same

theorem Problem.columnless_derive {text : List Char} {p : Problem} {options : SolverOptions α}
    (stated : Problem.ofClean text = .ok p) {probe : Probe α}
    (trees : Probe.ofSides p.sides = .ok probe) : Columnless (p.derive options) := by
  have alpha (letter : Char) (mem : letter ∈ p.unknown :: p.others) : letter.isAlpha = true := by
    rw [← (Problem.ofClean_ok_iff.mp stated).2] at mem
    exact isAlpha_of_mem_detectLetters mem
  rw [derive]
  split
  · exact Derivation.columnless_ofSingle (alpha _ List.mem_cons_self) trees
  · exact Derivation.columnless_ofSeveral alpha trees

theorem Problem.columnless_ofClean (text : List Char) : Columnless (Problem.ofClean text) := by
  intro error failed
  unfold Problem.ofClean at failed
  split at failed
  · cases failed
    rfl
  · split at failed
    · cases failed
      rfl
    · cases failed

end Columns

section Rejections

variable (α : Type) [Scalar α]

/-- The first side of an equation that is no expression, and the number of characters before it.
The right side is looked at only behind a left one that is an expression, and may be empty. -/
inductive FirstRejected (equation : List Char) : List Char → Nat → Prop where
  | left {left right : List Char} (cut : equation = left ++ '=' :: right) (filled : left ≠ [])
      (single : '=' ∉ left ∧ '=' ∉ right) (rejected : ¬ IsExpression α left) :
      FirstRejected equation left 0
  | right {left right : List Char} (cut : equation = left ++ '=' :: right)
      (single : '=' ∉ left ∧ '=' ∉ right) (accepted : IsExpression α left) (filled : right ≠ [])
      (rejected : ¬ IsExpression α right) : FirstRejected equation right (left.length + 1)

end Rejections

section Rejections

variable {α : Type} [Scalar α]

theorem isExpression_zero : IsExpression α ['0'] :=
  ⟨[.number (Scalar.ofDecimal 0 0)], .cons rfl .nil, .term (.unary (.primary .number))⟩

theorem FirstRejected.unique {equation side side' : List Char} {before before' : Nat}
    (h : FirstRejected α equation side before) (h' : FirstRejected α equation side' before') :
    side = side' ∧ before = before' := by
  have same {left right left' right' : List Char} (cut : equation = left ++ '=' :: right)
      (cut' : equation = left' ++ '=' :: right') (absent : '=' ∉ left) (absent' : '=' ∉ left') :
      left = left' ∧ right = right' := by
    rcases cut_cases (cut.symm.trans cut') with rfl | ⟨between, rfl⟩ | ⟨between, rfl⟩
    · exact ⟨rfl, by simpa using cut.symm.trans cut'⟩
    · simp at absent'
    · simp at absent
  cases h with
  | left cut _ single rejected =>
      cases h' with
      | left cut' _ single' _ => exact ⟨(same cut cut' single.1 single'.1).1, rfl⟩
      | right cut' single' accepted =>
          rw [(same cut cut' single.1 single'.1).1] at rejected
          exact (rejected accepted).elim
  | right cut single accepted =>
      cases h' with
      | left cut' _ single' rejected =>
          rw [← (same cut cut' single.1 single'.1).1] at rejected
          exact (rejected accepted).elim
      | right cut' single' =>
          obtain ⟨rfl, rfl⟩ := same cut cut' single.1 single'.1
          exact ⟨rfl, rfl⟩

/-- An empty right side reads as zero, so only a right side that is not empty can be rejected. -/
theorem Sides.rejected_right {sides : Sides} (rejected : ¬ IsExpression α sides.rightOrZero) :
    sides.rightOrZero = sides.right ∧ sides.right ≠ [] := by
  unfold rightOrZero at rejected ⊢
  split
  · rename_i empty
    rw [if_pos empty] at rejected
    exact (rejected isExpression_zero).elim
  · rename_i filled
    exact ⟨rfl, fun empty => filled (by simp [empty])⟩

theorem Probe.ofSides_error {text : List Char} {sides : Sides} {error : SolveError}
    (cut : Sides.split text = .ok sides) (failed : ofSides (α := α) sides = .error error) :
    ∃ fault side before p, error =
        .expression fault (some (before + (collapseSigns (side.take p)).length + 1)) ∧
      FirstRejected α text side before ∧ Offends α side p := by
  obtain ⟨joined, absentLeft, absentRight, filled, offset⟩ := Sides.split_ok cut
  simp only [ofSides, bind_error_iff] at failed
  rcases failed with left | ⟨_, left, right | ⟨_, -, done⟩⟩
  · obtain ⟨fault, p, same, offends⟩ := ofSide_error left
    exact ⟨fault, sides.left, 0, p, same,
      .left joined filled ⟨absentLeft, absentRight⟩ offends.not_isExpression, offends⟩
  · obtain ⟨fault, p, same, offends⟩ := ofSide_error right
    have rejected := offends.not_isExpression
    obtain ⟨whole, some⟩ := Sides.rejected_right rejected
    rw [whole] at same offends rejected
    rw [offset] at same
    exact ⟨fault, sides.right, _, p, same,
      .right joined ⟨absentLeft, absentRight⟩ (isExpression_of_ofSide left) some rejected, offends⟩
  · cases done

theorem Problem.sides_of_derive {text : List Char} {p : Problem} {options : SolverOptions α}
    (stated : Problem.ofClean text = .ok p) {fault : ExpressionFault} {c : Nat}
    (failed : p.derive options = .error (.expression fault (some c))) :
    Probe.ofSides (α := α) p.sides = .error (.expression fault (some c)) := by
  cases trees : Probe.ofSides (α := α) p.sides with
  | ok probe =>
      have none := Problem.columnless_derive stated trees _ failed
      cases none
  | error error =>
      rw [derive, Derivation.ofSingle, Derivation.ofSeveral, trees] at failed
      split at failed
      · cases failed
        rfl
      · cases failed
        rfl

end Rejections

section Reports

open Report

variable {α : Type} [Printable α]

/-- A failure with a column is a rejected side. The column is where the item at fault stands in the
normalized equation, and so is the caret of the report, if and only if no signs are adjacent before
the item in its side. -/
theorem solve_error_column [Unicode.Form] {options : SolverOptions α} {text : String}
    {fault : ExpressionFault} {c : Nat}
    (failed : solve options text = .error (.expression fault (some c))) :
    ∃ side before p, FirstRejected α (normalize text.toList) side before ∧ Offends α side p ∧
      (∀ q, Offends α side q → q = p) ∧
        c = before + (collapseSigns (side.take p)).length + 1 ∧
          (c = before + p + 1 ↔ SinglySigned (side.take p)) ∧
            ∀ palette, ∃ heading,
              let bar := "  " ++ Style.paint palette dimmed "|" ++ " "
              let caret := String.ofList (List.replicate (c - 1) ' ' ++ ['^'])
              solveDiagnostic palette text (.expression fault (some c)) =
                heading ++ "\n" ++ bar ++ String.ofList (normalize text.toList) ++ "\n" ++ bar ++
                  Style.paint palette brightRed caret ++ "\n" := by
  rcases solve_error_iff.mp failed with unstated | ⟨p, stated, derived⟩
  · cases Problem.columnless_ofClean _ _ unstated
  · have trees := Problem.sides_of_derive stated derived
    obtain ⟨_, side, before, q, same, rejected, offends⟩ :=
      Probe.ofSides_error (Problem.ofClean_ok_iff.mp stated).1 trees
    obtain ⟨rfl, column⟩ := SolveError.expression.inj same
    obtain rfl := Option.some.inj column
    refine ⟨side, before, q, rejected, offends, fun q' offends' => offends'.unique offends, rfl, ?_,
      fun palette => ⟨_, rfl⟩⟩
    have taken : (side.take q).length = q := List.length_take_of_le offends.le_length
    rw [← length_collapseSigns_eq_iff, taken]
    omega

/-- The bracket in `x--+)=1` is its fifth character, and reported in column three. -/
theorem solve_error_column_bracket :
    solve (default : SolverOptions Float) "x--+)=1" =
        .error (.expression (.shape (.unexpected .closeParen)) (some 3)) ∧
      FirstRejected Float (normalize "x--+)=1".toList) "x--+)".toList 0 ∧
        Offends Float "x--+)".toList 4 ∧ ¬ SinglySigned ("x--+)".toList.take 4) := by
  have clean : normalize "x--+)=1".toList = "x--+)".toList ++ '=' :: ['1'] := by decide +kernel
  have failed : solve (default : SolverOptions Float) "x--+)=1" =
      .error (.expression (.shape (.unexpected .closeParen)) (some 3)) := by
    rw [solve, clean]
    rfl
  have offends : Offends Float "x--+)".toList 4 :=
    .token (show lexemes "x--+)".toList = [['x'], ['-'], ['-'], ['+']] ++ [[')']] from rfl)
      (.cons rfl (.cons rfl (.cons rfl (.cons rfl .nil)))) rfl .nil
      (viable_iff.mpr rfl) (by rw [viable_iff]; decide)
  have rejected : FirstRejected Float (normalize "x--+)=1".toList) "x--+)".toList 0 :=
    .left clean (by decide) (by decide) offends.not_isExpression
  obtain ⟨side, before, p, rejected', offends', -, -, agrees, -⟩ := solve_error_column failed
  obtain ⟨rfl, rfl⟩ := rejected.unique rejected'
  obtain rfl := offends.unique offends'
  exact ⟨failed, rejected, offends, fun single => absurd (agrees.mpr single) (by decide)⟩

end Reports
end WorkedAlgebra
