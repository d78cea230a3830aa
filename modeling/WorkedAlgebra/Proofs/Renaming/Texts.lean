import WorkedAlgebra.Proofs.Lexing
import WorkedAlgebra.Proofs.SignRuns
import WorkedAlgebra.Proofs.Letters

/-!
Exchanging the letters of a text. Every occurrence of a letter may take a case of its own, as long
as what it is up to case depends on the letter alone. Cutting a text into sides and lexemes and
collapsing its signs do not look at letters, so they keep the exchange.
-/

namespace WorkedAlgebra

open Text

structure Renaming where
  map : Char → Char
  injective : Function.Injective map
  lower (c : Char) : c.isLower = true → (map c).isLower = true

namespace Renaming

variable (σ : Renaming)

/-- What may stand in the place of a character. -/
inductive Replaces : Char → Char → Prop where
  | kept {c : Char} (other : c.isAlpha = false) : Replaces c c
  | letter {c d : Char} (alpha : c.isAlpha = true) (alpha' : d.isAlpha = true)
      (same : d.toLower = σ.map c.toLower) : Replaces c d

def Renames (text text' : List Char) : Prop := List.Forall₂ σ.Replaces text text'

def RenamesAll (parts parts' : List (List Char)) : Prop := List.Forall₂ σ.Renames parts parts'

end Renaming

section Characters

variable {σ : Renaming} {c d : Char}

theorem isAlpha_of_isLower (lower : c.isLower = true) : c.isAlpha = true := by
  simp [Char.isAlpha, lower]

theorem toLower_of_isLower (lower : c.isLower = true) : c.toLower = c := by
  have range : 97 ≤ c.toNat ∧ c.toNat ≤ 122 := by
    simpa [Char.isLower, UInt32.le_iff_toNat_le] using lower
  rw [← Char.toNat_inj, toNat_toLower, if_neg (by omega)]

namespace Renaming.Replaces

/-- Nothing but letters is replaced. -/
theorem eq_of_other (replaces : σ.Replaces c d) (other : c.isAlpha = false) : d = c := by
  cases replaces with
  | kept _ => rfl
  | letter alpha _ _ => rw [other] at alpha; cases alpha

/-- A test that no letter passes does not see the exchange. -/
theorem test_eq (replaces : σ.Replaces c d) {test : Char → Bool}
    (fails : ∀ e : Char, e.isAlpha = true → test e = false) : test d = test c := by
  cases replaces with
  | kept _ => rfl
  | letter alpha alpha' _ => rw [fails c alpha, fails d alpha']

theorem isSign_eq (replaces : σ.Replaces c d) : isSign d = isSign c :=
  replaces.test_eq fun _ => isSign_of_isAlpha

theorem isMark_eq (replaces : σ.Replaces c d) : Numeral.isMark d = Numeral.isMark c :=
  replaces.test_eq fun _ => isMark_of_isAlpha

theorem isEquals_eq (replaces : σ.Replaces c d) : (d == '=') = (c == '=') := by
  have fails (e : Char) (alpha : e.isAlpha = true) : (e == '=') = false := by
    rw [beq_eq_false_iff_ne]
    rintro rfl
    cases alpha
  exact replaces.test_eq fails

/-- Being a certain letter is kept, in either case. -/
theorem isLetter_eq (replaces : σ.Replaces c d) {letter : Char} (lower : letter.isLower = true) :
    LinearForm.isLetter (σ.map letter) d = LinearForm.isLetter letter c := by
  have lower' := σ.lower letter lower
  simp only [LinearForm.isLetter, toLower_of_isLower lower, toLower_of_isLower lower']
  cases replaces with
  | letter alpha alpha' same =>
      rw [same]
      exact decide_eq_decide.mpr σ.injective.eq_iff
  | kept other =>
      have apart {l : Char} (lower : l.isLower = true) : (c.toLower == l) = false := by
        rw [beq_eq_false_iff_ne]
        rintro rfl
        have letter := isAlpha_of_isLower lower
        rw [isAlpha_iff, toNat_toLower] at letter
        rw [← Bool.not_eq_true, isAlpha_iff] at other
        split at letter <;> omega
      rw [apart lower, apart lower']

end Renaming.Replaces

end Characters

namespace Renaming.Renames

variable {σ : Renaming} {text text' : List Char}

theorem takeWhile_marks (renames : σ.Renames text text') :
    text'.takeWhile Numeral.isMark = text.takeWhile Numeral.isMark := by
  induction renames with
  | nil => rfl
  | @cons c d cs ds replaces _ ih =>
      rw [List.takeWhile_cons, List.takeWhile_cons, replaces.isMark_eq]
      split
      · rename_i mark
        have same := replaces.eq_of_other
          (Bool.eq_false_iff.mpr fun alpha => by simp [isMark_of_isAlpha alpha] at mark)
        rw [ih, same]
      · rfl

theorem dropWhile_marks (renames : σ.Renames text text') :
    σ.Renames (text.dropWhile Numeral.isMark) (text'.dropWhile Numeral.isMark) := by
  induction renames with
  | nil => exact .nil
  | @cons c d cs ds replaces rest ih =>
      rw [List.dropWhile_cons, List.dropWhile_cons, replaces.isMark_eq]
      split
      · exact ih
      · exact .cons replaces rest

theorem signs_take (renames : σ.Renames text text') :
    (text'.take 1).filter isSign = (text.take 1).filter isSign := by
  cases renames with
  | nil => rfl
  | @cons c d cs ds replaces _ =>
      simp only [List.take_succ_cons, List.take_zero, List.filter_cons, List.filter_nil,
        replaces.isSign_eq]
      split
      · rename_i sign
        rw [replaces.eq_of_other
          (Bool.eq_false_iff.mpr fun alpha => by simp [isSign_of_isAlpha alpha] at sign)]
      · rfl

theorem prependSign {sign : Char} (isSign_sign : isSign sign = true)
    (renames : σ.Renames text text') :
    σ.Renames (prependSign sign text) (prependSign sign text') := by
  have other {c : Char} (sign : isSign c = true) : c.isAlpha = false :=
    Bool.eq_false_iff.mpr fun alpha => by simp [isSign_of_isAlpha alpha] at sign
  cases renames with
  | nil => exact .cons (.kept (other isSign_sign)) .nil
  | @cons c d cs ds replaces rest =>
      rw [Text.prependSign, Text.prependSign, replaces.isSign_eq]
      split
      · rename_i sign_c
        rw [replaces.eq_of_other (other sign_c)]
        exact .cons (.kept (other (isSign_signProduct sign c))) rest
      · exact .cons (.kept (other isSign_sign)) (.cons replaces rest)

theorem collapseSigns (renames : σ.Renames text text') :
    σ.Renames (collapseSigns text) (collapseSigns text') := by
  induction renames with
  | nil => exact .nil
  | @cons c d cs ds replaces _ ih =>
      rw [Text.collapseSigns, Text.collapseSigns, replaces.isSign_eq]
      split
      · rename_i sign
        rw [replaces.eq_of_other
          (Bool.eq_false_iff.mpr fun alpha => by simp [isSign_of_isAlpha alpha] at sign)]
        exact ih.prependSign sign
      · exact .cons replaces ih

/-- Equations are cut at the same places. -/
theorem pieces (renames : σ.Renames text text') :
    σ.RenamesAll (pieces '=' text) (pieces '=' text') := by
  induction renames with
  | nil => exact .cons .nil .nil
  | @cons c d cs ds replaces _ ih =>
      rw [WorkedAlgebra.pieces, WorkedAlgebra.pieces, replaces.isEquals_eq]
      generalize WorkedAlgebra.pieces '=' cs = parts, WorkedAlgebra.pieces '=' ds = parts' at ih ⊢
      split
      · exact .cons .nil ih
      · cases ih with
        | nil => exact .cons (.cons replaces .nil) .nil
        | cons first rest => exact .cons (.cons replaces first) rest

/-- Texts have corresponding lexemes. -/
theorem lexemes (renames : σ.Renames text text') :
    σ.RenamesAll (lexemes text) (lexemes text') := by
  induction renames with
  | nil => exact .nil
  | @cons c d cs ds replaces _ ih =>
      rw [WorkedAlgebra.lexemes, WorkedAlgebra.lexemes]
      generalize WorkedAlgebra.lexemes cs = parts, WorkedAlgebra.lexemes ds = parts' at ih ⊢
      cases ih with
      | nil => exact .cons (.cons replaces .nil) .nil
      | cons first rest =>
          cases first with
          | nil => exact .cons (.cons replaces .nil) (.cons .nil rest)
          | cons head tail =>
              simp only [replaces.isMark_eq, head.isMark_eq]
              split
              · exact .cons (.cons replaces (.cons head tail)) rest
              · exact .cons (.cons replaces .nil) (.cons (.cons head tail) rest)

theorem lettersOf (renames : σ.Renames text text') :
    lettersOf text' = (lettersOf text).map σ.map := by
  induction renames with
  | nil => rfl
  | @cons c d cs ds replaces _ ih =>
      simp only [WorkedAlgebra.lettersOf, List.filter_cons] at ih ⊢
      cases replaces with
      | kept other => simpa [other] using ih
      | letter alpha alpha' same => simpa [alpha, alpha', same] using ih

end Renaming.Renames

section Sides

variable {σ : Renaming}

theorem distinct_map (letters : List Char) :
    distinct (letters.map σ.map) = (distinct letters).map σ.map := by
  induction letters with
  | nil => rfl
  | cons c cs ih =>
      rw [List.map_cons, distinct, distinct, List.map_cons, ih, List.filter_map]
      congr 2
      refine List.filter_congr fun d _ => ?_
      simp [σ.injective.eq_iff, bne]

/-- The letters of a text are found in the same order. -/
theorem detectLetters_renames {text text' : List Char} (renames : σ.Renames text text') :
    detectLetters text' = (detectLetters text).map σ.map := by
  rw [detectLetters, renames.lettersOf, distinct_map, detectLetters]

structure Renaming.RenamesSides (σ : Renaming) (sides sides' : Sides) : Prop where
  left : σ.Renames sides.left sides'.left
  right : σ.Renames sides.right sides'.right
  rightOffset : sides'.rightOffset = sides.rightOffset

theorem Renaming.RenamesSides.rightOrZero {sides sides' : Sides}
    (renames : σ.RenamesSides sides sides') :
    σ.Renames sides.rightOrZero sides'.rightOrZero := by
  have right := renames.right
  unfold Sides.rightOrZero
  generalize sides.right = text, sides'.right = text' at right ⊢
  cases right with
  | nil => exact .cons (.kept rfl) .nil
  | cons head tail => exact .cons head tail

/-- Equations with exchanged letters are malformed for the same cause or have corresponding
sides. -/
theorem split_renames {text text' : List Char} (renames : σ.Renames text text') :
    (∃ cause, Sides.split text = .error cause ∧ Sides.split text' = .error cause) ∨
      ∃ sides sides', Sides.split text = .ok sides ∧ Sides.split text' = .ok sides' ∧
        σ.RenamesSides sides sides' := by
  have parts := renames.pieces
  unfold Sides.split
  generalize pieces '=' text = ps, pieces '=' text' = ps' at parts
  rcases parts with - | ⟨left, - | ⟨right, - | ⟨third, rest⟩⟩⟩
  · exact .inl ⟨_, rfl, rfl⟩
  · exact .inl ⟨_, rfl, rfl⟩
  · cases left with
    | nil => exact .inl ⟨_, rfl, rfl⟩
    | cons head tail =>
        refine .inr ⟨_, _, rfl, rfl, .cons head tail, right, ?_⟩
        simp [tail.length_eq]
  · exact .inl ⟨_, rfl, rfl⟩

end Sides

end WorkedAlgebra
