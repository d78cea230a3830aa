import WorkedAlgebra.Proofs.Letters

/-!
Texts that cleanup leaves alone but for their blanks: no character of theirs decomposes, composes
or looks like another one.
-/

namespace WorkedAlgebra.Text

/-- A character that cleanup keeps, unless it is a blank. -/
structure Tidy (c : Char) : Prop where
  plain : Unicode.isPlain c = true
  same : fold c = c

/-- A pass that changes nothing more ends the cleanup. -/
theorem settle_of_idempotent {step : List Char → List Char} {text : List Char} (fuel : Nat)
    (once : step (step text) = step text) : settle step (fuel + 2) text = step text := by
  rw [settle]
  split
  · rename_i still
    exact still.symm
  · rw [settle, if_pos once]

section Passes

variable [Unicode.Form] {text : List Char}

theorem pass_of_tidy (tidy : ∀ c ∈ text, Tidy c) :
    pass Unicode.Form.form text = text.filter fun c => !isBlank c := by
  rw [pass, Unicode.Form.form_plain fun c mem => (tidy c mem).plain]
  exact (List.map_congr_left fun c mem => (tidy c (List.mem_of_mem_filter mem)).same).trans
    (List.map_id _)

theorem normalize_of_tidy (tidy : ∀ c ∈ text, Tidy c) :
    normalize text = text.filter fun c => !isBlank c := by
  have once : pass Unicode.Form.form (pass Unicode.Form.form text) =
      pass Unicode.Form.form text := by
    rw [pass_of_tidy tidy, pass_of_tidy fun c mem => tidy c (List.mem_of_mem_filter mem)]
    simp
  rw [normalize, normalizeBy, passBound, settle_of_idempotent _ once, pass_of_tidy tidy]

end Passes

theorem foldLetter_of_ascii {c : Char} (ascii : c.toNat < 128) : foldLetter c = c := by
  unfold foldLetter
  split <;> first | rfl | exact absurd ascii (by decide)

theorem tidy_of_ascii {c : Char} (ascii : c.toNat < 128) (noComma : c.toNat ≠ 44)
    (noColon : c.toNat ≠ 58) : Tidy c := by
  refine ⟨decide_eq_true (by omega), ?_⟩
  unfold fold
  split
  case h_1 => exact (noComma rfl).elim
  case h_9 => exact (noColon rfl).elim
  case h_10 => exact foldLetter_of_ascii ascii
  all_goals exact absurd ascii (by decide)

theorem isBlank_of_toNat {c : Char} (low : 0x20 < c.toNat) (high : c.toNat < 0x80) :
    isBlank c = false := by
  simp [isBlank]
  omega

end WorkedAlgebra.Text

namespace WorkedAlgebra

open Text

structure Kept (c : Char) : Prop extends Tidy c where
  notBlank : isBlank c = false

theorem kept_of_isMark {c : Char} (mark : Numeral.isMark c = true) : Kept c := by
  rw [isMark_iff] at mark
  exact ⟨tidy_of_ascii (by omega) (by omega) (by omega), isBlank_of_toNat (by omega) (by omega)⟩

theorem kept_of_isAlpha {c : Char} (alpha : c.isAlpha = true) : Kept c := by
  rw [isAlpha_iff] at alpha
  exact ⟨tidy_of_ascii (by omega) (by omega) (by omega), isBlank_of_toNat (by omega) (by omega)⟩

theorem kept_of_isSign {c : Char} (sign : isSign c = true) : Kept c := by
  rw [isSign_iff] at sign
  exact ⟨tidy_of_ascii (by omega) (by omega) (by omega), isBlank_of_toNat (by omega) (by omega)⟩

end WorkedAlgebra
