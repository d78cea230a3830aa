import Mathlib
import WorkedAlgebra.Text.Signs

/-!
Collapsing runs of signs leaves texts without adjacent signs, and leaves such texts alone.
-/

namespace WorkedAlgebra.Text

def SinglySigned (text : List Char) : Prop :=
  text.IsChain fun c d => (isSign c && isSign d) = false

theorem isSign_signProduct (a b : Char) : isSign (signProduct a b) = true := by
  unfold signProduct
  split <;> rfl

theorem singlySigned_cons_iff {c : Char} {cs : List Char} :
    SinglySigned (c :: cs) ↔
      (∀ d ∈ cs.head?, (isSign c && isSign d) = false) ∧ SinglySigned cs := by
  cases cs with
  | nil => simp [SinglySigned]
  | cons d cs => simp [SinglySigned]

theorem collapseSigns_of_singlySigned {text : List Char} (single : SinglySigned text) :
    collapseSigns text = text := by
  induction text with
  | nil => rfl
  | cons c cs ih =>
      obtain ⟨head, rest⟩ := singlySigned_cons_iff.mp single
      rw [collapseSigns, ih rest]
      cases sign : isSign c with
      | false => rfl
      | true =>
          cases cs with
          | nil => rfl
          | cons d ds =>
              have other : isSign d = false := by simpa [sign] using head d rfl
              simp [prependSign, other]

theorem singlySigned_prependSign (sign : Char) {text : List Char} (single : SinglySigned text) :
    SinglySigned (prependSign sign text) := by
  cases text with
  | nil => simp [prependSign, SinglySigned]
  | cons c cs =>
      obtain ⟨head, rest⟩ := singlySigned_cons_iff.mp single
      cases isSign_c : isSign c with
      | true =>
          rw [prependSign, isSign_c, if_pos rfl, singlySigned_cons_iff]
          refine ⟨fun d hd => ?_, rest⟩
          rw [isSign_signProduct, ← isSign_c]
          exact head d hd
      | false =>
          rw [prependSign, isSign_c, if_neg Bool.false_ne_true, singlySigned_cons_iff]
          exact ⟨fun d hd => by simpa [← Option.some.inj hd] using fun _ => isSign_c, single⟩

theorem singlySigned_collapseSigns (text : List Char) : SinglySigned (collapseSigns text) := by
  induction text with
  | nil => exact .nil
  | cons c cs ih =>
      rw [collapseSigns]
      cases sign : isSign c with
      | true => exact singlySigned_prependSign c ih
      | false =>
          rw [if_neg Bool.false_ne_true, singlySigned_cons_iff]
          exact ⟨fun d _ => by rw [sign, Bool.false_and], ih⟩

theorem collapseSigns_collapseSigns (text : List Char) :
    collapseSigns (collapseSigns text) = collapseSigns text :=
  collapseSigns_of_singlySigned (singlySigned_collapseSigns text)

theorem length_prependSign_le (sign : Char) (text : List Char) :
    (prependSign sign text).length ≤ text.length + 1 := by
  cases text with
  | nil => simp [prependSign]
  | cons c cs =>
      rw [prependSign]
      split <;> simp

theorem length_collapseSigns_le (text : List Char) :
    (collapseSigns text).length ≤ text.length := by
  induction text with
  | nil => exact le_rfl
  | cons c cs ih =>
      rw [collapseSigns]
      split
      · exact (length_prependSign_le c _).trans (Nat.succ_le_succ ih)
      · exact Nat.succ_le_succ ih

/-- Nothing is dropped from a text only if no signs are adjacent in it. -/
theorem length_collapseSigns_eq_iff {text : List Char} :
    (collapseSigns text).length = text.length ↔ SinglySigned text := by
  constructor
  · intro same
    induction text with
    | nil => exact .nil
    | cons c cs ih =>
        rw [collapseSigns] at same
        cases sign : isSign c with
        | false =>
            rw [sign, if_neg Bool.false_ne_true] at same
            exact singlySigned_cons_iff.mpr ⟨fun d _ => by simp [sign], ih (Nat.succ.inj same)⟩
        | true =>
            rw [sign, if_pos rfl, List.length_cons] at same
            have prepended := length_prependSign_le c (collapseSigns cs)
            have collapsed := length_collapseSigns_le cs
            have single : SinglySigned cs := ih (by omega)
            refine singlySigned_cons_iff.mpr ⟨fun d first => ?_, single⟩
            rw [collapseSigns_of_singlySigned single] at same
            cases cs with
            | nil => cases first
            | cons e es =>
                cases first
                cases other : isSign d with
                | false => simp
                | true => simp [prependSign, other] at same
  · intro single
    rw [collapseSigns_of_singlySigned single]

end WorkedAlgebra.Text
