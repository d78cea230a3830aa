import Mathlib.Logic.Function.Iterate
import WorkedAlgebra.Proofs.PlainTexts

/-!
Cleanup ends, and what it ends with is clean. This holds for every compatibility form that composes
nothing which it would not decompose again: the blanks and look-alikes of the decomposed text are
counted, and a pass that changes more than the form of a text lowers their number.
-/

namespace WorkedAlgebra.Text

section Folding

theorem foldLetter_changes {c : Char} (changed : foldLetter c ≠ c) :
    (foldLetter c).toNat < 128 ∧ isUnclean (foldLetter c) = false := by
  unfold foldLetter at changed ⊢
  split at changed
  case h_25 => exact (changed rfl).elim
  all_goals decide

/-- What a look-alike is replaced with is plain ASCII, and clean. -/
theorem fold_changes {c : Char} (changed : fold c ≠ c) :
    (fold c).toNat < 128 ∧ isUnclean (fold c) = false := by
  unfold fold at changed ⊢
  split at changed
  case h_10 => exact foldLetter_changes changed
  all_goals decide

theorem isUnclean_eq_false_iff {c : Char} :
    isUnclean c = false ↔ isBlank c = false ∧ fold c = c := by
  simp [isUnclean]

theorem isUnclean_fold {c : Char} (notBlank : isBlank c = false) : isUnclean (fold c) = false := by
  by_cases same : fold c = c
  · rw [isUnclean_eq_false_iff, same]
    exact ⟨notBlank, same⟩
  · exact (fold_changes same).2

end Folding

section Settling

variable {step : List Char → List Char}

/-- The repetition stops at some iterate of the step. -/
theorem settle_eq_iterate (step : List Char → List Char) (fuel : Nat) (text : List Char) :
    ∃ n ≤ fuel, settle step fuel text = step^[n] text := by
  induction fuel generalizing text with
  | zero => exact ⟨0, le_rfl, rfl⟩
  | succ fuel ih =>
      rw [settle]
      split
      · exact ⟨0, Nat.zero_le _, rfl⟩
      · obtain ⟨n, bound, reached⟩ := ih (step text)
        exact ⟨n + 1, Nat.succ_le_succ bound, reached⟩

/-- A text that a step leaves alone is settled. -/
theorem settle_of_fixed {text : List Char} (fixed : step text = text) (fuel : Nat) :
    settle step fuel text = text := by
  cases fuel with
  | zero => rfl
  | succ fuel => rw [settle, if_pos fixed]

/-- All iterates that a step leaves alone are one text. -/
theorem iterate_fixed_unique {text : List Char} {m n : Nat}
    (fixed : step (step^[m] text) = step^[m] text)
    (fixed' : step (step^[n] text) = step^[n] text) : step^[m] text = step^[n] text := by
  rcases Nat.le_total m n with le | le
  · obtain ⟨k, rfl⟩ := Nat.exists_eq_add_of_le' le
    rw [Function.iterate_add_apply, Function.iterate_fixed fixed]
  · obtain ⟨k, rfl⟩ := Nat.exists_eq_add_of_le' le
    rw [Function.iterate_add_apply, Function.iterate_fixed fixed']

end Settling

/-- What cleanup relies on of a compatibility form: it is idempotent and decomposes as the text
does, decomposing expands every character and reorders the result, and neither the blanks and
look-alikes of a composed text nor ASCII characters are expanded. -/
structure IsForm (form : List Char → List Char) (expand : Char → List Char)
    (arrange : List Char → List Char) : Prop where
  form_form : ∀ text, form (form text) = form text
  decomposed_form : ∀ text, arrange ((form text).flatMap expand) = arrange (text.flatMap expand)
  arrange_perm : ∀ text, (arrange text).Perm text
  expand_unclean : ∀ text, ∀ c ∈ form text, isUnclean c = true → expand c = [c]
  expand_ascii : ∀ c : Char, c.toNat < 128 → expand c = [c]

/-- How many blanks and look-alikes a text holds when it is expanded. -/
def uncleanCount (expand : Char → List Char) (text : List Char) : Nat :=
  (text.flatMap expand).countP isUnclean

namespace IsForm

variable {form : List Char → List Char} {expand : Char → List Char}
  {arrange : List Char → List Char} (isForm : IsForm form expand arrange)

include isForm

/-- Composing and reordering keep the count. -/
theorem uncleanCount_form (text : List Char) :
    uncleanCount expand (form text) = uncleanCount expand text := by
  have perm : ((form text).flatMap expand).Perm (text.flatMap expand) :=
    (isForm.arrange_perm _).symm.trans (isForm.decomposed_form text ▸ isForm.arrange_perm _)
  exact perm.countP_eq isUnclean

/-- A character that a pass drops or replaces was counted once, and is counted no more. -/
theorem uncleanCount_cons {c : Char} (own : isUnclean c = true → expand c = [c])
    (text : List Char) :
    uncleanCount expand (((c :: text).filter fun c => !isBlank c).map fold) +
        (if isUnclean c then 1 else 0) =
      uncleanCount expand ((text.filter fun c => !isBlank c).map fold) +
        (expand c).countP isUnclean := by
  cases unclean : isUnclean c with
  | false =>
      obtain ⟨notBlank, same⟩ := isUnclean_eq_false_iff.mp unclean
      rw [List.filter_cons, if_pos (by rw [notBlank]; rfl), List.map_cons, same]
      simp only [uncleanCount, List.flatMap_cons, List.countP_append]
      simp [Nat.add_comm]
  | true =>
      rw [own unclean, List.countP_singleton, unclean, List.filter_cons]
      cases blank : isBlank c with
      | true => simp
      | false =>
          have changed : fold c ≠ c := fun same => by
            rw [isUnclean_eq_false_iff.mpr ⟨blank, same⟩] at unclean
            cases unclean
          obtain ⟨ascii, clean⟩ := fold_changes changed
          simp [uncleanCount, isForm.expand_ascii _ ascii, clean]

theorem uncleanCount_cleaned {text : List Char}
    (own : ∀ c ∈ text, isUnclean c = true → expand c = [c]) :
    uncleanCount expand ((text.filter fun c => !isBlank c).map fold) + text.countP isUnclean =
      uncleanCount expand text := by
  induction text with
  | nil => rfl
  | cons c text ih =>
      have first := isForm.uncleanCount_cons (own c List.mem_cons_self) text
      have rest := ih fun d mem => own d (List.mem_cons_of_mem c mem)
      have whole : uncleanCount expand (c :: text) =
          (expand c).countP isUnclean + uncleanCount expand text := by
        rw [uncleanCount, List.flatMap_cons, List.countP_append, uncleanCount]
      rw [List.countP_cons, whole]
      omega

/-- A pass lowers the count by the blanks and look-alikes that it meets in the composed text. -/
theorem uncleanCount_pass (text : List Char) :
    uncleanCount expand (pass form text) + (form text).countP isUnclean =
      uncleanCount expand text := by
  rw [← isForm.uncleanCount_form text]
  exact isForm.uncleanCount_cleaned (isForm.expand_unclean text)

omit isForm in
theorem pass_of_clean {text : List Char} (clean : ∀ c ∈ form text, isUnclean c = false) :
    pass form text = form text := by
  have kept : (form text).filter (fun c => !isBlank c) = form text :=
    List.filter_eq_self.mpr fun c mem => by
      rw [(isUnclean_eq_false_iff.mp (clean c mem)).1]
      rfl
  rw [pass, kept]
  exact (List.map_congr_left fun c mem => (isUnclean_eq_false_iff.mp (clean c mem)).2).trans
    (List.map_id _)

/-- As many passes as there are blanks and look-alikes, and two more, are enough: one that changes
the form alone is followed by one that changes nothing. -/
theorem settle_fixed {fuel : Nat} {text : List Char}
    (enough : uncleanCount expand text + 2 ≤ fuel) :
    pass form (settle (pass form) fuel text) = settle (pass form) fuel text := by
  induction fuel generalizing text with
  | zero => omega
  | succ fuel ih =>
      rw [settle]
      split
      · assumption
      · have count := isForm.uncleanCount_pass text
        by_cases clean : ∀ c ∈ form text, isUnclean c = false
        · have composed := pass_of_clean clean
          have still : pass form (form text) = form text := by
            rw [pass_of_clean (by rwa [isForm.form_form]), isForm.form_form]
          rw [composed, settle_of_fixed still, still]
        · have met : 0 < (form text).countP isUnclean := by
            simpa [List.countP_pos_iff] using clean
          exact ih (by omega)

end IsForm

/-- Nothing unclean is left of a text by a pass. -/
theorem clean_of_mem_pass {form : List Char → List Char} {text : List Char} {c : Char}
    (mem : c ∈ pass form text) : isUnclean c = false := by
  obtain ⟨d, kept, rfl⟩ := List.mem_map.mp mem
  exact isUnclean_fold (by simpa using (List.mem_filter.mp kept).2)

/-- Cleanup ends for every text: the passes reach, within the bound, the one text among their
results that a further pass leaves alone. It is the clean form, cleaning it up again changes
nothing, and it holds no white space, comma or colon, and no character that has a plain
counterpart. -/
theorem normalizeBy_settled {form : List Char → List Char} {expand : Char → List Char}
    {arrange : List Char → List Char} (isForm : IsForm form expand arrange) (text : List Char) :
    (∃ n ≤ passBound expand text,
        normalizeBy form expand text = (pass form)^[n] text) ∧
      pass form (normalizeBy form expand text) = normalizeBy form expand text ∧
      (∀ n, pass form ((pass form)^[n] text) = (pass form)^[n] text →
        normalizeBy form expand text = (pass form)^[n] text) ∧
      normalizeBy form expand (normalizeBy form expand text) = normalizeBy form expand text ∧
      ∀ c ∈ normalizeBy form expand text,
        isBlank c = false ∧ c ≠ ',' ∧ c ≠ ':' ∧ fold c = c := by
  obtain ⟨n, bound, reached⟩ := settle_eq_iterate (pass form) (passBound expand text) text
  have fixed : pass form (normalizeBy form expand text) = normalizeBy form expand text :=
    isForm.settle_fixed le_rfl
  refine ⟨⟨n, bound, reached⟩, fixed, fun m fixed' => ?_, settle_of_fixed fixed _, fun c mem => ?_⟩
  · rw [normalizeBy, reached] at fixed ⊢
    exact iterate_fixed_unique fixed fixed'
  · rw [← fixed] at mem
    obtain ⟨notBlank, same⟩ := isUnclean_eq_false_iff.mp (clean_of_mem_pass mem)
    refine ⟨notBlank, ?_, ?_, same⟩
    · rintro rfl
      cases same
    · rintro rfl
      cases same

section Diaeresis

def expandDiaeresis : Char → List Char
  | '\u00A8' => [' ', '\u0308']
  | '\u1E8D' => ['x', '\u0308']
  | c => [c]

def composeDiaeresis : List Char → List Char
  | 'x' :: '\u0308' :: cs => '\u1E8D' :: composeDiaeresis cs
  | c :: cs => c :: composeDiaeresis cs
  | [] => []

theorem expandDiaeresis_self {c : Char} (free : c ≠ '\u00A8') (letter : c ≠ '\u1E8D') :
    expandDiaeresis c = [c] := by
  unfold expandDiaeresis
  split
  · exact (free rfl).elim
  · exact (letter rfl).elim
  · rfl

/-- Nothing is left to expand in an expanded text. -/
theorem expandDiaeresis_of_mem {text : List Char} {c : Char}
    (mem : c ∈ text.flatMap expandDiaeresis) : expandDiaeresis c = [c] := by
  obtain ⟨d, -, within⟩ := List.mem_flatMap.mp mem
  unfold expandDiaeresis at within
  split at within
  case h_3 free letter =>
    rw [List.mem_singleton.mp within]
    exact expandDiaeresis_self free letter
  all_goals
    simp only [List.mem_cons, List.not_mem_nil, or_false] at within
    rcases within with rfl | rfl <;> rfl

theorem expand_composeDiaeresis {cs : List Char} (expanded : ∀ c ∈ cs, expandDiaeresis c = [c]) :
    (composeDiaeresis cs).flatMap expandDiaeresis = cs := by
  induction cs using composeDiaeresis.induct with
  | case1 cs ih =>
      rw [composeDiaeresis, List.flatMap_cons, ih fun c mem =>
        expanded c (List.mem_cons_of_mem _ (List.mem_cons_of_mem _ mem))]
      rfl
  | case2 c cs other ih =>
      rw [composeDiaeresis.eq_2 c cs other, List.flatMap_cons,
        ih fun d mem => expanded d (List.mem_cons_of_mem c mem), expanded c List.mem_cons_self]
      rfl
  | case3 => rfl

theorem mem_composeDiaeresis {cs : List Char} {c : Char} (mem : c ∈ composeDiaeresis cs) :
    c = '\u1E8D' ∨ c ∈ cs := by
  induction cs using composeDiaeresis.induct with
  | case1 cs ih =>
      rw [composeDiaeresis, List.mem_cons] at mem
      rcases mem with rfl | rest
      · exact .inl rfl
      · exact (ih rest).imp_right fun mem => List.mem_cons_of_mem _ (List.mem_cons_of_mem _ mem)
  | case2 d cs other ih =>
      rw [composeDiaeresis.eq_2 d cs other, List.mem_cons] at mem
      rcases mem with rfl | rest
      · exact .inr List.mem_cons_self
      · exact (ih rest).imp_right (List.mem_cons_of_mem d)
  | case3 => cases mem

theorem isForm_diaeresis :
    IsForm (fun text => composeDiaeresis (text.flatMap expandDiaeresis)) expandDiaeresis id := by
  have decomposed (text : List Char) :
      (composeDiaeresis (text.flatMap expandDiaeresis)).flatMap expandDiaeresis =
        text.flatMap expandDiaeresis :=
    expand_composeDiaeresis fun _ => expandDiaeresis_of_mem
  refine ⟨fun text => ?_, decomposed, fun _ => List.Perm.refl _, fun text c mem unclean => ?_,
    fun c ascii => ?_⟩
  · rw [decomposed]
  · rcases mem_composeDiaeresis mem with rfl | expanded
    · cases (show isUnclean '\u1E8D' = false by decide).symm.trans unclean
    · exact expandDiaeresis_of_mem expanded
  · refine expandDiaeresis_self ?_ ?_ <;>
    · rintro rfl
      revert ascii
      decide

/-- Once the blank of a free-standing diaeresis is gone, the mark joins the letter before it. -/
theorem normalizeBy_settled_diaeresis :
    normalizeBy (fun text => composeDiaeresis (text.flatMap expandDiaeresis)) expandDiaeresis
        ['x', '\u00A8', '=', '1'] = ['\u1E8D', '=', '1'] ∧
      (∀ c ∈ ['\u1E8D', '=', '1'], isBlank c = false ∧ c ≠ ',' ∧ c ≠ ':' ∧ fold c = c) := by
  have result : normalizeBy (fun text => composeDiaeresis (text.flatMap expandDiaeresis))
      expandDiaeresis ['x', '\u00A8', '=', '1'] = ['\u1E8D', '=', '1'] := by decide
  obtain ⟨-, -, -, -, clean⟩ := normalizeBy_settled isForm_diaeresis ['x', '\u00A8', '=', '1']
  rw [result] at clean
  exact ⟨result, clean⟩

end Diaeresis

end WorkedAlgebra.Text
