import WorkedAlgebra.Proofs.Outcomes

/-!
The letters of a side as its text, its tree and its evaluation see them. The letters that are found
in the text are those of the tree; where one of them has no value the leftmost such letter is
reported, and where all letters of an equation have values its sides do.
-/

namespace WorkedAlgebra

section Texts

/-- The letters of a text in lower case, each once and in the order in which they first appear:
before a later one there is a beginning of the text that holds the earlier one and not the later. -/
structure FirstAppearances (text letters : List Char) : Prop where
  mem_iff : ∀ c, c ∈ letters ↔ ∃ d ∈ text, d.isAlpha = true ∧ d.toLower = c
  lower : ∀ c ∈ letters, c.isLower = true
  once : letters.Nodup
  ordered : letters.Pairwise fun c d =>
    ∃ before, before <+: text ∧ c ∈ lettersOf before ∧ d ∉ lettersOf before

def FirstUnbound {α : Type} (b : Bindings α) (text : List Char) (c : Char) : Prop :=
  ∃ before d after, text = before ++ d :: after ∧ d.isAlpha = true ∧ d.toLower = c ∧ b c = none ∧
    ∀ a ∈ lettersOf before, ∃ v, b a = some v

/-- A text is cut where its letters are. -/
theorem exists_of_lettersOf {text first second : List Char}
    (letters : lettersOf text = first ++ second) :
    ∃ before after, text = before ++ after ∧ lettersOf before = first ∧
      lettersOf after = second := by
  obtain ⟨as, bs, kept, rfl, rfl⟩ := List.map_eq_append_iff.mp letters
  obtain ⟨before, after, rfl, rfl, rfl⟩ := List.filter_eq_append_iff.mp kept
  exact ⟨before, after, rfl, rfl, rfl⟩

theorem exists_of_lettersOf_cons {text rest : List Char} {c : Char}
    (letters : lettersOf text = c :: rest) :
    ∃ before d after, text = before ++ d :: after ∧ lettersOf before = [] ∧ d.isAlpha = true ∧
      d.toLower = c := by
  obtain ⟨d, ds, kept, rfl, -⟩ := List.map_eq_cons_iff.mp letters
  obtain ⟨before, after, rfl, none, alpha, -⟩ := List.filter_eq_cons_iff.mp kept
  refine ⟨before, d, after, rfl, ?_, alpha, rfl⟩
  rw [lettersOf, List.filter_eq_nil_iff.mpr none, List.map_nil]

/-- Where an earlier one of the kept characters appears first, a later one has not appeared. -/
theorem distinct_ordered (cs : List Char) :
    (distinct cs).Pairwise fun c d => ∃ before, before <+: cs ∧ c ∈ before ∧ d ∉ before := by
  induction cs with
  | nil => exact .nil
  | cons a cs ih =>
      have other {c : Char} (mem : c ∈ (distinct cs).filter (· != a)) : c ≠ a := by
        simpa using (List.mem_filter.mp mem).2
      refine List.pairwise_cons.mpr
        ⟨fun d mem => ?_, (ih.filter _).imp_of_mem fun _ memd found => ?_⟩
      · exact ⟨[a], List.prefix_append [a] cs, List.mem_cons_self, by simpa using other mem⟩
      · obtain ⟨before, start, held, absent⟩ := found
        refine ⟨a :: before, List.cons_prefix_cons.mpr ⟨rfl, start⟩, .tail a held, ?_⟩
        exact List.not_mem_cons_of_ne_of_not_mem (other memd) absent

theorem firstAppearances_detectLetters (text : List Char) :
    FirstAppearances text (detectLetters text) := by
  have ordered := distinct_ordered (lettersOf text)
  refine ⟨fun c => ?_, fun c mem => isLower_of_mem_detectLetters mem, ordered.imp ?_,
    ordered.imp ?_⟩
  · rw [detectLetters, mem_distinct, mem_lettersOf]
  · rintro c d ⟨before, -, held, absent⟩ rfl
    exact absent held
  · rintro c d ⟨first, ⟨rest, joined⟩, held, absent⟩
    obtain ⟨before, after, rfl, rfl, -⟩ := exists_of_lettersOf joined.symm
    exact ⟨before, List.prefix_append before after, held, absent⟩

theorem find?_unbound_iff {α : Type} {b : Bindings α} {text : List Char} {c : Char} :
    (lettersOf text).find? (fun c => (b c).isNone) = some c ↔ FirstUnbound b text c := by
  rw [List.find?_eq_some_iff_append]
  constructor
  · rintro ⟨unbound, first, second, letters, bound⟩
    obtain ⟨start, rest, rfl, rfl, behind⟩ := exists_of_lettersOf letters
    obtain ⟨skipped, d, after, rfl, none, alpha, same⟩ := exists_of_lettersOf_cons behind
    refine ⟨start ++ skipped, d, after, by simp, alpha, same, by simpa using unbound, ?_⟩
    rw [lettersOf_append, none, List.append_nil]
    exact fun a mem => Option.isSome_iff_exists.mp (by simpa using bound a mem)
  · rintro ⟨before, d, after, rfl, alpha, rfl, unbound, bound⟩
    refine ⟨by simp [unbound], lettersOf before, lettersOf after, ?_, fun a mem => ?_⟩
    · simp [lettersOf, alpha]
    · obtain ⟨v, given⟩ := bound a mem
      simp [given]

end Texts

section Sides

variable {α : Type} [Scalar α] {offset : Nat} {side : List Char} {e : Expr α}

theorem Expr.mentions_side (parsed : ofSide offset side = .ok e) (c : Char) :
    e.mentions c = true ↔ c ∈ detectLetters side := by
  rw [mentions_iff, ← mem_letters, letters_of_ofSide parsed, detectLetters, mem_distinct]

/-- The tree of a side mentions the letters that are found in its text. It has a value exactly where
they all have one, and is otherwise reported for the leftmost letter of the text that has none;
where they have the same values so has the tree. So a side of an equation has a value wherever all
letters found in the equation have one. -/
theorem Expr.side_letters (parsed : ofSide offset side = .ok e) :
    (∀ c, e.mentions c = true ↔ c ∈ detectLetters side) ∧
      FirstAppearances side (detectLetters side) ∧
      (∀ b : Bindings α,
        ((∃ v, e.evaluate b = .ok v) ↔ ∀ c, e.mentions c = true → ∃ v, b c = some v) ∧
          ∀ fault, e.evaluate b = .error fault ↔
            ∃ c, fault = .unbound c ∧ FirstUnbound b side c) ∧
      (∀ b b' : Bindings α, (∀ c, e.mentions c = true → b c = b' c) →
        e.evaluate b = e.evaluate b') ∧
      ∀ text p, Problem.ofClean text = .ok p →
        side = p.sides.left ∨ side = p.sides.rightOrZero →
          ∀ b : Bindings α, (∀ c ∈ detectLetters text, ∃ v, b c = some v) →
            ∃ v, e.evaluate b = .ok v := by
  have found (c : Char) : e.mentions c = true ↔ c ∈ lettersOf side := by
    rw [mentions_side parsed, detectLetters, mem_distinct]
  refine ⟨mentions_side parsed, firstAppearances_detectLetters side, fun b => ⟨?_, fun fault => ?_⟩,
    fun b b' same => ?_, fun text p stated either b bound => ?_⟩
  · rw [(yields_of_ofSide parsed b).ok_iff]
    exact forall_congr' fun c => by rw [found]
  · rw [(yields_of_ofSide parsed b).error_iff]
    simp only [find?_unbound_iff]
  · exact evaluate_side_congr parsed fun c mem => same c ((found c).mpr mem)
  · refine evaluate_side_ok parsed fun c mem => bound c ?_
    rw [(Problem.ofClean_ok_iff.mp stated).2]
    refine Problem.mem_letters_of_ofClean stated (List.mem_append.mpr ?_)
    rcases either with rfl | rfl
    · exact .inl mem
    · exact .inr mem

/-- With a value for `y` alone, `2y+X*(y-t)` is reported for `x`. -/
theorem Expr.side_letters_unbound :
    ∃ e : Expr Float, ofSide 0 "2y+X*(y-t)".toList = .ok e ∧
      detectLetters "2y+X*(y-t)".toList = ['y', 'x', 't'] ∧
        e.evaluate (Bindings.empty.set 'y' Scalar.one) = .error (.unbound 'x') := by
  obtain ⟨e, parsed, -⟩ := exists_ok (p := fun _ => true)
    (x := ofSide (α := Float) 0 "2y+X*(y-t)".toList) rfl
  refine ⟨e, parsed, rfl, ?_⟩
  have first :
      FirstUnbound (Bindings.empty.set 'y' (Scalar.one : Float)) "2y+X*(y-t)".toList 'x' := by
    refine ⟨"2y+".toList, 'X', "*(y-t)".toList, rfl, rfl, rfl, rfl, fun a mem => ?_⟩
    obtain rfl : a = 'y' := by simpa [lettersOf] using mem
    exact ⟨_, rfl⟩
  exact (((side_letters parsed).2.2.1 _).2 _).mpr ⟨'x', rfl, first⟩

end Sides

end WorkedAlgebra
