import WorkedAlgebra.Proofs.Document.Words

/-!
The lines that settings are written in. They are read as the entries and the headers that they
show.
-/

namespace WorkedAlgebra.Toml

namespace Line

theorem unindented?_table {rest : List Char} (single : ∀ next, rest ≠ '[' :: next) :
    unindented? ('[' :: rest) =
      (Line.header? [']'] rest).map fun ((path, key), next) => (.table path key, next) := by
  unfold unindented?
  split
  · rename_i same
    exact absurd (List.cons.inj same).2 (single _)
  · rename_i same
    rw [(List.cons.inj same).2]
  · rename_i other
    exact absurd rfl (other _)

theorem unindented?_plain {text : List Char} (other : ∀ rest, text ≠ '[' :: rest) :
    unindented? text = plain? text := by
  unfold unindented?
  split
  · exact absurd rfl (other _)
  · exact absurd rfl (other _)
  · rfl

end Line

section Written

variable {name : String} {rest left : List Char}

theorem isBlank_of_isBareKey {c : Char} (bare : isBareKey c = true) : isBlank c = false := by
  simp [isBlank, ne_of_isBareKey bare (d := ' ') rfl, ne_of_isBareKey bare (d := '\t') rfl]

theorem IsBare.skipBlanks (bare : IsBare name) (rest : List Char) :
    skipBlanks (name.toList ++ rest) = name.toList ++ rest := by
  obtain ⟨c, cs, chars, first⟩ := bare.exists_cons
  rw [chars, List.cons_append, Toml.skipBlanks, List.dropWhile_cons_of_neg]
  rw [isBlank_of_isBareKey first]
  exact Bool.false_ne_true

theorem IsBare.key? (bare : IsBare name) {c : Char} (stops : isBareKey c = false) :
    key? (name.toList ++ c :: rest) = some (name, c :: rest) := by
  obtain ⟨d, ds, chars, first⟩ := bare.exists_cons
  have stops' : ¬ isBareKey c = true := by rw [stops]; exact Bool.false_ne_true
  have taken : (name.toList ++ c :: rest).takeWhile isBareKey = name.toList := by
    rw [List.takeWhile_append_of_pos bare.bare, List.takeWhile_cons_of_neg stops', List.append_nil]
  have dropped : (name.toList ++ c :: rest).dropWhile isBareKey = c :: rest := by
    rw [List.dropWhile_append_of_pos bare.bare, List.dropWhile_cons_of_neg stops']
  rw [chars, List.cons_append] at taken dropped ⊢
  rw [Toml.key?, if_neg]
  · rw [taken, dropped, ← chars]
    simp [bare.nonempty]
  · simp [ne_of_isBareKey first (d := '"') rfl, ne_of_isBareKey first (d := '\'') rfl]

/-- A bare key up to a character that neither continues it nor adds another key. -/
theorem IsBare.keyPath? (bare : IsBare name) {c d : Char} (stops : isBareKey c = false)
    (behind : Toml.skipBlanks (c :: rest) = d :: left) (single : d ≠ '.') :
    keyPath? (name.toList ++ c :: rest) = some (([], name), d :: left) := by
  have keys : keys? ((name.toList ++ c :: rest).length + 1) (name.toList ++ c :: rest) =
      some (([], name), d :: left) := by
    rw [keys?, bare.skipBlanks, bare.key? stops, Option.bind_eq_bind, Option.bind_some]
    dsimp only
    rw [behind]
    split
    · rename_i same
      exact absurd (List.cons.inj same).1 single
    · rfl
  rw [Toml.keyPath?, keys]
  rfl

/-- The header of a table on a line of its own. -/
theorem Line.read?_header (bare : IsBare name) (rest : List Char) :
    Line.read? ('[' :: (name.toList ++ ']' :: '\n' :: rest)) = some (.table [] name, rest) := by
  obtain ⟨c, cs, chars, first⟩ := bare.exists_cons
  have path : keyPath? (name.toList ++ ']' :: '\n' :: rest) =
      some (([], name), ']' :: '\n' :: rest) := bare.keyPath? rfl rfl (by decide)
  have header : Line.header? [']'] (name.toList ++ ']' :: '\n' :: rest) =
      some (([], name), rest) := by
    rw [Line.header?, path]
    rfl
  rw [chars] at header ⊢
  refine (Line.unindented?_table fun next same => ?_).trans (by rw [header]; rfl)
  exact ne_of_isBareKey first rfl (List.cons.inj same).1

theorem word_of_marks {text : List Char} (marks : ∀ c ∈ text, isWordMark c = true) {c : Char}
    (stops : isWordMark c = false) (other : c ≠ ' ') :
    word (text ++ c :: rest) = (text, c :: rest) := by
  have stops' : ¬ isWordMark c = true := by rw [stops]; exact Bool.false_ne_true
  have taken : (text ++ c :: rest).takeWhile isWordMark = text := by
    rw [List.takeWhile_append_of_pos marks, List.takeWhile_cons_of_neg stops', List.append_nil]
  have dropped : (text ++ c :: rest).dropWhile isWordMark = c :: rest := by
    rw [List.dropWhile_append_of_pos marks, List.dropWhile_cons_of_neg stops']
  rw [word, taken, dropped]
  split
  · rename_i same
    exact absurd (List.cons.inj same).1 other
  · rfl

/-- What stands in front of a written value with its line break. -/
theorem Value.Plain.first {v : Value} (plain : v.Plain) {c : Char} {cs : List Char}
    (same : v.scalarText.toList ++ '\n' :: rest = c :: cs) :
    Toml.isWordMark c = true ∨ c = '\n' := by
  rcases List.append_eq_cons_iff.mp same with ⟨-, newline⟩ | ⟨_, text, -⟩
  · exact .inr (List.cons.inj newline).1.symm
  · exact .inl (plain.isWordMark c (text ▸ List.mem_cons_self))

theorem Value.Plain.skipBlanks {v : Value} (plain : v.Plain) (rest : List Char) :
    skipBlanks (v.scalarText.toList ++ '\n' :: rest) = v.scalarText.toList ++ '\n' :: rest := by
  refine List.dropWhile_eq_self_iff.mpr fun nonempty => ?_
  obtain ⟨c, cs, same⟩ := List.exists_cons_of_ne_nil (List.length_pos_iff.mp nonempty)
  simp only [same, List.getElem_cons_zero]
  rcases plain.first same with mark | rfl
  · intro blank
    rcases Bool.or_eq_true _ _ |>.mp blank with space | tab
    · rw [beq_iff_eq.mp space] at mark
      cases mark
    · rw [beq_iff_eq.mp tab] at mark
      cases mark
  · exact Bool.false_ne_true

/-- A written value in front of the end of its line. -/
theorem Value.Plain.value? {v : Value} (plain : v.Plain) (fuel room : Nat) (rest : List Char) :
    value? (fuel + 1) room (v.scalarText.toList ++ '\n' :: rest) = some (v, '\n' :: rest) := by
  unfold Toml.value?
  split
  iterate 4
    rename_i same
    exact ((plain.first same).elim (fun mark => by cases mark) (fun newline => by cases newline))
  rw [word_of_marks plain.isWordMark rfl (by decide)]
  dsimp only
  rw [plain.wordValue?]
  rfl

theorem IsBare.lineEnd? (bare : IsBare name) (rest : List Char) :
    lineEnd? (name.toList ++ rest) = none := by
  obtain ⟨c, cs, chars, first⟩ := bare.exists_cons
  rw [Toml.lineEnd?, bare.skipBlanks, chars, List.cons_append]
  have text : skipComment (c :: (cs ++ rest)) = c :: (cs ++ rest) := by
    unfold skipComment
    split
    · rename_i same
      exact absurd (List.cons.inj same).1 (ne_of_isBareKey first rfl)
    · rfl
  rw [text]
  change newline? (c :: (cs ++ rest)) = none
  unfold newline?
  split
  · rename_i same
    exact absurd (List.cons.inj same).1 (ne_of_isBareKey first rfl)
  · rename_i same
    exact absurd (List.cons.inj same).1 (ne_of_isBareKey first rfl)
  · rfl

/-- The line of a bare key and a written value. -/
theorem Line.read?_entry (bare : IsBare name) {v : Value} (plain : v.Plain) (rest : List Char) :
    Line.read? ((name ++ " = " ++ v.scalarText ++ "\n").toList ++ rest) =
      some (.entry [] name v, rest) := by
  obtain ⟨value, hv⟩ : ∃ value, v.scalarText.toList ++ '\n' :: rest = value := ⟨_, rfl⟩
  obtain ⟨text, ht⟩ : ∃ text, name.toList ++ ' ' :: '=' :: ' ' :: value = text := ⟨_, rfl⟩
  have whole : (name ++ " = " ++ v.scalarText ++ "\n").toList ++ rest = text := by
    rw [← ht, ← hv]
    simp
  obtain ⟨fuel, length⟩ : ∃ fuel, text.length = fuel + 1 :=
    ⟨text.length - 1, by rw [← ht, List.length_append, List.length_cons]; omega⟩
  have path : keyPath? text = some (([], name), '=' :: ' ' :: value) := by
    rw [← ht]
    exact bare.keyPath? rfl rfl (by decide)
  have entry : field (text.length + 1) (depthLimit - 1) text = some (([], name), v, '\n' :: rest) := by
    have blank : skipBlanks (' ' :: value) = value := by
      rw [← hv]
      exact plain.skipBlanks rest
    rw [field, path, Option.bind_eq_bind, Option.bind_some, length]
    change (value? (fuel + 1) _ (skipBlanks (' ' :: value))).bind _ = _
    rw [blank, ← hv, plain.value? fuel _ rest]
    rfl
  have unindented : skipBlanks text = text := by
    rw [← ht]
    exact bare.skipBlanks _
  have noEnd : lineEnd? text = none := by
    rw [← ht]
    exact bare.lineEnd? _
  rw [whole, Line.read?, unindented, Line.unindented?_plain, Line.plain?, noEnd]
  · dsimp only
    rw [entry]
    rfl
  · obtain ⟨c, cs, chars, first⟩ := bare.exists_cons
    intro next same
    rw [← ht, chars] at same
    exact ne_of_isBareKey first rfl (List.cons.inj same).1

/-- The format reads scalars as it writes them. -/
theorem format_lossless : Library.Lossless where
  entry bare plain rest := Line.read?_entry bare plain rest
  header bare rest := Line.read?_header bare rest
  blank _ := rfl
  mark _ := rfl

end Written

end WorkedAlgebra.Toml
