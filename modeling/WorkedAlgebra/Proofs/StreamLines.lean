import WorkedAlgebra.Proofs.TextLines

/-!
Streams of bytes read line by line. A line is read up to and with its line feed and decoded as a
whole; one that is no text is a read error behind which the reading goes on. What is read are the
lines of the whole stream, and the line feed at the end of one counts among the blanks around it.
-/

namespace WorkedAlgebra

section Trimming

namespace Text

structure Trims (line front body back : List Char) : Prop where
  cut : line = front ++ body ++ back
  front_blank : ∀ c ∈ front, isBlank c = true
  back_blank : ∀ c ∈ back, isBlank c = true
  head_kept : ∀ c ∈ body.head?, isBlank c = false
  last_kept : ∀ c ∈ body.getLast?, isBlank c = false

def IsTrimmed (line body : List Char) : Prop := ∃ front back, Trims line front body back

theorem dropWhile_of_head {text : List Char} (kept : ∀ c ∈ text.head?, isBlank c = false) :
    text.dropWhile isBlank = text := by
  cases text with
  | nil => rfl
  | cons c text => rw [List.dropWhile_cons, kept c rfl, if_neg Bool.false_ne_true]

theorem head_dropWhile (text : List Char) :
    ∀ c ∈ (text.dropWhile isBlank).head?, isBlank c = false := by
  intro c mem
  have kept := List.head?_dropWhile_not isBlank text
  rwa [Option.mem_def.mp mem] at kept

/-- Blanks behind a text are trimmed away. -/
theorem trim_append_blanks {text back : List Char} (blank : ∀ c ∈ back, isBlank c = true) :
    trim (text ++ back) = trim text := by
  have none : back.dropWhile isBlank = [] := List.dropWhile_eq_nil_iff.mpr blank
  have blank' : ∀ c ∈ back.reverse, isBlank c = true := fun c mem =>
    blank c (List.mem_reverse.mp mem)
  unfold trim
  rw [List.dropWhile_append, none]
  cases start : text.dropWhile isBlank with
  | nil => rfl
  | cons c rest =>
    rw [List.isEmpty_cons, if_neg Bool.false_ne_true, List.reverse_append,
      List.dropWhile_append_of_pos blank']

theorem isTrimmed_trim (line : List Char) : IsTrimmed line (trim line) := by
  let body := line.dropWhile isBlank
  have ends : body = trim line ++ (body.reverse.takeWhile isBlank).reverse := by
    rw [trim, ← List.reverse_append, List.takeWhile_append_dropWhile, List.reverse_reverse]
  refine ⟨line.takeWhile isBlank, (body.reverse.takeWhile isBlank).reverse, ?_⟩
  constructor
  case cut =>
    rw [List.append_assoc, ← ends]
    exact List.takeWhile_append_dropWhile.symm
  case front_blank => exact fun c mem => List.mem_takeWhile_imp mem
  case back_blank => exact fun c mem => List.mem_takeWhile_imp (List.mem_reverse.mp mem)
  case head_kept =>
    intro c mem
    apply head_dropWhile line
    change c ∈ body.head?
    rw [ends]
    exact List.mem_head?_append_of_mem_head? mem
  case last_kept =>
    intro c mem
    apply head_dropWhile body.reverse
    rwa [trim, List.getLast?_reverse] at mem

theorem IsTrimmed.eq_trim {line body : List Char} (trimmed : IsTrimmed line body) :
    trim line = body := by
  obtain ⟨front, back, t⟩ := trimmed
  rw [t.cut, trim_append_blanks t.back_blank, trim, List.dropWhile_append_of_pos t.front_blank,
    dropWhile_of_head t.head_kept, dropWhile_of_head, List.reverse_reverse]
  intro c mem
  rw [List.head?_reverse] at mem
  exact t.last_kept c mem

theorem isTrimmed_iff {line body : List Char} : IsTrimmed line body ↔ trim line = body := by
  constructor
  · exact IsTrimmed.eq_trim
  · intro same
    exact same ▸ isTrimmed_trim line

end Text

end Trimming

section Terminated

variable {β : Type} [BEq β] [LawfulBEq β] {separator : β} {line : List β}

theorem absent_of_mem_pieces {cs : List β} (mem : line ∈ pieces separator cs) :
    separator ∉ line := by
  induction cs generalizing line with
  | nil =>
    rw [List.mem_singleton.mp mem]
    exact List.not_mem_nil
  | cons c cs ih =>
    rw [pieces_cons] at mem
    split at mem
    · cases mem with
      | head => exact List.not_mem_nil
      | tail _ later => exact ih later
    · rename_i other
      obtain ⟨piece, rest, cut⟩ := List.exists_cons_of_ne_nil (pieces_ne_nil separator cs)
      rw [cut] at mem ih
      cases mem with
      | head =>
        rw [List.mem_cons, not_or]
        exact ⟨fun same => other (beq_iff_eq.mpr same.symm), ih List.mem_cons_self⟩
      | tail _ later => exact ih (List.mem_cons_of_mem piece later)

theorem absent_of_mem_terminated {cs : List β} (mem : line ∈ terminated separator cs) :
    separator ∉ line := by
  unfold terminated at mem
  dsimp only at mem
  split at mem
  · exact absent_of_mem_pieces (List.mem_of_mem_dropLast mem)
  · exact absent_of_mem_pieces mem

theorem terminated_append_separator (front rest : List β) :
    terminated separator (front ++ separator :: rest) =
      pieces separator front ++ terminated separator rest := by
  have more := pieces_ne_nil separator rest
  unfold terminated
  simp only [pieces_append_separator]
  rw [List.getLast?_append_of_ne_nil _ more, List.dropLast_append_of_ne_nil more]
  split <;> rfl

/-- A separator ends the first line. -/
theorem terminated_cut (absent : separator ∉ line) (rest : List β) :
    terminated separator (line ++ separator :: rest) = line :: terminated separator rest := by
  rw [terminated_append_separator, pieces_of_absent absent]
  rfl

/-- The last line needs no separator. -/
theorem terminated_of_absent (absent : separator ∉ line) (filled : line ≠ []) :
    terminated separator line = [line] := by
  unfold terminated
  simp only [pieces_of_absent absent]
  cases line with
  | nil => exact absurd rfl filled
  | cons b line => rfl

/-- A line between separators or ends of the sequence is one of the lines. -/
theorem terminated_around {before after : List β} (starts : ∀ b ∈ before.getLast?, b = separator)
    (absent : separator ∉ line) (filled : line ≠ [])
    (ends : ∀ b ∈ after.head?, b = separator) :
    terminated separator (before ++ line ++ after) =
      terminated separator before ++ line :: terminated separator after.tail := by
  have behind : terminated separator (line ++ after) = line :: terminated separator after.tail := by
    cases after with
    | nil => rw [List.append_nil, terminated_of_absent absent filled]; rfl
    | cons b after => rw [ends b rfl, terminated_cut absent, List.tail_cons]
  rw [List.append_assoc]
  cases last : before.getLast? with
  | none =>
    rw [List.getLast?_eq_none_iff.mp last, List.nil_append, behind]
    rfl
  | some b =>
    obtain ⟨front, rfl⟩ := List.getLast?_eq_some_iff.mp last
    rw [starts b last, List.append_assoc, List.singleton_append, terminated_append_separator,
      terminated_append_separator, behind]
    simp [terminated, pieces]

/-- A sequence is empty, a last line without a separator, or a line in front of the others. -/
theorem line_cases (separator : β) (cs : List β) :
    cs = [] ∨ (cs ≠ [] ∧ separator ∉ cs) ∨
      ∃ line rest, separator ∉ line ∧ cs = line ++ separator :: rest := by
  by_cases mem : separator ∈ cs
  · obtain ⟨line, rest, cut, absent⟩ := List.eq_append_cons_of_mem mem
    exact .inr (.inr ⟨line, rest, absent, cut⟩)
  · cases cs with
    | nil => exact .inl rfl
    | cons c cs => exact .inr (.inl ⟨List.cons_ne_nil c cs, mem⟩)

structure LineAt (separator : β) (before line after cs : List β) : Prop where
  cut : cs = before ++ line ++ after
  /-- The line starts the sequence, or stands behind a separator. -/
  starts : before = [] ∨ before.getLast? = some separator
  /-- It ends with its only separator, or with the sequence. -/
  ends : (∃ body, separator ∉ body ∧ line = body ++ [separator]) ∨
    (separator ∉ line ∧ line ≠ [] ∧ after = [])

/-- The lines in front of another one are as many as there are separators in front of it. -/
theorem exists_lineAt {cs : List β} {front back : List (List β)}
    (cut : terminated separator cs = front ++ line :: back) :
    ∃ before marked after, LineAt separator before marked after cs ∧
      (marked = line ∨ marked = line ++ [separator]) ∧ before.count separator = front.length ∧
      terminated separator before = front ∧ terminated separator after = back := by
  induction front generalizing cs with
  | nil =>
    rcases line_cases separator cs with rfl | ⟨filled, absent⟩ | ⟨first, rest, absent, rfl⟩
    · cases cut
    · rw [terminated_of_absent absent filled] at cut
      cases cut
      exact ⟨[], line, [], ⟨by simp, .inl rfl, .inr ⟨absent, filled, rfl⟩⟩, .inl rfl, rfl, rfl, rfl⟩
    · rw [terminated_cut absent] at cut
      cases cut
      exact ⟨[], line ++ [separator], rest, ⟨by simp, .inl rfl, .inl ⟨line, absent, rfl⟩⟩,
        .inr rfl, rfl, rfl, rfl⟩
  | cons head front ih =>
    rcases line_cases separator cs with rfl | ⟨filled, absent⟩ | ⟨first, rest, absent, rfl⟩
    · cases cut
    · rw [terminated_of_absent absent filled] at cut
      exact absurd (List.cons.inj cut).2.symm
        (List.append_ne_nil_of_right_ne_nil front (List.cons_ne_nil line back))
    · rw [terminated_cut absent] at cut
      obtain ⟨rfl, later⟩ := List.cons.inj cut
      obtain ⟨before, marked, after, at', same, count, lines, others⟩ := ih later
      refine ⟨first ++ separator :: before, marked, after, ⟨?_, .inr ?_, at'.ends⟩, same, ?_, ?_,
        others⟩
      · rw [at'.cut]
        simp
      · rw [List.getLast?_append_of_ne_nil _ (List.cons_ne_nil separator before)]
        cases at'.starts with
        | inl empty => rw [empty]; rfl
        | inr last => rw [List.getLast?_cons, last]; rfl
      · rw [List.count_append, List.count_eq_zero.mpr absent, List.count_cons_self, count]
        simp
      · rw [terminated_cut absent, lines]

end Terminated

section Decoding

namespace LineReader

theorem eq_encoded_of_decode? {line : List UInt8} {text : List Char}
    (decoded : decode? line = some text) : line = encoded text := by
  obtain ⟨s, valid, rfl⟩ := Option.map_eq_some_iff.mp decoded
  unfold String.fromUTF8? at valid
  split at valid
  · rename_i isText
    cases valid
    have bytes := toList_toUTF8 (String.fromUTF8 ⟨line.toArray⟩ isText)
    rw [← bytes, ByteArray.toList, toList_loop_bytes]
    rfl
  · cases valid

/-- A line with its line feed is a text if the line is. -/
theorem decode?_feed (line : List UInt8) :
    decode? (line ++ [10]) = (decode? line).map (· ++ ['\n']) := by
  have feed (text : List Char) : encoded (text ++ ['\n']) = encoded text ++ [10] := by
    simp [encoded, String.utf8EncodeChar]
  cases decoded : decode? line with
  | some text =>
    rw [eq_encoded_of_decode? decoded, ← feed, decode?_encoded]
    rfl
  | none =>
    cases marked : decode? (line ++ [10]) with
    | none => rfl
    | some text =>
      -- the last character of the text holds the byte of a line feed, so it is one
      have bytes := eq_encoded_of_decode? marked
      obtain ⟨front, c, rfl⟩ : ∃ front c, text = front ++ [c] := by
        rcases List.eq_nil_or_concat text with rfl | ⟨front, c, rfl⟩
        · exact absurd bytes (by simp [encoded])
        · exact ⟨front, c, List.concat_eq_append⟩
      have last : (10 : UInt8) ∈ String.utf8EncodeChar c := by
        have ends := congrArg List.getLast? bytes
        rw [List.getLast?_concat, encoded, List.flatMap_append, List.flatMap_singleton,
          List.getLast?_append_of_ne_nil _ String.utf8EncodeChar_ne_nil] at ends
        exact List.mem_of_getLast? ends.symm
      obtain rfl := lineFeed_mem_utf8EncodeChar.mp last
      rw [feed] at bytes
      rw [List.append_cancel_right bytes, decode?_encoded] at decoded
      cases decoded

end LineReader

end Decoding

section Reading

def takeLine : List UInt8 → List UInt8 × List UInt8
  | [] => ([], [])
  | b :: bytes =>
    if b = 10 then ([b], bytes) else (b :: (takeLine bytes).1, (takeLine bytes).2)

theorem takeLine_cut {line : List UInt8} (absent : 10 ∉ line) (rest : List UInt8) :
    takeLine (line ++ 10 :: rest) = (line ++ [10], rest) := by
  induction line with
  | nil => rfl
  | cons b line ih =>
    have other : b ≠ 10 := fun same => absent (same ▸ List.mem_cons_self)
    rw [List.cons_append, takeLine, if_neg other,
      ih fun mem => absent (List.mem_cons_of_mem b mem)]
    rfl

theorem takeLine_of_absent {line : List UInt8} (absent : 10 ∉ line) :
    takeLine line = (line, []) := by
  induction line with
  | nil => rfl
  | cons b line ih =>
    have other : b ≠ 10 := fun same => absent (same ▸ List.mem_cons_self)
    rw [takeLine, if_neg other, ih fun mem => absent (List.mem_cons_of_mem b mem)]

/-- What reading a line gives: a text, nothing at the end, or an error. -/
abbrev LineResult : Type := Except InvalidLine (Option (List Char))

/-- Reads a line: nothing at the end of the bytes, an error behind a line that is no text. -/
def readLine (bytes : List UInt8) : LineResult × List UInt8 :=
  match takeLine bytes with
  | ([], rest) => (.ok none, rest)
  | (line, rest) =>
    match LineReader.decode? line with
    | some text => (.ok (some text), rest)
    | none => (.error {}, rest)

inductive ReadsLine (line : List UInt8) : LineResult → Prop
  | text {text ending : List Char} (decoded : LineReader.decode? line = some text)
      (blank : ∀ c ∈ ending, Text.isBlank c = true) : ReadsLine line (.ok (some (text ++ ending)))
  | invalid (undecoded : LineReader.decode? line = none) : ReadsLine line (.error {})

theorem readLine_of_takeLine {bytes line rest : List UInt8} (taken : takeLine bytes = (line, rest))
    (filled : line ≠ []) :
    readLine bytes = match LineReader.decode? line with
      | some text => (.ok (some text), rest)
      | none => (.error {}, rest) := by
  cases line with
  | nil => exact absurd rfl filled
  | cons b line => rw [readLine, taken]

/-- Reading finds nothing at the end of a stream, and elsewhere takes off its first line. -/
theorem readLine_cases {bytes rest : List UInt8} {result : LineResult}
    (read : readLine bytes = (result, rest)) :
    (bytes = [] ∧ rest = [] ∧ result = .ok none) ∨
      ∃ line, terminated 10 bytes = line :: terminated 10 rest ∧ rest.length < bytes.length ∧
        ReadsLine line result := by
  rcases line_cases 10 bytes with rfl | ⟨filled, absent⟩ | ⟨line, rest', absent, rfl⟩
  · cases read
    exact .inl ⟨rfl, rfl, rfl⟩
  · right
    rw [readLine_of_takeLine (takeLine_of_absent absent) filled] at read
    cases decoded : LineReader.decode? bytes with
    | none =>
      rw [decoded] at read
      cases read
      exact ⟨bytes, terminated_of_absent absent filled, List.length_pos_iff.mpr filled,
        .invalid decoded⟩
    | some text =>
      rw [decoded] at read
      cases read
      have reads : ReadsLine bytes (.ok (some (text ++ []))) :=
        .text decoded fun c mem => absurd mem List.not_mem_nil
      rw [List.append_nil] at reads
      exact ⟨bytes, terminated_of_absent absent filled, List.length_pos_iff.mpr filled, reads⟩
  · right
    have shorter : rest'.length < (line ++ 10 :: rest').length := by
      rw [List.length_append, List.length_cons]
      omega
    rw [readLine_of_takeLine (takeLine_cut absent rest') (by simp), LineReader.decode?_feed] at read
    cases decoded : LineReader.decode? line with
    | none =>
      rw [decoded] at read
      cases read
      exact ⟨line, terminated_cut absent rest, shorter, .invalid decoded⟩
    | some text =>
      rw [decoded] at read
      cases read
      refine ⟨line, terminated_cut absent rest, shorter, .text decoded ?_⟩
      intro c mem
      rw [List.mem_singleton.mp mem]
      rfl

theorem length_readLine_lt {bytes rest : List UInt8} {text : List Char}
    (read : readLine bytes = (.ok (some text), rest)) : rest.length < bytes.length := by
  cases readLine_cases read with
  | inl ended => cases ended.2.2
  | inr taken =>
    obtain ⟨line, -, shorter, -⟩ := taken
    exact shorter

end Reading

end WorkedAlgebra
