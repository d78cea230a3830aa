import WorkedAlgebra.LineReader
import WorkedAlgebra.Proofs.Derivations

/-!
The lines of a text and of its encoding. A line feed is encoded as itself and occurs in no other
encoded character, so a reader of bytes delivers the lines of the text: the trimmed ones that state
an equation, each under its number.
-/

namespace WorkedAlgebra

section Pieces

variable {β : Type} [BEq β] [LawfulBEq β] {separator : β}

/-- The last of the lines, when all of them are terminated. -/
theorem getLast?_terminated {front line : List β} (absent : separator ∉ line)
    (closed : front = [] ∨ front.getLast? = some separator) :
    (terminated separator (front ++ line ++ [separator])).getLast? = some line := by
  have last : pieces separator (line ++ [separator]) = [line] ++ [[]] := by
    rw [pieces_append_absent absent, pieces_cons, if_pos BEq.rfl]
    simp [pieces]
  obtain ⟨before, parts⟩ : ∃ before, pieces separator (front ++ line ++ [separator]) =
      (before ++ [line]) ++ [[]] := by
    rcases closed with rfl | closed
    · exact ⟨[], last⟩
    · obtain ⟨front, rfl⟩ := List.getLast?_eq_some_iff.mp closed
      refine ⟨pieces separator front, ?_⟩
      rw [List.append_assoc, List.append_assoc, List.singleton_append, pieces_append_separator,
        last, List.append_assoc]
  simp only [terminated, parts, List.getLast?_concat, List.dropLast_concat]

end Pieces

section Encoding

/-- Of all characters the line feed alone has its byte in its encoding. -/
theorem lineFeed_mem_utf8EncodeChar {c : Char} :
    (10 : UInt8) ∈ String.utf8EncodeChar c ↔ c = '\n' := by
  constructor
  · intro mem
    have high {n : Nat} (low : 128 ≤ n) (bound : n < 256) : (10 : UInt8) ≠ UInt8.ofNat n := by
      intro same
      have := congrArg UInt8.toNat same
      rw [UInt8.toNat_ofNat_of_lt' bound] at this
      change 10 = n at this
      omega
    unfold String.utf8EncodeChar at mem
    dsimp only at mem
    split at mem
    · rename_i ascii
      have same := congrArg UInt8.toNat (List.mem_singleton.mp mem)
      rw [UInt8.toNat_ofNat_of_lt' (by simp only [UInt8.size]; omega)] at same
      exact Char.ext (UInt32.toNat_inj.mp same.symm)
    · exfalso
      split at mem
      · simp only [List.mem_cons, List.not_mem_nil, or_false] at mem
        rcases mem with h | h <;> exact high (by omega) (by omega) h
      · split at mem
        · simp only [List.mem_cons, List.not_mem_nil, or_false] at mem
          rcases mem with h | h | h <;> exact high (by omega) (by omega) h
        · simp only [List.mem_cons, List.not_mem_nil, or_false] at mem
          rcases mem with h | h | h | h <;> exact high (by omega) (by omega) h
  · rintro rfl
    decide

def encoded (cs : List Char) : List UInt8 := cs.flatMap String.utf8EncodeChar

theorem encoded_eq_nil_iff {cs : List Char} : encoded cs = [] ↔ cs = [] := by
  cases cs with
  | nil => simp [encoded]
  | cons c cs => simp [encoded, String.utf8EncodeChar_ne_nil]

theorem toList_loop_bytes (bytes : ByteArray) (i : Nat) (read : List UInt8) :
    ByteArray.toList.loop bytes i read = read.reverse ++ bytes.data.toList.drop i := by
  fun_induction ByteArray.toList.loop bytes i read with
  | case1 i read more ih =>
      have more' : i < bytes.data.toList.length := by simpa using more
      rw [ih, List.drop_eq_getElem_cons more']
      simp [ByteArray.get!, more]
  | case2 i read done =>
      rw [List.drop_eq_nil_of_le (by simpa using done), List.append_nil]

theorem toList_toUTF8 (text : String) : text.toUTF8.toList = encoded text.toList := by
  have bytes : text.toUTF8 = (encoded text.toList).toByteArray := by
    rw [String.toUTF8_eq_toByteArray, ← String.utf8Encode_toList]
    rfl
  rw [bytes, ByteArray.toList, toList_loop_bytes, List.reverse_nil, List.nil_append,
    List.drop_zero, List.toList_data_toByteArray]

theorem LineReader.decode?_encoded (cs : List Char) : decode? (encoded cs) = some cs := by
  have bytes : (⟨(encoded cs).toArray⟩ : ByteArray) = (String.ofList cs).toByteArray := by
    rw [String.toByteArray_ofList]
    exact ByteArray.ext List.data_toByteArray.symm
  have valid : String.fromUTF8? (String.ofList cs).toByteArray = some (String.ofList cs) := by
    rw [String.fromUTF8?, dif_pos (String.ofList cs).isValidUTF8]
    rfl
  rw [decode?, bytes, valid, Option.map_some, String.toList_ofList]

/-- Cutting the bytes at line feeds cuts the text there. -/
theorem pieces_encoded (cs : List Char) :
    pieces 10 (encoded cs) = (pieces '\n' cs).map encoded := by
  induction cs with
  | nil => rfl
  | cons c cs ih =>
      change pieces 10 (String.utf8EncodeChar c ++ encoded cs) = _
      rw [pieces_cons]
      by_cases feed : c = '\n'
      · subst feed
        exact congrArg ([] :: ·) ih
      · rw [pieces_append_absent (mt lineFeed_mem_utf8EncodeChar.mp feed), ih,
          if_neg (by simpa using feed)]
        cases pieces '\n' cs <;> rfl

theorem terminated_encoded (cs : List Char) :
    terminated 10 (encoded cs) = (terminated '\n' cs).map encoded := by
  unfold terminated
  dsimp only
  rw [pieces_encoded, List.getLast?_map]
  cases (pieces '\n' cs).getLast? with
  | none => rfl
  | some last =>
      cases last with
      | nil => simp [encoded]
      | cons c rest =>
          have filled : encoded (c :: rest) ≠ [] := by simp [encoded_eq_nil_iff]
          cases bytes : encoded (c :: rest) with
          | nil => exact (filled bytes).elim
          | cons b bytes' => simp [bytes]

end Encoding

namespace LineReader

def Holds (r : LineReader) (texts : List (List Char)) : Prop :=
  r.lines.map decode? = texts.map some

theorem holds_ofText (text : String) : (ofText text).Holds (terminated '\n' text.toList) := by
  rw [Holds, ofText, ofBytes, toList_toUTF8, terminated_encoded, List.map_map]
  exact List.map_congr_left fun line _ => decode?_encoded line

def equationsFrom (number : Nat) (lines : List (List Char)) : List (List Char × Nat) :=
  ((lines.map Text.trim).zipIdx number).filter fun line => isEquation line.1

/-- The equations of a text: its lines without the blanks around them, unless nothing is left or
a `#` comes first, under numbers that count all lines from one. -/
def equationsOf (text : String) : List (List Char × Nat) :=
  equationsFrom 1 (pieces '\n' text.toList)

theorem equationsFrom_cons (number : Nat) (line : List Char) (lines : List (List Char)) :
    equationsFrom number (line :: lines) =
      if isEquation (Text.trim line) then
        (Text.trim line, number) :: equationsFrom (number + 1) lines
      else equationsFrom (number + 1) lines := by
  simp [equationsFrom, List.zipIdx_cons, List.filter_cons]

/-- What stands behind the last line feed counts as a line only if it is not empty. -/
theorem equationsFrom_terminated (text : String) :
    equationsFrom 1 (terminated '\n' text.toList) = equationsOf text := by
  rw [equationsOf, terminated]
  cases last : (pieces '\n' text.toList).getLast? with
  | none => simp
  | some line =>
      obtain ⟨before, parts⟩ := List.getLast?_eq_some_iff.mp last
      cases line with
      | nil =>
          simp only [parts, List.dropLast_concat]
          simp [equationsFrom, List.zipIdx_append, Text.trim, isEquation]
      | cons c rest => simp

/-- One call delivers the next of the equations and leaves the others, or there is none. -/
theorem next_spec {r : LineReader} {texts : List (List Char)} (holds : r.Holds texts) :
    (equationsFrom (r.number + 1) texts = [] ∧ r.next.1 = .ok none) ∨
      ∃ equation rest texts', r.next = (.ok (some equation), rest) ∧ rest.Holds texts' ∧
        texts'.length < texts.length ∧
          equationsFrom (r.number + 1) texts =
            (equation, rest.number) :: equationsFrom (rest.number + 1) texts' := by
  obtain ⟨lines, number⟩ := r
  induction lines generalizing texts number with
  | nil =>
      cases texts with
      | nil => exact .inl ⟨rfl, rfl⟩
      | cons text texts => cases holds
  | cons line lines ih =>
      cases texts with
      | nil => cases holds
      | cons text texts =>
          obtain ⟨decoded, holds⟩ := List.cons.inj holds
          rw [equationsFrom_cons]
          simp only [next, nextFrom, decoded]
          cases states : isEquation (Text.trim text) with
          | true => exact .inr ⟨_, _, texts, rfl, holds, Nat.lt_succ_self _, rfl⟩
          | false =>
              rcases ih (number + 1) holds with
                none | ⟨e, rest, texts', more, holds', less, eqs⟩
              · exact .inl none
              · exact .inr ⟨e, rest, texts', more, holds', Nat.lt_succ_of_lt less, eqs⟩

end LineReader

end WorkedAlgebra
