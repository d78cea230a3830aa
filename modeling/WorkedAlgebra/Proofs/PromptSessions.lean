import WorkedAlgebra.Proofs.Batches
import WorkedAlgebra.Proofs.DocumentIntegers
import WorkedAlgebra.Proofs.LineWords

/-!
Sessions at the prompt. What a session writes is the banner and then, for one line after the other,
the prompt and the answer to that line alone, up to a line that leaves or the end of the input; and
what stands behind a line that leaves is never read. The loop that reads the lines from a stream of
bytes and carries on what it has written writes the same.
-/

namespace WorkedAlgebra.CommandLine

theorem Output.append_assoc (a b d : Output) : a ++ b ++ d = a ++ (b ++ d) :=
  Output.ext String.append_assoc String.append_assoc

namespace Context

def exercises : List (String × Operation) :=
  [("mul", .multiplication), ("div", .division), ("divmod", .divisionWithRemainder)]

/-- The words that a command starts with; any other word starts an equation. -/
def commandNames : List String :=
  ["help", "?", "exit", "quit", "config"] ++ exercises.map Prod.fst

def Leaves (line : List Char) : Prop :=
  ∃ first operands, Text.HasWords line (first :: operands) ∧
    (String.ofList first = "exit" ∨ String.ofList first = "quit")

/-- The answer to a line that does not leave, by what the line is. -/
inductive Answers [Unicode.Form] [Toml.Library] (c : Context) (line : List Char) : Output → Prop
  | blank (nothing : ∀ x ∈ line, Text.isBlank x = true) : Answers c line {}
  | help {first : List Char} {operands : List (List Char)}
      (has : Text.HasWords line (first :: operands))
      (named : String.ofList first = "help" ∨ String.ofList first = "?") :
      Answers c line c.helpText
  | settings {first : List Char} {operands : List (List Char)}
      (has : Text.HasWords line (first :: operands)) (named : String.ofList first = "config") :
      Answers c line (.print c.settings.toToml)
  | worked {first : List Char} {operands : List (List Char)} {operation : Operation}
      {a b : Option Int} {exercise : Worked} (has : Text.HasWords line (first :: operands))
      (named : (String.ofList first, operation) ∈ exercises)
      (left : LongHand.OperandAt operands 0 a) (right : LongHand.OperandAt operands 1 b)
      (works : LongHand.work operation a b = .ok exercise) :
      Answers c line (c.showWorked exercise)
  | refused {first : List Char} {operands : List (List Char)} {operation : Operation}
      {a b : Option Int} {error : ArithmeticError} (has : Text.HasWords line (first :: operands))
      (named : (String.ofList first, operation) ∈ exercises)
      (left : LongHand.OperandAt operands 0 a) (right : LongHand.OperandAt operands 1 b)
      (fails : LongHand.work operation a b = .error error) :
      Answers c line
        (.warn (Report.red.strong.paint c.palette "err:" ++ s!" {error.message}\n"))
  | solved {first equation : List Char} {operands : List (List Char)} {s : Solution Float}
      (has : Text.HasWords line (first :: operands)) (other : String.ofList first ∉ commandNames)
      (trimmed : Text.IsTrimmed line equation)
      (solves : solve c.settings.solver (String.ofList equation) = .ok s) :
      Answers c line (c.log (String.ofList equation) ++ c.showSolution s)
  | rejected {first equation : List Char} {operands : List (List Char)} {error : SolveError}
      (has : Text.HasWords line (first :: operands)) (other : String.ofList first ∉ commandNames)
      (trimmed : Text.IsTrimmed line equation)
      (fails : solve c.settings.solver (String.ofList equation) = .error error) :
      Answers c line (c.log (String.ofList equation) ++ c.diagnose (String.ofList equation) error)

section Replies

variable {c : Context} {line : List Char}

theorem replyArith_ok {operands : List (List Char)} {operation : Operation} {a b : Option Int}
    {exercise : Worked} (left : LongHand.OperandAt operands 0 a)
    (right : LongHand.OperandAt operands 1 b)
    (works : LongHand.work operation a b = .ok exercise) :
    c.replyArith operation operands = c.showWorked exercise := by
  simp only [replyArith, LongHand.operandAt_iff.mp left, LongHand.operandAt_iff.mp right, works]

theorem replyArith_error {operands : List (List Char)} {operation : Operation} {a b : Option Int}
    {error : ArithmeticError} (left : LongHand.OperandAt operands 0 a)
    (right : LongHand.OperandAt operands 1 b)
    (fails : LongHand.work operation a b = .error error) :
    c.replyArith operation operands =
      .warn (Report.red.strong.paint c.palette "err:" ++ s!" {error.message}\n") := by
  simp only [replyArith, LongHand.operandAt_iff.mp left, LongHand.operandAt_iff.mp right, fails]

variable [Unicode.Form] [Toml.Library]

theorem reply_blank (none : Text.words line = []) : c.reply line = some {} := by
  rw [reply, Text.words_trim, none]

/-- The reply to a line with words, by the first of them. -/
theorem reply_words {first : List Char} {operands : List (List Char)}
    (starts : Text.words line = first :: operands) :
    c.reply line = match String.ofList first with
      | "help" | "?" => some c.helpText
      | "exit" | "quit" => none
      | "config" => some (.print c.settings.toToml)
      | "mul" => some (c.replyArith .multiplication operands)
      | "div" => some (c.replyArith .division operands)
      | "divmod" => some (c.replyArith .divisionWithRemainder operands)
      | _ => some (c.replyEquation (String.ofList (Text.trim line))) := by
  rw [← Text.words_trim] at starts
  unfold reply
  dsimp only
  split
  · rename_i none
    rw [starts] at none
    cases none
  · rename_i cut
    rw [starts] at cut
    cases cut
    rfl

theorem answers_exercise {first : List Char} {operands : List (List Char)} {operation : Operation}
    (has : Text.HasWords line (first :: operands))
    (named : (String.ofList first, operation) ∈ exercises) :
    Answers c line (c.replyArith operation operands) := by
  have left := LongHand.operandAt_iff.mpr (Eq.refl ((operands[0]?).bind LongHand.operand?))
  have right := LongHand.operandAt_iff.mpr (Eq.refl ((operands[1]?).bind LongHand.operand?))
  unfold replyArith
  dsimp only
  split
  · rename_i exercise works
    exact .worked has named left right works
  · rename_i error fails
    exact .refused has named left right fails

theorem answers_equation {first : List Char} {operands : List (List Char)}
    (has : Text.HasWords line (first :: operands)) (other : String.ofList first ∉ commandNames) :
    Answers c line (c.replyEquation (String.ofList (Text.trim line))) := by
  have trimmed := Text.isTrimmed_trim line
  unfold replyEquation
  split
  · rename_i s solves
    exact .solved has other trimmed solves
  · rename_i error fails
    exact .rejected has other trimmed fails

/-- A line leaves the prompt or is answered as its words say. -/
theorem reply_spec (c : Context) (line : List Char) :
    (Leaves line ∧ c.reply line = none) ∨ ∃ output, Answers c line output ∧
      c.reply line = some output := by
  have has := Text.hasWords_words line
  cases starts : Text.words line with
  | nil =>
    rw [starts] at has
    exact .inr ⟨{}, .blank has.all_blank, reply_blank starts⟩
  | cons first operands =>
    rw [starts] at has
    rw [reply_words starts]
    split
    · rename_i named
      exact .inr ⟨_, .help has (.inl named), rfl⟩
    · rename_i named
      exact .inr ⟨_, .help has (.inr named), rfl⟩
    · rename_i named
      exact .inl ⟨⟨first, operands, has, .inl named⟩, rfl⟩
    · rename_i named
      exact .inl ⟨⟨first, operands, has, .inr named⟩, rfl⟩
    · rename_i named
      exact .inr ⟨_, .settings has named, rfl⟩
    · rename_i named
      exact .inr ⟨_, answers_exercise has (by simp [named, exercises]), rfl⟩
    · rename_i named
      exact .inr ⟨_, answers_exercise has (by simp [named, exercises]), rfl⟩
    · rename_i named
      exact .inr ⟨_, answers_exercise has (by simp [named, exercises]), rfl⟩
    · exact .inr ⟨_, answers_equation has (by simp_all [commandNames, exercises]), rfl⟩

theorem Leaves.reply (leaves : Leaves line) : c.reply line = none := by
  obtain ⟨first, operands, has, named⟩ := leaves
  rw [reply_words has.eq_words]
  cases named with
  | inl exit => simp only [exit]
  | inr quit => simp only [quit]

theorem reply_exercise {first : List Char} {operands : List (List Char)} {operation : Operation}
    (has : Text.HasWords line (first :: operands))
    (named : (String.ofList first, operation) ∈ exercises) :
    c.reply line = some (c.replyArith operation operands) := by
  rw [reply_words has.eq_words]
  simp only [exercises, List.mem_cons, Prod.mk.injEq, List.not_mem_nil, or_false] at named
  rcases named with ⟨name, rfl⟩ | ⟨name, rfl⟩ | ⟨name, rfl⟩ <;> simp only [name]

theorem reply_equation {first equation : List Char} {operands : List (List Char)}
    (has : Text.HasWords line (first :: operands)) (other : String.ofList first ∉ commandNames)
    (trimmed : Text.IsTrimmed line equation) :
    c.reply line = some (c.replyEquation (String.ofList equation)) := by
  rw [reply_words has.eq_words, trimmed.eq_trim]
  simp only [commandNames, exercises, List.map_cons, List.map_nil, List.cons_append,
    List.nil_append, List.mem_cons, List.not_mem_nil, or_false, not_or] at other
  split <;> simp_all

/-- There is no other answer to a line. -/
theorem Answers.reply {output : Output} (answers : Answers c line output) :
    c.reply line = some output := by
  cases answers with
  | blank nothing => exact reply_blank (Text.HasWords.nil nothing).eq_words
  | help has named =>
    rw [reply_words has.eq_words]
    cases named with
    | inl help => simp only [help]
    | inr mark => simp only [mark]
  | settings has named => simp only [reply_words has.eq_words, named]
  | worked has named left right works =>
    rw [reply_exercise has named, replyArith_ok left right works]
  | refused has named left right fails =>
    rw [reply_exercise has named, replyArith_error left right fails]
  | solved has other trimmed solves =>
    rw [reply_equation has other trimmed, replyEquation, solves]
  | rejected has other trimmed fails =>
    rw [reply_equation has other trimmed, replyEquation, fails]

/-- Blanks at the end of a line do not matter to the reply. -/
theorem reply_append_blanks {ending : List Char} (blank : ∀ x ∈ ending, Text.isBlank x = true) :
    c.reply (line ++ ending) = c.reply line := by
  rw [reply, reply, Text.trim_append_blanks blank]

theorem Answers.not_leaves {output : Output} (answers : Answers c line output) : ¬ Leaves line := by
  intro leaves
  have none := leaves.reply (c := c)
  rw [answers.reply] at none
  cases none

end Replies

section Lines

variable {c : Context}

/-- The prompt with one answer after the other, and the last prompt; at the end of the input that
one is followed by a line feed. -/
def exchange (c : Context) (answers : List Output) (ended : Bool) : Output where
  out := String.join (answers.map fun answer => c.promptText.out ++ answer.out) ++
    c.promptText.out ++ if ended then "\n" else ""
  err := String.join (answers.map Output.err)

theorem exchange_cons (answer : Output) (answers : List Output) (ended : Bool) :
    c.exchange (answer :: answers) ended = c.promptText ++ answer ++ c.exchange answers ended := by
  apply Output.ext
  · simp only [exchange, List.map_cons, String.join_cons, Output.append_out, String.append_assoc]
  · simp only [exchange, List.map_cons, String.join_cons, Output.append_err]
    rfl

/-- What stands in a text between a line feed or its start and a line feed or its end. -/
structure IsLine (before line after : List Char) : Prop where
  starts : ∀ x ∈ before.getLast?, x = '\n'
  whole : '\n' ∉ line
  ends : ∀ x ∈ after.head?, x = '\n'

variable [Unicode.Form] [Toml.Library]

def replies (c : Context) : List (List Char) → Output
  | [] => c.promptText ++ .print "\n"
  | line :: rest =>
    match c.reply line with
    | none => c.promptText
    | some output => c.promptText ++ output ++ c.replies rest

/-- Lines that are texts are read without a failure. -/
theorem converse_encoded (c : Context) (lines : List (List Char)) :
    c.converse (lines.map encoded) = (c.replies lines, 0) := by
  induction lines with
  | nil => rfl
  | cons line lines ih =>
    rw [List.map_cons, converse, LineReader.decode?_encoded, replies, ih]
    dsimp only
    cases c.reply line with
    | none => rfl
    | some output => rfl

theorem sessionOn_toUTF8 (c : Context) (input : String) :
    c.sessionOn input.toUTF8.toList =
      (c.banner ++ c.replies (terminated '\n' input.toList), 0) := by
  rw [sessionOn, toList_toUTF8, terminated_encoded, converse_encoded]

theorem session_eq (c : Context) (input : String) :
    c.session input = c.banner ++ c.replies (terminated '\n' input.toList) := by
  rw [session, sessionOn_toUTF8]

/-- Lines are answered one by one up to a line that leaves or the end. -/
theorem exists_answers (c : Context) (lines : List (List Char)) :
    ∃ spoken left answers, lines = spoken ++ left ∧ List.Forall₂ (Answers c) spoken answers ∧
      ∀ line ∈ left.head?, Leaves line := by
  induction lines with
  | nil => exact ⟨[], [], [], rfl, .nil, fun line mem => by cases mem⟩
  | cons line lines ih =>
    cases reply_spec c line with
    | inl left =>
      refine ⟨[], line :: lines, [], rfl, .nil, ?_⟩
      intro first mem
      cases mem
      exact left.1
    | inr replied =>
      obtain ⟨output, answers, -⟩ := replied
      obtain ⟨spoken, left, others, rfl, each, stop⟩ := ih
      exact ⟨line :: spoken, left, output :: others, rfl, .cons answers each, stop⟩

theorem replies_answered {spoken left : List (List Char)} {answers : List Output}
    (each : List.Forall₂ (Answers c) spoken answers) (stop : ∀ line ∈ left.head?, Leaves line) :
    c.replies (spoken ++ left) = c.exchange answers left.isEmpty := by
  induction each with
  | nil =>
    cases left with
    | nil => exact Output.ext rfl rfl
    | cons line left =>
      rw [List.nil_append, replies, (stop line rfl).reply]
      exact Output.ext (by simp [exchange]) rfl
  | cons answer each ih =>
    rw [List.cons_append, replies, answer.reply, exchange_cons, ← ih]

/-- What stands behind a line that leaves is not read. -/
theorem replies_left {line : List Char} (leaves : Leaves line)
    (front rest rest' : List (List Char)) :
    c.replies (front ++ line :: rest) = c.replies (front ++ line :: rest') := by
  induction front with
  | nil => rw [List.nil_append, List.nil_append, replies, replies, leaves.reply]
  | cons first front ih =>
    rw [List.cons_append, List.cons_append, replies, replies, ih]

end Lines

section Loop

inductive Interruption where
  | unreadable
  | unwritable
deriving DecidableEq, Repr

/-- Reading the bytes of some lines finds them, each with the line feed that may end it. -/
theorem readLine_encoded {bytes : List UInt8} {lines : List (List Char)}
    (holds : terminated 10 bytes = lines.map encoded) :
    (lines = [] ∧ readLine bytes = (.ok none, [])) ∨
      ∃ line ending others rest, lines = line :: others ∧
        readLine bytes = (.ok (some (line ++ ending)), rest) ∧
        (∀ x ∈ ending, Text.isBlank x = true) ∧ terminated 10 rest = others.map encoded := by
  cases read : readLine bytes with
  | mk result rest =>
    cases readLine_cases read with
    | inl ended =>
      obtain ⟨rfl, rfl, rfl⟩ := ended
      exact .inl ⟨List.map_eq_nil_iff.mp holds.symm, rfl⟩
    | inr taken =>
      obtain ⟨first, cut, -, reads⟩ := taken
      rw [cut] at holds
      obtain ⟨line, others, rfl, rfl, behind⟩ := List.map_eq_cons_iff.mp holds.symm
      cases reads with
      | text decoded blank =>
        rw [LineReader.decode?_encoded] at decoded
        cases decoded
        exact .inr ⟨_, _, others, rest, rfl, rfl, blank, behind.symm⟩
      | invalid undecoded =>
        rw [LineReader.decode?_encoded] at undecoded
        cases undecoded

variable [Unicode.Form] [Toml.Library] {c : Context}

/-- The reply to a line, which fails if it is to show settings that cannot be written. -/
def turn (c : Context) (line : List Char) : Except Interruption (Option Output) :=
  if (Text.words line).head? = some "config".toList ∧ c.settings.toToml? = none then
    .error .unwritable
  else .ok (c.reply line)

/-- The loop at the prompt, over the bytes that are left of the input and with what was printed so
far. -/
def promptLoop (c : Context) (bytes : List UInt8) (printed : Output) :
    Output × Except Interruption Unit :=
  let asked := printed ++ c.promptText
  match _read : readLine bytes with
  | (.error _, _) => (asked, .error .unreadable)
  | (.ok none, _) => (asked ++ .print "\n", .ok ())
  | (.ok (some line), rest) =>
    match c.turn line with
    | .error e => (asked, .error e)
    | .ok none => (asked, .ok ())
    | .ok (some output) => promptLoop c rest (asked ++ output)
termination_by bytes.length
decreasing_by exact length_readLine_lt _read

theorem turn_eq (fit : c.settings.CountsFit) (line : List Char) :
    c.turn line = .ok (c.reply line) := by
  rw [turn, Settings.toToml?_eq fit, if_neg]
  exact fun unwritable => by cases unwritable.2

theorem promptLoop_of_end {bytes rest : List UInt8} (read : readLine bytes = (.ok none, rest))
    (printed : Output) :
    c.promptLoop bytes printed = (printed ++ c.promptText ++ .print "\n", .ok ()) := by
  rw [promptLoop]
  split <;> simp_all

theorem promptLoop_of_line {bytes rest : List UInt8} {line : List Char}
    (read : readLine bytes = (.ok (some line), rest)) (printed : Output) :
    c.promptLoop bytes printed = match c.turn line with
      | .error e => (printed ++ c.promptText, .error e)
      | .ok none => (printed ++ c.promptText, .ok ())
      | .ok (some output) => c.promptLoop rest (printed ++ c.promptText ++ output) := by
  rw [promptLoop]
  split <;> simp_all

/-- On lines that are texts the loop ends well, with what a session writes. -/
theorem promptLoop_eq (fit : c.settings.CountsFit) {bytes : List UInt8}
    {lines : List (List Char)} (holds : terminated 10 bytes = lines.map encoded)
    (printed : Output) :
    c.promptLoop bytes printed = (printed ++ c.replies lines, .ok ()) := by
  induction lines generalizing bytes printed with
  | nil =>
    cases readLine_encoded holds with
    | inl ended => rw [promptLoop_of_end ended.2, Output.append_assoc, replies]
    | inr taken =>
      obtain ⟨_, _, _, _, filled, _⟩ := taken
      cases filled
  | cons line lines ih =>
    cases readLine_encoded holds with
    | inl ended => cases ended.1
    | inr taken =>
      obtain ⟨first, ending, others, rest, same, read, blank, behind⟩ := taken
      cases same
      rw [promptLoop_of_line read, turn_eq fit, reply_append_blanks blank, replies]
      cases c.reply line with
      | none => rfl
      | some output =>
        dsimp only
        rw [ih behind, Output.append_assoc, Output.append_assoc, Output.append_assoc]

end Loop

section Sessions

variable [Unicode.Form] [Toml.Library] {c : Context}

/-- A session on one line that does not leave. -/
theorem session_line {line : List Char} {output : Output} (absent : '\n' ∉ line)
    (answers : Answers c line output) :
    c.session (String.ofList (line ++ ['\n'])) = c.banner ++ c.exchange [output] true := by
  have each : List.Forall₂ (Answers c) [line] [output] := .cons answers .nil
  have stop : ∀ l ∈ ([] : List (List Char)).head?, Leaves l := fun l mem => by cases mem
  have replies := replies_answered each stop
  rw [session_eq, String.toList_ofList, terminated_cut absent]
  exact congrArg (c.banner ++ ·) replies

/-- Any other text behind a line that leaves gives the same session. -/
theorem session_left {before line after other : List Char} (here : IsLine before line after)
    (there : IsLine before line other) (leaves : Leaves line) :
    c.session (String.ofList (before ++ line ++ other)) =
      c.session (String.ofList (before ++ line ++ after)) := by
  have filled : line ≠ [] := by
    rintro rfl
    obtain ⟨first, operands, has, -⟩ := leaves
    cases has.eq_words
  rw [session_eq, session_eq, String.toList_ofList, String.toList_ofList,
    terminated_around there.starts there.whole filled there.ends,
    terminated_around here.starts here.whole filled here.ends, replies_left leaves]

end Sessions

/-- Lines at the prompt are independent. For settings from a document, in either mode of output
and on every input: each line in front of the first one that leaves has its answer, which is also
what a session on that line alone writes between the banner and the last prompt; the whole session
is the banner and the prompt with those answers, in their order, and at the end of the input one
line feed more; what stands behind a line that leaves does not change it; and the loop that reads
the bytes of the input line by line writes the same and does not break off, so that the session
ends in code 0. -/
theorem session_lines [Unicode.Form] [Toml.Library] {c : Context} {file : String}
    (loaded : Settings.ofToml? file = some c.settings) (input : String) :
    ∃ spoken left answers,
      terminated '\n' input.toList = spoken ++ left ∧
      List.Forall₂ (fun line output => Answers c line output ∧ ¬ Leaves line ∧
        c.session (String.ofList (line ++ ['\n'])) = c.banner ++ c.exchange [output] true)
        spoken answers ∧
      (∀ line ∈ left.head?, Leaves line) ∧
      c.session input = c.banner ++ c.exchange answers left.isEmpty ∧
      (∀ before line after other, input.toList = before ++ line ++ after →
        IsLine before line after → IsLine before line other → Leaves line →
        c.session (String.ofList (before ++ line ++ other)) = c.session input) ∧
      c.promptLoop input.toUTF8.toList c.banner = (c.session input, .ok ()) ∧
      c.sessionOn input.toUTF8.toList = (c.session input, 0) := by
  obtain ⟨spoken, left, answers, lines, each, stop⟩ :=
    exists_answers c (terminated '\n' input.toList)
  refine ⟨spoken, left, answers, lines, ?_, stop, ?_, ?_, ?_, ?_⟩
  · have absent : ∀ line ∈ spoken, '\n' ∉ line := fun line mem =>
      absent_of_mem_terminated (lines ▸ List.mem_append_left left mem)
    refine List.Forall₂.imp ?_ ((List.forall₂_and_left spoken answers).mpr ⟨absent, each⟩)
    intro line output ⟨whole, answers⟩
    exact ⟨answers, answers.not_leaves, session_line whole answers⟩
  · rw [session_eq, lines, replies_answered each stop]
  · intro before line after other cut here there leaves
    rw [session_left here there leaves, ← cut, String.ofList_toList]
  · rw [toList_toUTF8, session_eq]
    exact promptLoop_eq (Settings.countsFit_of_ofToml? loaded) (terminated_encoded input.toList) _
  · rw [sessionOn_toUTF8, session_eq]

/-- A session on a blank line, a product and a line that leaves, under settings that ask for JSON.
An equation behind the last line makes no difference. -/
theorem session_lines_exit :
    let c : Context := ⟨⟨false, false⟩, { display := { json := true } }, true, false, false⟩
    let input := " \nmul 6 7\n exit now"
    Settings.ofToml? "[display]\njson = true\n" = some c.settings ∧ Leaves " exit now".toList ∧
      c.session " \nmul 6 7\n exit now\n2x+3=7\n" = c.session input ∧
      c.promptLoop input.toUTF8.toList c.banner = (c.session input, .ok ()) := by
  intro c input
  have document : Toml.document? "[display]\njson = true\n".toList =
      some [("display", .table .header [("json", .boolean true)])] := by cbv
  have loaded : Settings.ofToml? "[display]\njson = true\n" = some c.settings := by
    rw [Settings.ofToml?, document]
    rfl
  have leaves : Leaves " exit now".toList :=
    ⟨"exit".toList, ["now".toList], Text.hasWords_iff.mpr (by decide +kernel), .inl (by decide)⟩
  have here : IsLine " \nmul 6 7\n".toList " exit now".toList [] :=
    ⟨by simp, by decide +kernel, by simp⟩
  have there : IsLine " \nmul 6 7\n".toList " exit now".toList "\n2x+3=7\n".toList :=
    ⟨here.starts, here.whole, by simp⟩
  have joined : " \nmul 6 7\n exit now\n2x+3=7\n" =
      String.ofList (" \nmul 6 7\n".toList ++ " exit now".toList ++ "\n2x+3=7\n".toList) := by
    decide +kernel
  obtain ⟨_, _, _, _, _, _, _, behind, loop, _⟩ := session_lines loaded input
  rw [joined]
  exact ⟨loaded, leaves, behind _ _ _ _ (by decide +kernel) here there leaves, loop⟩

end Context

end WorkedAlgebra.CommandLine
