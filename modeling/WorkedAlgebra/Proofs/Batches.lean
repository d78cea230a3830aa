import WorkedAlgebra.CommandLine.Run
import WorkedAlgebra.Proofs.DecimalTexts
import WorkedAlgebra.Proofs.TextLines
import WorkedAlgebra.Toml.Format

/-!
Batches. A batch prints for each equation of its text what that equation by itself leads to, in the
order of the lines, and then how many were solved and how many failed.
-/

namespace WorkedAlgebra.CommandLine

namespace Context

variable [Unicode.Form] (c : Context)

def outcomeOf (equation : List Char) : Except SolveError (Solution Float) :=
  solve c.settings.solver (String.ofList equation)

def accepts (equation : List Char) : Bool := (c.outcomeOf equation).isOk

/-- What is shown of a line that is solved; nothing of one that is not. -/
def answerText (equation : List Char) : String :=
  match c.outcomeOf equation with
  | .ok s => (c.showSolution s).out
  | .error _ => ""

/-- A line of a batch on the standard output. For a reader the answer stands under a heading and
above a blank line. -/
def lineText (file : String) (line : List Char × Nat) : String :=
  if c.json then c.answerText line.1
  else
    Report.dimmed.paint c.palette s!"[{file}:{line.2}] {String.ofList line.1}" ++ "\n" ++
      c.answerText line.1 ++ "\n"

def lineMessages (line : List Char × Nat) : String :=
  (c.log (String.ofList line.1)).err ++
    match c.outcomeOf line.1 with
    | .ok _ => ""
    | .error error =>
      if c.prettyErrors then (c.diagnose (String.ofList line.1) error).err
      else (c.errorLine s!"line {line.2}: {error.message}").err

def acceptedCount (text : String) : Nat :=
  (LineReader.equationsOf text).countP fun line => c.accepts line.1

def rejectedCount (text : String) : Nat :=
  (LineReader.equationsOf text).countP fun line => !c.accepts line.1

def summaryText (text : String) : String :=
  s!"{c.acceptedCount text} solved, {c.rejectedCount text} failed"

end Context

namespace Output

@[simp] theorem append_out (a b : Output) : (a ++ b).out = a.out ++ b.out := rfl

@[simp] theorem append_err (a b : Output) : (a ++ b).err = a.err ++ b.err := rfl

@[simp] theorem print_out (text : String) : (print text).out = text := rfl

@[simp] theorem print_err (text : String) : (print text).err = "" := rfl

@[simp] theorem warn_out (text : String) : (warn text).out = "" := rfl

@[simp] theorem warn_err (text : String) : (warn text).err = text := rfl

theorem ext {a b : Output} (out : a.out = b.out) (err : a.err = b.err) : a = b := by
  obtain ⟨_, _⟩ := a
  obtain ⟨_, _⟩ := b
  cases out
  cases err
  rfl

end Output

namespace Context

variable {c : Context} {file : String}

theorem log_out [Unicode.Form] (equation : String) : (c.log equation).out = "" := by
  unfold log
  split <;> rfl

theorem showSolution_err (s : Solution Float) : (c.showSolution s).err = "" := rfl

theorem diagnose_out [Unicode.Form] (equation : String) (error : SolveError) :
    (c.diagnose equation error).out = "" := rfl

theorem errorLine_out (message : String) : (c.errorLine message).out = "" := rfl

theorem batchLine_eq [Unicode.Form] (number : Nat) (equation : List Char) :
    c.batchLine file number (String.ofList equation) =
      (⟨c.lineText file (equation, number), c.lineMessages (equation, number)⟩,
        c.accepts equation) := by
  unfold batchLine lineText lineMessages accepts answerText outcomeOf
  cases solve c.settings.solver (String.ofList equation) with
  | ok s =>
      refine Prod.ext (Output.ext ?_ ?_) rfl
      · cases c.json <;> simp [log_out]
      · cases c.json <;> simp [showSolution_err]
  | error error =>
      refine Prod.ext (Output.ext ?_ ?_) rfl
      · cases c.json <;> cases c.prettyErrors <;> simp [log_out, diagnose_out, errorLine_out]
      · cases c.json <;> cases c.prettyErrors <;> simp

/-- The loop over the lines adds to what was printed and counted before; each turn takes one
equation off those that the reader still holds. -/
theorem batchLines_eq [Unicode.Form] (fuel : Nat) {r : LineReader} {texts : List (List Char)}
    (holds : r.Holds texts) (enough : texts.length < fuel) (output : Output) (tally : Tally) :
    c.batchLines file fuel r output tally =
      (⟨output.out ++ String.join
            ((LineReader.equationsFrom (r.number + 1) texts).map (c.lineText file)),
          output.err ++ String.join
            ((LineReader.equationsFrom (r.number + 1) texts).map c.lineMessages)⟩,
        .ok ⟨tally.solved +
              (LineReader.equationsFrom (r.number + 1) texts).countP fun line => c.accepts line.1,
            tally.failed +
              (LineReader.equationsFrom (r.number + 1) texts).countP fun line =>
                !c.accepts line.1⟩) := by
  induction fuel generalizing r texts output tally with
  | zero => exact (Nat.not_lt_zero _ enough).elim
  | succ fuel ih =>
      rw [batchLines]
      rcases LineReader.next_spec holds with
        ⟨none, found⟩ | ⟨equation, rest, texts', found, holds', less, eqs⟩
      · cases next : r.next with
        | mk result rest =>
            rw [next] at found
            cases found
            simp [none]
      · simp only [found, batchLine_eq, eqs]
        rw [ih holds' (by omega)]
        cases accepted : c.accepts equation <;>
          simp [accepted, String.append_assoc, Nat.add_assoc, Nat.add_comm]

theorem lineFeed_summaryText [Unicode.Form] (text : String) :
    '\n' ∉ (c.summaryText text).toList := by
  have digits (n : Nat) : '\n' ∉ Nat.toDigits 10 n := fun mem => by
    cases Numeral.isDigit_of_mem_toDigits _ mem
  simp [summaryText, digits, toString]

/-- For a reader every line of a batch ends in a line feed. -/
theorem lineTexts_closed [Unicode.Form] (plain : c.json = false) (lines : List (List Char × Nat)) :
    (String.join (lines.map (c.lineText file))).toList = [] ∨
      (String.join (lines.map (c.lineText file))).toList.getLast? = some '\n' := by
  rcases List.eq_nil_or_concat lines with rfl | ⟨before, line, rfl⟩
  · exact .inl rfl
  · refine .inr (List.getLast?_eq_some_iff.mpr ?_)
    rw [List.map_concat, List.concat_eq_append, String.join_append, lineText, plain,
      String.join_cons, String.join_nil, String.append_empty, if_neg (by simp),
      ← String.append_assoc, String.toList_append]
    exact ⟨_, rfl⟩

end Context

namespace World

/-- A warning about the user's settings goes to the standard error. -/
theorem settings_out [Toml.Library] {w : World} {flags : GlobalFlags} {command : Command}
    {settings : Settings} {warning : Output} (loaded : w.settings flags command = .ok (settings, warning)) :
    warning.out = "" := by
  unfold World.settings at loaded
  split at loaded
  · have user : w.userSettings.2.out = "" := by
      unfold userSettings
      split
      · rfl
      · split
        · split <;> rfl
        · rfl
    rw [Except.ok.inj loaded] at user
    exact user
  · split at loaded
    · cases loaded
      rfl
    · cases named : w.loadSettings _ with
      | error failure =>
          rw [named] at loaded
          cases loaded
      | ok found =>
          rw [named] at loaded
          cases loaded
          rfl

/-- The bytes of a batch: those of a file, or the input when the file is named `-`. -/
def batchBytes? (w : World) (file : String) : Except FileFault (List UInt8) :=
  if file == "-" then .ok w.input else w.files.read file

theorem runBatch_of_text [Unicode.Form] {w : World} {file text : String}
    (given : w.batchBytes? file = .ok text.toUTF8.toList) (c : Context) :
    w.runBatch c file =
      { code := (c.batch file (LineReader.ofText text)).2
        output := (c.batch file (LineReader.ofText text)).1 } := by
  unfold batchBytes? at given
  unfold runBatch
  cases dash : file == "-" with
  | true =>
      rw [dash] at given
      rw [if_pos rfl, Except.ok.inj given]
      rfl
  | false =>
      rw [dash] at given
      simp only [Bool.false_eq_true, if_false] at given ⊢
      rw [given]
      rfl

end World

theorem Context.batch_eq [Unicode.Form] (c : Context) (file text : String) :
    c.batch file (LineReader.ofText text) =
      (⟨String.join ((LineReader.equationsOf text).map (c.lineText file)) ++
            if c.json then ""
            else c.summaryText text ++ "\n",
          String.join ((LineReader.equationsOf text).map c.lineMessages)⟩,
        if c.rejectedCount text = 0 then 0 else 1) := by
  have holds := LineReader.holds_ofText text
  have enough : (terminated '\n' text.toList).length < (LineReader.ofText text).lines.length + 1 := by
    have := congrArg List.length holds
    rw [List.length_map, List.length_map] at this
    omega
  have start : (LineReader.ofText text).number = 0 := rfl
  rw [batch, batchLines_eq _ holds enough, start, LineReader.equationsFrom_terminated]
  refine Prod.ext (Output.ext ?_ ?_) ?_
  · cases c.json <;>
      simp [acceptedCount, rejectedCount, summaryText, Output.print, String.append_assoc, toString]
  · cases c.json <;> simp [Output.print]
  · change (if 0 + c.rejectedCount text = 0 then 0 else 1) = _
    rw [Nat.zero_add]

/-- A line that a batch accepts is one that solving alone succeeds on, with the same answer. -/
theorem Context.answerText_eq [Unicode.Form] (c : Context) (w : World) (equation : List Char) :
    c.answerText equation = (w.runSolve c (String.ofList equation) none).output.out ∧
      (c.accepts equation = true ↔ (w.runSolve c (String.ofList equation) none).code = 0) := by
  unfold answerText accepts outcomeOf World.runSolve
  cases solve c.settings.solver (String.ofList equation) with
  | ok s => simp [c.log_out, Except.isOk, Except.toBool]
  | error error =>
      cases c.prettyErrors <;>
        simp [c.log_out, c.diagnose_out, c.errorLine_out, Except.isOk, Except.toBool]

/-- A batch is the sum of its lines: for the bytes of any text, all settings and flags, the two
outputs are those of its equations one after the other, each under the number of its line and the
same as if it stood alone; for a reader the last line counts the solved and the failed ones, which
are all there are; and the code tells whether any failed. -/
theorem run_batch [Unicode.Form] [Toml.Library] {arguments : List String} {w : World}
    {flags : GlobalFlags} {settings : Settings} {warning : Output} {file text : String}
    (asked : requestOf arguments = .run flags (.batch file))
    (loaded : w.settings flags (.batch file) = .ok (settings, warning))
    (given : w.batchBytes? file = .ok text.toUTF8.toList) :
    let c := w.context flags settings
    let lines := LineReader.equationsOf text
    let summary := c.summaryText text
    let outcome := run arguments w
    outcome.output.out =
        String.join (lines.map (c.lineText file)) ++ (if c.json then "" else summary ++ "\n") ∧
      outcome.output.err = warning.err ++ String.join (lines.map c.lineMessages) ∧
      (∀ line ∈ lines,
        c.answerText line.1 = (w.runSolve c (String.ofList line.1) none).output.out ∧
          (c.accepts line.1 = true ↔ (w.runSolve c (String.ofList line.1) none).code = 0)) ∧
      (c.json = false →
        (terminated '\n' outcome.output.out.toList).getLast? = some summary.toList) ∧
      c.acceptedCount text + c.rejectedCount text = lines.length ∧
      outcome.code = (if c.rejectedCount text = 0 then 0 else 1) ∧
      outcome.written = none := by
  intro c lines summary outcome
  have result : outcome =
      { code := if c.rejectedCount text = 0 then 0 else 1
        output := warning ++ ⟨String.join (lines.map (c.lineText file)) ++
            (if c.json then "" else summary ++ "\n"), String.join (lines.map c.lineMessages)⟩ } := by
    have batch := w.runBatch_of_text given c
    rw [c.batch_eq] at batch
    simp only [outcome, run, asked, loaded, World.runCommand, c, batch]
    rfl
  have out : outcome.output.out =
      String.join (lines.map (c.lineText file)) ++ (if c.json then "" else summary ++ "\n") := by
    rw [result, Output.append_out, World.settings_out loaded, String.empty_append]
  refine ⟨out, by rw [result]; rfl, fun line _ => c.answerText_eq w line.1, fun plain => ?_, ?_,
    by rw [result], by rw [result]⟩
  · rw [out, plain, if_neg Bool.false_ne_true, String.toList_append, String.toList_append,
      ← List.append_assoc]
    exact getLast?_terminated (Context.lineFeed_summaryText text)
      (Context.lineTexts_closed plain lines)
  · rw [List.length_eq_countP_add_countP (fun line => c.accepts line.1)]
    simp [Context.acceptedCount, Context.rejectedCount, lines]

/-- A file of four lines: an equation, a blank line, a comment and no equation. -/
theorem run_batch_four :
    let text := "2x+3=7\n \n# note\n x \n"
    let w : World := { files := .ofTexts [("f", text)] }
    requestOf ["batch", "f"] = .run {} (.batch "f") ∧
      w.settings {} (.batch "f") = .ok ({}, {}) ∧ w.batchBytes? "f" = .ok text.toUTF8.toList ∧
      LineReader.equationsOf text = [("2x+3=7".toList, 1), ("x".toList, 4)] ∧
      (run ["batch", "f"] w).code = 1 ∧
      (terminated '\n' (run ["batch", "f"] w).output.out.toList).getLast? =
        some "1 solved, 1 failed".toList := by
  intro text w
  have asked : requestOf ["batch", "f"] = .run {} (.batch "f") := by decide +kernel
  have loaded : w.settings {} (.batch "f") = .ok ({}, {}) := rfl
  have given : w.batchBytes? "f" = .ok text.toUTF8.toList := by decide +kernel
  have equations : LineReader.equationsOf text = [("2x+3=7".toList, 1), ("x".toList, 4)] := by
    decide +kernel
  have accepted : (w.context {} {}).acceptedCount text = 1 := by decide +kernel
  have rejected : (w.context {} {}).rejectedCount text = 1 := by decide +kernel
  obtain ⟨-, -, -, last, -, code, -⟩ := run_batch asked loaded given
  rw [rejected] at code
  refine ⟨asked, loaded, given, equations, code, ?_⟩
  rw [last rfl, Context.summaryText, accepted, rejected]
  rfl

end WorkedAlgebra.CommandLine
