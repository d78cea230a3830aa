import WorkedAlgebra.Proofs.StreamLines

/-!
What the calls on a reader of equations deliver. A text gives its equations one after the other,
each under the number of its line, and then nothing. In a stream of any bytes a call may fail at a
line that is no text; such a line is passed but not counted, and from then on the numbers lag
behind by one for each of them.
-/

namespace WorkedAlgebra

section Calls

variable {σ ρ : Type}

def calls (next : σ → ρ × σ) : Nat → σ → List (ρ × σ)
  | 0, _ => []
  | n + 1, s => next s :: calls next n (next s).2

/-- A call somewhere in a run is a call on a state in which every relation to the calls before
it holds that the first state has and each call keeps. -/
theorem calls_split {next : σ → ρ × σ} (Reached : List (ρ × σ) → σ → Prop)
    (step : ∀ earlier s, Reached earlier s → Reached (earlier ++ [next s]) (next s).2)
    {n : Nat} {s : σ} {before earlier later : List (ρ × σ)} {c : ρ × σ} (start : Reached before s)
    (run : calls next n s = earlier ++ c :: later) :
    ∃ s', Reached (before ++ earlier) s' ∧ next s' = c := by
  induction earlier generalizing n s before with
  | nil =>
    cases n with
    | zero => cases run
    | succ n =>
      refine ⟨s, ?_, (List.cons.inj run).1⟩
      rwa [List.append_nil]
  | cons first earlier ih =>
    cases n with
    | zero => cases run
    | succ n =>
      obtain ⟨here, rest⟩ := List.cons.inj run
      obtain ⟨s', reached, call⟩ := ih (step before s start) rest
      rw [here, List.append_assoc] at reached
      exact ⟨s', reached, call⟩

inductive Collects {ε α : Type} (next : σ → Except ε (Option α) × σ) :
    σ → Except ε (List α) → Prop
  | ended {s : σ} (call : (next s).1 = .ok none) : Collects next s (.ok [])
  | failed {s : σ} {e : ε} (call : (next s).1 = .error e) : Collects next s (.error e)
  | more {s : σ} {a : α} {others : Except ε (List α)} (call : (next s).1 = .ok (some a))
      (rest : Collects next (next s).2 others) : Collects next s (others.map (a :: ·))

end Calls

theorem LineReader.isEquation_eq (line : List Char) :
    isEquation line = !(line.isEmpty || line.head? == some '#') := by
  rw [isEquation, Bool.not_or]
  rfl

/-- A text among the lines is passed unless it states an equation. -/
theorem LineReader.nextFrom_text {line : List UInt8} {text : List Char}
    (decoded : decode? line = some text) (number : Nat) (rest : List (List UInt8)) :
    nextFrom number (line :: rest) =
      if isEquation (Text.trim text) then (.ok (some (Text.trim text)), ⟨rest, number + 1⟩)
      else nextFrom (number + 1) rest := by
  simp only [nextFrom, decoded]

structure StreamReader where
  bytes : List UInt8
  number : Nat

namespace StreamReader

/-- Reads lines until one states an equation. The count goes up behind every line that could be
read. -/
def next (s : StreamReader) : LineResult × StreamReader :=
  match read : readLine s.bytes with
  | (.error e, rest) => (.error e, ⟨rest, s.number⟩)
  | (.ok none, rest) => (.ok none, ⟨rest, s.number⟩)
  | (.ok (some line), rest) =>
    let trimmed := Text.trim line
    if trimmed.isEmpty || trimmed.head? == some '#' then next ⟨rest, s.number + 1⟩
    else (.ok (some trimmed), ⟨rest, s.number + 1⟩)
termination_by s.bytes.length
decreasing_by exact length_readLine_lt read

def cut (s : StreamReader) : LineReader := ⟨terminated 10 s.bytes, s.number⟩

/-- Reading a stream line by line is reading the lines it is cut into. -/
theorem next_cut (s : StreamReader) : s.cut.next = (s.next.1, s.next.2.cut) := by
  fun_induction next s with
  | case1 s e rest read =>
    cases readLine_cases read with
    | inl ended => cases ended.2.2
    | inr taken =>
      obtain ⟨line, lines, -, reads⟩ := taken
      cases reads with
      | invalid undecoded => simp only [cut, lines, LineReader.next, LineReader.nextFrom, undecoded]
  | case2 s rest read =>
    cases readLine_cases read with
    | inl ended =>
      rw [cut, cut, ended.1, ended.2.1]
      rfl
    | inr taken =>
      obtain ⟨line, -, -, reads⟩ := taken
      cases reads
  | case3 s line rest read trimmed passed ih =>
    cases readLine_cases read with
    | inl ended => cases ended.2.2
    | inr taken =>
      obtain ⟨bytes, lines, -, reads⟩ := taken
      cases reads with
      | @text body ending decoded blank =>
        have same : trimmed = Text.trim body := Text.trim_append_blanks blank
        have idle := LineReader.isEquation_eq trimmed
        rw [passed, same] at idle
        rw [cut, lines, LineReader.next, LineReader.nextFrom_text decoded, idle]
        exact ih
  | case4 s line rest read trimmed stays =>
    cases readLine_cases read with
    | inl ended => cases ended.2.2
    | inr taken =>
      obtain ⟨bytes, lines, -, reads⟩ := taken
      cases reads with
      | @text body ending decoded blank =>
        have same : trimmed = Text.trim body := Text.trim_append_blanks blank
        have states := LineReader.isEquation_eq trimmed
        rw [Bool.eq_false_iff.mpr stays, same] at states
        rw [cut, lines, LineReader.next, LineReader.nextFrom_text decoded, states, same]
        rfl

theorem calls_cut (n : Nat) (s : StreamReader) :
    calls LineReader.next n s.cut = (calls next n s).map fun c => (c.1, c.2.cut) := by
  induction n generalizing s with
  | zero => rfl
  | succ n ih =>
    rw [calls, calls, next_cut, List.map_cons, ih]

end StreamReader

namespace LineReader

def IsIdle (line : List UInt8) : Prop :=
  ∃ text, decode? line = some text ∧ isEquation (Text.trim text) = false

/-- All that a call can do: it passes idle lines and ends with them, at a line that is no text, or
with the next equation. -/
inductive Call : LineReader → LineResult × LineReader → Prop
  | ended {skipped : List (List UInt8)} {number : Nat} (idle : ∀ l ∈ skipped, IsIdle l) :
      Call ⟨skipped, number⟩ (.ok none, ⟨[], number + skipped.length⟩)
  | failed {skipped : List (List UInt8)} {line : List UInt8} {rest : List (List UInt8)}
      {number : Nat} (idle : ∀ l ∈ skipped, IsIdle l) (undecoded : decode? line = none) :
      Call ⟨skipped ++ line :: rest, number⟩ (.error {}, ⟨rest, number + skipped.length⟩)
  | delivered {skipped : List (List UInt8)} {line : List UInt8} {rest : List (List UInt8)}
      {number : Nat} {text : List Char} (idle : ∀ l ∈ skipped, IsIdle l)
      (decoded : decode? line = some text) (states : isEquation (Text.trim text) = true) :
      Call ⟨skipped ++ line :: rest, number⟩
        (.ok (some (Text.trim text)), ⟨rest, number + skipped.length + 1⟩)

theorem Call.skip {line : List UInt8} {lines : List (List UInt8)} {number : Nat}
    {outcome : LineResult × LineReader}
    (call : Call ⟨lines, number + 1⟩ outcome) (idle : IsIdle line) :
    Call ⟨line :: lines, number⟩ outcome := by
  have more {skipped : List (List UInt8)} (others : ∀ l ∈ skipped, IsIdle l) :
      ∀ l ∈ line :: skipped, IsIdle l := List.forall_mem_cons.mpr ⟨idle, others⟩
  have count (k : Nat) : number + 1 + k = number + (k + 1) := by omega
  cases call with
  | ended others =>
    rw [count]
    exact .ended (more others)
  | failed others undecoded =>
    rw [count]
    exact .failed (more others) undecoded
  | delivered others decoded states =>
    rw [count]
    exact .delivered (more others) decoded states

theorem call_next (r : LineReader) : Call r r.next := by
  have nothing : ∀ l ∈ ([] : List (List UInt8)), IsIdle l := fun l mem =>
    absurd mem List.not_mem_nil
  obtain ⟨lines, number⟩ := r
  induction lines generalizing number with
  | nil => exact .ended nothing
  | cons line lines ih =>
    cases decoded : decode? line with
    | none =>
      rw [next, nextFrom, decoded]
      exact .failed nothing decoded
    | some text =>
      rw [next, nextFrom_text decoded]
      cases states : isEquation (Text.trim text) with
      | true => exact .delivered nothing decoded states
      | false => exact (ih (number + 1)).skip ⟨text, decoded, states⟩

def invalidCount (lines : List (List UInt8)) : Nat := lines.countP fun l => (decode? l).isNone

def failureCount (results : List (LineResult × LineReader)) : Nat :=
  results.countP fun c => !c.1.isOk

theorem invalidCount_idle {skipped : List (List UInt8)} (idle : ∀ l ∈ skipped, IsIdle l) :
    invalidCount skipped = 0 := by
  rw [invalidCount, List.countP_eq_zero]
  intro l mem
  obtain ⟨text, decoded, -⟩ := idle l mem
  rw [decoded]
  exact Bool.false_ne_true

/-- How far some calls have come: the lines that are passed, of which those that are no texts are
not counted. -/
structure Progress (start : LineReader)
    (earlier : List (LineResult × LineReader))
    (passed : List (List UInt8)) (r : LineReader) : Prop where
  lines : start.lines = passed ++ r.lines
  counted : r.number + failureCount earlier = start.number + passed.length
  failed : failureCount earlier = invalidCount passed

theorem Progress.refl (r : LineReader) : Progress r [] [] r := ⟨rfl, rfl, rfl⟩

theorem failureCount_snoc (earlier : List (LineResult × LineReader))
    (c : LineResult × LineReader) :
    failureCount (earlier ++ [c]) = failureCount earlier + if c.1.isOk then 0 else 1 := by
  rw [failureCount, List.countP_append, List.countP_singleton]
  cases c.1.isOk <;> rfl

theorem invalidCount_snoc (lines : List (List UInt8)) (line : List UInt8) :
    invalidCount (lines ++ [line]) =
      invalidCount lines + if (decode? line).isNone then 1 else 0 := by
  rw [invalidCount, List.countP_append, List.countP_singleton]
  rfl

/-- A call goes on from where the calls before it came. -/
theorem Progress.call {start r : LineReader} {passed : List (List UInt8)}
    {earlier : List (LineResult × LineReader)}
    {c : LineResult × LineReader}
    (progress : Progress start earlier passed r) (call : Call r c) :
    ∃ passed', Progress start (earlier ++ [c]) passed' c.2 := by
  have counted := progress.counted
  have failed := progress.failed
  have idleCount {skipped : List (List UInt8)} (idle : ∀ l ∈ skipped, IsIdle l) :
      invalidCount (passed ++ skipped) = invalidCount passed := by
    rw [invalidCount, List.countP_append]
    exact (congrArg _ (invalidCount_idle idle)).trans (Nat.add_zero _)
  cases call with
  | @ended skipped number idle =>
    refine ⟨passed ++ skipped, ⟨?_, ?_, ?_⟩⟩
    · rw [progress.lines, List.append_nil]
    · rw [failureCount_snoc, List.length_append]
      simp only [Except.isOk, Except.toBool, if_true] at counted ⊢
      omega
    · rw [failureCount_snoc, idleCount idle, failed]
      rfl
  | @failed skipped line rest number idle undecoded =>
    refine ⟨passed ++ skipped ++ [line], ⟨?_, ?_, ?_⟩⟩
    · rw [progress.lines]
      simp
    · rw [failureCount_snoc, List.length_append, List.length_append, List.length_singleton]
      simp only [Except.isOk, Except.toBool, Bool.false_eq_true, if_false] at counted ⊢
      omega
    · rw [failureCount_snoc, invalidCount_snoc, idleCount idle, undecoded, failed]
      rfl
  | @delivered skipped line rest number text idle decoded states =>
    refine ⟨passed ++ skipped ++ [line], ⟨?_, ?_, ?_⟩⟩
    · rw [progress.lines]
      simp
    · rw [failureCount_snoc, List.length_append, List.length_append, List.length_singleton]
      simp only [Except.isOk, Except.toBool, if_true] at counted ⊢
      omega
    · rw [failureCount_snoc, invalidCount_snoc, idleCount idle, decoded, failed]
      rfl

/-- A call in a run is made where the calls before it have come. -/
theorem exists_progress {n : Nat} {start : LineReader}
    {earlier later : List (LineResult × LineReader)}
    {c : LineResult × LineReader}
    (run : calls next n start = earlier ++ c :: later) :
    ∃ r passed, Progress start earlier passed r ∧ Call r c := by
  obtain ⟨r, ⟨passed, progress⟩, called⟩ :=
    calls_split (fun earlier r => ∃ passed, Progress start earlier passed r)
      (fun earlier r ⟨passed, progress⟩ => progress.call (call_next r))
      ⟨[], Progress.refl start⟩ run
  exact ⟨r, passed, progress, called ▸ call_next r⟩

/-- The line feed that ends a line does not change what is left of it. -/
theorem exists_text {line marked : List UInt8} {text : List Char}
    (decoded : decode? line = some text) (same : marked = line ∨ marked = line ++ [10]) :
    ∃ whole, decode? marked = some whole ∧ Text.IsTrimmed whole (Text.trim text) := by
  cases same with
  | inl plain => exact ⟨text, plain ▸ decoded, Text.isTrimmed_trim text⟩
  | inr fed =>
    refine ⟨text ++ ['\n'], ?_, Text.isTrimmed_iff.mpr (Text.trim_append_blanks ?_)⟩
    · rw [fed, decode?_feed, decoded]
      rfl
    · intro c mem
      rw [List.mem_singleton.mp mem]
      rfl

/-- Whenever a call on a stream of bytes delivers an equation, the number is that of its line less
one for every call that failed before, and these are as many as there are lines before it that are
no texts. So the number is right exactly if no call failed before. -/
theorem delivered_number {bytes : List UInt8} {n : Nat} {equation : List Char} {r : LineReader}
    {earlier later : List (LineResult × LineReader)}
    (run : calls next n (ofBytes bytes) = earlier ++ (.ok (some equation), r) :: later) :
    ∃ before line after text, LineAt 10 before line after bytes ∧ decode? line = some text ∧
      Text.IsTrimmed text equation ∧ r.lines = terminated 10 after ∧
      r.number + failureCount earlier = before.count 10 + 1 ∧
      failureCount earlier = invalidCount (terminated 10 before) ∧
      (r.number = before.count 10 + 1 ↔ ∀ c ∈ earlier, c.1.isOk = true) ∧
      calls next n (ofBytes bytes) =
        (calls StreamReader.next n ⟨bytes, 0⟩).map fun c => (c.1, c.2.cut) := by
  obtain ⟨s, passed, progress, call⟩ := exists_progress run
  cases call with
  | @delivered skipped line rest number text idle decoded states =>
    have lines : terminated 10 bytes = (passed ++ skipped) ++ line :: rest := by
      rw [List.append_assoc]
      exact progress.lines
    obtain ⟨before, marked, after, lineAt, same, count, front, back⟩ := exists_lineAt lines
    obtain ⟨whole, reads, trimmed⟩ := exists_text decoded same
    have number_eq : number + skipped.length + 1 + failureCount earlier = before.count 10 + 1 := by
      have counted : number + failureCount earlier = 0 + passed.length := progress.counted
      rw [count, List.length_append]
      omega
    have invalid : failureCount earlier = invalidCount (terminated 10 before) := by
      have idle' := invalidCount_idle idle
      rw [invalidCount] at idle'
      rw [front, invalidCount, List.countP_append, idle', Nat.add_zero]
      exact progress.failed
    refine ⟨before, marked, after, whole, lineAt, reads, trimmed, back.symm, number_eq, invalid, ?_,
      StreamReader.calls_cut n ⟨bytes, 0⟩⟩
    have none_failed : failureCount earlier = 0 ↔ ∀ c ∈ earlier, c.1.isOk = true := by
      simp [failureCount]
    rw [← none_failed]
    change number + skipped.length + 1 = _ ↔ _
    omega

/-- Of two lines the first is no text: the equation is in the second one, and the count says
one. -/
theorem delivered_number_behind_failure :
    ∃ r before line after text,
      calls next 2 (ofBytes [0xFF, 10, 120, 61, 49, 10]) =
        [(.error {}, ⟨[[120, 61, 49]], 0⟩)] ++ (.ok (some "x=1".toList), r) :: [] ∧
      LineAt 10 before line after [0xFF, 10, 120, 61, 49, 10] ∧ decode? line = some text ∧
      Text.IsTrimmed text "x=1".toList ∧ r.number = 1 ∧ before.count 10 + 1 = 2 := by
  have run : calls next 2 (ofBytes [0xFF, 10, 120, 61, 49, 10]) =
      [(.error {}, ⟨[[120, 61, 49]], 0⟩)] ++ (.ok (some "x=1".toList), ⟨[], 1⟩) :: [] := by
    decide
  obtain ⟨before, line, after, text, lineAt, decoded, trimmed, -, number, -⟩ :=
    delivered_number run
  exact ⟨_, before, line, after, text, run, lineAt, decoded, trimmed, rfl, number.symm⟩

section Texts

/-- The number of a line and what it states: what is left of the line without the blanks around
it, unless that is nothing or starts with a `#`. -/
def StatedAt (text : String) (number : Nat) (equation : List Char) : Prop :=
  1 ≤ number ∧ ∃ line, (pieces '\n' text.toList)[number - 1]? = some line ∧
    Text.IsTrimmed line equation ∧ equation ≠ [] ∧ equation.head? ≠ some '#'

theorem mem_equationsOf {text : String} {equation : List Char} {number : Nat} :
    (equation, number) ∈ equationsOf text ↔ StatedAt text number equation := by
  have states : isEquation equation = true ↔ equation ≠ [] ∧ equation.head? ≠ some '#' := by
    simp [isEquation]
  rw [equationsOf, equationsFrom, List.mem_filter, List.mem_zipIdx_iff_le_and_getElem?_sub, states,
    List.getElem?_map]
  constructor
  · intro listed
    obtain ⟨⟨first, found⟩, kept⟩ := listed
    obtain ⟨line, at', same⟩ := Option.map_eq_some_iff.mp found
    exact ⟨first, line, at', Text.isTrimmed_iff.mpr same, kept⟩
  · intro stated
    obtain ⟨first, line, at', trimmed, kept⟩ := stated
    refine ⟨⟨first, ?_⟩, kept⟩
    rw [at', Option.map_some, trimmed.eq_trim]

/-- No line is listed twice, and the lines are in order. -/
theorem numbers_ascending (text : String) :
    ((equationsOf text).map Prod.snd).Pairwise (· < ·) := by
  rw [equationsOf, equationsFrom]
  refine List.Pairwise.sublist (List.filter_sublist.map Prod.snd) ?_
  rw [List.zipIdx_map_snd]
  exact List.pairwise_lt_range'

def delivery (e : List Char × Nat) : LineResult × Nat := (.ok (some e.1), e.2)

def ending (last : Nat) : LineResult × Nat := (.ok none, last)

/-- What `n` calls give over some equations: each of them with its number, then nothing. -/
def deliveries (equations : List (List Char × Nat)) (last n : Nat) : List (LineResult × Nat) :=
  (equations.map delivery ++ List.replicate n (ending last)).take n

theorem deliveries_nil (last n : Nat) :
    deliveries [] last n = List.replicate n (ending last) := by
  rw [deliveries, List.map_nil, List.nil_append, List.take_replicate, Nat.min_self]

theorem deliveries_cons (e : List Char × Nat) (equations : List (List Char × Nat)) (last n : Nat) :
    deliveries (e :: equations) last (n + 1) =
      delivery e :: deliveries equations last n := by
  have enough (results : List (LineResult × Nat)) :
      n ≤ (results ++ List.replicate n (ending last)).length := by
    rw [List.length_append, List.length_replicate]
    omega
  rw [deliveries, deliveries, List.map_cons, List.cons_append, List.take_succ_cons,
    List.replicate_succ', ← List.append_assoc, List.take_append_of_le_length (enough _)]

/-- No call changes how many lines there are in all, as long as none fails. -/
theorem length_next {r : LineReader} {result : Option (List Char)} {rest : LineReader}
    (called : r.next = (.ok result, rest)) :
    rest.number + rest.lines.length = r.number + r.lines.length := by
  have call := call_next r
  rw [called] at call
  cases call with
  | ended idle => rfl
  | delivered idle decoded states =>
    simp only [List.length_append, List.length_cons]
    omega

/-- A reader that found nothing has passed all its lines. -/
theorem next_ended {r : LineReader} (ended : r.next.1 = .ok none) :
    r.next.2 = ⟨[], r.number + r.lines.length⟩ := by
  have call := call_next r
  cases called : r.next with
  | mk result rest =>
    rw [called] at call ended
    cases ended
    cases call with
    | ended idle => rfl

theorem length_of_holds {r : LineReader} {texts : List (List Char)} (holds : r.Holds texts) :
    r.lines.length = texts.length := by
  have same := congrArg List.length holds
  rwa [List.length_map, List.length_map] at same

theorem calls_of_holds {r : LineReader} {texts : List (List Char)} (holds : r.Holds texts)
    (n : Nat) :
    (calls next n r).map (fun c => (c.1, c.2.number)) =
      deliveries (equationsFrom (r.number + 1) texts) (r.number + texts.length) n := by
  induction n generalizing r texts with
  | zero => rfl
  | succ n ih =>
    rw [calls, List.map_cons]
    cases next_spec holds with
    | inl none =>
      have nothing := @ih ⟨[], r.number + r.lines.length⟩ [] rfl
      rw [none.1, deliveries_nil, List.replicate_succ, none.2, next_ended none.2, nothing,
        length_of_holds holds]
      exact congrArg _ (deliveries_nil _ n)
    | inr some =>
      obtain ⟨equation, rest, texts', called, holds', -, equations⟩ := some
      have total := length_next called
      rw [length_of_holds holds, length_of_holds holds'] at total
      rw [called, equations, deliveries_cons, ih holds', total]
      rfl

theorem collectFrom_of_holds {fuel : Nat} {r : LineReader} {texts : List (List Char)}
    (holds : r.Holds texts) (enough : texts.length < fuel) :
    (collectFrom next fuel r).1 = .ok ((equationsFrom (r.number + 1) texts).map Prod.fst) := by
  induction fuel generalizing r texts with
  | zero => exact (Nat.not_lt_zero _ enough).elim
  | succ fuel ih =>
    rw [collectFrom]
    cases next_spec holds with
    | inl none =>
      cases called : r.next with
      | mk result rest =>
        have found := none.2
        rw [called] at found
        cases found
        rw [none.1]
        rfl
    | inr some =>
      obtain ⟨equation, rest, texts', called, holds', less, equations⟩ := some
      have others := ih holds' (by omega)
      rw [called, equations]
      simp only [others]
      rfl

theorem collects_of_holds {s : StreamReader} {texts : List (List Char)}
    (holds : s.cut.Holds texts) :
    Collects StreamReader.next s (.ok ((equationsFrom (s.number + 1) texts).map Prod.fst)) := by
  induction size : texts.length using Nat.strong_induction_on generalizing s texts with
  | _ k ih =>
    have same := s.next_cut
    cases next_spec holds with
    | inl none =>
      have nothing : equationsFrom (s.number + 1) texts = [] := none.1
      have call := none.2
      rw [same] at call
      rw [nothing]
      exact .ended call
    | inr some =>
      obtain ⟨equation, rest, texts', called, holds', less, equations⟩ := some
      rw [same] at called
      obtain ⟨call, rfl⟩ := Prod.mk.inj called
      have others := ih texts'.length (size ▸ less) holds' rfl
      have listed : equationsFrom (s.number + 1) texts =
          (equation, s.next.2.number) :: equationsFrom (s.next.2.number + 1) texts' := equations
      rw [listed]
      exact .more call others

/-- The calls on a text deliver its equations in order and each of them once, each under the number
of its line, and behind them nothing however often they are repeated; collecting gives the same
list. Reading the bytes of the text line by line does so as well. -/
theorem equations_delivered (text : String) (n : Nat) :
    let stream : StreamReader := ⟨text.toUTF8.toList, 0⟩
    let last := (terminated '\n' text.toList).length
    (calls next n (ofText text)).map (fun c => (c.1, c.2.number)) =
        deliveries (equationsOf text) last n ∧
      (ofText text).collect.1 = .ok ((equationsOf text).map Prod.fst) ∧
      (∀ equation number, (equation, number) ∈ equationsOf text ↔ StatedAt text number equation) ∧
      ((equationsOf text).map Prod.snd).Pairwise (· < ·) ∧
      (calls StreamReader.next n stream).map (fun c => (c.1, c.2.number)) =
        deliveries (equationsOf text) last n ∧
      Collects StreamReader.next stream (.ok ((equationsOf text).map Prod.fst)) := by
  intro stream last
  have holds := holds_ofText text
  have delivered := calls_of_holds holds n
  have collected := @collects_of_holds stream _ holds
  have start : (ofText text).number = 0 := rfl
  rw [start, Nat.zero_add, Nat.zero_add, equationsFrom_terminated] at delivered
  rw [Nat.zero_add, equationsFrom_terminated] at collected
  refine ⟨delivered, ?_, fun _ _ => mem_equationsOf, numbers_ascending text, ?_, collected⟩
  · have all := collectFrom_of_holds holds (Nat.lt_succ_self _)
    rw [start, Nat.zero_add, equationsFrom_terminated, ← length_of_holds holds] at all
    exact all
  · have cut : ofText text = stream.cut := rfl
    rw [cut, StreamReader.calls_cut, List.map_map] at delivered
    exact delivered

/-- A carriage return in front of a line feed is trimmed away; the last line needs none. -/
example : equationsOf "x=1\r\n#\r\n y=2" = [("x=1".toList, 1), ("y=2".toList, 3)] := by decide

end Texts

end LineReader

end WorkedAlgebra
