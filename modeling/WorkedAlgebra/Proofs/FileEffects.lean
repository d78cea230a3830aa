import Mathlib.Data.List.Infix
import WorkedAlgebra.CommandLine.Run
import WorkedAlgebra.Proofs.TextLines
import WorkedAlgebra.Toml.Format

/-!
What a run does to files. A run writes one file at most: the report of an equation that is solved,
or the settings at a path that leads to nothing. All other files keep their bytes and stay
readable. A path that leads to nothing may still lead to a file once the directories that it passes
are made, and then that file is lost.
-/

namespace WorkedAlgebra.CommandLine

namespace Steps

theorem walk_cases (place : Steps) (step : List Char) :
    place.walk step = place ∨ place.walk step = place.dropLast ∨
      ∃ last, place.walk step = place ++ [last] := by
  unfold walk above
  split
  · exact .inl rfl
  · split
    · split
      · exact .inr (.inr ⟨_, rfl⟩)
      · exact .inr (.inr ⟨_, rfl⟩)
      · exact .inl rfl
      · exact .inr (.inl rfl)
    · exact .inr (.inr ⟨_, rfl⟩)

/-- A place is reached through all places that hold it: those that the steps pass, and those that
hold the place where they start. -/
theorem passed_of_holds {place holder : Steps} {steps : List (List Char)}
    (inside : holder <+: steps.foldl walk place) (other : holder ≠ steps.foldl walk place) :
    holder ∈ place.along steps ∨ holder <+: place ∧ holder ≠ place := by
  induction steps generalizing place with
  | nil => exact .inr ⟨inside, other⟩
  | cons step rest ih =>
      rcases ih inside other with passed | ⟨inside, other⟩
      · exact .inl (List.mem_cons_of_mem place passed)
      · rcases place.walk_cases step with stays | up | ⟨last, down⟩
        · rw [stays] at inside other
          exact .inr ⟨inside, other⟩
        · rw [up] at inside other
          refine .inr ⟨inside.trans (List.dropLast_prefix place), fun same => other ?_⟩
          exact inside.eq_of_length_le (by rw [same, List.length_dropLast]; omega)
        · rw [down] at inside other
          have inside := (List.prefix_concat_iff.mp inside).resolve_left other
          by_cases same : holder = place
          · exact .inl (same ▸ List.mem_cons_self)
          · exact .inr ⟨inside, same⟩

theorem along_append (place : Steps) (steps rest : List (List Char)) :
    place.along (steps ++ rest) =
      place.along steps ++ (steps.foldl walk place : Steps).along rest := by
  induction steps generalizing place with
  | nil => rfl
  | cons step steps ih => exact congrArg (place :: ·) (ih (place.walk step))

section Downwards

variable {place : Steps} {steps : List (List Char)}

/-- Without a step upwards a place holds what is reached from it. -/
theorem prefix_foldl_walk (down : ['.', '.'] ∉ steps) : place <+: steps.foldl walk place := by
  induction steps generalizing place with
  | nil => exact List.prefix_refl place
  | cons step rest ih =>
      have first : place <+: place.walk step := by
        unfold walk
        split
        · exact List.prefix_refl place
        · rw [if_neg fun up => down (List.mem_cons.mpr (.inl (beq_iff_eq.mp up).symm))]
          exact List.prefix_append place [step]
      exact first.trans (ih fun up => down (List.mem_cons_of_mem step up))

theorem prefix_of_mem_along (down : ['.', '.'] ∉ steps) {passed : Steps}
    (mem : passed ∈ place.along steps) : passed <+: steps.foldl walk place := by
  induction steps generalizing place with
  | nil => cases mem
  | cons step rest ih =>
      rcases List.mem_cons.mp mem with rfl | mem
      · exact prefix_foldl_walk down
      · exact ih (fun up => down (List.mem_cons_of_mem step up)) mem

end Downwards

end Steps

namespace Files

variable {files : Files} {path text : String} {bytes : List UInt8} {place : Steps}

theorem bytesAt?_write : (files.write path text).bytesAt? place =
    if place = stepsOf path then some text.toUTF8.toList else files.bytesAt? place := by
  by_cases same : place = stepsOf path
  · simp [write, bytesAt?, same]
  · rw [if_neg same, write, bytesAt?, bytesAt?, 
      List.find?_cons_of_neg (by simpa using Ne.symm same), List.find?_filter]
    congr 2
    funext entry
    by_cases found : entry.1 = place
    · simp [found, same]
    · simp [found]

/-- A place that holds a file is a directory. -/
theorem isDirectoryAt_of_holds {held : Steps} (mem : (held, bytes) ∈ files.contents)
    (inside : place <+: held) (other : place ≠ held) : files.isDirectoryAt place = true := by
  rw [isDirectoryAt, Bool.or_eq_true]
  refine .inr (List.any_eq_true.mpr ⟨_, mem, ?_⟩)
  rw [Bool.and_eq_true, List.isPrefixOf_iff_prefix, bne_iff_ne]
  exact ⟨inside, other.symm⟩

theorem mem_contents_of_bytesAt? (found : files.bytesAt? place = some bytes) :
    (place, bytes) ∈ files.contents := by
  obtain ⟨⟨place', bytes'⟩, entry, rfl⟩ := Option.map_eq_some_iff.mp found
  obtain rfl : place' = place := by simpa using List.find?_some entry
  exact List.mem_of_find?_eq_some entry

/-- All places that hold the place of a path are directories from the start, or passed. -/
theorem isDirectoryAt_or_passed (inside : place <+: stepsOf path) (other : place ≠ stepsOf path) :
    files.isDirectoryAt place = true ∨ place ∈ wayOf path := by
  rcases Steps.passed_of_holds inside other with passed | ⟨inside, other⟩
  · exact .inr passed
  · have start : place = [] := by
      unfold originOf at inside other
      split at inside <;> rename_i absolute
      · rw [if_pos absolute] at other
        have inside : place <+: [] ++ [['/']] := inside
        exact List.prefix_nil.mp ((List.prefix_concat_iff.mp inside).resolve_left other)
      · exact List.prefix_nil.mp inside
    rw [start]
    exact .inl rfl

/-- Writing makes directories of the places that the path passes, and of no others. -/
theorem isDirectoryAt_write : (files.write path text).isDirectoryAt place = true ↔
    files.isDirectoryAt place = true ∨ place ∈ wayOf path := by
  constructor
  · intro after
    simp only [isDirectoryAt, write, Bool.or_eq_true, List.contains_iff_mem, List.mem_append,
      List.any_eq_true, Bool.and_eq_true, List.isPrefixOf_iff_prefix, bne_iff_ne] at after
    rcases after with (start | passed | known) | ⟨⟨held, _⟩, mem, inside, other⟩
    · exact .inl (by simp [isDirectoryAt, start])
    · exact .inr passed
    · exact .inl (by simp [isDirectoryAt, known])
    · rcases List.mem_cons.mp mem with same | mem
      · obtain ⟨rfl, -⟩ := Prod.mk.inj same
        exact isDirectoryAt_or_passed inside other.symm
      · exact .inl (isDirectoryAt_of_holds (List.mem_of_mem_filter mem) inside other.symm)
  · rintro (before | passed)
    · simp only [isDirectoryAt, Bool.or_eq_true, List.contains_iff_mem, List.any_eq_true,
        Bool.and_eq_true, List.isPrefixOf_iff_prefix, bne_iff_ne] at before
      rcases before with (start | known) | ⟨⟨held, old⟩, mem, inside, other⟩
      · simp [isDirectoryAt, start]
      · simp [isDirectoryAt, write, known]
      · by_cases same : held = stepsOf path
        · have here : (stepsOf path, text.toUTF8.toList) ∈ (files.write path text).contents :=
            List.mem_cons_self
          exact isDirectoryAt_of_holds here (same ▸ inside) (same ▸ other.symm)
        · have kept : (held, old) ∈ (files.write path text).contents :=
            List.mem_cons_of_mem _ (List.mem_filter.mpr ⟨mem, by simpa using same⟩)
          exact isDirectoryAt_of_holds kept inside other.symm
    · simp [isDirectoryAt, write, passed]

theorem blocked?_eq_none_iff :
    files.blocked? path = none ↔ ∀ place ∈ wayOf path, files.isDirectoryAt place = true := by
  rw [blocked?, List.findSome?_eq_none_iff]
  refine forall₂_congr fun place _ => ?_
  cases files.isDirectoryAt place with
  | true => simp
  | false => cases (files.bytesAt? place).isSome <;> simp

theorem read_eq_ok_iff : files.read path = .ok bytes ↔
    files.blocked? path = none ∧ files.isDirectoryAt (stepsOf path) = false ∧
      files.bytesAt? (stepsOf path) = some bytes := by
  unfold read
  cases files.blocked? path with
  | some fault => simp
  | none =>
      cases files.isDirectoryAt (stepsOf path) with
      | true => simp
      | false => cases files.bytesAt? (stepsOf path) <;> simp

/-- A file whose bytes encode a text is read as this text. -/
theorem readText_of_read (found : files.read path = .ok text.toUTF8.toList) :
    files.readText path = .ok text := by
  have decoded : LineReader.decode? text.toUTF8.toList = some text.toList := by
    rw [toList_toUTF8, LineReader.decode?_encoded]
  simp only [readText, found, bind, Except.bind, decoded, String.ofList_toList]
  rfl

theorem contains_eq_false_iff : files.contains path = false ↔
    files.blocked? path = none →
      files.isDirectoryAt (stepsOf path) = false ∧ files.bytesAt? (stepsOf path) = none := by
  unfold contains
  cases files.blocked? path <;> simp

theorem of_obstacle?_eq_none (free : files.obstacle? path = none) :
    endsInName path = true ∧ (∀ place ∈ wayOf path, files.bytesAt? place = none) ∧
      files.isDirectoryAt (stepsOf path) = false ∧ stepsOf path ∉ wayOf path := by
  unfold obstacle? at free
  simp only [Bool.not_eq_true', Bool.or_eq_true, List.any_eq_true] at free
  split at free
  · cases free
  · split at free
    · cases free
    · split at free
      · cases free
      · split at free
        · cases free
        · rename_i named _ files directory
          refine ⟨by simpa using named, fun place mem => ?_, ?_, ?_⟩
          · by_contra some
            exact files ⟨place, mem, Option.isSome_iff_ne_none.mpr some⟩
          · exact Bool.eq_false_iff.mpr fun known => directory (.inl known)
          · exact fun passed => directory (.inr (List.contains_iff_mem.mpr passed))

/-- What could be read elsewhere is read as before. -/
theorem read_write_elsewhere {elsewhere : String} (free : files.obstacle? path = none)
    (before : files.read elsewhere = .ok bytes) (other : stepsOf elsewhere ≠ stepsOf path) :
    (files.write path text).read elsewhere = .ok bytes := by
  obtain ⟨-, bare, -, -⟩ := of_obstacle?_eq_none free
  obtain ⟨open_, noDirectory, found⟩ := read_eq_ok_iff.mp before
  rw [read_eq_ok_iff, bytesAt?_write, if_neg other]
  refine ⟨?_, ?_, found⟩
  · rw [blocked?_eq_none_iff] at open_ ⊢
    exact fun place mem => isDirectoryAt_write.mpr (.inl (open_ place mem))
  · rw [Bool.eq_false_iff, ne_eq, isDirectoryAt_write]
    rintro (known | passed)
    · rw [noDirectory] at known
      cases known
    · rw [bare _ passed] at found
      cases found

/-- What was written is read. -/
theorem read_write_self (free : files.obstacle? path = none) :
    (files.write path text).read path = .ok text.toUTF8.toList := by
  obtain ⟨-, -, noDirectory, notPassed⟩ := of_obstacle?_eq_none free
  rw [read_eq_ok_iff, bytesAt?_write, if_pos rfl]
  refine ⟨?_, ?_, rfl⟩
  · rw [blocked?_eq_none_iff]
    exact fun place mem => isDirectoryAt_write.mpr (.inr mem)
  · rw [Bool.eq_false_iff, ne_eq, isDirectoryAt_write]
    rintro (known | passed)
    · rw [noDirectory] at known
      cases known
    · exact notPassed passed

/-- A file can be lost at a path that leads to nothing only if a directory is missing on the way. -/
theorem blocked?_of_absent (free : files.obstacle? path = none)
    (absent : files.contains path = false) (found : files.bytesAt? (stepsOf path) = some bytes) :
    files.blocked? path = some .missing := by
  obtain ⟨-, bare, -, -⟩ := of_obstacle?_eq_none free
  cases blocked : files.blocked? path with
  | none =>
      rw [(contains_eq_false_iff.mp absent blocked).2] at found
      cases found
  | some fault =>
      obtain ⟨place, mem, fails⟩ := List.exists_of_findSome?_eq_some blocked
      rw [bare place mem] at fails
      split at fails
      · cases fails
      · exact fails.symm

/-- Such a path leads upwards. Any other one passes only places that hold the file, and these are
directories already. -/
theorem upwards_of_blocked (named : endsInName path = true)
    (found : files.bytesAt? (stepsOf path) = some bytes) (blocked : files.blocked? path ≠ none) :
    ['.', '.'] ∈ pieces '/' path.toList := by
  by_contra down
  refine blocked (blocked?_eq_none_iff.mpr fun place mem => ?_)
  unfold endsInName at named
  cases last : (pieces '/' path.toList).getLast? with
  | none =>
      rw [last] at named
      cases named
  | some name =>
      obtain ⟨steps, cut⟩ := List.getLast?_eq_some_iff.mp last
      rw [last] at named
      simp only [Bool.and_eq_true, bne_iff_ne] at named
      rw [cut, List.mem_append, not_or] at down
      have reached : stepsOf path = (steps.foldl Steps.walk (originOf path)) ++ [name] := by
        rw [stepsOf, cut, List.foldl_append]
        simp [Steps.walk, named]
      have held : place <+: steps.foldl Steps.walk (originOf path) := by
        rw [wayOf, cut, Steps.along_append, List.mem_append] at mem
        rcases mem with passed | last
        · exact Steps.prefix_of_mem_along down.1 passed
        · exact (List.mem_singleton.mp last) ▸ List.prefix_refl _
      refine isDirectoryAt_of_holds (mem_contents_of_bytesAt? found) ?_ ?_
      · rw [reached]
        exact held.trans (List.prefix_append _ _)
      · intro same
        have longer := held.length_le
        rw [same, reached, List.length_append] at longer
        exact Nat.not_succ_le_self _ longer

/-- Files after a text was written to a path: it is there, and all else is as it was. -/
structure Replaces (before : Files) (path text : String) (after : Files) : Prop where
  written : after.read path = .ok text.toUTF8.toList
  others : ∀ place, place ≠ stepsOf path → after.bytesAt? place = before.bytesAt? place
  readable : ∀ elsewhere old, stepsOf elsewhere ≠ stepsOf path →
    before.read elsewhere = .ok old → after.read elsewhere = .ok old

theorem replaces_write (free : files.obstacle? path = none) :
    files.Replaces path text (files.write path text) where
  written := read_write_self free
  others place other := by rw [bytesAt?_write, if_neg other]
  readable _ _ other before := read_write_elsewhere free before other

end Files

namespace World

variable {w : World} {c : Context} {path text : String}

theorem runSolve_written [Unicode.Form] {equation : String} {out : Option String} :
    (w.runSolve c equation out).written = some (path, text) ↔
      out = some path ∧ w.files.obstacle? path = none ∧
        ∃ s, solve c.settings.solver equation = .ok s ∧ text = Report.solutionJson s := by
  unfold runSolve
  cases solve c.settings.solver equation with
  | error error => simp
  | ok s =>
      cases out with
      | none => simp
      | some target =>
          cases obstacle : w.files.obstacle? target with
          | some fault =>
              simp only [obstacle, Failure.outcome, reduceCtorEq, Option.some.injEq, false_iff]
              rintro ⟨rfl, free, -⟩
              rw [free] at obstacle
              cases obstacle
          | none =>
              simp only [obstacle, Option.some.injEq, Prod.mk.injEq, Except.ok.injEq]
              constructor
              · rintro ⟨rfl, rfl⟩
                exact ⟨rfl, obstacle, s, rfl, rfl⟩
              · rintro ⟨rfl, -, _, rfl, rfl⟩
                exact ⟨rfl, rfl⟩

theorem runBatch_written [Unicode.Form] {file : String} : (w.runBatch c file).written = none := by
  unfold runBatch
  split
  · rfl
  · split <;> rfl

theorem runConfig_written [Toml.Library] {flags : GlobalFlags} {init : Bool} :
    (w.runConfig c flags init).written = some (path, text) ↔
      init = true ∧ flags.config.or w.userConfig? = some path ∧ w.files.contains path = false ∧
        w.files.obstacle? path = none ∧ text = c.settings.toToml := by
  unfold runConfig
  cases init with
  | false => simp
  | true =>
      cases target : flags.config.or w.userConfig? with
      | none => simp [Failure.outcome]
      | some path' =>
          simp only [Bool.not_true, Bool.false_eq_true, if_false, true_and, Option.some.injEq]
          split
          · rename_i present
            simp only [reduceCtorEq, false_iff]
            rintro ⟨rfl, absent, -⟩
            rw [present] at absent
            cases absent
          · rename_i absent
            split
            · rename_i obstacle
              simp only [Failure.outcome, reduceCtorEq, false_iff]
              rintro ⟨rfl, -, free, -⟩
              rw [obstacle] at free
              cases free
            · rename_i free
              simp only [Option.some.injEq, Prod.mk.injEq]
              constructor
              · rintro ⟨rfl, rfl⟩
                exact ⟨rfl, Bool.eq_false_iff.mpr absent, free, rfl⟩
              · rintro ⟨rfl, -, -, rfl⟩
                exact ⟨rfl, rfl⟩

theorem runCommand_written [Unicode.Form] [Toml.Library] {flags : GlobalFlags}
    {command : Command} :
    (w.runCommand c flags command).written = some (path, text) ↔
      (∃ equation s, command = .solve equation (some path) ∧
        solve c.settings.solver equation = .ok s ∧ w.files.obstacle? path = none ∧
        text = Report.solutionJson s) ∨
      command = .config true ∧ flags.config.or w.userConfig? = some path ∧
        w.files.contains path = false ∧ w.files.obstacle? path = none ∧
        text = c.settings.toToml := by
  cases command with
  | solve equation out =>
      rw [runCommand, runSolve_written]
      constructor
      · rintro ⟨rfl, free, s, solved, report⟩
        exact .inl ⟨equation, s, rfl, solved, free, report⟩
      · rintro (⟨_, s, asked, solved, free, report⟩ | ⟨asked, -⟩)
        · obtain ⟨rfl, rfl⟩ := Command.solve.inj asked
          exact ⟨rfl, free, s, solved, report⟩
        · cases asked
  | batch file => simp [runCommand, runBatch_written]
  | config init =>
      rw [runCommand, runConfig_written]
      simp
  | arith _ _ _ | tokens _ | prompt => simp [runCommand]

end World

section Runs

variable [Unicode.Form] [Toml.Library] {arguments : List String} {w : World}
  {flags : GlobalFlags} {command : Command} {settings : Settings} {path text : String}

def Performs (arguments : List String) (w : World) (flags : GlobalFlags) (command : Command)
    (settings : Settings) : Prop :=
  requestOf arguments = .run flags command ∧
    ∃ warning, w.settings flags command = .ok (settings, warning)

/-- A run solves an equation, and its report can be written to the path that is asked for. -/
def Reports (arguments : List String) (w : World) (path : String) (s : Solution Float) : Prop :=
  ∃ flags equation settings, Performs arguments w flags (.solve equation (some path)) settings ∧
    solve settings.solver equation = .ok s ∧ w.files.obstacle? path = none

/-- A run creates a settings file, at a path that leads to nothing and can be written. -/
def Initializes (arguments : List String) (w : World) (path : String) (settings : Settings) :
    Prop :=
  ∃ flags, Performs arguments w flags (.config true) settings ∧
    flags.config.or w.userConfig? = some path ∧ w.files.contains path = false ∧
    w.files.obstacle? path = none

theorem Performs.written (performs : Performs arguments w flags command settings) :
    (run arguments w).written =
      (w.runCommand (w.context flags settings) flags command).written := by
  obtain ⟨asked, warning, loaded⟩ := performs
  simp only [run, asked, loaded]

theorem exists_performs (some_ : (run arguments w).written = some (path, text)) :
    ∃ flags command settings, Performs arguments w flags command settings := by
  unfold run at some_
  split at some_
  · cases some_
  · cases some_
  · cases some_
  · rename_i flags command asked
    split at some_
    · cases some_
    · rename_i settings warning loaded
      exact ⟨flags, command, settings, asked, warning, loaded⟩

/-- There are two things that a run can write. -/
theorem run_written : (run arguments w).written = some (path, text) ↔
    (∃ s, Reports arguments w path s ∧ text = Report.solutionJson s) ∨
      ∃ settings, Initializes arguments w path settings ∧ text = settings.toToml := by
  constructor
  · intro written
    obtain ⟨flags, command, settings, performs⟩ := exists_performs written
    rw [performs.written, World.runCommand_written] at written
    rcases written with ⟨equation, s, rfl, solved, free, rfl⟩ | ⟨rfl, target, absent, free, rfl⟩
    · exact .inl ⟨s, ⟨flags, equation, settings, performs, solved, free⟩, rfl⟩
    · exact .inr ⟨settings, ⟨flags, performs, target, absent, free⟩, rfl⟩
  · rintro (⟨s, ⟨flags, equation, settings, performs, solved, free⟩, rfl⟩ |
      ⟨settings, ⟨flags, performs, target, absent, free⟩, rfl⟩)
    · rw [performs.written, World.runCommand_written]
      exact .inl ⟨equation, s, rfl, solved, free, rfl⟩
    · rw [performs.written, World.runCommand_written]
      exact .inr ⟨rfl, target, absent, free, rfl⟩

/-- A run keeps the bytes of every file, unless its place is that of a report. -/
def Harmless (arguments : List String) (w : World) : Prop :=
  ∀ place old, w.files.bytesAt? place = some old →
    ((run arguments w).files w.files).bytesAt? place = some old ∨
      ∃ path s, Reports arguments w path s ∧ place = stepsOf path

/-- A run overwrites a file with settings: a directory is missing on the way to it, so that the
path leads to nothing before the run. -/
def Overwrites (arguments : List String) (w : World) : Prop :=
  ∃ path settings old, Initializes arguments w path settings ∧
    w.files.blocked? path = some .missing ∧ ['.', '.'] ∈ pieces '/' path.toList ∧
    w.files.bytesAt? (stepsOf path) = some old ∧
    old ≠ settings.toToml.toUTF8.toList

theorem files_of_reports {s : Solution Float} (reports : Reports arguments w path s) :
    (run arguments w).files w.files = w.files.write path (Report.solutionJson s) := by
  rw [Outcome.files, run_written.mpr (.inl ⟨s, reports, rfl⟩)]

theorem files_of_initializes (creates : Initializes arguments w path settings) :
    (run arguments w).files w.files = w.files.write path settings.toToml := by
  rw [Outcome.files, run_written.mpr (.inr ⟨settings, creates, rfl⟩)]

theorem files_cases (arguments : List String) (w : World) :
    (run arguments w).files w.files = w.files ∨ (∃ path s, Reports arguments w path s) ∨
      ∃ path settings, Initializes arguments w path settings := by
  cases some_ : (run arguments w).written with
  | none => exact .inl (by rw [Outcome.files, some_])
  | some entry =>
      rcases run_written.mp some_ with ⟨s, reports, -⟩ | ⟨settings, creates, -⟩
      · exact .inr (.inl ⟨_, s, reports⟩)
      · exact .inr (.inr ⟨_, settings, creates⟩)

omit [Unicode.Form] in
/-- A command line asks for one command only. -/
theorem Performs.unique {flags' : GlobalFlags} {command' : Command} {settings' : Settings}
    (performs : Performs arguments w flags command settings)
    (performs' : Performs arguments w flags' command' settings') :
    command = command' ∧ settings = settings' := by
  obtain ⟨asked, _, loaded⟩ := performs
  obtain ⟨asked', _, loaded'⟩ := performs'
  obtain ⟨rfl, rfl⟩ := Request.run.inj (asked.symm.trans asked')
  exact ⟨rfl, (Prod.mk.inj (Except.ok.inj (loaded.symm.trans loaded'))).1⟩

theorem harmless_iff : Harmless arguments w ↔ ¬ Overwrites arguments w := by
  constructor
  · rintro harmless ⟨path, settings, old, creates, -, -, found, other⟩
    rcases harmless _ old found with kept | ⟨_, s, ⟨_, _, _, performs, _⟩, _⟩
    · rw [files_of_initializes creates, Files.bytesAt?_write, if_pos rfl] at kept
      exact other (Option.some.inj kept).symm
    · obtain ⟨_, performs', _⟩ := creates
      cases (performs.unique performs').1
  · intro spared place old found
    rcases files_cases arguments w with same | ⟨path, s, reports⟩ | ⟨path, settings, creates⟩
    · rw [same]
      exact .inl found
    · by_cases here : place = stepsOf path
      · exact .inr ⟨path, s, reports, here⟩
      · rw [files_of_reports reports, Files.bytesAt?_write, if_neg here]
        exact .inl found
    · refine .inl ?_
      rw [files_of_initializes creates, Files.bytesAt?_write]
      split
      · rename_i here
        by_contra lost
        obtain ⟨_, _, _, absent, free⟩ := id creates
        have blocked := Files.blocked?_of_absent free absent (here ▸ found)
        have upwards := Files.upwards_of_blocked (Files.of_obstacle?_eq_none free).1
          (here ▸ found) (by rw [blocked]; nofun)
        exact spared ⟨path, settings, old, creates, blocked, upwards, here ▸ found,
          fun same => lost (congrArg some same.symm)⟩
      · exact found

/-- What a run does to files, for all arguments, inputs, environments and files, whatever their
bytes. The report of a solved equation and new settings replace what was at their path and nothing
else; a rejected equation and all other runs leave the files alone. So no run changes a file that is
not the one of its report, unless new settings are written along a path that leads to an existing
file by way of a directory that does not exist yet. -/
theorem run_files (arguments : List String) (w : World) :
    let after := (run arguments w).files w.files
    (∀ path s, Reports arguments w path s →
        w.files.Replaces path (Report.solutionJson s) after) ∧
      (∀ path settings, Initializes arguments w path settings →
        w.files.Replaces path settings.toToml after) ∧
      (∀ flags equation out settings error,
        Performs arguments w flags (.solve equation out) settings →
          solve settings.solver equation = .error error → after = w.files) ∧
      ((∀ path s, ¬ Reports arguments w path s) →
        (∀ path settings, ¬ Initializes arguments w path settings) → after = w.files) ∧
      (Harmless arguments w ↔ ¬ Overwrites arguments w) := by
  intro after
  refine ⟨fun path s reports => ?_, fun path settings creates => ?_,
    fun flags equation out settings error performs rejected => ?_,
    fun noReport noSettings => ?_, harmless_iff⟩
  · obtain ⟨_, _, _, _, _, free⟩ := id reports
    simp only [after, files_of_reports reports]
    exact Files.replaces_write free
  · obtain ⟨_, _, _, _, free⟩ := id creates
    simp only [after, files_of_initializes creates]
    exact Files.replaces_write free
  · rcases files_cases arguments w with same | ⟨_, s, _, _, _, performs', solved, _⟩ |
      ⟨_, _, _, performs', _⟩
    · exact same
    · obtain ⟨asked, rfl⟩ := performs.unique performs'
      obtain ⟨rfl, -⟩ := Command.solve.inj asked
      rw [rejected] at solved
      cases solved
    · cases (performs.unique performs').1
  · rcases files_cases arguments w with same | ⟨path, s, reports⟩ | ⟨path, settings, creates⟩
    · exact same
    · exact (noReport path s reports).elim
    · exact (noSettings path settings creates).elim

end Runs

/-- The directory `new` does not exist, so `new/../notes.toml` leads to nothing. Once it is made the
path leads to a file that was there all along. -/
theorem run_files_overwritten :
    let arguments := ["--config", "new/../notes.toml", "config", "--init"]
    let w : World := { files := .ofTexts [("notes.toml", "mine = 1\n")] }
    Initializes arguments w "new/../notes.toml" {} ∧
      w.files.readText "notes.toml" = .ok "mine = 1\n" ∧
      ((run arguments w).files w.files).readText "new/../notes.toml" = .ok (Settings.toToml {}) ∧
      ¬ Harmless arguments w := by
  intro arguments w
  have asked : requestOf arguments =
      .run { config := some "new/../notes.toml" } (.config true) := by decide +kernel
  have creates : Initializes arguments w "new/../notes.toml" {} :=
    ⟨_, ⟨asked, {}, by rfl⟩, rfl, by decide +kernel, by decide +kernel⟩
  obtain ⟨-, settings, -, -, harmless⟩ := run_files arguments w
  refine ⟨creates, by decide +kernel, Files.readText_of_read (settings _ _ creates).written, ?_⟩
  rw [harmless, not_not]
  exact ⟨_, _, "mine = 1\n".toUTF8.toList, creates, by decide +kernel, by decide +kernel,
    by decide +kernel, by decide +kernel⟩

end WorkedAlgebra.CommandLine
