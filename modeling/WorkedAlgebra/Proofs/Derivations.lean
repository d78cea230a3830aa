import WorkedAlgebra.Proofs.SignRuns
import WorkedAlgebra.Proofs.TracedSteps

/-!
What a successful run of each stage of solving consists of.
-/

namespace WorkedAlgebra

open Scalar

theorem bind_ok_iff {ε β γ : Type} {x : Except ε β} {f : β → Except ε γ} {c : γ} :
    x >>= f = .ok c ↔ ∃ b, x = .ok b ∧ f b = .ok c := by
  cases x with
  | error fault => simp [bind, Except.bind]
  | ok b => simp [bind, Except.bind]

theorem bind_error_iff {ε β γ : Type} {x : Except ε β} {f : β → Except ε γ} {error : ε} :
    x >>= f = .error error ↔ x = .error error ∨ ∃ b, x = .ok b ∧ f b = .error error := by
  cases x with
  | error fault => simp [bind, Except.bind]
  | ok b => simp [bind, Except.bind]

theorem map_error_iff {ε β γ : Type} {x : Except ε β} {f : β → γ} {error : ε} :
    x.map f = .error error ↔ x = .error error := by
  cases x with
  | error fault => simp [Except.map]
  | ok b => simp [Except.map]

/-- A computation that succeeds with a result of some kind. -/
theorem exists_ok {ε β : Type} {x : Except ε β} {p : β → Bool} (h : x.toOption.any p = true) :
    ∃ b, x = .ok b ∧ p b = true := by
  cases x with
  | error fault => cases h
  | ok b => exact ⟨b, rfl, h⟩

section Pieces

variable {β : Type} [BEq β]

theorem pieces_ne_nil (separator : β) (cs : List β) : pieces separator cs ≠ [] := by
  cases cs with
  | nil => simp [pieces]
  | cons c cs =>
      rw [pieces]
      split
      · simp
      · split <;> simp

variable {separator : β}

theorem pieces_cons (c : β) (cs : List β) :
    pieces separator (c :: cs) =
      if c == separator then [] :: pieces separator cs
      else (pieces separator cs).modifyHead (c :: ·) := by
  rw [pieces]
  split
  · rfl
  · cases split : pieces separator cs with
    | nil => exact (pieces_ne_nil separator cs split).elim
    | cons piece rest => rfl

/-- A separator ends one part and starts the next. -/
theorem pieces_append_separator [ReflBEq β] (xs ys : List β) :
    pieces separator (xs ++ separator :: ys) = pieces separator xs ++ pieces separator ys := by
  induction xs with
  | nil => simp [pieces]
  | cons c xs ih =>
      rw [List.cons_append, pieces_cons, pieces_cons, ih]
      split
      · rfl
      · cases split : pieces separator xs with
        | nil => exact (pieces_ne_nil separator xs split).elim
        | cons piece rest => rfl

variable [LawfulBEq β] {cs : List β}

/-- What holds no separator belongs to the first part. -/
theorem pieces_append_absent (absent : separator ∉ cs) (ys : List β) :
    pieces separator (cs ++ ys) = (pieces separator ys).modifyHead (cs ++ ·) := by
  induction cs with
  | nil =>
      cases split : pieces separator ys with
      | nil => exact split
      | cons piece rest => exact split
  | cons c cs ih =>
      have other : (c == separator) = false := by
        simpa using fun same => absent (by simp [same])
      rw [List.cons_append, pieces_cons, other, ih fun mem => absent (List.mem_cons_of_mem c mem)]
      cases pieces separator ys <;> rfl

theorem pieces_of_absent (absent : separator ∉ cs) : pieces separator cs = [cs] := by
  simpa [pieces] using pieces_append_absent absent []

theorem pieces_cut (absent : separator ∉ cs) (ys : List β) :
    pieces separator (cs ++ separator :: ys) = cs :: pieces separator ys := by
  rw [pieces_append_separator, pieces_of_absent absent, List.singleton_append]

theorem pieces_eq_singleton {piece : List β} (whole : pieces separator cs = [piece]) :
    cs = piece ∧ separator ∉ cs := by
  by_cases mem : separator ∈ cs
  · obtain ⟨xs, ys, rfl, absent⟩ := List.eq_append_cons_of_mem mem
    rw [pieces_cut absent] at whole
    exact (pieces_ne_nil separator ys (List.cons.inj whole).2).elim
  · rw [pieces_of_absent mem] at whole
    exact ⟨(List.cons.inj whole).1, mem⟩

theorem pieces_eq_pair {left right : List β} (parts : pieces separator cs = [left, right]) :
    cs = left ++ separator :: right ∧ separator ∉ left ∧ separator ∉ right := by
  by_cases mem : separator ∈ cs
  · obtain ⟨xs, ys, rfl, absent⟩ := List.eq_append_cons_of_mem mem
    rw [pieces_cut absent] at parts
    obtain ⟨rfl, rest⟩ := List.cons.inj parts
    obtain ⟨rfl, absent'⟩ := pieces_eq_singleton rest
    exact ⟨rfl, absent, absent'⟩
  · rw [pieces_of_absent mem] at parts
    cases parts

end Pieces

section Stages

variable {α : Type} [Scalar α]

theorem Expr.evaluateFinite_ok_iff {b : Bindings α} {e : Expr α} {v : α} :
    e.evaluateFinite b = .ok v ↔ e.evaluate b = .ok v ∧ isFinite v = true := by
  rw [evaluateFinite, bind_ok_iff]
  constructor
  · rintro ⟨w, evaluated, h⟩
    split at h
    · cases h
      exact ⟨evaluated, ‹_›⟩
    · cases h
  · rintro ⟨evaluated, finite⟩
    exact ⟨v, evaluated, by simp [finite, pure, Except.pure]⟩

theorem Probe.ofSides_ok_iff {sides : Sides} {probe : Probe α} :
    Probe.ofSides sides = .ok probe ↔
      Expr.ofSide 0 sides.left = .ok probe.left ∧
        Expr.ofSide sides.rightOffset sides.rightOrZero = .ok probe.right := by
  simp only [ofSides, bind_ok_iff]
  constructor
  · rintro ⟨left, hleft, right, hright, h⟩
    cases h
    exact ⟨hleft, hright⟩
  · rintro ⟨hleft, hright⟩
    exact ⟨_, hleft, _, hright, rfl⟩

namespace LinearForm

theorem constantPart_ok_iff {offset : Nat} {text : List Char} {v : α} :
    constantPart offset text = .ok v ↔
      ∃ e, Expr.ofSide offset text = .ok e ∧
        e.evaluate (Bindings.all (lettersOf text) zero) = .ok v ∧ isFinite v = true := by
  simp only [constantPart, bind_ok_iff]
  constructor
  · rintro ⟨e, parsed, h⟩
    split at h
    · rename_i w evaluated
      cases h
      exact ⟨e, parsed, Expr.evaluateFinite_ok_iff.mp evaluated⟩
    · cases h
  · rintro ⟨e, parsed, evaluated⟩
    exact ⟨e, parsed, by rw [Expr.evaluateFinite_ok_iff.mpr evaluated]⟩

/-- The form of a side: the coefficient from its text, the constant from its tree. -/
theorem decompose_ok_iff {letter : Char} {offset : Nat} {side : List Char} {form : LinearForm α} :
    decompose letter offset side = .ok form ↔
      scanCoefficient letter (Text.collapseSigns side) = .ok form.coefficient ∧
        ∃ e, Expr.ofSide offset side = .ok e ∧
          e.evaluate (Bindings.all (lettersOf (Text.collapseSigns side)) zero) =
            .ok form.constant ∧ isFinite form.constant = true := by
  have same : Expr.ofSide (α := α) offset (Text.collapseSigns side) = Expr.ofSide offset side := by
    rw [Expr.ofSide, Text.collapseSigns_collapseSigns, Expr.ofSide]
  simp only [decompose, bind_ok_iff, constantPart_ok_iff, same]
  constructor
  · rintro ⟨coefficient, scanned, constant, evaluated, h⟩
    cases h
    refine ⟨?_, evaluated⟩
    cases read : scanCoefficient (α := α) letter (Text.collapseSigns side) with
    | error fault => simp [read, Except.mapError] at scanned
    | ok v => simpa [read, Except.mapError] using scanned
  · rintro ⟨scanned, evaluated⟩
    exact ⟨_, by rw [scanned]; rfl, _, evaluated, rfl⟩

end LinearForm

theorem Resolution.classify_ne_approximate (coefficient l r : α) (estimate : Estimate α) :
    Resolution.approximate estimate ≠ .classify coefficient l r := by
  unfold Resolution.classify
  split
  · split <;> simp
  · simp

/-- With one unknown an equation is linear or searched, as the affine test tells. -/
theorem Derivation.ofSingle_ok {sides : Sides} {unknown : Char} {options : SolverOptions α}
    {d : Derivation α} (derived : ofSingle sides unknown options = .ok d) :
    ∃ probe, Probe.ofSides sides = .ok probe ∧
      ((Probe.affineSlope (probe.along Bindings.empty unknown) = none ∧
          d = .searched (.ofProbe probe unknown options)) ∨
        ∃ slope left right,
          Probe.affineSlope (probe.along Bindings.empty unknown) = some slope ∧
            LinearForm.decompose unknown 0 sides.left = .ok left ∧
              LinearForm.decompose unknown sides.rightOffset sides.rightOrZero = .ok right ∧
                d = .linear ⟨unknown, left, right, slope, probe.right.mentions unknown⟩) := by
  obtain ⟨probe, trees, h⟩ := bind_ok_iff.mp derived
  refine ⟨probe, trees, ?_⟩
  cases affine : Probe.affineSlope (probe.along Bindings.empty unknown) with
  | none =>
      simp only [affine] at h
      split at h
      · cases h
        exact .inl ⟨rfl, rfl⟩
      · cases h
  | some slope =>
      simp only [affine, bind_ok_iff] at h
      obtain ⟨left, hleft, right, hright, h⟩ := h
      cases h
      exact .inr ⟨slope, left, right, rfl, hleft, hright, rfl⟩

theorem Probe.firstNonlinear_eq_none_iff {probe : Probe α} {letters : List Char} :
    probe.firstNonlinear letters = none ↔
      ∀ letter ∈ letters, ∃ a b,
        affineSlope (probe.along (Bindings.all letters zero) letter) = some a ∧
          affineSlope (probe.along (Bindings.all letters one) letter) = some b ∧
            agrees a b = true := by
  simp only [firstNonlinear, List.find?_eq_none, Bool.not_eq_true', Bool.not_eq_false]
  refine forall₂_congr fun letter _ => ?_
  unfold isLinearIn
  cases affineSlope (probe.along (Bindings.all letters zero) letter) with
  | none => simp
  | some a =>
      cases affineSlope (probe.along (Bindings.all letters one) letter) with
      | none => simp
      | some b => simp

theorem CoefficientReading.ofSides_ok_iff {sides : Sides} {probe : Probe α} {letters : List Char}
    {letter : Char} {reading : CoefficientReading α} :
    ofSides sides probe letters letter = .ok reading ↔
      ∃ left right,
        LinearForm.scanCoefficient letter (Text.collapseSigns sides.left) = .ok left ∧
          LinearForm.scanCoefficient letter (Text.collapseSigns sides.rightOrZero) = .ok right ∧
            reading = ⟨letter, left - right,
              probe.along (Bindings.all letters zero) letter one -
                probe.difference (Bindings.all letters zero)⟩ := by
  simp only [ofSides, bind_ok_iff]
  constructor
  · rintro ⟨left, hleft, right, hright, h⟩
    cases h
    exact ⟨left, right, hleft, hright, rfl⟩
  · rintro ⟨left, right, hleft, hright, rfl⟩
    exact ⟨left, hleft, right, hright, rfl⟩

/-- With several letters an equation is reduced when it is linear in all of them. -/
theorem Derivation.ofSeveral_ok {sides : Sides} {main : Char} {others : List Char}
    {d : Derivation α} (derived : ofSeveral sides main others = .ok d) :
    ∃ probe left right mainReading readings, Probe.ofSides sides = .ok probe ∧
      probe.firstNonlinear (main :: others) = none ∧
        LinearForm.decompose main 0 sides.left = .ok left ∧
          LinearForm.decompose main sides.rightOffset sides.rightOrZero = .ok right ∧
            CoefficientReading.ofSides sides probe (main :: others) main = .ok mainReading ∧
              others.mapM (CoefficientReading.ofSides sides probe (main :: others)) =
                .ok readings ∧
                d = .reduced ⟨mainReading, readings, left.constant - right.constant⟩ := by
  obtain ⟨probe, trees, h⟩ := bind_ok_iff.mp derived
  cases nonlinear : probe.firstNonlinear (main :: others) with
  | some letter =>
      simp only [nonlinear] at h
      cases h
  | none =>
      simp only [nonlinear, bind_ok_iff] at h
      obtain ⟨left, hleft, right, hright, mainReading, hmain, readings, hreadings, h⟩ := h
      cases h
      exact ⟨probe, left, right, mainReading, readings, trees, nonlinear, hleft, hright, hmain,
        hreadings, rfl⟩

/-- The sides of an equation are what stands before and behind its only equals sign. -/
theorem Sides.split_ok {text : List Char} {sides : Sides} (cut : Sides.split text = .ok sides) :
    text = sides.left ++ '=' :: sides.right ∧ '=' ∉ sides.left ∧ '=' ∉ sides.right ∧
      sides.left ≠ [] ∧ sides.rightOffset = sides.left.length + 1 := by
  unfold Sides.split at cut
  split at cut
  · rename_i left right parts
    split at cut
    · cases cut
    · rename_i nonempty
      cases cut
      obtain ⟨joined, absentLeft, absentRight⟩ := pieces_eq_pair parts
      exact ⟨joined, absentLeft, absentRight, by simpa using nonempty, rfl⟩
  · cases cut
  · cases cut

theorem Sides.length_le {text : List Char} {sides : Sides} (cut : Sides.split text = .ok sides) :
    sides.left.length ≤ text.length ∧ sides.rightOrZero.length ≤ text.length := by
  obtain ⟨rfl, -, -, -, -⟩ := Sides.split_ok cut
  unfold Sides.rightOrZero
  split
  · simp
    omega
  · simp
    omega

theorem Problem.ofClean_ok_iff {text : List Char} {p : Problem} :
    Problem.ofClean text = .ok p ↔
      Sides.split text = .ok p.sides ∧ detectLetters text = p.unknown :: p.others := by
  unfold Problem.ofClean
  cases split : Sides.split text with
  | error cause => simp
  | ok sides =>
      cases letters : detectLetters text with
      | nil => simp
      | cons unknown others =>
          simp only [Except.ok.injEq, List.cons.injEq]
          exact ⟨fun h => by cases h; exact ⟨rfl, rfl, rfl⟩, fun ⟨h, h', h''⟩ => by
            cases p; simp_all⟩

theorem resolveClean_ok_iff {options : SolverOptions α} {text : List Char} {p : Problem}
    {d : Derivation α} :
    resolveClean options text = .ok (p, d) ↔
      Problem.ofClean text = .ok p ∧ p.derive options = .ok d := by
  simp only [resolveClean, bind_ok_iff]
  constructor
  · rintro ⟨p', hp, d', hd, h⟩
    cases h
    exact ⟨hp, hd⟩
  · rintro ⟨hp, hd⟩
    exact ⟨p, hp, d, hd, rfl⟩

end Stages

section Solutions

variable {α : Type} [Printable α] {options : SolverOptions α} {text : String}

/-- A solution reports the problem that the normalized text states and how it was resolved. -/
theorem solve_ok [Unicode.Form] {solution : Solution α}
    (solved : solve options text = .ok solution) :
    ∃ p d, Problem.ofClean (Text.normalize text.toList) = .ok p ∧ p.derive options = .ok d ∧
      solution.unknown = p.unknown ∧ solution.others = p.others ∧
        solution.resolution = d.resolution := by
  rw [solve_eq] at solved
  cases resolved : resolveClean options (Text.normalize text.toList) with
  | error cause =>
      rw [resolved] at solved
      cases solved
  | ok r =>
      obtain ⟨hp, hd⟩ := resolveClean_ok_iff.mp resolved
      rw [resolved] at solved
      obtain rfl := Except.ok.inj solved
      exact ⟨r.1, r.2, hp, hd, rfl, rfl, rfl⟩

theorem solve_error_iff [Unicode.Form] {error : SolveError} :
    solve options text = .error error ↔
      Problem.ofClean (Text.normalize text.toList) = .error error ∨
        ∃ p, Problem.ofClean (Text.normalize text.toList) = .ok p ∧
          p.derive options = .error error := by
  rw [solve_eq, map_error_iff, resolveClean]
  simp only [bind_error_iff]
  constructor
  · rintro (unstated | ⟨p, stated, derived | ⟨d, -, ⟨⟩⟩⟩)
    · exact .inl unstated
    · exact .inr ⟨p, stated, derived⟩
  · rintro (unstated | ⟨p, stated, derived⟩)
    · exact .inl unstated
    · exact .inr ⟨p, stated, .inl derived⟩

theorem exists_solution [Unicode.Form] {p : Problem} {d : Derivation α}
    (stated : Problem.ofClean (Text.normalize text.toList) = .ok p)
    (derived : p.derive options = .ok d) :
    ∃ solution, solve options text = .ok solution ∧ solution.unknown = p.unknown ∧
      solution.others = p.others ∧ solution.resolution = d.resolution := by
  refine ⟨p.report options (givenText text) d, ?_, rfl, rfl, rfl⟩
  rw [solve_eq, resolveClean_ok_iff.mpr ⟨stated, derived⟩]
  rfl

end Solutions
end WorkedAlgebra
