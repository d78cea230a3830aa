import WorkedAlgebra.Proofs.Rounding.Overflow
import WorkedAlgebra.Proofs.SwappedSides
import WorkedAlgebra.Proofs.TraceEffects

/-!
Which answers are finite. The sides with their letters zero and the slopes that are probed are, or
else there is no answer. Two numbers are not checked: the quotient that a value is computed as may
overflow, and a coefficient may be read off the text as infinite, which agrees with every slope.
-/

namespace WorkedAlgebra

open Rounding Scalar Text Float.Model

section Infinite

variable {x y : Float}

theorem isFinite_of_parts {u : UnpackedFloat} (parts : x.toModel.unpack = u)
    (finite : u.isFinite = true) : isFinite x = true := by
  change x.toModel.unpack.isFinite = true
  rw [parts, finite]

/-- A number that is not finite has an infinite magnitude. -/
theorem abs_of_infinite (number : x.toModel.unpack ≠ .notANumber) (infinite : isFinite x = false) :
    Scalar.abs x = infinity := by
  have parts : x.toModel.unpack.abs = (infinity : Float).toModel.unpack := by
    cases parts : x.toModel.unpack with
    | notANumber => exact (number parts).elim
    | infinity s => rfl
    | zero s | finite s m e positive =>
        rw [isFinite_of_parts parts rfl] at infinite
        cases infinite
  exact eq_of_parts parts

theorem isFinite_infinity : isFinite (infinity : Float) = false := by decide +kernel

theorem abs_ne_infinity (finite : isFinite x = true) : Scalar.abs x ≠ infinity := by
  intro same
  have magnitude := (denotes_value finite).abs.finite
  rw [same, isFinite_infinity] at magnitude
  cases magnitude

theorem isFinite_iff_of_number (number : x.toModel.unpack ≠ .notANumber) :
    isFinite x = true ↔ ¬ Scalar.abs x = infinity := by
  refine ⟨abs_ne_infinity, fun other => ?_⟩
  by_contra infinite
  exact other (abs_of_infinite number (Bool.eq_false_iff.mpr infinite))

theorem infinite_parts (infinite : Scalar.abs x = infinity) :
    ∃ s, x.toModel.unpack = .infinity s := by
  cases parts : x.toModel.unpack with
  | infinity s => exact ⟨s, rfl⟩
  | notANumber =>
      have undefined := undefined_abs parts
      rw [infinite] at undefined
      cases undefined
  | zero s | finite s m e positive =>
      exact (abs_ne_infinity (isFinite_of_parts parts rfl) infinite).elim

/-- An infinite number less a finite one. -/
theorem sub_of_infinite (infinite : Scalar.abs x = infinity) (finite : isFinite y = true) :
    Scalar.abs (x - y) = infinity := by
  obtain ⟨s, parts⟩ := infinite_parts infinite
  have difference : UnpackedFloat.sub Format.binary64 x.toModel.unpack y.toModel.unpack =
      .infinity s := by
    rcases finite_parts finite with ⟨t, parts'⟩ | ⟨t, m, e, positive, parts'⟩ <;>
    · rw [parts, parts']
      rfl
  have word : x - y = Float.ofModel (Float.Model.pack (.infinity s)) :=
    congrArg (fun u => Float.ofModel (Float.Model.pack u)) difference
  rw [word]
  cases s <;> decide +kernel

theorem lt_infinity (finite : isFinite x = true) : lt infinity x = false := by
  have order : (decide ((infinity : Float).toModel < x.toModel) : Bool) =
      ((infinity : Float).toModel.unpack.compare x.toModel.unpack == some .lt) :=
    Bool.decide_eq_true
  refine order.trans ?_
  rcases finite_parts finite with ⟨s, parts⟩ | ⟨s, m, e, positive, parts⟩ <;>
  · rw [parts]
    rfl

/-- The tolerance for an infinite number is infinite. -/
theorem Probe.agrees_of_infinite (infinite : Scalar.abs x = infinity) (finite : isFinite y = true) :
    agrees x y = true := by
  have bound : le infinity (tolerance * (one + infinity) : Float) = true := by decide +kernel
  rw [agrees, sub_of_infinite infinite finite, infinite, larger,
    lt_infinity (denotes_value finite).abs.finite, if_neg Bool.false_ne_true]
  exact bound

/-- A finite number over an infinite one. -/
theorem isFinite_div_of_infinite (finite : isFinite x = true) (infinite : Scalar.abs y = infinity) :
    isFinite (x / y) = true := by
  obtain ⟨s, parts⟩ := infinite_parts infinite
  have quotient : ∃ t, UnpackedFloat.div Format.binary64 x.toModel.unpack y.toModel.unpack =
      .zero t := by
    rcases finite_parts finite with ⟨t, parts'⟩ | ⟨t, m, e, positive, parts'⟩ <;>
    · rw [parts, parts']
      exact ⟨_, rfl⟩
  obtain ⟨t, quotient⟩ := quotient
  change (Float.Model.pack _).isFinite = true
  rw [quotient]
  exact isFinite_pack_of_storable (u := .zero t) trivial

end Infinite

section Answers

inductive FiniteUnless (x : Float) (beyond : Prop) : Prop where
  | finite (within : ¬ beyond) (finite : isFinite x = true)
  | infinite (beyond : beyond) (infinite : Scalar.abs x = infinity)

theorem finiteUnless_of_number {x : Float} {beyond : Prop} (number : x.toModel.unpack ≠ .notANumber)
    (finite : isFinite x = true ↔ ¬ beyond) : FiniteUnless x beyond := by
  by_cases within : beyond
  · refine .infinite within (abs_of_infinite number (Bool.eq_false_iff.mpr fun h => ?_))
    exact finite.mp h within
  · exact .finite within (finite.mpr within)

theorem number_of_isFinite {x : Float} (finite : isFinite x = true) :
    x.toModel.unpack ≠ .notANumber := by
  rcases finite_parts finite with ⟨s, parts⟩ | ⟨s, m, e, positive, parts⟩ <;>
  · rw [parts]
    nofun

namespace LinearDerivation

/-- What is known to be finite when the coefficient is chosen. -/
structure Checked (d : LinearDerivation Float) : Prop where
  left : isFinite d.left.constant = true
  right : isFinite d.right.constant = true
  balance : isFinite (d.right.constant - d.left.constant) = true
  slope : isFinite d.slope = true

/-- The quotient that the answer is computed as is too large. -/
def Overflows (d : LinearDerivation Float) : Prop :=
  isFinite d.coefficient = true ∧ overflowThreshold ≤
    |floatValue (d.right.constant - d.left.constant) / floatValue d.coefficient|

variable {d : LinearDerivation Float}

theorem Checked.number_coefficient (checked : d.Checked) :
    d.coefficient.toModel.unpack ≠ .notANumber := by
  unfold coefficient
  split
  · exact Probe.number_of_agrees ‹_›
  · exact number_of_isFinite checked.slope

/-- The only answer is finite unless the quotient overflows. -/
theorem Checked.value_finiteUnless (checked : d.Checked) {value : Float}
    (resolved : d.resolution = .unique value) : FiniteUnless value d.Overflows := by
  unfold resolution Resolution.classify at resolved
  split at resolved
  · split at resolved <;> cases resolved
  · rename_i nonzero
    obtain rfl := Resolution.unique.inj resolved
    have nonzero' : isZero d.coefficient = false := Bool.eq_false_iff.mpr nonzero
    refine finiteUnless_of_number
      (number_div checked.balance nonzero' checked.number_coefficient) ?_
    by_cases finite : isFinite d.coefficient = true
    · rw [isFinite_div_iff checked.balance finite nonzero', Overflows, and_iff_right finite, not_le]
    · have infinite : Scalar.abs d.coefficient = infinity :=
        abs_of_infinite checked.number_coefficient (Bool.eq_false_iff.mpr finite)
      exact iff_of_true (isFinite_div_of_infinite checked.balance infinite) fun h => finite h.1

end LinearDerivation

/-- A coefficient is finite unless the one that was read off the text is infinite. -/
theorem CoefficientReading.coefficient_finiteUnless {r : CoefficientReading Float}
    (finite : isFinite r.probed = true) :
    FiniteUnless r.coefficient (Scalar.abs r.scanned = infinity) := by
  unfold coefficient isOverruled
  rw [finite, Bool.true_and]
  cases agree : Probe.agrees r.scanned r.probed with
  | true =>
      have number := Probe.number_of_agrees agree
      exact finiteUnless_of_number number (isFinite_iff_of_number number)
  | false =>
      refine .finite (fun infinite => ?_) finite
      rw [Probe.agrees_of_infinite infinite finite] at agree
      cases agree

section Sides

variable {sides : Sides} {probe : Probe Float} {letter : Char} {left right : LinearForm Float}

/-- The sides are probed with their letter zero, too. -/
theorem LinearDerivation.Checked.of_affine {slope : Float} {onRight : Bool}
    (trees : Probe.ofSides sides = .ok probe)
    (letters : ∀ c ∈ lettersOf sides.left ++ lettersOf sides.rightOrZero, c = letter)
    (affine : Probe.affineSlope (probe.along Bindings.empty letter) = some slope)
    (hleft : LinearForm.decompose letter 0 sides.left = .ok left)
    (hright : LinearForm.decompose letter sides.rightOffset sides.rightOrZero = .ok right) :
    LinearDerivation.Checked ⟨letter, left, right, slope, onRight⟩ := by
  have atZero := (Probe.affineSlope_eq_some_iff.mp affine).1 zero List.mem_cons_self
  rw [Probe.along, Probe.difference_zeros trees hleft hright fun c mem => by
    rw [Bindings.set, if_pos (beq_iff_eq.mpr (letters c mem))]] at atZero
  obtain ⟨finiteLeft, finiteRight⟩ := finite_of_sub atZero
  exact ⟨finiteLeft, finiteRight, (opposed_sub_comm _ _).isFinite_eq.trans atZero,
    Probe.isFinite_slope affine⟩

/-- Setting one of the letters that are zero to zero changes nothing. -/
theorem Bindings.set_all_zero {letters : List Char} (mem : letter ∈ letters) :
    (all letters zero).set letter zero = all letters (zero : Float) := by
  funext c
  unfold set all
  split
  · rename_i same
    rw [beq_iff_eq.mp same, if_pos (List.contains_iff_mem.mpr mem)]
  · rfl

/-- What is probed for a letter in which the sides are linear is its slope. -/
theorem Probe.isFinite_probed {letters : List Char} (linear : probe.firstNonlinear letters = none)
    (mem : letter ∈ letters) : isFinite (probe.probed letters letter) = true := by
  obtain ⟨slope, _, affine, -⟩ := firstNonlinear_eq_none_iff.mp linear letter mem
  have finite := isFinite_slope affine
  rw [← (affineSlope_eq_some_iff.mp affine).2.2, along, along, Bindings.set_all_zero mem] at finite
  exact finite

/-- The constant of a reduction is the difference of the sides where all letters are zero. -/
theorem Probe.finite_balance {letters : List Char} (trees : ofSides sides = .ok probe)
    (known : ∀ c ∈ lettersOf sides.left ++ lettersOf sides.rightOrZero, c ∈ letters)
    (linear : probe.firstNonlinear letters = none) (mem : letter ∈ letters)
    (hleft : LinearForm.decompose letter 0 sides.left = .ok left)
    (hright : LinearForm.decompose letter sides.rightOffset sides.rightOrZero = .ok right) :
    isFinite (left.constant - right.constant) = true := by
  obtain ⟨slope, _, affine, -⟩ := firstNonlinear_eq_none_iff.mp linear letter mem
  have atZero := (affineSlope_eq_some_iff.mp affine).1 zero List.mem_cons_self
  have zeros (c : Char) (there : c ∈ lettersOf sides.left ++ lettersOf sides.rightOrZero) :
      Bindings.all letters (zero : Float) c = some zero :=
    if_pos (List.contains_iff_mem.mpr (known c there))
  rwa [along, Bindings.set_all_zero mem, difference_zeros trees hleft hright zeros] at atZero

/-- One of several letters is probed at a point where the difference of the sides is not finite. -/
def Probe.LeavesRange (probe : Probe Float) (letters : List Char) : Prop :=
  ∃ letter ∈ letters, ∃ others ∈ [zero, one], ∃ x ∈ points,
    isFinite (probe.along (Bindings.all letters others) letter x) = false

theorem Probe.LeavesRange.exists_nonlinear {letters : List Char}
    (leaves : probe.LeavesRange letters) : ∃ letter, probe.firstNonlinear letters = some letter := by
  obtain ⟨letter, mem, others, among, x, point, infinite⟩ := leaves
  refine Option.ne_none_iff_exists'.mp fun linear => ?_
  obtain ⟨a, b, atZero, atOne, -⟩ := firstNonlinear_eq_none_iff.mp linear letter mem
  have finite : isFinite (probe.along (Bindings.all letters others) letter x) = true := by
    rcases List.mem_pair.mp among with rfl | rfl
    · exact (affineSlope_eq_some_iff.mp atZero).1 x point
    · exact (affineSlope_eq_some_iff.mp atOne).1 x point
  rw [finite] at infinite
  cases infinite

/-- A coefficient that is reported is finite unless the one read off the text is infinite. -/
def Sides.FiniteAsRead (sides : Sides) (letter : Char) (coefficient : Float) : Prop :=
  ∃ scanned : Float, sides.scanned letter = .ok scanned ∧
    FiniteUnless coefficient (Scalar.abs scanned = infinity)

theorem CoefficientReading.finiteAsRead {letters : List Char} {r : CoefficientReading Float}
    (linear : probe.firstNonlinear letters = none) (mem : letter ∈ letters)
    (read : ofSides sides probe letters letter = .ok r) :
    sides.FiniteAsRead r.letter r.coefficient := by
  obtain ⟨left, right, hleft, hright, rfl⟩ := ofSides_ok_iff.mp read
  exact ⟨left - right, by rw [Sides.scanned, hleft, hright]; rfl,
    coefficient_finiteUnless (probe.isFinite_probed linear mem)⟩

theorem exists_of_mem_mapM {β γ : Type} {f : β → Except SolveError γ} {items : List β}
    {results : List γ} (mapped : items.mapM f = .ok results) {c : γ} (mem : c ∈ results) :
    ∃ b ∈ items, f b = .ok c := by
  induction items generalizing results with
  | nil =>
      cases mapped
      cases mem
  | cons b items ih =>
      rw [List.mapM_cons] at mapped
      obtain ⟨first, hb, rest⟩ := bind_ok_iff.mp mapped
      obtain ⟨later, hlater, done⟩ := bind_ok_iff.mp rest
      cases done
      rcases List.mem_cons.mp mem with rfl | mem
      · exact ⟨b, List.mem_cons_self, hb⟩
      · obtain ⟨b', mem', found⟩ := ih hlater mem
        exact ⟨b', List.mem_cons_of_mem b mem', found⟩

end Sides

theorem Resolution.classify_ne_reduced (coefficient l r : Float) (reduction : Reduction Float) :
    classify coefficient l r ≠ .reduced reduction := by
  unfold classify
  split
  · split <;> nofun
  · nofun

variable {options : SolverOptions Float} {clean : List Char} {p : Problem} {d : Derivation Float}

/-- The numbers of an answer. The only value of a letter is infinite just when its quotient
overflows, and a coefficient just when it was read off the text as infinite. -/
theorem Problem.derive_finiteUnless (stated : ofClean clean = .ok p)
    (derived : p.derive options = .ok d) :
    (∀ value, d.resolution = .unique value →
        ∃ l, d = .linear l ∧ l.Checked ∧ FiniteUnless value l.Overflows) ∧
      ∀ r, d.resolution = .reduced r →
        isFinite r.constant = true ∧ p.sides.FiniteAsRead r.unknown r.coefficient ∧
          ∀ t ∈ r.free, p.sides.FiniteAsRead t.letter t.coefficient := by
  have letters := fun c => mem_letters_of_ofClean stated (c := c)
  unfold derive at derived
  split at derived
  · rename_i alone
    obtain ⟨probe, trees, ⟨-, rfl⟩ | ⟨slope, left, right, affine, hleft, hright, rfl⟩⟩ :=
      Derivation.ofSingle_ok derived
    · exact ⟨nofun, nofun⟩
    · have same (c : Char) (mem : c ∈ lettersOf p.sides.left ++ lettersOf p.sides.rightOrZero) :
          c = p.unknown := by
        simpa [List.isEmpty_iff.mp alone] using letters c mem
      have checked : LinearDerivation.Checked
          ⟨p.unknown, left, right, slope, probe.right.mentions p.unknown⟩ :=
        .of_affine trees same affine hleft hright
      exact ⟨fun value unique => ⟨_, rfl, checked, checked.value_finiteUnless unique⟩,
        fun r reduced => (Resolution.classify_ne_reduced _ _ _ r reduced).elim⟩
  · obtain ⟨probe, left, right, main, others, trees, linear, hleft, hright, hmain, hothers, rfl⟩ :=
      Derivation.ofSeveral_ok derived
    refine ⟨nofun, ?_⟩
    rintro _ ⟨⟩
    refine ⟨Probe.finite_balance trees letters linear List.mem_cons_self hleft hright,
      CoefficientReading.finiteAsRead linear List.mem_cons_self hmain, fun t mem => ?_⟩
    obtain ⟨r, mem', rfl⟩ := List.mem_map.mp mem
    obtain ⟨c, memC, read⟩ := exists_of_mem_mapM hothers mem'
    exact CoefficientReading.finiteAsRead linear (List.mem_cons_of_mem _ memC) read

/-- Which answers are finite. What is probed and leaves the finite range is reported as an error.
In an answer the constants and the slope of a linear equation and the constant of a reduction are
finite, the value is infinite just when the quotient that it is computed as overflows, and a
coefficient just when it was read off the text as infinite. -/
theorem solve_finiteUnless [Unicode.Form] (options : SolverOptions Float) (text : String) :
    (∀ solution, solve options text = .ok solution →
      ∃ p d, Problem.ofClean (normalize text.toList) = .ok p ∧ p.derive options = .ok d ∧
        (∀ value, solution.resolution = .unique value →
          ∃ l, d = .linear l ∧ l.Checked ∧ FiniteUnless value l.Overflows) ∧
        ∀ r, solution.resolution = .reduced r →
          isFinite r.constant = true ∧ p.sides.FiniteAsRead r.unknown r.coefficient ∧
            ∀ t ∈ r.free, p.sides.FiniteAsRead t.letter t.coefficient) ∧
    ∀ p probe, Problem.ofClean (normalize text.toList) = .ok p → Probe.ofSides p.sides = .ok probe →
      (p.others = [] → probe.Infinite p.unknown →
        solve options text = .error (.expression .notFinite none)) ∧
      (p.others ≠ [] → probe.LeavesRange (p.unknown :: p.others) →
        ∃ letter,
          solve options text = .error (.expression (.notLinear letter p.unknown) none)) := by
  constructor
  · intro solution solved
    obtain ⟨p, d, stated, derived, -, -, resolution⟩ := solve_ok solved
    rw [resolution]
    exact ⟨p, d, stated, derived, p.derive_finiteUnless stated derived⟩
  · intro p probe stated trees
    have covers := Problem.covers_of_ofClean stated trees
    refine ⟨fun alone infinite => ?_, fun more leaves => ?_⟩
    · obtain ⟨error, failed⟩ := (Derivation.ofSingle_error_iff trees
        (covers.alpha p.unknown List.mem_cons_self) options).mpr infinite
      rcases covers.single options alone with ⟨-, refused⟩ | ⟨-, d, derived⟩
      · exact solve_error_iff.mpr (.inr ⟨p, stated, by
          rw [Problem.derive, if_pos (List.isEmpty_iff.mpr alone), refused]⟩)
      · cases failed.symm.trans derived
    · obtain ⟨letter, found⟩ := leaves.exists_nonlinear
      rcases covers.several with ⟨letter', -, refused⟩ | ⟨linear, -⟩
      · exact ⟨letter', solve_error_iff.mpr (.inr ⟨p, stated, by
          rw [Problem.derive, if_neg (mt List.isEmpty_iff.mp more), refused]⟩)⟩
      · cases found.symm.trans linear

/-- `0.00…01x = 1`, with 308 zeros behind the point. -/
def tinyCoefficient : List Char := "0.".toList ++ List.replicate 308 '0' ++ "1x=1".toList

/-- `1/100…0x + y = 0`, with 309 zeros in the divisor. -/
def hugeDivisor : List Char := "1/1".toList ++ List.replicate 309 '0' ++ "x+y=0".toList

theorem exists_solution_of_clean [Unicode.Form] (options : SolverOptions Float) (cs : List Char)
    {r : Resolution Float}
    (resolved : (resolveClean options (normalize cs)).toOption.map (·.2.resolution) = some r) :
    ∃ solution, solve options (String.ofList cs) = .ok solution ∧ solution.resolution = r := by
  cases run : resolveClean options (normalize cs) with
  | error fault =>
      rw [run] at resolved
      cases resolved
  | ok out =>
      rw [run] at resolved
      obtain ⟨stated, derived⟩ := resolveClean_ok_iff.mp run
      rw [← String.toList_ofList (l := cs)] at stated
      obtain ⟨solution, solved, -, -, resolution⟩ := exists_solution stated derived
      exact ⟨solution, solved, resolution.trans (Option.some.inj resolved)⟩

/-- The quotient of `1` by `1e-309` overflows, and an infinite divisor is taken for a coefficient;
but for a divisor of zero the sides are finite nowhere. -/
theorem solve_finiteUnless_beyond :
    (∃ (solution : Solution Float) (d : LinearDerivation Float),
      solve default (String.ofList tinyCoefficient) = .ok solution ∧
        solution.resolution = .unique infinity ∧ d.Overflows) ∧
    (∃ (solution : Solution Float) (scanned : Float),
      solve default (String.ofList hugeDivisor) = .ok solution ∧
        solution.resolution = .reduced ⟨'x', infinity, zero, [⟨'y', one⟩]⟩ ∧
          Scalar.abs scanned = infinity) ∧
    solve (default : SolverOptions Float) "x/0=1" = .error (.expression .notFinite none) ∧
    ∃ letter, solve (default : SolverOptions Float) "x/0+y=1" =
      .error (.expression (.notLinear letter 'x') none) := by
  refine ⟨?_, ?_, ?_, ?_⟩
  · obtain ⟨solution, solved, resolution⟩ := exists_solution_of_clean default tinyCoefficient
      (r := .unique infinity) (by decide +kernel)
    obtain ⟨_, _, -, -, unique, -⟩ := (solve_finiteUnless _ _).1 solution solved
    obtain ⟨d, -, -, ⟨-, finite⟩ | ⟨overflows, -⟩⟩ := unique _ resolution
    · cases isFinite_infinity.symm.trans finite
    · exact ⟨solution, d, solved, resolution, overflows⟩
  · obtain ⟨solution, solved, resolution⟩ := exists_solution_of_clean default hugeDivisor
      (r := .reduced ⟨'x', infinity, zero, [⟨'y', one⟩]⟩) (by decide +kernel)
    obtain ⟨_, _, -, -, -, reduced⟩ := (solve_finiteUnless _ _).1 solution solved
    obtain ⟨-, ⟨scanned, -, ⟨-, finite⟩ | ⟨read, -⟩⟩, -⟩ := reduced _ resolution
    · cases isFinite_infinity.symm.trans finite
    · exact ⟨solution, scanned, solved, resolution, read⟩
  · have stated : Problem.ofClean (normalize "x/0=1".toList) =
        .ok ⟨⟨"x/0".toList, ['1'], 4⟩, 'x', []⟩ := by decide +kernel
    have trees : Probe.ofSides (α := Float) ⟨"x/0".toList, ['1'], 4⟩ =
        .ok ⟨.binary .slash (.letter 'x') (.number (ofDecimal 0 0)), .number (ofDecimal 1 0)⟩ := rfl
    exact ((solve_finiteUnless default "x/0=1").2 _ _ stated trees).1 rfl
      (show ∀ x ∈ Probe.points, _ = false by decide +kernel)
  · have stated : Problem.ofClean (normalize "x/0+y=1".toList) =
        .ok ⟨⟨"x/0+y".toList, ['1'], 6⟩, 'x', ['y']⟩ := by decide +kernel
    have trees : Probe.ofSides (α := Float) ⟨"x/0+y".toList, ['1'], 6⟩ =
        .ok ⟨.binary .plus (.binary .slash (.letter 'x') (.number (ofDecimal 0 0))) (.letter 'y'),
          .number (ofDecimal 1 0)⟩ := rfl
    exact ((solve_finiteUnless default "x/0+y=1").2 _ _ stated trees).2 nofun
      ⟨'x', List.mem_cons_self, zero, List.mem_cons_self, zero, List.mem_cons_self,
        by decide +kernel⟩

end Answers

end WorkedAlgebra
