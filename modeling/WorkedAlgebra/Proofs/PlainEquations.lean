import WorkedAlgebra.Decimal.Layout
import WorkedAlgebra.Proofs.PlainBounds
import WorkedAlgebra.Proofs.Rounding.Words

/-!
Equations with plain sides: when probing leaves the coefficients alone that were read off the text.
That it does not always do so is due to the tolerance for slopes, which takes no account of the size
of the sides.
-/

namespace WorkedAlgebra

open Scalar

section Reading

variable {α : Type} [Scalar α]

def Sides.scanned (sides : Sides) (letter : Char) : Except SolveError α := do
  let left ← LinearForm.scanCoefficient letter (Text.collapseSigns sides.left)
  let right ← LinearForm.scanCoefficient letter (Text.collapseSigns sides.rightOrZero)
  return left - right

def Reduction.coefficients (r : Reduction α) : List α :=
  r.coefficient :: r.free.map (·.coefficient)

/-- A linear equation is resolved as read just when the slope agrees or makes no difference. -/
theorem LinearDerivation.resolution_eq_iff (d : LinearDerivation α) :
    d.resolution = .classify d.scanned d.left.constant d.right.constant ↔
      d.agrees = true ∨ Resolution.classify d.slope d.left.constant d.right.constant =
        .classify d.scanned d.left.constant d.right.constant := by
  unfold resolution coefficient
  cases d.agrees with
  | true => simp
  | false => simp

end Reading

def PlainSide.zero : PlainSide := ⟨none, .number ⟨['0'], ⟨0, 0⟩, rfl, rfl⟩, []⟩

/-- Both sides are plain, or the right one is empty, which reads as zero. -/
structure Sides.Plain (sides : Sides) (left right : PlainSide) : Prop where
  left_text : sides.left = left.text
  right_text : sides.right = right.text ∨ sides.right = [] ∧ right = .zero

theorem mapM_ok {β γ : Type} {f : β → Except SolveError γ} {g : β → γ} {items : List β}
    (ok : ∀ b ∈ items, f b = .ok (g b)) : items.mapM f = .ok (items.map g) := by
  induction items with
  | nil => rfl
  | cons b items ih =>
      rw [List.mapM_cons, ok b List.mem_cons_self, ih fun c hc => ok c (List.mem_cons_of_mem b hc)]
      rfl

namespace Sides.Plain

variable {sides : Sides} {left right : PlainSide} (plain : sides.Plain left right)

include plain

theorem rightOrZero : sides.rightOrZero = right.text := by
  obtain same | ⟨empty, rfl⟩ := plain.right_text
  · rw [Sides.rightOrZero, same, List.isEmpty_eq_false_iff.mpr right.text_ne_nil,
      if_neg Bool.false_ne_true]
  · rw [Sides.rightOrZero, empty]
    rfl

theorem probe : Probe.ofSides sides = .ok (⟨left.tree, right.tree⟩ : Probe Float) :=
  Probe.ofSides_ok_iff.mpr ⟨by rw [plain.left_text, PlainSide.ofSide_text],
    by rw [plain.rightOrZero, PlainSide.ofSide_text]⟩

theorem scanned_eq {letter : Char} (alpha : letter.isAlpha = true) :
    sides.scanned letter = .ok (left.coefficient letter - right.coefficient letter : Float) := by
  rw [Sides.scanned, plain.left_text, plain.rightOrZero, PlainSide.collapseSigns_text,
    PlainSide.collapseSigns_text, scanCoefficient_text alpha, scanCoefficient_text alpha]
  rfl

end Sides.Plain

section Values

variable {left right : PlainSide} {letter : Char}

theorem alone_zero (letter : Char) : alone letter zero = fun _ => zero := by
  funext c
  exact ite_self _

/-- Probing plain sides along one letter, when the others are bound to zero. -/
theorem along_plain {base : Bindings Float} (x : Float)
    (others : ∀ c ∈ lettersOf left.text ++ lettersOf right.text, c = letter ∨ base c = some zero) :
    (⟨left.tree, right.tree⟩ : Probe Float).along base letter x =
      Moderate.differenceOn left right letter x := by
  have bound (c : Char) (hc : c ∈ lettersOf left.text ++ lettersOf right.text) :
      base.set letter x c = some (alone letter x c) := by
    by_cases same : c = letter
    · simp [Bindings.set, alone, same]
    · simpa [Bindings.set, alone, same] using others c hc
  have valueLeft := left.evaluate_tree fun c hc => bound c (List.mem_append_left _ hc)
  have valueRight := right.evaluate_tree fun c hc => bound c (List.mem_append_right _ hc)
  simp only [Probe.along, Probe.difference, valueLeft, valueRight]
  rfl

theorem along_empty_plain (only : ∀ c ∈ lettersOf left.text ++ lettersOf right.text, c = letter) :
    (⟨left.tree, right.tree⟩ : Probe Float).along Bindings.empty letter =
      Moderate.differenceOn left right letter := by
  funext x
  exact along_plain x fun c hc => .inl (only c hc)

theorem decompose_plain (alpha : letter.isAlpha = true) (offset : Nat) {side : PlainSide}
    (finite : isFinite (side.value fun _ => (zero : Float)) = true) :
    LinearForm.decompose letter offset side.text =
      .ok ⟨side.coefficient letter, side.value fun _ => (zero : Float)⟩ := by
  refine LinearForm.decompose_ok_iff.mpr ⟨?_, side.tree, side.ofSide_text offset, ?_, finite⟩
  · rw [side.collapseSigns_text]
    exact scanCoefficient_text alpha side
  · rw [side.collapseSigns_text]
    refine side.evaluate_tree fun c hc => ?_
    simp [Bindings.all, hc]

theorem finite_constants
    (finite : isFinite (Moderate.differenceOn left right letter zero) = true) :
    isFinite (left.value fun _ => (zero : Float)) = true ∧
      isFinite (right.value fun _ => (zero : Float)) = true := by
  rw [Moderate.differenceOn, alone_zero] at finite
  exact finite_of_sub finite

end Values

section OneLetter

variable {sides : Sides} {left right : PlainSide} {x : Char} {options : SolverOptions Float}
  {trace : Trace}

theorem resolveSingle_fst {d : Derivation Float}
    (derived : Derivation.ofSingle sides x options = .ok d) :
    (resolveSingle sides x options trace).1 = .ok d.resolution :=
  congrArg Prod.fst ((resolveSingle_derives sides x options).adds derived trace)

/-- Resolving plain sides with one letter ends with the numbers that were read off them just when
the slope that is probed agrees or makes no difference. -/
theorem resolveSingle_plain (plain : sides.Plain left right) (options : SolverOptions Float)
    (trace : Trace)
    (letters : ∀ c ∈ lettersOf left.text ++ lettersOf right.text, c = x)
    (alpha : x.isAlpha = true)
    (finite : ∀ p ∈ Probe.points, isFinite (Moderate.differenceOn left right x p) = true) :
    (resolveSingle sides x options trace).1 =
        .ok (.classify (left.coefficient x - right.coefficient x)
          (left.value fun _ => zero) (right.value fun _ => zero)) ↔
      ∃ slope, Probe.affineSlope (Moderate.differenceOn left right x) = some slope ∧
        (Probe.agrees (left.coefficient x - right.coefficient x) slope = true ∨
          Resolution.classify slope (left.value fun _ => zero) (right.value fun _ => zero) =
            .classify (left.coefficient x - right.coefficient x)
              (left.value fun _ => zero) (right.value fun _ => zero)) := by
  have function := along_empty_plain letters
  have zeroFinite := finite zero (by simp [Probe.points])
  obtain ⟨finiteLeft, finiteRight⟩ := finite_constants zeroFinite
  cases affine : Probe.affineSlope (Moderate.differenceOn left right x) with
  | none =>
      have some_ : (Probe.points.any fun p =>
          isFinite (Moderate.differenceOn left right x p)) = true :=
        List.any_eq_true.mpr ⟨zero, by simp [Probe.points], zeroFinite⟩
      have derived : Derivation.ofSingle sides x options =
          .ok (.searched (.ofProbe ⟨left.tree, right.tree⟩ x options)) := by
        simp only [Derivation.ofSingle, plain.probe, bind, Except.bind, function, affine, some_,
          if_true]
        rfl
      rw [resolveSingle_fst derived]
      constructor
      · intro same
        exact (Resolution.classify_ne_approximate _ _ _ _ (Except.ok.inj same)).elim
      · rintro ⟨slope, found, -⟩
        cases found
  | some slope =>
      have derived : Derivation.ofSingle sides x options =
          .ok (.linear ⟨x, ⟨left.coefficient x, left.value fun _ => zero⟩,
            ⟨right.coefficient x, right.value fun _ => zero⟩, slope,
            right.tree.mentions (α := Float) x⟩) := by
        simp only [Derivation.ofSingle, plain.probe, bind, Except.bind, function, affine,
          plain.left_text, plain.rightOrZero, decompose_plain alpha _ finiteLeft,
          decompose_plain alpha _ finiteRight]
        rfl
      rw [resolveSingle_fst derived, Except.ok.injEq]
      refine (LinearDerivation.resolution_eq_iff _).trans ⟨fun h => ⟨slope, rfl, h⟩, ?_⟩
      rintro ⟨slope', same, h⟩
      obtain rfl := Option.some.inj same
      exact h

/-- With `ax+b` on the left and `c` on the right the numbers that were read off are `a`, `b` and
`c` themselves. -/
theorem classify_line (a b c : Written) (y : Letter)
    (finite : isFinite ((⟨none, .product a y, [(.plus, .number b)]⟩ : PlainSide).value
      fun _ => (zero : Float)) = true)
    (nonzero : isZero (a.scalar : Float) = false) :
    Resolution.classify
        ((⟨none, .product a y, [(.plus, .number b)]⟩ : PlainSide).coefficient y.name -
          (⟨none, .number c, []⟩ : PlainSide).coefficient y.name)
        ((⟨none, .product a y, [(.plus, .number b)]⟩ : PlainSide).value fun _ => zero)
        ((⟨none, .number c, []⟩ : PlainSide).value fun _ => zero) =
      .unique ((c.scalar - b.scalar : Float) / a.scalar) := by
  have lower : LinearForm.isLetter y.name y.written = true := by
    rw [LinearForm.isLetter, Letter.name, Char.toLower_toLower_eq_toLower]
    exact BEq.rfl
  have coefficient : (⟨none, .product a y, [(.plus, .number b)]⟩ : PlainSide).coefficient y.name =
      (zero + a.scalar : Float) := by
    simp [PlainSide.coefficient, PlainTerm.addTo, PlainTerm.coefficient?, lower, signed]
  have zeroParts : (zero : Float).toModel.unpack = .zero .positive := rfl
  obtain ⟨product, finiteB⟩ := finite_of_add (x := a.scalar * zero) (y := b.scalar) finite
  have finiteA := (finite_of_mul product).1
  have unsigned (n : Written) : Rounding.Unsigned (n.scalar : Float).toModel.unpack :=
    unsigned_ofDecimal _ _
  have sum : (zero + a.scalar : Float) = a.scalar := zero_add_word finiteA (unsigned a) zeroParts
  have difference : (a.scalar - zero : Float) = a.scalar := sub_zero_word finiteA zeroParts
  have constant : (a.scalar * zero + b.scalar : Float) = b.scalar :=
    zero_add_word finiteB (unsigned b) (mul_zero_parts finiteA (unsigned a) zeroParts)
  change Resolution.classify (_ - zero) (a.scalar * zero + b.scalar) c.scalar = _
  rw [coefficient, sum, difference, constant, Resolution.classify, if_neg (by simp [nonzero])]

end OneLetter

section SeveralLetters

variable {sides : Sides} {left right : PlainSide} {main : Char} {others : List Char}
  {options : SolverOptions Float} {trace : Trace}

theorem CoefficientReading.coefficient_eq_iff {α : Type} [Scalar α] (r : CoefficientReading α) :
    r.coefficient = r.scanned ↔
      isFinite r.probed = false ∨ Probe.agrees r.scanned r.probed = true ∨ r.probed = r.scanned := by
  unfold coefficient isOverruled
  cases isFinite r.probed with
  | false => simp
  | true =>
      cases Probe.agrees r.scanned r.probed with
      | false => simp
      | true => simp

def Probe.probed (probe : Probe Float) (letters : List Char) (letter : Char) : Float :=
  probe.along (Bindings.all letters zero) letter one - probe.difference (Bindings.all letters zero)

def plainReading (left right : PlainSide) (letter : Char) : CoefficientReading Float :=
  ⟨letter, left.coefficient letter - right.coefficient letter,
    Moderate.differenceOn left right letter one - Moderate.differenceOn left right letter zero⟩

theorem probed_plain {letters : List Char} (letter : Char)
    (all : ∀ c ∈ lettersOf left.text ++ lettersOf right.text, c ∈ letters) :
    Probe.probed ⟨left.tree, right.tree⟩ letters letter =
      (plainReading left right letter).probed := by
  have base (c : Char) (hc : c ∈ lettersOf left.text ++ lettersOf right.text) :
      c = letter ∨ Bindings.all letters (zero : Float) c = some zero := by
    right
    simp [Bindings.all, all c hc]
  have zeros : (⟨left.tree, right.tree⟩ : Probe Float).difference (Bindings.all letters zero) =
      Moderate.differenceOn left right letter zero := by
    have valueLeft : left.tree.evaluate (Bindings.all letters (zero : Float)) =
        .ok (left.value fun _ => zero) := left.evaluate_tree fun c hc => by
      simp [Bindings.all, all c (List.mem_append_left _ hc)]
    have valueRight : right.tree.evaluate (Bindings.all letters (zero : Float)) =
        .ok (right.value fun _ => zero) := right.evaluate_tree fun c hc => by
      simp [Bindings.all, all c (List.mem_append_right _ hc)]
    simp only [Probe.difference, valueLeft, valueRight, Moderate.differenceOn, alone_zero]
  rw [Probe.probed, along_plain one base, zeros]
  rfl

theorem reading_plain (plain : sides.Plain left right) {letters : List Char} {letter : Char}
    (all : ∀ c ∈ lettersOf left.text ++ lettersOf right.text, c ∈ letters)
    (alpha : letter.isAlpha = true) :
    CoefficientReading.ofSides sides ⟨left.tree, right.tree⟩ letters letter =
      .ok (plainReading left right letter) := by
  refine CoefficientReading.ofSides_ok_iff.mpr ⟨left.coefficient letter, right.coefficient letter,
    ?_, ?_, ?_⟩
  · rw [plain.left_text, left.collapseSigns_text, scanCoefficient_text alpha]
  · rw [plain.rightOrZero, right.collapseSigns_text, scanCoefficient_text alpha]
  · exact congrArg (CoefficientReading.mk letter _) (probed_plain letter all).symm

theorem resolveSeveral_plain (plain : sides.Plain left right)
    (all : ∀ c ∈ lettersOf left.text ++ lettersOf right.text, c ∈ main :: others)
    (alpha : ∀ c ∈ main :: others, c.isAlpha = true) {resolution : Resolution Float}
    (resolved : (resolveSeveral sides main others options trace).1 = .ok resolution) :
    ∃ reduction, resolution = .reduced reduction ∧ reduction.coefficients =
      (main :: others).map fun letter => (plainReading left right letter).coefficient := by
  have follows := resolveSeveral_derives sides main others options
  cases derived : Derivation.ofSeveral (α := Float) sides main others with
  | error fault =>
      cases resolved.symm.trans (congrArg Prod.fst (follows.fails derived trace))
  | ok d =>
      obtain rfl := Except.ok.inj
        (resolved.symm.trans (congrArg Prod.fst (follows.adds derived trace)))
      obtain ⟨probe, a, b, mainReading, readings, trees, -, -, -, hmain, hothers, rfl⟩ :=
        Derivation.ofSeveral_ok derived
      obtain rfl := Except.ok.inj (trees.symm.trans plain.probe)
      obtain rfl := Except.ok.inj
        (hmain.symm.trans (reading_plain plain all (alpha main List.mem_cons_self)))
      have others_ := mapM_ok fun c hc =>
        reading_plain plain all (alpha c (List.mem_cons_of_mem main hc))
      obtain rfl := Except.ok.inj (hothers.symm.trans others_)
      refine ⟨_, rfl, ?_⟩
      simp [ReductionDerivation.reduction, Reduction.coefficients, Function.comp_def]

end SeveralLetters

section Promise

def asRead (a b : LinearForm Float) : Resolution Float :=
  .classify (a.coefficient - b.coefficient) a.constant b.constant

/-- The difference of the sides is affine at the probe points, and its slope agrees with the
coefficient that was read off or leads to the same result. -/
def Probe.Confirms (probe : Probe Float) (x : Char) (a b : LinearForm Float) : Prop :=
  ∃ slope, affineSlope (probe.along Bindings.empty x) = some slope ∧
    (agrees (a.coefficient - b.coefficient) slope = true ∨
      Resolution.classify slope a.constant b.constant = asRead a b)

/-- What is probed does not replace a coefficient that was read off by another one. -/
def Probe.Spares (probe : Probe Float) (letters : List Char) (letter : Char) (scanned : Float) :
    Prop :=
  isFinite (probe.probed letters letter) = false ∨
    agrees scanned (probe.probed letters letter) = true ∨ probe.probed letters letter = scanned

theorem mem_letters_of_detected {sides : Sides} {left right : PlainSide}
    (plain : sides.Plain left right) {letters : List Char}
    (detected : detectLetters (sides.left ++ sides.rightOrZero) = letters) :
    (∀ c ∈ lettersOf left.text ++ lettersOf right.text, c ∈ letters) ∧
      (∀ c ∈ letters, c.isAlpha = true) ∧ ∀ c ∈ letters, c.toLower = c := by
  rw [plain.left_text, plain.rightOrZero] at detected
  refine ⟨fun c hc => ?_, fun c hc => ?_, fun c hc => ?_⟩
  · rw [← detected]
    rw [← lettersOf_append] at hc
    exact mem_distinct.mpr hc
  · rw [← detected] at hc
    exact isAlpha_of_mem_detectLetters hc
  · rw [← detected] at hc
    obtain ⟨d, -, -, rfl⟩ := mem_lettersOf.mp (mem_distinct.mp hc)
    exact Char.toLower_toLower_eq_toLower d

/-- Equations with plain sides can be read and probed. With one letter the coefficients that were
read off decide the result just when probing confirms them; `ax+b=c` is then solved by
`(c - b) / a`. With several letters each of them is reported just when probing spares it. Both hold
for moderately many terms of moderate size. -/
theorem plain_equation_resolved {sides : Sides} {left right : PlainSide}
    (plain : sides.Plain left right) :
    ∃ probe : Probe Float, Probe.ofSides sides = .ok probe ∧
      (∀ x options trace, detectLetters (sides.left ++ sides.rightOrZero) = [x] →
        (∀ p ∈ Probe.points, isFinite (probe.along Bindings.empty x p) = true) →
        ∃ a b, LinearForm.decompose x 0 sides.left = .ok a ∧
          LinearForm.decompose x sides.rightOffset sides.rightOrZero = .ok b ∧
          ((resolveSingle sides x options trace).1 = .ok (asRead a b) ↔ probe.Confirms x a b) ∧
          (Moderate left right → (resolveSingle sides x options trace).1 = .ok (asRead a b)) ∧
          ∀ u v w y, left = ⟨none, .product u y, [(.plus, .number v)]⟩ →
            right = ⟨none, .number w, []⟩ → isZero (u.scalar : Float) = false →
            asRead a b = .unique ((w.scalar - v.scalar) / u.scalar)) ∧
      ∀ main others options trace resolution,
        detectLetters (sides.left ++ sides.rightOrZero) = main :: others →
        (resolveSeveral sides main others options trace).1 = .ok resolution →
        ∃ reduction, ∃ scanned : List Float, resolution = .reduced reduction ∧
          (main :: others).mapM sides.scanned = .ok scanned ∧
          (reduction.coefficients = scanned ↔ ∀ letter ∈ main :: others,
            ∃ s, sides.scanned letter = .ok s ∧ probe.Spares (main :: others) letter s) ∧
          (Moderate left right → reduction.coefficients = scanned) := by
  refine ⟨_, plain.probe, ?_, ?_⟩
  · intro x options trace detected finite
    obtain ⟨all, alpha, lower⟩ := mem_letters_of_detected plain detected
    have letters (c : Char) (hc : c ∈ lettersOf left.text ++ lettersOf right.text) : c = x :=
      List.mem_singleton.mp (all c hc)
    have function := along_empty_plain letters
    rw [function] at finite
    obtain ⟨finiteLeft, finiteRight⟩ := finite_constants (finite zero (by simp [Probe.points]))
    have resolved := resolveSingle_plain plain options trace letters
      (alpha x List.mem_cons_self) finite
    refine ⟨_, _, plain.left_text ▸ decompose_plain (alpha x List.mem_cons_self) 0 finiteLeft,
      plain.rightOrZero ▸ decompose_plain (alpha x List.mem_cons_self) _ finiteRight, ?_, ?_, ?_⟩
    · rw [Probe.Confirms, function]
      exact resolved
    · intro moderate
      exact resolved.mpr ⟨_, moderate.affineSlope x,
        .inl (moderate.agrees (lower x List.mem_cons_self))⟩
    · rintro u v w y rfl rfl nonzero
      obtain rfl : y.name = x :=
        letters _ (List.mem_append_left _ (by
          rw [PlainSide.text, lettersOf_append, lettersOf_append]
          simp [PlainTerm.text, PlainTerm.mem_lettersOf_letter]))
      exact classify_line u v w y finiteLeft nonzero
  · intro main others options trace resolution detected resolved
    obtain ⟨all, alpha, lower⟩ := mem_letters_of_detected plain detected
    obtain ⟨reduction, rfl, coefficients⟩ := resolveSeveral_plain plain all alpha resolved
    have scanned := mapM_ok fun c hc => plain.scanned_eq (alpha c hc)
    have probed (c : Char) : Probe.probed ⟨left.tree, right.tree⟩ (main :: others) c =
        (plainReading left right c).probed := probed_plain c all
    refine ⟨reduction, _, rfl, scanned, ?_, fun moderate => ?_⟩
    · rw [coefficients, List.map_inj_left]
      refine forall₂_congr fun c hc => ?_
      rw [plain.scanned_eq (alpha c hc)]
      simp only [Except.ok.injEq, exists_eq_left', Probe.Spares, probed]
      exact CoefficientReading.coefficient_eq_iff (plainReading left right c)
    · rw [coefficients, List.map_inj_left]
      intro c hc
      exact (plainReading left right c).coefficient_eq_iff.mpr
        (.inr (.inl (moderate.agrees (lower c hc))))

-- The slope is probed as zero, so a solution is lost.
example : (resolveSingle (α := Float) ⟨"x+100000000000000000".toList, [], 21⟩ 'x' default {}).1 =
    .ok .noSolution := by
  decide +kernel

def Written.digit (c : Char) (n : Nat) (mark : [c].all Numeral.isMark = true)
    (reads : Numeral.ofMarks? [c] = some ⟨n, 0⟩) : Written := ⟨[c], ⟨n, 0⟩, mark, reads⟩

/-- `2x+3=7` has the solution `(7 - 3) / 2`, and the coefficients of `x+2y=3` are those read off. -/
theorem plain_equation_resolved_line :
    (resolveSingle ⟨"2x+3".toList, ['7'], 5⟩ 'x' default {}).1 =
        .ok (.unique ((ofDecimal 7 0 - ofDecimal 3 0) / (ofDecimal 2 0 : Float))) ∧
      ∃ reduction, ∃ scanned : List Float,
        (resolveSeveral ⟨"x+2y".toList, ['3'], 5⟩ 'x' ['y'] default {}).1 =
            .ok (.reduced reduction) ∧
          ['x', 'y'].mapM (Sides.scanned ⟨"x+2y".toList, ['3'], 5⟩) = .ok scanned ∧
            reduction.coefficients = scanned := by
  constructor
  · have plain : Sides.Plain ⟨"2x+3".toList, ['7'], 5⟩
        ⟨none, .product (.digit '2' 2 rfl rfl) ⟨'x', rfl⟩, [(.plus, .number (.digit '3' 3 rfl rfl))]⟩
        ⟨none, .number (.digit '7' 7 rfl rfl), []⟩ := ⟨rfl, .inl rfl⟩
    have trees : Probe.ofSides (α := Float) ⟨"2x+3".toList, ['7'], 5⟩ =
        .ok ⟨.binary .plus (.binary .star (.number (ofDecimal 2 0)) (.letter 'x'))
          (.number (ofDecimal 3 0)), .number (ofDecimal 7 0)⟩ := rfl
    obtain ⟨probe, trees', single, -⟩ := plain_equation_resolved plain
    obtain rfl := Except.ok.inj (trees'.symm.trans trees)
    obtain ⟨a, b, -, -, -, kept, line⟩ := single 'x' default {} (by decide) (by decide +kernel)
    rw [kept (by decide +kernel), line _ _ _ _ rfl rfl (by decide +kernel)]
    rfl
  · have plain : Sides.Plain ⟨"x+2y".toList, ['3'], 5⟩
        ⟨none, .letter ⟨'x', rfl⟩, [(.plus, .product (.digit '2' 2 rfl rfl) ⟨'y', rfl⟩)]⟩
        ⟨none, .number (.digit '3' 3 rfl rfl), []⟩ := ⟨rfl, .inl rfl⟩
    obtain ⟨probe, -, -, several⟩ := plain_equation_resolved plain
    obtain ⟨resolution, resolved, -⟩ := exists_ok (x := (resolveSeveral (α := Float)
      ⟨"x+2y".toList, ['3'], 5⟩ 'x' ['y'] default {}).1) (p := fun _ => true) (by decide +kernel)
    obtain ⟨reduction, scanned, rfl, read, -, kept⟩ :=
      several 'x' ['y'] default {} resolution (by decide) resolved
    exact ⟨reduction, scanned, resolved, read, kept (by decide +kernel)⟩

end Promise

end WorkedAlgebra
