import WorkedAlgebra.Proofs.NumberTexts
import WorkedAlgebra.Proofs.PlainEquations
import WorkedAlgebra.Proofs.Rounding.Opposed

/-!
Sides whose terms are joined by runs of signs. Collapsing the runs leaves a plain side, and the
linear form of such a side is read term by term: two sums in the order of the text, of which the
letters that are set to zero change at most the sign of a zero.
-/

namespace WorkedAlgebra

open Rounding Scalar Text Float.Model

section Runs

/-- The sign with the effect of a run: minus when it holds an odd number of minus signs. -/
def TermSign.ofRun (run : List TermSign) : TermSign :=
  if run.count .minus % 2 = 1 then .minus else .plus

theorem TermSign.ofRun_cons (s : TermSign) (run : List TermSign) :
    ofRun (s :: run) = if s = ofRun run then .plus else .minus := by
  unfold ofRun
  cases s with
  | plus =>
      rw [List.count_cons_of_ne (by decide)]
      split <;> rfl
  | minus =>
      rw [List.count_cons_self]
      by_cases odd : run.count .minus % 2 = 1
      · rw [if_pos odd, if_neg (by omega), if_pos rfl]
      · rw [if_neg odd, if_pos (by omega), if_neg (by decide)]

theorem signProduct_char (s t : TermSign) :
    signProduct s.char t.char = (if s = t then TermSign.plus else .minus).char := by
  cases s <;> cases t <;> rfl

theorem collapseSigns_append {cs : List Char} (other : ∀ c ∈ cs, isSign c = false)
    (rest : List Char) : collapseSigns (cs ++ rest) = cs ++ collapseSigns rest := by
  induction cs with
  | nil => rfl
  | cons c cs ih =>
      obtain ⟨first, later⟩ := List.forall_mem_cons.mp other
      rw [List.cons_append, collapseSigns, first, if_neg Bool.false_ne_true, ih later]
      rfl

/-- A run of signs collapses to its sign. -/
theorem collapseSigns_run {run : List TermSign} (some : run ≠ []) {cs : List Char}
    (other : ∀ d ∈ cs.head?, isSign d = false) :
    collapseSigns (run.map TermSign.char ++ cs) =
      (TermSign.ofRun run).char :: collapseSigns cs := by
  induction run with
  | nil => exact (some rfl).elim
  | cons s run ih =>
      rw [List.map_cons, List.cons_append, collapseSigns, s.isSign_char, if_pos rfl]
      cases run with
      | nil =>
          have alone : TermSign.ofRun [s] = s := by cases s <;> rfl
          rw [alone, List.map_nil, List.nil_append]
          cases cs with
          | nil => rfl
          | cons d ds =>
              have first : isSign d = false := other d rfl
              rw [collapseSigns, first, if_neg Bool.false_ne_true, prependSign, first,
                if_neg Bool.false_ne_true]
      | cons t run =>
          rw [ih (List.cons_ne_nil t run), prependSign, TermSign.isSign_char, if_pos rfl,
            TermSign.ofRun_cons s (t :: run), signProduct_char]

end Runs

structure SignRun where
  signs : List TermSign
  some : signs ≠ []

/-- A chain of terms with a run of signs between any two of them; signs may also lead. -/
structure SignedChain where
  lead : List TermSign
  first : PlainTerm
  rest : List (SignRun × PlainTerm)

def PlainSide.terms (side : PlainSide) : List (TermSign × PlainTerm) :=
  (side.lead.getD .plus, side.first) :: side.rest

namespace SignedChain

def restText (rest : List (SignRun × PlainTerm)) : List Char :=
  rest.flatMap fun rt => rt.1.signs.map TermSign.char ++ rt.2.text

def text (chain : SignedChain) : List Char :=
  chain.lead.map TermSign.char ++ (chain.first.text ++ restText chain.rest)

def restTerms (rest : List (SignRun × PlainTerm)) : List (TermSign × PlainTerm) :=
  rest.map fun rt => (.ofRun rt.1.signs, rt.2)

def terms (chain : SignedChain) : List (TermSign × PlainTerm) :=
  (.ofRun chain.lead, chain.first) :: restTerms chain.rest

def plain (chain : SignedChain) : PlainSide where
  lead := if chain.lead = [] then none else some (.ofRun chain.lead)
  first := chain.first
  rest := restTerms chain.rest

theorem terms_plain (chain : SignedChain) : chain.plain.terms = chain.terms := by
  rw [PlainSide.terms, plain, terms]
  split
  · rename_i empty
    rw [empty]
    rfl
  · rfl

theorem head_term (t : PlainTerm) (cs : List Char) :
    ∀ d ∈ (t.text ++ cs).head?, isSign d = false := by
  intro d first
  cases text : t.text with
  | nil => exact (t.text_ne_nil text).elim
  | cons c rest =>
      rw [text] at first
      obtain rfl : c = d := Option.some.inj first
      exact t.isSign_of_mem_text (text ▸ List.mem_cons_self)

theorem collapseSigns_restText (rest : List (SignRun × PlainTerm)) :
    collapseSigns (restText rest) = PlainSide.restText (restTerms rest) := by
  induction rest with
  | nil => rfl
  | cons rt rest ih =>
      have parts : restText (rt :: rest) =
          rt.1.signs.map TermSign.char ++ (rt.2.text ++ restText rest) := List.append_assoc _ _ _
      rw [parts, collapseSigns_run rt.1.some (head_term _ _),
        collapseSigns_append (fun _ mem => rt.2.isSign_of_mem_text mem), ih]
      rfl

/-- Collapsing the signs of a chain leaves the plain side of its terms. -/
theorem collapseSigns_text (chain : SignedChain) :
    collapseSigns chain.text = chain.plain.text := by
  have terms : collapseSigns (chain.first.text ++ restText chain.rest) =
      chain.first.text ++ PlainSide.restText (restTerms chain.rest) := by
    rw [collapseSigns_append fun _ mem => chain.first.isSign_of_mem_text mem,
      collapseSigns_restText]
  rw [text, PlainSide.text, plain]
  by_cases empty : chain.lead = []
  · rw [if_pos empty, empty]
    exact terms
  · rw [if_neg empty, collapseSigns_run empty (head_term _ _), terms]
    rfl

end SignedChain

section Alike

variable {x y z : Float}

/-- The same number, up to the sign of a zero. -/
def Alike (x y : Float) : Prop := x = y ∨ IsZeroWord x ∧ IsZeroWord y

theorem Alike.symm (h : Alike x y) : Alike y x := h.imp Eq.symm And.symm

theorem Alike.trans (h : Alike x y) (h' : Alike y z) : Alike x z := by
  rcases h with rfl | ⟨zeroX, zeroY⟩
  · exact h'
  · rcases h' with rfl | ⟨-, zeroZ⟩
    · exact .inr ⟨zeroX, zeroY⟩
    · exact .inr ⟨zeroX, zeroZ⟩

theorem Alike.isFinite_eq (h : Alike x y) : isFinite x = isFinite y := by
  rcases h with rfl | ⟨zeroX, zeroY⟩
  · rfl
  · rw [zeroX.denotes.finite, zeroY.denotes.finite]

theorem Alike.eq (h : Alike x y) (finite : isFinite x = true) : Scalar.eq x y = true := by
  rcases h with rfl | ⟨zeroX, zeroY⟩
  · exact eq_self finite
  · exact (zeroX.denotes.eq_eq zeroY.denotes).trans (decide_eq_true rfl)

/-- Only a zero is changed by adding it to a zero. -/
theorem IsZeroWord.add_alike (h : IsZeroWord z) (x : Float) : Alike (z + x) x := by
  obtain ⟨s, zero⟩ := h
  cases parts : x.toModel.unpack with
  | zero t =>
      have sum : ∃ r, UnpackedFloat.add Format.binary64 z.toModel.unpack x.toModel.unpack =
          .zero r := by
        rw [zero, parts]
        cases s <;> cases t <;> exact ⟨_, rfl⟩
      obtain ⟨r, sum⟩ := sum
      have word : (z + x).toModel = Float.Model.pack (.zero r) := congrArg Float.Model.pack sum
      exact .inr ⟨⟨r, by rw [word]; exact unpack_pack (u := .zero r) trivial⟩, ⟨t, parts⟩⟩
  | infinity t | notANumber | finite t m e positive =>
      exact .inl (eq_of_parts (by rw [zero, parts]; rfl))

theorem add_comm_word (x y : Float) : x + y = y + x :=
  congrArg (fun u => Float.ofModel (Float.Model.pack u)) (add_comm_parts _ _)

theorem alike_add_zero (x : Float) (h : IsZeroWord z) : Alike (x + z) x := by
  rw [add_comm_word]
  exact h.add_alike x

theorem Alike.add_right (h : Alike x y) (z : Float) : Alike (x + z) (y + z) := by
  rcases h with rfl | ⟨zeroX, zeroY⟩
  · exact .inl rfl
  · exact (zeroX.add_alike z).trans (zeroY.add_alike z).symm

theorem isFinite_signed (lead : Option TermSign) (x : Float) :
    isFinite (signed lead x) = isFinite x := by
  match lead with
  | none | some .plus => rfl
  | some .minus => exact (opposed_neg x).isFinite_eq

end Alike

section Sums

/-- The sum of numbers in order, from zero. -/
def sumOf (xs : List Float) : Float := xs.foldl (· + ·) zero

/-- All partial sums are finite when the last one is. -/
theorem finite_sumOf_iff {xs : List Float} :
    (∀ k, isFinite (sumOf (xs.take k)) = true) ↔ isFinite (sumOf xs) = true := by
  constructor
  · intro finite
    have whole := finite xs.length
    rwa [List.take_length] at whole
  · intro finite k
    rw [← List.take_append_drop k xs, sumOf, List.foldl_append] at finite
    change isFinite (List.foldl _ (sumOf (xs.take k)) _) = true at finite
    revert finite
    generalize sumOf (xs.take k) = sum, xs.drop k = later
    induction later generalizing sum with
    | nil => exact id
    | cons x later ih => exact fun finite => (finite_of_add (ih _ finite)).1

namespace PlainTerm

def number? : PlainTerm → Option Float
  | .number n => some n.scalar
  | .letter _ | .product _ _ => none

def literal? : PlainTerm → Option Float
  | .number n | .product n _ => some n.scalar
  | .letter _ => none

/-- With its letter zero a term is the number that it is, or a zero. -/
theorem value_cases {t : PlainTerm} (finite : ∀ x ∈ t.literal?, isFinite x = true)
    (lead : Option TermSign) :
    (∃ x, t.number? = some x ∧ t.value (fun _ => zero) lead = signed lead x) ∨
      t.number? = none ∧ IsZeroWord (t.value (fun _ => zero) lead) := by
  cases t with
  | number n => exact .inl ⟨_, rfl, rfl⟩
  | letter l => exact .inr ⟨rfl, isZeroWord_zero.signed lead⟩
  | product n l =>
      refine .inr ⟨rfl, isZeroWord_mul ?_ isZeroWord_zero⟩
      rw [isFinite_signed]
      exact finite _ rfl

theorem finite_literal {t : PlainTerm} {lead : Option TermSign}
    (finite : isFinite (t.value (fun _ => (zero : Float)) lead) = true) :
    ∀ x ∈ t.literal?, isFinite x = true := by
  intro x literal
  cases t with
  | letter l => cases literal
  | number n =>
      obtain rfl := Option.some.inj literal
      exact (isFinite_signed lead _).symm.trans finite
  | product n l =>
      obtain rfl := Option.some.inj literal
      exact (isFinite_signed lead _).symm.trans (finite_of_mul finite).1

end PlainTerm

/-- A part of each of some terms, behind the sign of the term; not all terms have it. -/
def signedParts (part : PlainTerm → Option Float) (terms : List (TermSign × PlainTerm)) :
    List Float :=
  terms.filterMap fun st => (part st.2).map (signed (some st.1))

theorem signedParts_cons (part : PlainTerm → Option Float) (s : TermSign) (t : PlainTerm)
    (rest : List (TermSign × PlainTerm)) :
    signedParts part ((s, t) :: rest) =
      ((part t).map (signed (some s))).toList ++ signedParts part rest := by
  rw [signedParts, List.filterMap_cons]
  cases part t <;> rfl

theorem signed_getD (lead : Option TermSign) (v : Float) :
    signed (some (lead.getD .plus)) v = signed lead v := by
  cases lead <;> rfl

namespace PlainSide

/-- The coefficient of a letter is the sum of those that it has in the terms. -/
theorem coefficient_eq_sumOf (side : PlainSide) (letter : Char) :
    side.coefficient letter = sumOf (signedParts (PlainTerm.coefficient? letter) side.terms) := by
  have join (lead : Option TermSign) (t : PlainTerm) (sum : Float) : t.addTo letter sum lead =
      ((t.coefficient? letter).map (signed lead)).toList.foldl (· + ·) sum := by
    unfold PlainTerm.addTo
    cases (t.coefficient? letter : Option Float) <;> rfl
  have later (rest : List (TermSign × PlainTerm)) (sum : Float) :
      rest.foldl (fun sum st => st.2.addTo letter sum (some st.1)) sum =
        (signedParts (PlainTerm.coefficient? letter) rest).foldl (· + ·) sum := by
    induction rest generalizing sum with
    | nil => rfl
    | cons st rest ih =>
        rw [List.foldl_cons, ih, signedParts_cons, List.foldl_append, join]
  have lead : (signed (some (side.lead.getD .plus)) : Float → Float) = signed side.lead :=
    funext (signed_getD side.lead)
  rw [coefficient, later, join, sumOf, terms, signedParts_cons, List.foldl_append, lead]

/-- With its letters zero a side is the sum of the terms without letters, up to the sign of a
zero. -/
theorem value_alike_sumOf (side : PlainSide)
    (finite : ∀ st ∈ side.terms, ∀ x ∈ st.2.literal?, isFinite x = true) :
    Alike (side.value fun _ => Scalar.zero) (sumOf (signedParts PlainTerm.number? side.terms)) := by
  have later (rest : List (TermSign × PlainTerm))
      (finite : ∀ st ∈ rest, ∀ x ∈ st.2.literal?, isFinite x = true) {u v : Float}
      (alike : Alike u v) :
      Alike (rest.foldl (fun u st => st.1.join u (st.2.value (fun _ => Scalar.zero) none)) u)
        ((signedParts PlainTerm.number? rest).foldl (· + ·) v) := by
    induction rest generalizing u v with
    | nil => exact alike
    | cons st rest ih =>
        obtain ⟨s, t⟩ := st
        obtain ⟨finiteT, finiteRest⟩ := List.forall_mem_cons.mp finite
        rw [List.foldl_cons, signedParts_cons, List.foldl_append, TermSign.join_eq_add]
        refine ih finiteRest ?_
        rcases PlainTerm.value_cases finiteT none with ⟨x, number, value⟩ | ⟨absent, vanishes⟩
        · rw [number, value]
          exact alike.add_right _
        · rw [absent]
          exact (alike_add_zero u (vanishes.signed _)).trans alike
  obtain ⟨finiteFirst, finiteRest⟩ := List.forall_mem_cons.mp finite
  rw [value, sumOf, terms, signedParts_cons, List.foldl_append]
  refine later side.rest finiteRest ?_
  rcases PlainTerm.value_cases finiteFirst side.lead with ⟨x, number, value⟩ | ⟨absent, vanishes⟩
  · rw [number, value, Option.map_some, signed_getD]
    exact (isZeroWord_zero.add_alike _).symm
  · rw [absent]
    exact .inr ⟨vanishes, isZeroWord_zero⟩

/-- A side with a finite value has finite literals. -/
theorem finite_literals (side : PlainSide)
    (finite : isFinite (side.value fun _ => (Scalar.zero : Float)) = true) :
    ∀ st ∈ side.terms, ∀ x ∈ st.2.literal?, isFinite x = true := by
  have later (rest : List (TermSign × PlainTerm)) {u : Float}
      (finite : isFinite
        (rest.foldl (fun u st => st.1.join u (st.2.value (fun _ => Scalar.zero) none)) u) = true) :
      isFinite u = true ∧ ∀ st ∈ rest, ∀ x ∈ st.2.literal?, isFinite x = true := by
    induction rest generalizing u with
    | nil => exact ⟨finite, nofun⟩
    | cons st rest ih =>
        rw [List.foldl_cons, TermSign.join_eq_add] at finite
        obtain ⟨joined, finiteRest⟩ := ih finite
        obtain ⟨finiteU, finiteTerm⟩ := finite_of_add joined
        rw [isFinite_signed] at finiteTerm
        exact ⟨finiteU,
          List.forall_mem_cons.mpr ⟨PlainTerm.finite_literal finiteTerm, finiteRest⟩⟩
  obtain ⟨finiteFirst, finiteRest⟩ := later side.rest finite
  exact List.forall_mem_cons.mpr ⟨PlainTerm.finite_literal finiteFirst, finiteRest⟩

/-- A plain side has a linear form just when its value with the letters zero is finite. -/
theorem decompose_text_ok_iff (side : PlainSide) {letter : Char} (alpha : letter.isAlpha = true)
    (offset : Nat) {form : LinearForm Float} :
    LinearForm.decompose letter offset side.text = .ok form ↔
      form = ⟨side.coefficient letter, side.value fun _ => Scalar.zero⟩ ∧
        isFinite (side.value fun _ => (Scalar.zero : Float)) = true := by
  constructor
  · intro decomposed
    have finite : isFinite (side.value fun _ => (Scalar.zero : Float)) = true := by
      obtain ⟨-, e, parsed, evaluated, finite⟩ := LinearForm.decompose_ok_iff.mp decomposed
      obtain rfl := Except.ok.inj (parsed.symm.trans (side.ofSide_text offset))
      have bound (c : Char) (mem : c ∈ lettersOf side.text) :
          Bindings.all (lettersOf side.text) Scalar.zero c = some (Scalar.zero : Float) :=
        if_pos (List.contains_iff_mem.mpr mem)
      rw [side.collapseSigns_text, side.evaluate_tree bound] at evaluated
      rwa [Except.ok.inj evaluated]
    rw [decompose_plain alpha offset finite] at decomposed
    exact ⟨(Except.ok.inj decomposed).symm, finite⟩
  · rintro ⟨rfl, finite⟩
    exact decompose_plain alpha offset finite

end PlainSide

namespace SignedChain

def coefficients (chain : SignedChain) (letter : Char) : List Float :=
  signedParts (PlainTerm.coefficient? letter) chain.terms

def constants (chain : SignedChain) : List Float := signedParts PlainTerm.number? chain.terms

/-- All literals of the chain are finite, and so is every partial sum of the terms without a
letter. -/
structure Finite (chain : SignedChain) : Prop where
  literals : ∀ st ∈ chain.terms, ∀ x ∈ st.2.literal?, isFinite x = true
  sums : ∀ k, isFinite (sumOf (chain.constants.take k)) = true

theorem finite_iff (chain : SignedChain) :
    chain.Finite ↔ isFinite (chain.plain.value fun _ => (zero : Float)) = true := by
  have alike := chain.plain.value_alike_sumOf
  rw [terms_plain] at alike
  constructor
  · rintro ⟨literals, sums⟩
    exact (alike literals).isFinite_eq.trans (finite_sumOf_iff.mp sums)
  · intro finite
    have literals := chain.plain.finite_literals finite
    rw [terms_plain] at literals
    exact ⟨literals, finite_sumOf_iff.mpr ((alike literals).isFinite_eq.symm.trans finite)⟩

theorem decompose_collapsed {α : Type} [Scalar α] (letter : Char) (offset : Nat)
    (side : List Char) : LinearForm.decompose (α := α) letter offset (collapseSigns side) =
      LinearForm.decompose letter offset side := by
  rw [LinearForm.decompose, collapseSigns_collapseSigns, LinearForm.decompose]

/-- A chain of terms with runs of signs is read term by term: it has a linear form for a letter
exactly when its literals and the partial sums of its constants are finite; the coefficient is then
the sum of the coefficients that the letter has in the terms, the constant is the sum of the terms
without a letter, each in the order of the text and behind the sign of its run, and terms in other
letters add to neither. -/
theorem decompose_chain (chain : SignedChain) {letter : Char} (alpha : letter.isAlpha = true)
    (offset : Nat) :
    ((∃ form : LinearForm Float, LinearForm.decompose letter offset chain.text = .ok form) ↔
        chain.Finite) ∧
      ∀ form : LinearForm Float, LinearForm.decompose letter offset chain.text = .ok form →
        form.coefficient = sumOf (chain.coefficients letter) ∧
          Scalar.eq form.constant (sumOf chain.constants) = true := by
  rw [← decompose_collapsed, chain.collapseSigns_text]
  simp only [chain.plain.decompose_text_ok_iff alpha]
  refine ⟨⟨?_, fun finite => ⟨_, rfl, chain.finite_iff.mp finite⟩⟩, ?_⟩
  · rintro ⟨form, -, finite⟩
    exact chain.finite_iff.mpr finite
  · rintro form ⟨rfl, finite⟩
    have literals := (chain.finite_iff.mpr finite).literals
    rw [← chain.terms_plain] at literals
    have constant := (chain.plain.value_alike_sumOf literals).eq finite
    refine ⟨?_, ?_⟩
    · rw [coefficients, ← chain.terms_plain, ← PlainSide.coefficient_eq_sumOf]
    · rwa [constants, ← chain.terms_plain]

/-- `-+-2x--3+y-+.5X-1`, with a term in another letter. -/
def mixed : SignedChain where
  lead := [.minus, .plus, .minus]
  first := .product (.digit '2' 2 rfl rfl) ⟨'x', rfl⟩
  rest :=
    [(⟨[.minus, .minus], nofun⟩, .number (.digit '3' 3 rfl rfl)),
      (⟨[.plus], nofun⟩, .letter ⟨'y', rfl⟩),
      (⟨[.minus, .plus], nofun⟩, .product ⟨".5".toList, ⟨5, 1⟩, rfl, rfl⟩ ⟨'X', rfl⟩),
      (⟨[.minus], nofun⟩, .number (.digit '1' 1 rfl rfl))]

theorem decompose_chain_mixed :
    'x'.isAlpha = true ∧ ∃ form : LinearForm Float,
      LinearForm.decompose 'x' 0 "-+-2x--3+y-+.5X-1".toList = .ok form ∧
        form.coefficient = ofDecimal 15 1 ∧ Scalar.eq form.constant two = true := by
  have alpha : 'x'.isAlpha = true := rfl
  have finite : mixed.Finite :=
    ⟨by decide +kernel, finite_sumOf_iff.mpr (by decide +kernel)⟩
  have sums : sumOf (mixed.coefficients 'x') = ofDecimal 15 1 ∧ sumOf mixed.constants = two := by
    decide +kernel
  obtain ⟨accepted, reads⟩ := mixed.decompose_chain alpha 0
  obtain ⟨form, decomposed⟩ := accepted.mpr finite
  obtain ⟨coefficient, constant⟩ := reads form decomposed
  rw [sums.1] at coefficient
  rw [sums.2] at constant
  exact ⟨alpha, form, decomposed, coefficient, constant⟩

end SignedChain

end Sums

end WorkedAlgebra
