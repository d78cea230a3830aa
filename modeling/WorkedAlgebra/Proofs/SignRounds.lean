import WorkedAlgebra.Proofs.SignEffects
import WorkedAlgebra.Proofs.SignedChains

/-!
Collapsing signs by replacing pairs of them. A round replaces the four pairs one after the other,
and rounds go on until one changes nothing. Every replacement keeps the effect of the run that it
happens in and shortens it, so the rounds end, and they end with one sign for each run: minus when
the run holds an odd number of minus signs.
-/

namespace WorkedAlgebra.Text

section Rounds

/-- Replaces a pair of characters by a single one, from left to right and without overlaps. -/
def replacePair (first second single : Char) : List Char → List Char
  | c :: d :: cs =>
    if c = first ∧ d = second then single :: replacePair first second single cs
    else c :: replacePair first second single (d :: cs)
  | cs => cs

/-- One round of replacements, each on what the one before has left. -/
def signRound (text : List Char) : List Char :=
  replacePair '+' '+' '+' (replacePair '-' '+' '-' (replacePair '+' '-' '-'
    (replacePair '-' '-' '+' text)))

theorem length_replacePair_le (first second single : Char) (text : List Char) :
    (replacePair first second single text).length ≤ text.length := by
  fun_induction replacePair first second single text with
  | case1 c d cs pair ih => exact Nat.le_succ_of_le (Nat.succ_le_succ ih)
  | case2 c d cs other ih => exact Nat.succ_le_succ ih
  | case3 cs short => exact le_rfl

variable {first second single : Char}

/-- A replacement that finds no pair is the only one that keeps the length. -/
theorem replacePair_eq_of_length {text : List Char}
    (same : (replacePair first second single text).length = text.length) :
    replacePair first second single text = text := by
  fun_induction replacePair first second single text with
  | case1 c d cs pair ih =>
      have le := length_replacePair_le first second single cs
      simp only [List.length_cons] at same
      omega
  | case2 c d cs other ih => rw [ih (Nat.succ.inj same)]
  | case3 cs short => rfl

/-- Where nothing is replaced the pair does not occur. -/
theorem isChain_of_replacePair_eq {text : List Char}
    (same : replacePair first second single text = text) :
    text.IsChain fun c d => ¬(c = first ∧ d = second) := by
  fun_induction replacePair first second single text with
  | case1 c d cs pair ih =>
      have le := length_replacePair_le first second single cs
      have lengths := congrArg List.length same
      simp only [List.length_cons] at lengths
      omega
  | case2 c d cs other ih =>
      exact List.isChain_cons_cons.mpr ⟨other, ih (List.cons.inj same).2⟩
  | case3 cs short =>
      match cs with
      | [] => exact .nil
      | [c] => exact .singleton c
      | c :: d :: cs => exact (short c d cs rfl).elim

theorem length_signRound_le (text : List Char) : (signRound text).length ≤ text.length :=
  (length_replacePair_le _ _ _ _).trans <| (length_replacePair_le _ _ _ _).trans <|
    (length_replacePair_le _ _ _ _).trans (length_replacePair_le _ _ _ _)

/-- A round that keeps the length has replaced nothing. -/
theorem replacePair_eq_of_signRound {text : List Char}
    (same : (signRound text).length = text.length) :
    replacePair '-' '-' '+' text = text ∧ replacePair '+' '-' '-' text = text ∧
      replacePair '-' '+' '-' text = text ∧ replacePair '+' '+' '+' text = text := by
  have le₁ := length_replacePair_le '-' '-' '+' text
  have le₂ := length_replacePair_le '+' '-' '-' (replacePair '-' '-' '+' text)
  have le₃ := length_replacePair_le '-' '+' '-'
    (replacePair '+' '-' '-' (replacePair '-' '-' '+' text))
  have le₄ := length_replacePair_le '+' '+' '+'
    (replacePair '-' '+' '-' (replacePair '+' '-' '-' (replacePair '-' '-' '+' text)))
  unfold signRound at same
  have minus : replacePair '-' '-' '+' text = text := replacePair_eq_of_length (by omega)
  rw [minus] at same le₂ le₃ le₄
  have plusMinus : replacePair '+' '-' '-' text = text := replacePair_eq_of_length (by omega)
  rw [plusMinus] at same le₃ le₄
  have minusPlus : replacePair '-' '+' '-' text = text := replacePair_eq_of_length (by omega)
  rw [minusPlus] at same le₄
  exact ⟨minus, plusMinus, minusPlus, replacePair_eq_of_length same⟩

theorem length_signRound_lt {text : List Char} (changed : signRound text ≠ text) :
    (signRound text).length < text.length := by
  refine lt_of_le_of_ne (length_signRound_le text) fun same => changed ?_
  obtain ⟨minus, plusMinus, minusPlus, plus⟩ := replacePair_eq_of_signRound same
  rw [signRound, minus, plusMinus, minusPlus, plus]

/-- Rounds of replacements, until one of them changes nothing. -/
def collapseInRounds (text : List Char) : List Char :=
  if signRound text = text then text else collapseInRounds (signRound text)
termination_by text.length
decreasing_by exact length_signRound_lt ‹_›

end Rounds

section Effect

theorem signProduct_assoc {a b c : Char} (sign_a : isSign a = true) (sign_b : isSign b = true)
    (sign_c : isSign c = true) :
    signProduct a (signProduct b c) = signProduct (signProduct a b) c := by
  rcases signs_cases sign_a with rfl | rfl <;> rcases signs_cases sign_b with rfl | rfl <;>
    rcases signs_cases sign_c with rfl | rfl <;> rfl

/-- Two adjacent signs have the effect of their product. -/
theorem collapseSigns_pair {a b : Char} (sign_a : isSign a = true) (sign_b : isSign b = true)
    (cs : List Char) : collapseSigns (a :: b :: cs) = collapseSigns (signProduct a b :: cs) := by
  rw [collapseSigns, sign_a, if_pos rfl, collapseSigns, sign_b, if_pos rfl, collapseSigns,
    isSign_signProduct, if_pos rfl]
  cases collapseSigns cs with
  | nil => simp [prependSign, sign_b]
  | cons c rest =>
      cases sign_c : isSign c with
      | true =>
          simp [prependSign, sign_c, isSign_signProduct, signProduct_assoc sign_a sign_b sign_c]
      | false => simp [prependSign, sign_c, sign_b]

theorem collapseSigns_cons_congr {cs ds : List Char} (same : collapseSigns cs = collapseSigns ds)
    (c : Char) : collapseSigns (c :: cs) = collapseSigns (c :: ds) := by
  rw [collapseSigns, collapseSigns, same]

/-- Replacing two signs by their product does not change what a text collapses to. -/
theorem collapseSigns_replacePair {a b : Char} (sign_a : isSign a = true) (sign_b : isSign b = true)
    (text : List Char) :
    collapseSigns (replacePair a b (signProduct a b) text) = collapseSigns text := by
  fun_induction replacePair a b (signProduct a b) text with
  | case1 c d cs pair ih =>
      obtain ⟨rfl, rfl⟩ := pair
      rw [collapseSigns_pair sign_a sign_b]
      exact collapseSigns_cons_congr ih _
  | case2 c d cs other ih => exact collapseSigns_cons_congr ih c
  | case3 cs short => rfl

theorem collapseSigns_signRound (text : List Char) :
    collapseSigns (signRound text) = collapseSigns text := by
  have plus : isSign '+' = true := rfl
  have minus : isSign '-' = true := rfl
  exact (collapseSigns_replacePair plus plus _).trans <|
    (collapseSigns_replacePair minus plus _).trans <|
      (collapseSigns_replacePair plus minus _).trans (collapseSigns_replacePair minus minus _)

/-- A text that a round leaves alone has no adjacent signs. -/
theorem singlySigned_of_signRound {text : List Char} (same : signRound text = text) :
    SinglySigned text := by
  obtain ⟨minus, plusMinus, minusPlus, plus⟩ :=
    replacePair_eq_of_signRound (congrArg List.length same)
  rw [SinglySigned, List.isChain_iff_forall_rel_of_append_cons_cons]
  intro c d before rest cut
  have absent {a b r : Char} (unchanged : replacePair a b r text = text) : ¬(c = a ∧ d = b) :=
    List.isChain_iff_forall_rel_of_append_cons_cons.mp (isChain_of_replacePair_eq unchanged) cut
  by_contra both
  obtain ⟨sign_c, sign_d⟩ := (Bool.and_eq_true _ _).mp (Bool.not_eq_false _ ▸ both)
  rcases signs_cases sign_c with rfl | rfl <;> rcases signs_cases sign_d with rfl | rfl
  · exact absent plus ⟨rfl, rfl⟩
  · exact absent plusMinus ⟨rfl, rfl⟩
  · exact absent minusPlus ⟨rfl, rfl⟩
  · exact absent minus ⟨rfl, rfl⟩

/-- The rounds end with the collapsed text. -/
theorem collapseInRounds_eq (text : List Char) : collapseInRounds text = collapseSigns text := by
  fun_induction collapseInRounds text with
  | case1 text same => exact (collapseSigns_of_singlySigned (singlySigned_of_signRound same)).symm
  | case2 text changed ih => rw [ih, collapseSigns_signRound]

end Effect

section Parity

/-- The maximal runs of a text, of signs and of other characters in turn. -/
def signRuns (text : List Char) : List (List Char) := text.splitBy fun c d => isSign c == isSign d

/-- A run of signs counts as minus when it holds an odd number of them; other runs stay. -/
def collapseRun (run : List Char) : List Char :=
  if run.all isSign then [if run.count '-' % 2 = 1 then '-' else '+'] else run

theorem exists_termSigns {run : List Char} (signs : ∀ c ∈ run, isSign c = true) :
    ∃ terms : List TermSign, terms.map TermSign.char = run := by
  induction run with
  | nil => exact ⟨[], rfl⟩
  | cons c run ih =>
      obtain ⟨first, later⟩ := List.forall_mem_cons.mp signs
      obtain ⟨terms, rfl⟩ := ih later
      rcases signs_cases first with rfl | rfl
      · exact ⟨.plus :: terms, rfl⟩
      · exact ⟨.minus :: terms, rfl⟩

theorem char_ofRun (terms : List TermSign) :
    (TermSign.ofRun terms).char =
      if (terms.map TermSign.char).count '-' % 2 = 1 then '-' else '+' := by
  have count : (terms.map TermSign.char).count '-' = terms.count .minus :=
    List.count_map_of_injective terms TermSign.char
      (fun s t same => by cases s <;> cases t <;> first | rfl | cases same) .minus
  rw [TermSign.ofRun, count]
  split <;> rfl

/-- A run of signs in front of something else. -/
theorem collapseSigns_signs {run cs : List Char} (nonempty : run ≠ [])
    (signs : ∀ c ∈ run, isSign c = true) (other : ∀ d ∈ cs.head?, isSign d = false) :
    collapseSigns (run ++ cs) = collapseRun run ++ collapseSigns cs := by
  obtain ⟨terms, rfl⟩ := exists_termSigns signs
  have some : terms ≠ [] := fun empty => nonempty (by rw [empty]; rfl)
  rw [collapseSigns_run some other, char_ofRun, collapseRun, if_pos (List.all_eq_true.mpr signs)]
  rfl

theorem collapseRun_other {run : List Char} (nonempty : run ≠ [])
    (other : ∀ c ∈ run, isSign c = false) : collapseRun run = run := by
  refine if_neg fun signs => ?_
  obtain ⟨c, mem⟩ := List.exists_mem_of_ne_nil run nonempty
  have sign := List.all_eq_true.mp signs c mem
  rw [other c mem] at sign
  cases sign

/-- All characters of a run are signs, or none is. -/
theorem isSign_of_mem_run {run : List Char} {c : Char}
    (alike : (c :: run).IsChain fun c d => (isSign c == isSign d) = true) :
    ∀ d ∈ c :: run, isSign d = isSign c := by
  induction run generalizing c with
  | nil => simp
  | cons e run ih =>
      obtain ⟨first, later⟩ := List.isChain_cons_cons.mp alike
      have same : isSign c = isSign e := eq_of_beq first
      intro d mem
      rcases List.mem_cons.mp mem with rfl | inRun
      · rfl
      · exact (ih later d inRun).trans same.symm

/-- Runs of signs and of other characters in turn are collapsed one by one. -/
theorem collapseSigns_flatten {runs : List (List Char)} (nonempty : [] ∉ runs)
    (alike : ∀ run ∈ runs, run.IsChain fun c d => (isSign c == isSign d) = true)
    (inTurn : runs.IsChain fun run next =>
      ∃ last first, (isSign (run.getLast last) == isSign (next.head first)) = false) :
    collapseSigns runs.flatten = runs.flatMap collapseRun := by
  induction runs with
  | nil => rfl
  | cons run runs ih =>
      obtain ⟨filled, nonempty'⟩ := not_or.mp (List.mem_cons.not.mp nonempty)
      obtain ⟨alikeRun, alikeRest⟩ := List.forall_mem_cons.mp alike
      rw [List.flatten_cons, List.flatMap_cons, ← ih nonempty' alikeRest inTurn.tail]
      obtain ⟨c, cs, rfl⟩ := List.exists_cons_of_ne_nil (Ne.symm filled)
      have same := isSign_of_mem_run alikeRun
      cases sign : isSign c with
      | false =>
          rw [sign] at same
          rw [collapseSigns_append same, collapseRun_other (List.cons_ne_nil c cs) same]
      | true =>
          rw [sign] at same
          refine collapseSigns_signs (List.cons_ne_nil c cs) same fun d first => ?_
          cases runs with
          | nil => cases first
          | cons next runs =>
              obtain ⟨⟨last, filled', turned⟩, -⟩ := List.isChain_cons_cons.mp inTurn
              obtain ⟨e, es, rfl⟩ := List.exists_cons_of_ne_nil filled'
              obtain rfl : e = d := Option.some.inj first
              rw [same _ (List.getLast_mem last)] at turned
              simpa using turned

/-- Collapsing signs computes the parity normal form. Replacing pairs round by round comes to an
end; what is left is what the text collapses to in one pass, which has a single minus for every
maximal run with an odd number of minus signs, a single plus for every other run of signs, and all
other characters in their order. No two signs in it are adjacent, and collapsing once more changes
nothing. -/
theorem collapseInRounds_parity (text : List Char) :
    collapseInRounds text = collapseSigns text ∧
      collapseSigns text = (signRuns text).flatMap collapseRun ∧
        SinglySigned (collapseSigns text) ∧
          collapseSigns (collapseSigns text) = collapseSigns text := by
  have parity : collapseSigns (signRuns text).flatten = (signRuns text).flatMap collapseRun :=
    collapseSigns_flatten (List.nil_notMem_splitBy _ text)
      (fun _ => List.isChain_of_mem_splitBy)
      (List.isChain_getLast_head_splitBy (fun c d => isSign c == isSign d) text)
  rw [signRuns, List.flatten_splitBy, ← signRuns] at parity
  exact ⟨collapseInRounds_eq text, parity, singlySigned_collapseSigns text,
    collapseSigns_collapseSigns text⟩

example : signRuns "3--2+-+x".toList = ["3".toList, "--".toList, "2".toList, "+-+".toList,
    "x".toList] ∧ collapseSigns "3--2+-+x".toList = "3+2-x".toList := by decide

end Parity

end WorkedAlgebra.Text
