import WorkedAlgebra.Unicode.Decomposition
import WorkedAlgebra.Unicode.CombiningClass
import WorkedAlgebra.Unicode.Composition

/-!
The composed compatibility form of a text: every character is expanded, marks are put into
canonical order, and the result is composed again. Cleanup takes any form that keeps plain texts;
the one of these tables is that of Unicode 14.0.
-/

namespace WorkedAlgebra.Unicode

/-! ## Hangul syllables -/

def hangulBase : Nat := 0xAC00
def hangulLeads : Nat := 19
def hangulVowels : Nat := 21
def hangulTails : Nat := 28

def hangulLetters (c : Nat) : List Nat :=
  let i := c - hangulBase
  let tail := i % hangulTails
  [0x1100 + i / (hangulVowels * hangulTails), 0x1161 + i / hangulTails % hangulVowels] ++
    if tail = 0 then [] else [0x11A7 + tail]

def isHangulSyllable (c : Nat) : Bool :=
  decide (hangulBase ≤ c ∧ c < hangulBase + hangulLeads * hangulVowels * hangulTails)

/-- A lead and a vowel make a syllable, and a syllable without tail takes one. -/
def hangulComposite? (a b : Nat) : Option Nat :=
  if 0x1100 ≤ a ∧ a < 0x1100 + hangulLeads ∧ 0x1161 ≤ b ∧ b < 0x1161 + hangulVowels then
    some (hangulBase + ((a - 0x1100) * hangulVowels + (b - 0x1161)) * hangulTails)
  else if isHangulSyllable a ∧ (a - hangulBase) % hangulTails = 0 ∧
      0x11A7 < b ∧ b < 0x11A7 + hangulTails then
    some (a + (b - 0x11A7))
  else none

/-! ## Expansion, order, composition -/

/-- Characters below `U+00A0` have no decomposition, and none of them is a mark. -/
def isPlain (c : Char) : Bool := decide (c.toNat < 0xA0)

def expand (c : Char) : List Char :=
  if isPlain c then [c]
  else if isHangulSyllable c.toNat then (hangulLetters c.toNat).map Char.ofNat
  else
    match decompositions[c.toNat]? with
    | some codes => codes.map Char.ofNat
    | none => [c]

/-- Puts a character in front of an ordered text, behind the marks of lower class. -/
def insertMark (c : Char) : List Char → List Char
  | [] => [c]
  | d :: ds =>
    let other := combiningClass d.toNat
    if 0 < other ∧ other < combiningClass c.toNat then d :: insertMark c ds else c :: d :: ds

/-- Sorts each run of marks by class and keeps the order within a class. -/
def reorder (cs : List Char) : List Char := cs.foldr insertMark []

def decomposed (cs : List Char) : List Char := reorder (cs.flatMap expand)

def composite? (a b : Char) : Option Char :=
  ((hangulComposite? a.toNat b.toNat).orElse fun _ => compositions[(a.toNat, b.toNat)]?).map
    Char.ofNat

/-- Composition in progress: `starter` may still take marks; `marks` are those behind it that it
did not take, the last one first. -/
structure Composing where
  starter : Char
  marks : List Char

namespace Composing

/-- A mark reaches the starter past marks of lower class only. -/
def reaches (s : Composing) (c : Char) : Bool :=
  match s.marks with
  | [] => true
  | m :: _ => decide (combiningClass m.toNat < combiningClass c.toNat)

def finish (s : Composing) : List Char := s.starter :: s.marks.reverse

end Composing

def composeFrom : Composing → List Char → List Char
  | s, [] => s.finish
  | s, c :: cs =>
    match if s.reaches c then composite? s.starter c else none with
    | some joined => composeFrom { s with starter := joined } cs
    | none =>
      if combiningClass c.toNat = 0 then s.finish ++ composeFrom ⟨c, []⟩ cs
      else composeFrom { s with marks := c :: s.marks } cs

/-- Composes a decomposed text. Marks before the first starter stay as they are. -/
def compose : List Char → List Char
  | [] => []
  | c :: cs =>
    if combiningClass c.toNat = 0 then composeFrom ⟨c, []⟩ cs else c :: compose cs

/-- The composed compatibility form. A text of plain characters is its own form. -/
def compatibilityForm (cs : List Char) : List Char :=
  if cs.all isPlain then cs else compose (decomposed cs)

/-- A composed compatibility form, with the expansion of single characters under it. -/
class Form where
  form : List Char → List Char
  expand : Char → List Char
  form_plain : ∀ {text}, (∀ c ∈ text, isPlain c = true) → form text = text

instance tables : Form where
  form := compatibilityForm
  expand := expand
  form_plain plain := if_pos (List.all_eq_true.mpr plain)

end WorkedAlgebra.Unicode
