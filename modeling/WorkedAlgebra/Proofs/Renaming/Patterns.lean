import WorkedAlgebra.Proofs.Derivations
import WorkedAlgebra.Proofs.Renaming.Outcomes
import WorkedAlgebra.Scalar.Binary64

/-!
Texts whose letters stand in the same pattern. Any two such texts are related by an exchange of
letters, so a clean equation resolves as every equation of its pattern does, with its own letters.
-/

namespace WorkedAlgebra

section Exchange

abbrev LowerLetter := {c : Char // c.isLower = true}

instance : Finite LowerLetter := by
  have bounded (c : LowerLetter) : c.1.toNat < 123 := by
    have range := c.2
    simp only [Char.isLower, Bool.and_eq_true, decide_eq_true_eq, UInt32.le_iff_toNat_le] at range
    exact Nat.lt_succ_of_le range.2
  refine Finite.of_injective (fun c : LowerLetter => (⟨c.1.toNat, bounded c⟩ : Fin 123)) ?_
  intro c d same
  exact Subtype.ext (Char.toNat_inj.mp (Fin.mk.inj same))

/-- The exchange that permutes the lower-case letters and keeps all other characters. -/
def Renaming.ofPerm (g : Equiv.Perm LowerLetter) : Renaming where
  map := Equiv.Perm.ofSubtype g
  injective := (Equiv.Perm.ofSubtype g).injective
  lower c lower := by
    rw [Equiv.Perm.ofSubtype_apply_of_mem g lower]
    exact (g ⟨c, lower⟩).2

end Exchange

/-- Texts that differ in letters only, where two places have the same letter up to case in one
text exactly when they have the same letter up to case in the other. -/
structure SamePattern (text text' : List Char) : Prop where
  kept : List.Forall₂ (fun c d => c.isAlpha = d.isAlpha ∧ (c.isAlpha = false → d = c)) text text'
  alike : ∀ p ∈ text.zip text', ∀ q ∈ text.zip text', p.1.isAlpha = true → q.1.isAlpha = true →
    (p.2.toLower = q.2.toLower ↔ p.1.toLower = q.1.toLower)

section Patterns

instance (text text' : List Char) : Decidable (SamePattern text text') :=
  decidable_of_iff
    (List.Forall₂ (fun c d => c.isAlpha = d.isAlpha ∧ (c.isAlpha = false → d = c)) text text' ∧
      ∀ p ∈ text.zip text', ∀ q ∈ text.zip text', p.1.isAlpha = true → q.1.isAlpha = true →
        (p.2.toLower = q.2.toLower ↔ p.1.toLower = q.1.toLower))
    ⟨fun h => ⟨h.1, h.2⟩, fun h => ⟨h.kept, h.alike⟩⟩

example : ¬ SamePattern "x+Y=3y".toList "A+b=3A".toList := by decide

variable {text text' : List Char}

/-- Some place has the letter `a` in the first text and `b` in the second, up to case. -/
def Meet (text text' : List Char) (a b : LowerLetter) : Prop :=
  ∃ p ∈ text.zip text', p.1.isAlpha = true ∧ p.1.toLower = a.1 ∧ p.2.toLower = b.1

theorem SamePattern.meet_iff (same : SamePattern text text') {a a' b b' : LowerLetter}
    (first : Meet text text' a b) (second : Meet text text' a' b') : b = b' ↔ a = a' := by
  obtain ⟨p, memP, alphaP, lowerP, lowerP'⟩ := first
  obtain ⟨q, memQ, alphaQ, lowerQ, lowerQ'⟩ := second
  rw [Subtype.ext_iff, Subtype.ext_iff, ← lowerP, ← lowerP', ← lowerQ, ← lowerQ']
  exact same.alike p memP q memQ alphaP alphaQ

/-- A pairing of finitely many letters extends to all letters. -/
theorem SamePattern.exists_perm (same : SamePattern text text') :
    ∃ g : Equiv.Perm LowerLetter, ∀ a b, Meet text text' a b → g a = b := by
  classical
  have := Fintype.ofFinite LowerLetter
  let met (a : LowerLetter) : Prop := ∃ b, Meet text text' a b
  let partner (a : LowerLetter) : LowerLetter := if h : met a then h.choose else a
  have meets {a : LowerLetter} (h : met a) : Meet text text' a (partner a) := by
    simp only [partner, dif_pos h]
    exact h.choose_spec
  have injective : Set.InjOn partner (Finset.univ.filter met : Finset LowerLetter) := by
    intro a memA b memB equal
    exact (same.meet_iff (meets (Finset.mem_filter.mp memA).2)
      (meets (Finset.mem_filter.mp memB).2)).mp equal
  obtain ⟨g, agrees⟩ := Finset.exists_equiv_extend_of_card_eq
    Finset.card_univ.symm (Finset.subset_univ _) injective
  refine ⟨g.trans (Equiv.subtypeUnivEquiv Finset.mem_univ), fun a b meet => ?_⟩
  have found : met a := ⟨b, meet⟩
  have image : (g a : LowerLetter) = partner a :=
    agrees a (Finset.mem_filter.mpr ⟨Finset.mem_univ a, found⟩)
  exact image.trans ((same.meet_iff (meets found) meet).mpr rfl)

/-- Texts of one pattern are related by an exchange of letters. -/
theorem SamePattern.exists_renaming (same : SamePattern text text') :
    ∃ σ : Renaming, σ.Renames text text' := by
  obtain ⟨g, agrees⟩ := same.exists_perm
  refine ⟨.ofPerm g, List.forall₂_iff_zip.mpr ⟨same.kept.length_eq, fun {c d} mem => ?_⟩⟩
  obtain ⟨alphas, others⟩ := (List.forall₂_iff_zip.mp same.kept).2 mem
  cases alpha : c.isAlpha with
  | false =>
      rw [others alpha]
      exact .kept alpha
  | true =>
      have alpha' : d.isAlpha = true := alphas.symm.trans alpha
      refine .letter alpha alpha' ?_
      have image := agrees ⟨c.toLower, isLower_toLower alpha⟩ ⟨d.toLower, isLower_toLower alpha'⟩
        ⟨(c, d), mem, alpha, rfl, rfl⟩
      change d.toLower = Equiv.Perm.ofSubtype g c.toLower
      rw [Equiv.Perm.ofSubtype_apply_of_mem g (isLower_toLower alpha), image]

end Patterns

section Resolving

variable {α : Type} [Scalar α] {σ : Renaming} {text text' : List Char}

structure Renaming.RenamesProblem (σ : Renaming) (p p' : Problem) : Prop where
  sides : σ.RenamesSides p.sides p'.sides
  unknown : p'.unknown = σ.map p.unknown
  others : p'.others = p.others.map σ.map

theorem ofClean_renames (renames : σ.Renames text text') :
    (∃ error, Problem.ofClean text = .error error ∧ Problem.ofClean text' = .error error ∧
      error.rename σ = error) ∨
    ∃ p p', Problem.ofClean text = .ok p ∧ Problem.ofClean text' = .ok p' ∧
      σ.RenamesProblem p p' := by
  unfold Problem.ofClean
  rcases split_renames renames with ⟨cause, cut, cut'⟩ | ⟨sides, sides', cut, cut', related⟩
  · rw [cut, cut']
    exact .inl ⟨_, rfl, rfl, rfl⟩
  · rw [cut, cut', detectLetters_renames renames]
    cases detectLetters text with
    | nil => exact .inl ⟨_, rfl, rfl, rfl⟩
    | cons unknown others => exact .inr ⟨_, _, rfl, rfl, related, rfl, rfl⟩

theorem Problem.isLower_of_ofClean {p : Problem} (problem : ofClean text = .ok p) :
    p.unknown.isLower = true ∧ ∀ letter ∈ p.others, letter.isLower = true := by
  obtain ⟨-, letters⟩ := ofClean_ok_iff.mp problem
  have lower : ∀ letter ∈ p.unknown :: p.others, letter.isLower = true := fun letter mem =>
    isLower_of_mem_detectLetters (letters ▸ mem : letter ∈ detectLetters text)
  exact List.forall_mem_cons.mp lower

theorem Problem.derive_renames {p p' : Problem} (related : σ.RenamesProblem p p')
    (lower : p.unknown.isLower = true) (lowers : ∀ letter ∈ p.others, letter.isLower = true)
    (options : SolverOptions α) :
    p'.derive options = σ.result (Derivation.rename σ) (p.derive options) := by
  unfold Problem.derive
  rw [related.unknown, related.others, List.isEmpty_map]
  split
  · exact Derivation.ofSingle_renames related.sides lower options
  · exact Derivation.ofSeveral_renames related.sides lower lowers

def resolvedLetters (options : SolverOptions α) (text : List Char) :
    Except SolveError (List Char × Resolution α) :=
  (resolveClean options text).map fun (p, d) => (p.unknown :: p.others, d.resolution)

theorem resolvedLetters_renames (renames : σ.Renames text text') (options : SolverOptions α) :
    resolvedLetters options text' = σ.result
      (fun (letters, r) => (letters.map σ.map, r.rename σ)) (resolvedLetters options text) := by
  unfold resolvedLetters resolveClean
  rcases ofClean_renames renames with ⟨error, fails, fails', kept⟩ | ⟨p, p', ok, ok', related⟩
  · rw [fails, fails']
    exact congrArg Except.error kept.symm
  · obtain ⟨lower, lowers⟩ := Problem.isLower_of_ofClean ok
    have derived := Problem.derive_renames related lower lowers options
    rw [ok, ok']
    change Except.map _ (p'.derive options >>= fun d => .ok (p', d)) =
      σ.result _ (Except.map _ (p.derive options >>= fun d => .ok (p, d)))
    rw [derived]
    cases p.derive options with
    | error error => rfl
    | ok d =>
        change Except.ok (p'.unknown :: p'.others, (d.rename σ).resolution) = _
        rw [Derivation.resolution_rename, related.unknown, related.others]
        rfl

/-- No letter and no case is special: an equation of the same pattern has corresponding letters
in the same order and the same resolution with corresponding letters, or fails for the same cause,
told of the corresponding letters, at the same column. -/
theorem resolvedLetters_samePattern (same : SamePattern text text') (options : SolverOptions α) :
    ∃ σ : Renaming, σ.Renames text text' ∧
      resolvedLetters options text' = σ.result
        (fun (letters, r) => (letters.map σ.map, r.rename σ)) (resolvedLetters options text) := by
  obtain ⟨σ, renames⟩ := same.exists_renaming
  exact ⟨σ, renames, resolvedLetters_renames renames options⟩

theorem resolvedLetters_samePattern_mixed :
    SamePattern "2x+Y=3y".toList "2A+b=3B".toList ∧
      ∃ σ : Renaming, σ.Renames "2x+Y=3y".toList "2A+b=3B".toList ∧
        resolvedLetters (default : SolverOptions Float) "2A+b=3B".toList =
          σ.result (fun (letters, r) => (letters.map σ.map, r.rename σ))
            (resolvedLetters default "2x+Y=3y".toList) :=
  have same : SamePattern "2x+Y=3y".toList "2A+b=3B".toList := by decide
  ⟨same, resolvedLetters_samePattern same default⟩

end Resolving

end WorkedAlgebra
