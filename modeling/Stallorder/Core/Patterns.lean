import Mathlib

/-!
# Patterns of bounded texts

A pattern is written as a regular expression.  Classes of characters, optional
parts and bounded repetitions are enough for the patterns of validation code,
and each of them says directly which texts it matches.
-/

namespace Stallorder.Patterns

open RegularExpression

variable {Letter : Type*} {pattern left right : RegularExpression Letter} {text : List Letter}

/-- One letter of a class. -/
def anyOf (letters : List Letter) : RegularExpression Letter :=
  letters.foldr (fun letter others => char letter + others) 0

/-- The pattern or nothing. -/
def optional (pattern : RegularExpression Letter) : RegularExpression Letter := 1 + pattern

/-- At most `most` repetitions of the pattern. -/
def upTo (pattern : RegularExpression Letter) : ℕ → RegularExpression Letter
  | 0 => 1
  | most + 1 => optional (pattern * upTo pattern most)

theorem matches_char {letter : Letter} : text ∈ (char letter).matches' ↔ text = [letter] := by
  rw [matches'_char]
  exact Set.mem_singleton_iff

theorem matches_add :
    text ∈ (left + right).matches' ↔ text ∈ left.matches' ∨ text ∈ right.matches' := by
  rw [matches'_add]
  exact Language.mem_add _ _ _

theorem matches_mul : text ∈ (left * right).matches' ↔
    ∃ first ∈ left.matches', ∃ rest ∈ right.matches', first ++ rest = text := by
  rw [matches'_mul]
  exact Language.mem_mul

theorem matches_optional :
    text ∈ (optional pattern).matches' ↔ text = [] ∨ text ∈ pattern.matches' := by
  rw [optional, matches_add, matches'_epsilon, Language.mem_one]

theorem matches_anyOf {letters : List Letter} :
    text ∈ (anyOf letters).matches' ↔ ∃ letter ∈ letters, text = [letter] := by
  induction letters with
  | nil =>
      rw [anyOf, List.foldr_nil, matches'_zero]
      simp [Language.notMem_zero]
  | cons letter letters ih =>
      have hcons : anyOf (letter :: letters) = char letter + anyOf letters := rfl
      rw [hcons, matches_add, matches_char, ih]
      simp

/-- The repetitions of a class match the short texts over its letters. -/
theorem matches_upTo_anyOf {letters : List Letter} {most : ℕ} :
    text ∈ (upTo (anyOf letters) most).matches' ↔
      text.length ≤ most ∧ ∀ letter ∈ text, letter ∈ letters := by
  induction most generalizing text with
  | zero =>
      rw [upTo, matches'_epsilon, Language.mem_one, Nat.le_zero, List.length_eq_zero_iff]
      constructor
      · rintro rfl
        simp
      · exact fun hempty => hempty.1
  | succ most ih =>
      rw [upTo, matches_optional, matches_mul]
      constructor
      · rintro (rfl | ⟨first, hfirst, rest, hrest, rfl⟩)
        · simp
        · obtain ⟨letter, hletter, rfl⟩ := matches_anyOf.mp hfirst
          obtain ⟨hlength, hletters⟩ := ih.mp hrest
          rw [List.singleton_append, List.forall_mem_cons]
          exact ⟨Nat.succ_le_succ hlength, hletter, hletters⟩
      · rintro ⟨hlength, hletters⟩
        cases text with
        | nil => exact Or.inl rfl
        | cons letter rest =>
            rw [List.forall_mem_cons] at hletters
            refine Or.inr ⟨[letter], matches_anyOf.mpr ⟨letter, hletters.1, rfl⟩, rest, ?_, rfl⟩
            exact ih.mpr ⟨Nat.le_of_succ_le_succ hlength, hletters.2⟩

end Stallorder.Patterns
