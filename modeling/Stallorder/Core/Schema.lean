import Mathlib

/-!
# Texts and validating schemas

A schema in the style of the validation library first normalizes its input
(it trims texts) and then accepts or refuses the normalized value.  `Schema`
packages the two functions with the fact that normalizing twice changes
nothing, so a value that came out of a schema always passes it again.
-/

namespace Stallorder

/-- A text as a list of characters. -/
abbrev Text := List Char

instance : LawfulBEq Text := inferInstanceAs (LawfulBEq (List Char))

namespace Text

/-- The white space and line terminators that trimming removes. -/
def isWhitespace (c : Char) : Bool :=
  c.val ∈ [0x9, 0xA, 0xB, 0xC, 0xD, 0x20, 0xA0, 0x1680, 0x2028, 0x2029, 0x202F, 0x205F,
    0x3000, 0xFEFF] || (0x2000 ≤ c.val && c.val ≤ 0x200A)

def trim (text : Text) : Text :=
  (text.dropWhile isWhitespace).rdropWhile isWhitespace

/-- The length counts UTF-16 code units. -/
def length16 (text : Text) : ℕ :=
  (text.map fun c => if c.val < 0x10000 then 1 else 2).sum

/-- What is left after both ends are stripped has nothing to strip at its beginning. -/
theorem dropWhile_stripped (stripped : Char → Bool) (text : Text) :
    ((text.dropWhile stripped).rdropWhile stripped).dropWhile stripped
      = (text.dropWhile stripped).rdropWhile stripped := by
  obtain ⟨rest, hrest⟩ := List.rdropWhile_prefix stripped (text.dropWhile stripped)
  generalize (text.dropWhile stripped).rdropWhile stripped = kept at hrest ⊢
  rw [List.dropWhile_eq_self_iff]
  intro hpos
  have hlong : 0 < (text.dropWhile stripped).length := by
    rw [← hrest, List.length_append]
    omega
  have hhead := List.dropWhile_get_zero_not stripped text hlong
  have hsame : (text.dropWhile stripped).get ⟨0, hlong⟩ = kept.get ⟨0, hpos⟩ := by
    simp only [List.get_eq_getElem, ← hrest]
    exact List.getElem_append_left hpos
  rw [hsame] at hhead
  exact hhead

theorem dropWhile_trim (text : Text) : (trim text).dropWhile isWhitespace = trim text :=
  dropWhile_stripped isWhitespace text

@[simp]
theorem trim_trim (text : Text) : trim (trim text) = trim text := by
  conv_lhs => rw [trim, dropWhile_trim]
  exact List.rdropWhile_idempotent isWhitespace (text.dropWhile isWhitespace)

end Text

structure Schema (Value : Type*) where
  normalize : Value → Value
  accepts : Value → Bool
  normalize_normalize : ∀ value, normalize (normalize value) = normalize value

namespace Schema

variable {Value : Type*} (schema : Schema Value)

/-- The normalized value when it is accepted. -/
def parse (value : Value) : Option Value :=
  if schema.accepts (schema.normalize value) then some (schema.normalize value) else none

theorem parse_eq_some_iff {value parsed : Value} :
    schema.parse value = some parsed ↔
      schema.accepts parsed = true ∧ schema.normalize value = parsed := by
  unfold parse
  split
  · next haccepts =>
    constructor
    · intro heq
      cases heq
      exact ⟨haccepts, rfl⟩
    · rintro ⟨-, rfl⟩
      rfl
  · next hrefuses =>
    constructor
    · intro heq
      cases heq
    · rintro ⟨haccepts, rfl⟩
      exact absurd haccepts hrefuses

/-- A parsed value passes the schema unchanged. -/
theorem parse_parsed {value parsed : Value} (hparse : schema.parse value = some parsed) :
    schema.parse parsed = some parsed := by
  obtain ⟨haccepts, hnormalize⟩ := schema.parse_eq_some_iff.mp hparse
  refine schema.parse_eq_some_iff.mpr ⟨haccepts, ?_⟩
  rw [← hnormalize, schema.normalize_normalize]

theorem accepts_of_parse {value parsed : Value} (hparse : schema.parse value = some parsed) :
    schema.accepts parsed = true :=
  (schema.parse_eq_some_iff.mp hparse).1

/-- A schema that refuses unknown keys parses a stored object only when the
object has none. -/
def parseStrict (unknownKeys : List Text) (value : Value) : Option Value :=
  if unknownKeys = [] then schema.parse value else none

end Schema

end Stallorder
