import Mathlib

/-!
# Texts in code units and parsed documents

A browser text is a sequence of UTF-16 code units: a text cut after a number of
units may end in half a character, and still compares and joins like any other
text.  A stored document is the value that parsing its text gives.
-/

namespace Stallorder

/-- A text as a list of UTF-16 code units. -/
abbrev CodeUnits := List UInt16

namespace CodeUnits

/-- A text of characters that take one code unit each. -/
def ofAscii (text : String) : CodeUnits :=
  text.toList.map fun character => character.toNat.toUInt16

def ofNat (value : ℕ) : CodeUnits :=
  (Nat.toDigits 10 value).map fun character => character.toNat.toUInt16

/-- The white space and line terminators that trimming removes. -/
def isWhitespace (unit : UInt16) : Bool :=
  unit.toNat ∈ [0x9, 0xA, 0xB, 0xC, 0xD, 0x20, 0xA0, 0x1680, 0x2028, 0x2029, 0x202F, 0x205F,
    0x3000, 0xFEFF] || (0x2000 ≤ unit.toNat && unit.toNat ≤ 0x200A)

def trim (text : CodeUnits) : CodeUnits :=
  (text.dropWhile isWhitespace).rdropWhile isWhitespace

def StartsTrimmed (text : CodeUnits) : Prop :=
  ∀ unit ∈ text.head?, isWhitespace unit = false

def EndsTrimmed (text : CodeUnits) : Prop :=
  ∀ unit ∈ text.getLast?, isWhitespace unit = false

/-- A text that starts and ends with something trimming keeps. -/
structure Trimmed (text : CodeUnits) : Prop where
  nonempty : text ≠ []
  starts : StartsTrimmed text
  ends : EndsTrimmed text

theorem Trimmed.trim_eq {text : CodeUnits} (htrimmed : Trimmed text) : trim text = text := by
  have hstart : text.dropWhile isWhitespace = text := by
    rw [List.dropWhile_eq_self_iff]
    intro hpos
    have hhead := htrimmed.starts _ (List.head?_eq_some_head htrimmed.nonempty)
    rw [List.head_eq_getElem] at hhead
    rw [hhead]
    exact Bool.false_ne_true
  unfold trim
  rw [hstart, List.rdropWhile_eq_self_iff]
  intro hnonempty
  rw [htrimmed.ends _ (List.getLast?_eq_some_getLast hnonempty)]
  exact Bool.false_ne_true

/-- What trimming leaves of a text is trimmed. -/
theorem trimmed_trim {text : CodeUnits} (hnonempty : trim text ≠ []) : Trimmed (trim text) where
  nonempty := hnonempty
  starts unit hunit := by
    have hprefix : trim text <+: text.dropWhile isWhitespace :=
      List.rdropWhile_prefix isWhitespace _
    have hrest : text.dropWhile isWhitespace ≠ [] := by
      intro hempty
      rw [hempty, List.prefix_nil] at hprefix
      exact hnonempty hprefix
    rw [List.head?_eq_some_head hnonempty, Option.mem_some] at hunit
    rw [← hunit, hprefix.head hnonempty]
    exact List.head_dropWhile_not isWhitespace hrest
  ends unit hunit := by
    rw [List.getLast?_eq_some_getLast hnonempty, Option.mem_some] at hunit
    rw [← hunit]
    exact Bool.eq_false_of_not_eq_true
      (List.rdropWhile_last_not isWhitespace (text.dropWhile isWhitespace) hnonempty)

theorem startsTrimmed_append {front back : CodeUnits} (hnonempty : front ≠ [])
    (hfront : StartsTrimmed front) : StartsTrimmed (front ++ back) := by
  intro unit hunit
  rw [List.head?_append_of_ne_nil front hnonempty] at hunit
  exact hfront unit hunit

theorem endsTrimmed_append {front back : CodeUnits} (hnonempty : back ≠ [])
    (hback : EndsTrimmed back) : EndsTrimmed (front ++ back) := by
  intro unit hunit
  rw [List.getLast?_append_of_ne_nil front hnonempty] at hunit
  exact hback unit hunit

theorem isWhitespace_of_digit {character : Char} (hdigit : character.isDigit = true) :
    isWhitespace character.toNat.toUInt16 = false := by
  simp only [Char.isDigit, Bool.and_eq_true, decide_eq_true_eq, ge_iff_le,
    UInt32.le_iff_toNat_le] at hdigit
  obtain ⟨hlower, hupper⟩ := hdigit
  change 48 ≤ character.toNat at hlower
  change character.toNat ≤ 57 at hupper
  generalize character.toNat = value at hlower hupper
  interval_cases value <;> decide

theorem ofNat_ne_nil (value : ℕ) : ofNat value ≠ [] := by
  intro hempty
  exact Nat.toDigits_ne_nil (List.map_eq_nil_iff.mp hempty)

theorem isDigit_of_mem_digits {value : ℕ} {character : Char}
    (hmem : character ∈ Nat.toDigits 10 value) : character.isDigit = true :=
  Nat.isDigit_of_mem_toDigits (by decide) (by decide) hmem

theorem ofNat_ends (value : ℕ) : EndsTrimmed (ofNat value) := by
  intro unit hunit
  obtain ⟨character, hmem, heq⟩ := List.mem_map.mp (List.mem_of_getLast? hunit)
  rw [← heq]
  exact isWhitespace_of_digit (isDigit_of_mem_digits hmem)

theorem toNat_digit {character : Char} (hdigit : character.isDigit = true) :
    character.toNat.toUInt16.toNat = character.toNat := by
  simp only [Char.isDigit, Bool.and_eq_true, decide_eq_true_eq, ge_iff_le,
    UInt32.le_iff_toNat_le] at hdigit
  have hupper : character.toNat ≤ 57 := hdigit.2
  exact Nat.mod_eq_of_lt (by omega)

theorem ofNat_injective : Function.Injective ofNat := by
  have hdigits : ∀ value, (ofNat value).map (fun unit => Char.ofNat unit.toNat)
      = Nat.toDigits 10 value := by
    intro value
    rw [ofNat, List.map_map]
    conv_rhs => rw [← List.map_id (Nat.toDigits 10 value)]
    apply List.map_congr_left
    intro character hmem
    rw [Function.comp_apply, toNat_digit (isDigit_of_mem_digits hmem), Char.ofNat_toNat, id]
  intro left right hsame
  have hchars : Nat.toDigits 10 left = Nat.toDigits 10 right := by
    rw [← hdigits left, hsame, hdigits right]
  rw [← Nat.ofDigitChars_ten_toDigits (n := left), hchars, Nat.ofDigitChars_ten_toDigits]

theorem colon_notMem_ofNat (value : ℕ) : 58 ∉ ofNat value := by
  intro hmem
  obtain ⟨character, hdigit, hcolon⟩ := List.mem_map.mp hmem
  have hdigit := isDigit_of_mem_digits hdigit
  have hvalue := toNat_digit hdigit
  rw [hcolon] at hvalue
  simp only [Char.isDigit, Bool.and_eq_true, decide_eq_true_eq, ge_iff_le,
    UInt32.le_iff_toNat_le] at hdigit
  have hupper : character.toNat ≤ 57 := hdigit.2
  rw [← hvalue] at hupper
  exact absurd hupper (by decide)

/-- What stands behind the last colon of a text. -/
theorem eq_of_numbered_eq {front front' : CodeUnits} {left right : ℕ}
    (hsame : front ++ (ofAscii ":" ++ ofNat left) = front' ++ (ofAscii ":" ++ ofNat right)) :
    left = right := by
  have hlast : ∀ (front : CodeUnits) (value : ℕ),
      (front ++ (ofAscii ":" ++ ofNat value)).reverse.takeWhile (· ≠ 58)
        = (ofNat value).reverse := by
    intro front value
    have hcolon : ofAscii ":" = [58] := by decide
    rw [hcolon, List.reverse_append, List.reverse_append, List.append_assoc,
      List.takeWhile_append_of_pos]
    · simp
    · intro unit hunit
      apply decide_eq_true
      rintro rfl
      exact colon_notMem_ofNat value (List.mem_reverse.mp hunit)
  apply ofNat_injective
  apply List.reverse_injective
  rw [← hlast front, hsame, hlast front']

end CodeUnits

/-- A parsed document.  A number that exceeds every finite number carries no value. -/
inductive Json
  | null
  | bool (value : Bool)
  | number (value : Option ℚ)
  | text (value : CodeUnits)
  | array (entries : List Json)
  | record (fields : List (CodeUnits × Json))

namespace Json

def asText : Json → Option CodeUnits
  | text value => some value
  | _ => none

def asNumber : Json → Option ℚ
  | number value => value
  | _ => none

def asArray : Json → Option (List Json)
  | array entries => some entries
  | _ => none

/-- The fields of a record; neither arrays nor `null` are records. -/
def asRecord : Json → Option (List (CodeUnits × Json))
  | record fields => some fields
  | _ => none

end Json

/-- The fields of a record. -/
abbrev JsonFields := List (CodeUnits × Json)

namespace JsonFields

def field (fields : JsonFields) (name : CodeUnits) : Option Json := fields.lookup name

/-- A field that holds a text. -/
def text? (fields : JsonFields) (name : CodeUnits) : Option CodeUnits :=
  (fields.field name).bind Json.asText

/-- A field that holds a finite number. -/
def number? (fields : JsonFields) (name : CodeUnits) : Option ℚ :=
  (fields.field name).bind Json.asNumber

def array? (fields : JsonFields) (name : CodeUnits) : Option (List Json) :=
  (fields.field name).bind Json.asArray

/-- The fields of a field that holds a record, no fields otherwise. -/
def record? (fields : JsonFields) (name : CodeUnits) : JsonFields :=
  ((fields.field name).bind Json.asRecord).getD []

end JsonFields

end Stallorder
