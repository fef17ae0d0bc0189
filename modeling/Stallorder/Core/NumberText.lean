import Stallorder.Core.Decimals

/-!
# Numbers and their texts

A number of the language is a double.  It is written with the fewest digits that
tell it from every other double, and a text of digits is read as the double that
is nearest to its value.
-/

namespace Stallorder.NumberText

open Decimals

/-! ## Writing a number -/

/-- The shortest decimal of a positive double.  The point stands `exponent`
digits behind the beginning of its digits. -/
structure ShortestDecimal where
  significand : ℕ
  exponent : ℤ
  shortest : significand % 10 ≠ 0

inductive Number
  | nan
  | infinite (negative : Bool)
  | zero (negative : Bool)
  | finite (negative : Bool) (magnitude : ShortestDecimal)

namespace ShortestDecimal

variable (decimal : ShortestDecimal)

def digits : List Char := Nat.toDigits 10 decimal.significand

/-- The exact value of the decimal. -/
def value : ℚ := decimal.significand * 10 ^ (decimal.exponent - decimal.digits.length)

/-- The form with an exponent, for the very large and the very small. -/
def exponentText : List Char :=
  let shown := decimal.exponent - 1
  let fraction := decimal.digits.drop 1
  decimal.digits.take 1 ++ (if fraction = [] then [] else '.' :: fraction)
    ++ 'e' :: (if shown < 0 then '-' else '+') :: Nat.toDigits 10 shown.natAbs

def text : List Char :=
  let count : ℤ := decimal.digits.length
  if count ≤ decimal.exponent ∧ decimal.exponent ≤ 21 then
    decimal.digits ++ List.replicate (decimal.exponent - count).toNat '0'
  else if 0 < decimal.exponent ∧ decimal.exponent ≤ 21 then
    decimal.digits.take decimal.exponent.toNat
      ++ '.' :: decimal.digits.drop decimal.exponent.toNat
  else if -6 < decimal.exponent ∧ decimal.exponent ≤ 0 then
    '0' :: '.' :: (List.replicate (-decimal.exponent).toNat '0' ++ decimal.digits)
  else
    decimal.exponentText

variable {decimal}

theorem isDigits_digits : IsDigits decimal.digits := isDigits_toDigits decimal.significand

theorem digits_ne_nil (decimal : ShortestDecimal) : decimal.digits ≠ [] := Nat.toDigits_ne_nil

@[simp]
theorem digitsValue_digits : digitsValue decimal.digits = decimal.significand :=
  digitsValue_toDigits decimal.significand

theorem exponent_mem_exponentText : 'e' ∈ decimal.exponentText := by
  simp [exponentText]

/-- A text without an exponent writes the exact value of the decimal. -/
theorem unsignedValue_text (hplain : 'e' ∉ decimal.text) :
    unsignedValue decimal.text = decimal.value := by
  have hten : (10 : ℚ) ≠ 0 := by norm_num
  simp only [text] at hplain ⊢
  split_ifs at hplain ⊢ with hwhole hinside hbehind
  · have hzeros : IsDigits (decimal.digits
        ++ List.replicate (decimal.exponent - decimal.digits.length).toNat '0') :=
      isDigits_append.mpr ⟨isDigits_digits, isDigits_replicate_zero _⟩
    rw [unsignedValue_digits hzeros, digitsValue_append, digitsValue_replicate_zero,
      digitsValue_digits, List.length_replicate, value,
      ← Int.toNat_of_nonneg (sub_nonneg.mpr hwhole.1), zpow_natCast]
    simp only [Int.toNat_natCast]
    push_cast
    ring
  · have hcount : decimal.exponent.toNat ≤ decimal.digits.length := by omega
    rw [unsignedValue_point (isDigits_take isDigits_digits _), pointValue_eq_div,
      List.take_append_drop, digitsValue_digits, List.length_drop, value, div_eq_mul_inv,
      ← zpow_natCast, ← zpow_neg]
    congr 2
    omega
  · have hzero : IsDigits ['0'] := isDigits_replicate_zero 1
    have hpoint := unsignedValue_point hzero
      (List.replicate (-decimal.exponent).toNat '0' ++ decimal.digits)
    rw [List.singleton_append] at hpoint
    rw [hpoint, pointValue_eq_div, digitsValue_append, digitsValue_append,
      digitsValue_replicate_zero, digitsValue_digits, List.length_append, List.length_replicate,
      value, div_eq_mul_inv, ← zpow_natCast, ← zpow_neg]
    have hnothing : digitsValue ['0'] = 0 := digitsValue_replicate_zero 1
    rw [hnothing, Nat.mul_zero, Nat.mul_zero, Nat.zero_add, Nat.zero_add]
    congr 2
    omega
  · exact absurd exponent_mem_exponentText hplain

/-- The text begins with a digit. -/
theorem text_eq_cons (decimal : ShortestDecimal) :
    ∃ c ∈ decimalDigits, ∃ rest, decimal.text = c :: rest := by
  obtain ⟨c, others, hdigits⟩ := List.exists_cons_of_ne_nil decimal.digits_ne_nil
  have hc : c ∈ decimalDigits := isDigits_digits c (hdigits ▸ List.mem_cons_self)
  simp only [text]
  split_ifs with hwhole hinside hbehind
  · exact ⟨c, hc, _, by rw [hdigits, List.cons_append]⟩
  · refine ⟨c, hc, others.take (decimal.exponent.toNat - 1)
      ++ '.' :: decimal.digits.drop decimal.exponent.toNat, ?_⟩
    have hpos : decimal.exponent.toNat = decimal.exponent.toNat - 1 + 1 := by omega
    rw [hdigits, hpos, List.take_succ_cons, List.cons_append, Nat.add_sub_cancel]
  · exact ⟨'0', by simp [decimalDigits], _, rfl⟩
  · exact ⟨c, hc, _, by rw [exponentText, hdigits]; rfl⟩

end ShortestDecimal

namespace Number

def isFinite : Number → Bool
  | nan | infinite _ => false
  | zero _ | finite _ _ => true

/-- The exact value of a finite number. -/
def value : Number → ℚ
  | nan | infinite _ | zero _ => 0
  | finite negative magnitude => if negative then -magnitude.value else magnitude.value

/-- Both zeros are written alike. -/
def text : Number → List Char
  | nan => "NaN".toList
  | infinite negative => if negative then "-Infinity".toList else "Infinity".toList
  | zero _ => ['0']
  | finite negative magnitude => if negative then '-' :: magnitude.text else magnitude.text

theorem textValue_text {number : Number} (hfinite : number.isFinite = true)
    (hplain : 'e' ∉ number.text) : textValue number.text = number.value := by
  cases number with
  | nan => cases hfinite
  | infinite negative => cases hfinite
  | zero negative =>
      have hzero : IsDigits ['0'] := isDigits_replicate_zero 1
      change textValue ['0'] = 0
      rw [textValue_digit (hzero '0' List.mem_cons_self), unsignedValue_digits hzero]
      simpa using digitsValue_replicate_zero 1
  | finite negative magnitude =>
      cases negative with
      | true =>
          have hmagnitude : 'e' ∉ magnitude.text := fun hmem => hplain (List.mem_cons_of_mem _ hmem)
          change textValue ('-' :: magnitude.text) = -magnitude.value
          rw [textValue_neg, ShortestDecimal.unsignedValue_text hmagnitude]
      | false =>
          obtain ⟨c, hc, rest, htext⟩ := magnitude.text_eq_cons
          change textValue magnitude.text = magnitude.value
          rw [← ShortestDecimal.unsignedValue_text hplain, htext, textValue_digit hc]

end Number

/-! ## Reading digits -/

/-- The double nearest to a natural number; of two that are equally near the one
with the even significand. -/
def nearestDouble (n : ℕ) : ℕ :=
  let unit := 2 ^ (Nat.log2 n - 52)
  let significand := n / unit
  let remainder := n % unit
  if 2 * remainder < unit ∨ (2 * remainder = unit ∧ significand % 2 = 0) then significand * unit
  else (significand + 1) * unit

/-- The number that a text of digits is read as. -/
def readDigits (digits : List Char) : ℕ := nearestDouble (digitsValue digits)

def isSafeInteger (n : ℕ) : Bool := n ≤ 2 ^ 53 - 1

/-- Below two to the power of 53 every integer is a double. -/
theorem nearestDouble_of_lt {n : ℕ} (hlt : n < 2 ^ 53) : nearestDouble n = n := by
  have hlog : Nat.log2 n - 52 = 0 := by
    rcases Nat.eq_zero_or_pos n with rfl | hpos
    · rfl
    · have hlt' := (Nat.log2_lt hpos.ne').mpr hlt
      omega
  simp [nearestDouble, hlog, Nat.mod_one]

theorem readDigits_of_length {digits : List Char} (hdigits : IsDigits digits)
    (hlength : digits.length ≤ 15) : readDigits digits = digitsValue digits := by
  apply nearestDouble_of_lt
  calc digitsValue digits < 10 ^ digits.length := digitsValue_lt hdigits
    _ ≤ 10 ^ 15 := Nat.pow_le_pow_right (by decide) hlength
    _ < 2 ^ 53 := by decide

end Stallorder.NumberText
