import Mathlib

/-!
# Decimal texts

A text of digits stands for a natural number, and a text with a sign and a point
for a rational number.  Digits can be moved across the point by scaling, and the
digits that are left behind it are the fractional part.
-/

namespace Stallorder.Decimals

/-! ## Texts of digits -/

/-- The number that a text of digits stands for. -/
def digitsValue (digits : List Char) : ℕ := Nat.ofDigitChars 10 digits 0

def decimalDigits : List Char := ['0', '1', '2', '3', '4', '5', '6', '7', '8', '9']

def IsDigits (digits : List Char) : Prop := ∀ c ∈ digits, c ∈ decimalDigits

variable {left right digits : List Char}

theorem mem_decimalDigits_of_isDigit {c : Char} (hc : c.isDigit = true) : c ∈ decimalDigits := by
  obtain ⟨hleast, hmost⟩ := Char.isDigit_iff_toNat.mp hc
  have hleast : 48 ≤ c.toNat := hleast
  have hmost : c.toNat ≤ 57 := hmost
  rw [← Char.ofNat_toNat c]
  interval_cases c.toNat <;> simp [decimalDigits]

theorem isDigits_toDigits (n : ℕ) : IsDigits (Nat.toDigits 10 n) := by
  intro c hc
  apply mem_decimalDigits_of_isDigit
  exact Nat.isDigit_of_mem_toDigits (by decide) (by decide) hc

theorem digitsValue_append (left right : List Char) :
    digitsValue (left ++ right) = 10 ^ right.length * digitsValue left + digitsValue right := by
  rw [digitsValue, Nat.ofDigitChars_append, Nat.ofDigitChars_eq_ofDigitChars_zero]
  rfl

@[simp]
theorem digitsValue_replicate_zero (count : ℕ) :
    digitsValue (List.replicate count '0') = 0 := by
  rw [digitsValue, Nat.ofDigitChars_replicate_zero, Nat.mul_zero]

@[simp]
theorem digitsValue_toDigits (n : ℕ) : digitsValue (Nat.toDigits 10 n) = n :=
  Nat.ofDigitChars_ten_toDigits

/-- The value of a single digit. -/
theorem digitsValue_singleton :
    ∀ c ∈ decimalDigits, digitsValue [c] ≤ 9 ∧ (digitsValue [c] = 0 ↔ c = '0') := by
  simp [decimalDigits, digitsValue, Nat.ofDigitChars_cons]

theorem digitsValue_cons (c : Char) (digits : List Char) :
    digitsValue (c :: digits) = 10 ^ digits.length * digitsValue [c] + digitsValue digits :=
  digitsValue_append [c] digits

theorem digitsValue_lt (hdigits : IsDigits digits) : digitsValue digits < 10 ^ digits.length := by
  induction digits with
  | nil => decide
  | cons c digits ih =>
      obtain ⟨hc, hdigits⟩ := List.forall_mem_cons.mp hdigits
      have hrest := ih hdigits
      calc digitsValue (c :: digits)
          = 10 ^ digits.length * digitsValue [c] + digitsValue digits := digitsValue_cons c digits
        _ < 10 ^ digits.length * 9 + 10 ^ digits.length := by
            apply Nat.add_lt_add_of_le_of_lt _ hrest
            exact Nat.mul_le_mul_left _ (digitsValue_singleton c hc).1
        _ = 10 ^ (c :: digits).length := by
            rw [List.length_cons, pow_succ]
            omega

theorem digitsValue_eq_zero_iff (hdigits : IsDigits digits) :
    digitsValue digits = 0 ↔ ∀ c ∈ digits, c = '0' := by
  induction digits with
  | nil => simp [digitsValue]
  | cons c digits ih =>
      obtain ⟨hc, hdigits⟩ := List.forall_mem_cons.mp hdigits
      have hpow : 10 ^ digits.length ≠ 0 := (Nat.pow_pos (by decide)).ne'
      rw [digitsValue_cons, Nat.add_eq_zero_iff, Nat.mul_eq_zero, or_iff_right hpow, ih hdigits,
        (digitsValue_singleton c hc).2, List.forall_mem_cons]

theorem isDigits_append : IsDigits (left ++ right) ↔ IsDigits left ∧ IsDigits right :=
  List.forall_mem_append

theorem isDigits_take (hdigits : IsDigits digits) (count : ℕ) : IsDigits (digits.take count) :=
  fun c hc => hdigits c (List.mem_of_mem_take hc)

theorem isDigits_drop (hdigits : IsDigits digits) (count : ℕ) : IsDigits (digits.drop count) :=
  fun c hc => hdigits c (List.mem_of_mem_drop hc)

theorem isDigits_replicate_zero (count : ℕ) : IsDigits (List.replicate count '0') := by
  intro c hc
  rw [List.eq_of_mem_replicate hc]
  simp [decimalDigits]

/-! ## Fractions -/

/-- The number with these digits before and behind the point. -/
def pointValue (whole fraction : List Char) : ℚ :=
  digitsValue whole + digitsValue fraction / 10 ^ fraction.length

theorem pointValue_nil (whole : List Char) : pointValue whole [] = digitsValue whole := by
  simp [pointValue, digitsValue]

theorem pointValue_eq_div (whole fraction : List Char) :
    pointValue whole fraction = digitsValue (whole ++ fraction) / 10 ^ fraction.length := by
  have hpow : (10 : ℚ) ^ fraction.length ≠ 0 := by positivity
  rw [pointValue, digitsValue_append]
  push_cast
  field_simp

/-- The digits that scaling moves before the point, filled up with zeros. -/
def shifted (scale : ℕ) (fraction : List Char) : List Char :=
  fraction.take scale ++ List.replicate (scale - fraction.length) '0'

theorem length_shifted (scale : ℕ) (fraction : List Char) :
    (shifted scale fraction).length = scale := by
  rw [shifted, List.length_append, List.length_take, List.length_replicate]
  omega

theorem isDigits_shifted {fraction : List Char} (hdigits : IsDigits fraction) (scale : ℕ) :
    IsDigits (shifted scale fraction) :=
  isDigits_append.mpr ⟨isDigits_take hdigits scale, isDigits_replicate_zero _⟩

/-- Scaling moves digits before the point and leaves the others behind it. -/
theorem pointValue_mul_pow (whole fraction : List Char) (scale : ℕ) :
    pointValue whole fraction * 10 ^ scale
      = pointValue (whole ++ shifted scale fraction) (fraction.drop scale) := by
  rcases le_total fraction.length scale with hshort | hlong
  · rw [List.drop_eq_nil_of_le hshort, pointValue_nil, shifted, List.take_of_length_le hshort,
      ← List.append_assoc, digitsValue_append, digitsValue_replicate_zero, List.length_replicate,
      pointValue_eq_div, ← pow_sub_mul_pow (10 : ℚ) hshort]
    push_cast
    field_simp
    ring
  · have hfill : scale - fraction.length = 0 := Nat.sub_eq_zero_of_le hlong
    rw [shifted, hfill, List.replicate_zero, List.append_nil, pointValue_eq_div, pointValue_eq_div,
      List.append_assoc, List.take_append_drop, List.length_drop, ← pow_sub_mul_pow (10 : ℚ) hlong]
    field_simp

/-- A number is an integer when nothing but zeros is behind its point. -/
theorem pointValue_eq_int_iff {whole fraction : List Char} (hdigits : IsDigits fraction)
    (units : ℤ) :
    pointValue whole fraction = units ↔
      (∀ c ∈ fraction, c = '0') ∧ (digitsValue whole : ℤ) = units := by
  have hpow : (0 : ℚ) < 10 ^ fraction.length := by positivity
  rw [← digitsValue_eq_zero_iff hdigits]
  constructor
  · intro hvalue
    have hlt : (digitsValue fraction : ℚ) / 10 ^ fraction.length < 1 := by
      rw [div_lt_one hpow]
      exact_mod_cast digitsValue_lt hdigits
    have hnonneg : (0 : ℚ) ≤ digitsValue fraction / 10 ^ fraction.length := by positivity
    have hrest : (digitsValue fraction : ℚ) / 10 ^ fraction.length
        = ((units - digitsValue whole : ℤ) : ℚ) := by
      rw [pointValue] at hvalue
      push_cast
      linarith
    rw [hrest] at hlt hnonneg
    have hunits : units - digitsValue whole = 0 := by
      have hbelow : units - digitsValue whole < 1 := by exact_mod_cast hlt
      have habove : 0 ≤ units - digitsValue whole := by exact_mod_cast hnonneg
      omega
    rw [hunits, Int.cast_zero, div_eq_zero_iff, or_iff_left hpow.ne'] at hrest
    exact ⟨by exact_mod_cast hrest, by omega⟩
  · rintro ⟨hzero, rfl⟩
    rw [pointValue, hzero]
    simp

/-! ## Signed texts -/

/-- The number that a text without a sign stands for. -/
def unsignedValue (text : List Char) : ℚ :=
  pointValue (text.takeWhile (· ≠ '.')) ((text.dropWhile (· ≠ '.')).drop 1)

/-- The number that a decimal text stands for. -/
def textValue : List Char → ℚ
  | '-' :: unsigned => -unsignedValue unsigned
  | unsigned => unsignedValue unsigned

/-- A digit is neither a point nor a sign. -/
theorem ne_of_mem_decimalDigits : ∀ c ∈ decimalDigits, c ≠ '.' ∧ c ≠ '-' := by
  simp [decimalDigits]

theorem point_notMem (hdigits : IsDigits digits) : '.' ∉ digits :=
  fun hmem => (ne_of_mem_decimalDigits '.' (hdigits '.' hmem)).1 rfl

theorem unsignedValue_digits (hdigits : IsDigits digits) :
    unsignedValue digits = digitsValue digits := by
  have hkept : digits.takeWhile (· ≠ '.') = digits := by
    rw [List.takeWhile_eq_self_iff]
    intro c hc
    exact decide_eq_true (ne_of_mem_decimalDigits c (hdigits c hc)).1
  have hdropped : digits.dropWhile (· ≠ '.') = [] := by
    rw [List.dropWhile_eq_nil_iff]
    intro c hc
    exact decide_eq_true (ne_of_mem_decimalDigits c (hdigits c hc)).1
  rw [unsignedValue, hkept, hdropped, List.drop_nil, pointValue_nil]

theorem unsignedValue_point (hdigits : IsDigits digits) (fraction : List Char) :
    unsignedValue (digits ++ '.' :: fraction) = pointValue digits fraction := by
  have hpoint : ∀ c ∈ digits, decide (c ≠ '.') = true :=
    fun c hc => decide_eq_true (ne_of_mem_decimalDigits c (hdigits c hc)).1
  rw [unsignedValue, List.takeWhile_append_of_pos hpoint, List.dropWhile_append_of_pos hpoint]
  simp

theorem textValue_neg (unsigned : List Char) :
    textValue ('-' :: unsigned) = -unsignedValue unsigned := rfl

/-- A text that begins with a digit has no sign. -/
theorem textValue_digit {c : Char} (hc : c ∈ decimalDigits) (rest : List Char) :
    textValue (c :: rest) = unsignedValue (c :: rest) := by
  have hsign : c ≠ '-' := (ne_of_mem_decimalDigits c hc).2
  unfold textValue
  split
  · next unsigned heq => exact absurd (List.cons.inj heq).1 hsign
  · rfl

end Stallorder.Decimals
