import Stallorder.Core.Checks
import Stallorder.Core.NumberText
import Stallorder.Core.Patterns
import Stallorder.Delivery.DeliveryDatabase

/-!
# Amounts of delivery platforms

A platform sends an amount as a decimal text or as a number, in the major unit of
its currency.  The amount is converted digit by digit to the smallest unit, and
refused when that would lose a digit.
-/

namespace Stallorder.ProviderMoney

open DeliveryDatabase Decimals NumberText Patterns RegularExpression

/-! ## The conversion -/

inductive ProviderAmount
  | text (amount : Text)
  | number (amount : Number)

/-- The upper case of the characters for which it consists of letters from A to
Z.  The upper case of the others contains something else, and so do they. -/
def upperCaseOf (c : Char) : Text :=
  if c.val = 0xDF then ['S', 'S']
  else if c.val = 0x131 then ['I']
  else if c.val = 0x17F then ['S']
  else if c.val = 0xFB00 then ['F', 'F']
  else if c.val = 0xFB01 then ['F', 'I']
  else if c.val = 0xFB02 then ['F', 'L']
  else if c.val = 0xFB03 then ['F', 'F', 'I']
  else if c.val = 0xFB04 then ['F', 'F', 'L']
  else if c.val = 0xFB05 || c.val = 0xFB06 then ['S', 'T']
  else [c.toUpper]

def toUpperCase (text : Text) : Text := text.flatMap upperCaseOf

def zeroDecimalCurrencies : List Text :=
  ["JPY".toList, "KRW".toList, "TWD".toList, "VND".toList]

def normalizedCurrency (currency : Text) : Text := toUpperCase (Text.trim currency)

/-- The number of decimal places of a currency. -/
def currencyScale (currency : Text) : ℕ :=
  if normalizedCurrency currency ∈ zeroDecimalCurrencies then 0 else 2

def digit : RegularExpression Char := anyOf decimalDigits

def nonzeroDigits : List Char := ['1', '2', '3', '4', '5', '6', '7', '8', '9']

def wholePattern : RegularExpression Char := char '0' + anyOf nonzeroDigits * upTo digit 11

def fractionPattern : RegularExpression Char := char '.' * (digit * upTo digit 5)

def amountPattern : RegularExpression Char :=
  optional (char '-') * (wholePattern * optional fractionPattern)

def contractError : DeliveryError := .permanent .providerContractError

def ProviderAmount.isFinite : ProviderAmount → Bool
  | .text _ => true
  | .number amount => amount.isFinite

def ProviderAmount.normalized : ProviderAmount → Text
  | .text amount => Text.trim amount
  | .number amount => amount.text

/-- The parts before and behind the first point. -/
def wholeAndFraction (unsigned : Text) : Text × Text :=
  match unsigned.splitOn '.' with
  | whole :: fraction :: _ => (whole, fraction)
  | [whole] => (whole, [])
  | [] => ([], [])

/-- The smallest units in a text of the amount pattern. -/
def amountUnits (normalized : Text) (scale : ℕ) : Except DeliveryError ℤ := do
  let negative := ['-'].isPrefixOf normalized
  let unsigned := if negative then normalized.drop 1 else normalized
  let (whole, fraction) := wholeAndFraction unsigned
  Checks.failWhen (scale < fraction.length && (fraction.drop scale).any (· ∈ nonzeroDigits))
    contractError
  let kept := fraction.take scale
  let paddedFraction := kept ++ List.replicate (scale - kept.length) '0'
  let units := readDigits (whole ++ paddedFraction)
  Checks.failWhen (!isSafeInteger units || 100_000_000 < units) contractError
  -- A negative zero is the integer zero.
  return if negative then -units else units

def providerMajorAmountToInternalUnits (amount : ProviderAmount) (currency : Text) :
    Except DeliveryError ℤ := do
  Checks.failWhen (!isCurrency (normalizedCurrency currency)) contractError
  Checks.failWhen (!amount.isFinite) contractError
  Checks.failWhen (!amountPattern.rmatch amount.normalized) contractError
  amountUnits amount.normalized (currencyScale currency)

/-! ## Amounts of the pattern -/

/-- One digit, or up to twelve that do not begin with zero. -/
structure IsWhole (text : Text) : Prop where
  ne_nil : text ≠ []
  digits : IsDigits text
  length_le : text.length ≤ 12
  first : text.length ≠ 1 → text.head? ≠ some '0'

structure IsFraction (text : Text) : Prop where
  digits : IsDigits text
  length_le : text.length ≤ 6

/-- The parts of a text that the amount pattern matches. -/
structure AmountText where
  negative : Bool
  whole : Text
  fraction : Text
  isWhole : IsWhole whole
  isFraction : IsFraction fraction

namespace AmountText

/-- A fraction without digits has no point. -/
def pointText (fraction : Text) : Text := if fraction = [] then [] else '.' :: fraction

def unsigned (amount : AmountText) : Text := amount.whole ++ pointText amount.fraction

def text (amount : AmountText) : Text :=
  if amount.negative then '-' :: amount.unsigned else amount.unsigned

def value (amount : AmountText) : ℚ :=
  let magnitude := pointValue amount.whole amount.fraction
  if amount.negative then -magnitude else magnitude

variable (amount : AmountText)

theorem unsigned_eq_cons : ∃ c ∈ decimalDigits, ∃ rest, amount.unsigned = c :: rest := by
  obtain ⟨c, rest, hwhole⟩ := List.exists_cons_of_ne_nil amount.isWhole.ne_nil
  have hc : c ∈ decimalDigits := amount.isWhole.digits c (hwhole ▸ List.mem_cons_self)
  exact ⟨c, hc, _, by rw [unsigned, hwhole, List.cons_append]⟩

theorem isPrefixOf_text : ['-'].isPrefixOf amount.text = amount.negative := by
  cases hnegative : amount.negative with
  | true => simp [text, hnegative, List.isPrefixOf]
  | false =>
      obtain ⟨c, hc, rest, hunsigned⟩ := amount.unsigned_eq_cons
      have hsign : '-' ≠ c := (ne_of_mem_decimalDigits c hc).2.symm
      simp [text, hnegative, hunsigned, List.isPrefixOf, hsign]

theorem unsigned_of_text :
    (if amount.negative then amount.text.drop 1 else amount.text) = amount.unsigned := by
  rw [text]
  cases amount.negative with
  | true => rfl
  | false => rfl

theorem wholeAndFraction_unsigned :
    wholeAndFraction amount.unsigned = (amount.whole, amount.fraction) := by
  have hwhole : amount.whole.splitOn '.' = [amount.whole] :=
    List.splitOn_eq_singleton (point_notMem amount.isWhole.digits)
  have hfraction : amount.fraction.splitOn '.' = [amount.fraction] :=
    List.splitOn_eq_singleton (point_notMem amount.isFraction.digits)
  unfold unsigned pointText
  split
  · next hnone => rw [List.append_nil, wholeAndFraction, hwhole, hnone]
  · rw [wholeAndFraction, List.splitOn_append_cons_self, hwhole, hfraction]
    rfl

theorem unsignedValue_unsigned :
    unsignedValue amount.unsigned = pointValue amount.whole amount.fraction := by
  unfold unsigned pointText
  split
  · next hnone =>
      rw [List.append_nil, unsignedValue_digits amount.isWhole.digits, hnone, pointValue_nil]
  · exact unsignedValue_point amount.isWhole.digits amount.fraction

theorem textValue_text : textValue amount.text = amount.value := by
  unfold text value
  split
  · rw [textValue_neg, unsignedValue_unsigned]
  · obtain ⟨c, hc, rest, hunsigned⟩ := amount.unsigned_eq_cons
    rw [← unsignedValue_unsigned, hunsigned, textValue_digit hc]

end AmountText

/-! ## What the pattern matches -/

theorem matches_digit {text : Text} :
    text ∈ digit.matches' ↔ ∃ c ∈ decimalDigits, text = [c] :=
  matches_anyOf

theorem matches_digit_upTo {most : ℕ} {text : Text} :
    text ∈ (upTo digit most).matches' ↔ text.length ≤ most ∧ IsDigits text :=
  matches_upTo_anyOf

theorem mem_nonzeroDigits_iff {c : Char} :
    c ∈ nonzeroDigits ↔ c ∈ decimalDigits ∧ c ≠ '0' := by
  simp only [nonzeroDigits, decimalDigits, List.mem_cons, List.not_mem_nil, or_false]
  constructor
  · rintro (rfl | rfl | rfl | rfl | rfl | rfl | rfl | rfl | rfl) <;> simp
  · rintro ⟨hzero | hdigit, hne⟩
    · exact absurd hzero hne
    · exact hdigit

theorem matches_wholePattern {text : Text} : text ∈ wholePattern.matches' ↔ IsWhole text := by
  rw [wholePattern, matches_add, matches_char, matches_mul]
  constructor
  · rintro (rfl | ⟨first, hfirst, rest, hrest, rfl⟩)
    · exact ⟨List.cons_ne_nil _ _, isDigits_replicate_zero 1, by decide,
        fun hlength => absurd rfl hlength⟩
    · obtain ⟨c, hc, rfl⟩ := matches_anyOf.mp hfirst
      obtain ⟨hlength, hdigits⟩ := matches_digit_upTo.mp hrest
      obtain ⟨hdigit, hzero⟩ := mem_nonzeroDigits_iff.mp hc
      refine ⟨List.cons_ne_nil _ _, List.forall_mem_cons.mpr ⟨hdigit, hdigits⟩,
        Nat.succ_le_succ hlength, ?_⟩
      intro _ hhead
      exact hzero (Option.some.inj hhead)
  · intro hwhole
    obtain ⟨c, rest, rfl⟩ := List.exists_cons_of_ne_nil hwhole.ne_nil
    obtain ⟨hc, hdigits⟩ := List.forall_mem_cons.mp hwhole.digits
    by_cases hzero : c = '0'
    · left
      have hlength : (c :: rest).length = 1 := by
        by_contra hlong
        exact hwhole.first hlong (congrArg some hzero)
      rw [List.length_eq_zero_iff.mp (Nat.succ.inj hlength), hzero]
    · right
      have hfirst : [c] ∈ (anyOf nonzeroDigits).matches' :=
        matches_anyOf.mpr ⟨c, mem_nonzeroDigits_iff.mpr ⟨hc, hzero⟩, rfl⟩
      refine ⟨[c], hfirst, rest, ?_, rfl⟩
      exact matches_digit_upTo.mpr ⟨Nat.le_of_succ_le_succ hwhole.length_le, hdigits⟩

theorem matches_fractionPattern {text : Text} : text ∈ fractionPattern.matches' ↔
    ∃ fraction, fraction ≠ [] ∧ IsFraction fraction ∧ text = '.' :: fraction := by
  rw [fractionPattern, matches_mul]
  constructor
  · rintro ⟨point, hpoint, fraction, hfraction, rfl⟩
    obtain ⟨first, hfirst, rest, hrest, rfl⟩ := matches_mul.mp hfraction
    obtain ⟨c, hc, rfl⟩ := matches_digit.mp hfirst
    obtain ⟨hlength, hdigits⟩ := matches_digit_upTo.mp hrest
    have hfraction : IsDigits (c :: rest) := List.forall_mem_cons.mpr ⟨hc, hdigits⟩
    rw [matches_char.mp hpoint]
    exact ⟨c :: rest, List.cons_ne_nil _ _, ⟨hfraction, Nat.succ_le_succ hlength⟩, rfl⟩
  · rintro ⟨fraction, hnonempty, hfraction, rfl⟩
    obtain ⟨c, rest, rfl⟩ := List.exists_cons_of_ne_nil hnonempty
    obtain ⟨hc, hdigits⟩ := List.forall_mem_cons.mp hfraction.digits
    refine ⟨['.'], matches_char.mpr rfl, c :: rest, ?_, rfl⟩
    apply matches_mul.mpr
    refine ⟨[c], matches_digit.mpr ⟨c, hc, rfl⟩, rest, ?_, rfl⟩
    exact matches_digit_upTo.mpr ⟨Nat.le_of_succ_le_succ hfraction.length_le, hdigits⟩

theorem matches_optional_fractionPattern {text : Text} :
    text ∈ (optional fractionPattern).matches' ↔
      ∃ fraction, IsFraction fraction ∧ text = AmountText.pointText fraction := by
  rw [matches_optional, matches_fractionPattern]
  constructor
  · rintro (rfl | ⟨fraction, hnonempty, hfraction, rfl⟩)
    · exact ⟨[], ⟨isDigits_replicate_zero 0, Nat.zero_le 6⟩, rfl⟩
    · exact ⟨fraction, hfraction, (if_neg hnonempty).symm⟩
  · rintro ⟨fraction, hfraction, rfl⟩
    by_cases hnone : fraction = []
    · exact Or.inl (if_pos hnone)
    · exact Or.inr ⟨fraction, hnone, hfraction, if_neg hnone⟩

theorem matches_unsigned {text : Text} :
    text ∈ (wholePattern * optional fractionPattern).matches' ↔
      ∃ whole fraction, IsWhole whole ∧ IsFraction fraction
        ∧ whole ++ AmountText.pointText fraction = text := by
  rw [matches_mul]
  constructor
  · rintro ⟨whole, hwhole, point, hpoint, rfl⟩
    obtain ⟨fraction, hfraction, rfl⟩ := matches_optional_fractionPattern.mp hpoint
    exact ⟨whole, fraction, matches_wholePattern.mp hwhole, hfraction, rfl⟩
  · rintro ⟨whole, fraction, hwhole, hfraction, rfl⟩
    exact ⟨whole, matches_wholePattern.mpr hwhole, _,
      matches_optional_fractionPattern.mpr ⟨fraction, hfraction, rfl⟩, rfl⟩

/-- The pattern matches exactly the texts that have its parts. -/
theorem matches_amountPattern {text : Text} :
    text ∈ amountPattern.matches' ↔ ∃ amount : AmountText, amount.text = text := by
  rw [amountPattern, matches_mul]
  constructor
  · rintro ⟨sign, hsign, unsigned, hunsigned, rfl⟩
    obtain ⟨whole, fraction, hwhole, hfraction, rfl⟩ := matches_unsigned.mp hunsigned
    rcases matches_optional.mp hsign with rfl | hminus
    · exact ⟨⟨false, whole, fraction, hwhole, hfraction⟩, rfl⟩
    · rw [matches_char.mp hminus]
      exact ⟨⟨true, whole, fraction, hwhole, hfraction⟩, rfl⟩
  · rintro ⟨⟨negative, whole, fraction, hwhole, hfraction⟩, rfl⟩
    have hunsigned := matches_unsigned.mpr ⟨whole, fraction, hwhole, hfraction, rfl⟩
    cases negative with
    | true => exact ⟨['-'], matches_optional.mpr (Or.inr (matches_char.mpr rfl)), _, hunsigned, rfl⟩
    | false => exact ⟨[], matches_optional.mpr (Or.inl rfl), _, hunsigned, rfl⟩

/-! ## Exactness -/

/-- Nothing but zeros is behind the decimal places that are kept. -/
theorem no_digit_lost_iff {fraction : Text} (hdigits : IsDigits fraction) (scale : ℕ) :
    (scale < fraction.length && (fraction.drop scale).any (· ∈ nonzeroDigits)) = false
      ↔ ∀ c ∈ fraction.drop scale, c = '0' := by
  rw [Bool.and_eq_false_iff, decide_eq_false_iff_not, not_lt, List.any_eq_false]
  constructor
  · rintro (hshort | hzeros) c hc
    · rw [List.drop_eq_nil_of_le hshort] at hc
      cases hc
    · by_contra hne
      have hdigit := isDigits_drop hdigits scale c hc
      exact hzeros c hc (decide_eq_true (mem_nonzeroDigits_iff.mpr ⟨hdigit, hne⟩))
  · intro hzeros
    right
    intro c hc hnonzero
    exact (mem_nonzeroDigits_iff.mp (of_decide_eq_true hnonzero)).2 (hzeros c hc)

/-- The digits before the point after scaling, as the conversion reads them. -/
def AmountText.magnitude (amount : AmountText) (scale : ℕ) : ℕ :=
  digitsValue (amount.whole ++ shifted scale amount.fraction)

theorem readDigits_units (amount : AmountText) {scale : ℕ} (hscale : scale ≤ 3) :
    readDigits (amount.whole ++ (amount.fraction.take scale
        ++ List.replicate (scale - (amount.fraction.take scale).length) '0'))
      = amount.magnitude scale := by
  have hfill : scale - (amount.fraction.take scale).length = scale - amount.fraction.length := by
    rw [List.length_take]
    omega
  have hdigits : IsDigits (amount.whole ++ shifted scale amount.fraction) :=
    isDigits_append.mpr ⟨amount.isWhole.digits, isDigits_shifted amount.isFraction.digits scale⟩
  rw [hfill]
  apply readDigits_of_length hdigits
  rw [List.length_append, length_shifted]
  have hwhole := amount.isWhole.length_le
  omega

theorem amountUnits_eq_ok (amount : AmountText) {scale : ℕ} (hscale : scale ≤ 3) (units : ℤ) :
    amountUnits amount.text scale = .ok units ↔
      (∀ c ∈ amount.fraction.drop scale, c = '0') ∧ amount.magnitude scale ≤ 100_000_000
        ∧ (if amount.negative then -(amount.magnitude scale : ℤ) else amount.magnitude scale)
          = units := by
  have hsafe (n : ℕ) : (!isSafeInteger n || 100_000_000 < n) = false ↔ n ≤ 100_000_000 := by
    simp only [isSafeInteger, Bool.or_eq_false_iff, Bool.not_eq_false', decide_eq_true_eq,
      decide_eq_false_iff_not, not_lt]
    omega
  simp only [amountUnits, amount.isPrefixOf_text, amount.unsigned_of_text,
    amount.wholeAndFraction_unsigned, readDigits_units amount hscale, Checks.bind_eq_ok,
    Checks.failWhen_eq_ok, no_digit_lost_iff amount.isFraction.digits, hsafe, Checks.pure_eq_ok,
    exists_const]

theorem value_mul_pow_eq_iff (amount : AmountText) (scale : ℕ) (units : ℤ) :
    amount.value * 10 ^ scale = units ↔
      (∀ c ∈ amount.fraction.drop scale, c = '0')
        ∧ (if amount.negative then -(amount.magnitude scale : ℤ) else amount.magnitude scale)
          = units := by
  have hdigits := isDigits_drop amount.isFraction.digits scale
  have hscaled := pointValue_mul_pow amount.whole amount.fraction scale
  cases hnegative : amount.negative with
  | true =>
      have hvalue : amount.value * 10 ^ scale = units
          ↔ pointValue amount.whole amount.fraction * 10 ^ scale = ((-units : ℤ) : ℚ) := by
        rw [AmountText.value, hnegative, if_pos rfl, neg_mul, neg_eq_iff_eq_neg, Int.cast_neg]
      rw [hvalue, hscaled, pointValue_eq_int_iff hdigits, if_pos rfl, neg_eq_iff_eq_neg]
      rfl
  | false =>
      have hvalue : amount.value * 10 ^ scale = units
          ↔ pointValue amount.whole amount.fraction * 10 ^ scale = (units : ℚ) := by
        rw [AmountText.value, hnegative, if_neg Bool.false_ne_true]
      rw [hvalue, hscaled, pointValue_eq_int_iff hdigits, if_neg Bool.false_ne_true]
      rfl

theorem amountUnits_eq_ok_iff (amount : AmountText) {scale : ℕ} (hscale : scale ≤ 3) (units : ℤ) :
    amountUnits amount.text scale = .ok units ↔
      textValue amount.text * 10 ^ scale = units ∧ |units| ≤ 100_000_000 := by
  rw [amountUnits_eq_ok amount hscale, amount.textValue_text, value_mul_pow_eq_iff, and_assoc]
  apply and_congr_right
  intro _
  rw [and_comm]
  apply and_congr_right
  rintro rfl
  cases amount.negative with
  | true => simp
  | false => simp

theorem currencyScale_le (currency : Text) : currencyScale currency ≤ 3 := by
  unfold currencyScale
  split <;> decide

theorem conversion_eq_ok_iff (amount : ProviderAmount) (currency : Text) (units : ℤ) :
    providerMajorAmountToInternalUnits amount currency = .ok units ↔
      isCurrency (normalizedCurrency currency) = true ∧ amount.isFinite = true
        ∧ amount.normalized ∈ amountPattern.matches'
        ∧ textValue amount.normalized * 10 ^ currencyScale currency = units
        ∧ |units| ≤ 100_000_000 := by
  simp only [providerMajorAmountToInternalUnits, Checks.bind_eq_ok, Checks.failWhen_eq_ok,
    Bool.not_eq_false', exists_const, rmatch_iff_matches']
  apply and_congr_right
  intro _
  apply and_congr_right
  intro _
  apply and_congr_right
  intro hmatches
  obtain ⟨parts, hparts⟩ := matches_amountPattern.mp hmatches
  rw [← hparts]
  exact amountUnits_eq_ok_iff parts (currencyScale_le currency) units

/-- No text of the pattern has an exponent. -/
theorem exponent_notMem {text : Text} (hmatches : text ∈ amountPattern.matches') :
    'e' ∉ text := by
  obtain ⟨amount, rfl⟩ := matches_amountPattern.mp hmatches
  have hdigit : 'e' ∉ decimalDigits := by simp [decimalDigits]
  have hwhole : 'e' ∉ amount.whole := fun hmem => hdigit (amount.isWhole.digits _ hmem)
  have hfraction : 'e' ∉ amount.fraction := fun hmem => hdigit (amount.isFraction.digits _ hmem)
  have hunsigned : 'e' ∉ amount.unsigned := by
    unfold AmountText.unsigned AmountText.pointText
    split <;> simp [hwhole, hfraction]
  unfold AmountText.text
  split
  · simp [hunsigned]
  · exact hunsigned

/-- An amount is converted exactly when its scaled value is an integer within the
limits, and this integer is the result.  The text of a number is the shortest one,
and what is converted has the value of that text. -/
theorem conversion_exact :
    (∀ (text currency : Text) (units : ℤ),
      providerMajorAmountToInternalUnits (.text text) currency = .ok units ↔
        isCurrency (normalizedCurrency currency) = true
          ∧ Text.trim text ∈ amountPattern.matches'
          ∧ textValue (Text.trim text) * 10 ^ currencyScale currency = units
          ∧ |units| ≤ 100_000_000)
      ∧ ∀ (number : Number) (currency : Text) (units : ℤ),
        providerMajorAmountToInternalUnits (.number number) currency = .ok units →
          number.value * 10 ^ currencyScale currency = units := by
  constructor
  · intro text currency units
    rw [conversion_eq_ok_iff]
    simp [ProviderAmount.isFinite, ProviderAmount.normalized]
  · intro number currency units hconverted
    obtain ⟨-, hfinite, hmatches, hvalue, -⟩ := (conversion_eq_ok_iff _ _ _).mp hconverted
    rw [← Number.textValue_text hfinite (exponent_notMem hmatches)]
    exact hvalue

example : providerMajorAmountToInternalUnits (.text "39.75".toList) "USD".toList = .ok 3975 := by
  decide +kernel

end Stallorder.ProviderMoney
