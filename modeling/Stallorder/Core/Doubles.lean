import Mathlib

/-!
# Arithmetic in doubles

A number of the language has 53 significant bits.  A result is the double that is
nearest to the exact value; of two that are equally near it is the one with the
even significand.  The bounds hold in the range of the normal doubles, which is
the only one that amounts come from.
-/

namespace Stallorder.Doubles

/-! ## Rounding to an integer -/

/-- The nearest integer, the even one of two that are equally near. -/
def roundEven (value : ℚ) : ℤ :=
  if Int.fract value < 1 / 2 then ⌊value⌋
  else if 1 / 2 < Int.fract value then ⌊value⌋ + 1
  else if ⌊value⌋ % 2 = 0 then ⌊value⌋
  else ⌊value⌋ + 1

theorem abs_roundEven_sub_le (value : ℚ) : |(roundEven value : ℚ) - value| ≤ 1 / 2 := by
  have hsplit : (⌊value⌋ : ℚ) + Int.fract value = value := Int.floor_add_fract value
  have hnonneg : 0 ≤ Int.fract value := Int.fract_nonneg value
  have hlt : Int.fract value < 1 := Int.fract_lt_one value
  rw [abs_le, roundEven]
  split_ifs
  · constructor <;> linarith
  · push_cast
    constructor <;> linarith
  · constructor <;> linarith
  · push_cast
    constructor <;> linarith

theorem floor_le_roundEven (value : ℚ) : ⌊value⌋ ≤ roundEven value := by
  rw [roundEven]
  split_ifs <;> omega

theorem roundEven_intCast (number : ℤ) : roundEven number = number := by
  rw [roundEven, Int.fract_intCast, if_pos one_half_pos, Int.floor_intCast]

/-! ## The nearest double -/

/-- The distance of the doubles of the size of a value. -/
def spacing (value : ℚ) : ℚ := 2 ^ (Int.log 2 |value| - 52)

def toDouble (value : ℚ) : ℚ := roundEven (value / spacing value) * spacing value

theorem spacing_pos (value : ℚ) : 0 < spacing value := zpow_pos two_pos _

theorem toDouble_zero : toDouble 0 = 0 := by
  have hzero : roundEven 0 = 0 := roundEven_intCast 0
  rw [toDouble, zero_div, hzero, Int.cast_zero, zero_mul]

theorem spacing_le (value : ℚ) (hvalue : value ≠ 0) : spacing value ≤ |value| / 2 ^ 52 := by
  have hlog : (2 : ℚ) ^ Int.log 2 |value| ≤ |value| := by
    exact_mod_cast Int.zpow_log_le_self one_lt_two (abs_pos.mpr hvalue)
  rw [spacing, zpow_sub₀ two_ne_zero]
  exact div_le_div_of_nonneg_right hlog (by positivity)

/-- Rounding changes a value by a part in two to the power of 53 at most. -/
theorem abs_toDouble_sub_le (value : ℚ) : |toDouble value - value| ≤ |value| / 2 ^ 53 := by
  rcases eq_or_ne value 0 with rfl | hvalue
  · rw [toDouble_zero, sub_zero, abs_zero, zero_div]
  · have hpos : 0 < spacing value := spacing_pos value
    have hscaled : toDouble value - value
        = (roundEven (value / spacing value) - value / spacing value) * spacing value := by
      rw [toDouble, sub_mul, div_mul_cancel₀ _ hpos.ne']
    calc |toDouble value - value|
        = |(roundEven (value / spacing value) : ℚ) - value / spacing value| * spacing value := by
          rw [hscaled, abs_mul, abs_of_pos hpos]
      _ ≤ 1 / 2 * (|value| / 2 ^ 52) :=
          mul_le_mul (abs_roundEven_sub_le _) (spacing_le value hvalue) hpos.le (by norm_num)
      _ = |value| / 2 ^ 53 := by ring

theorem toDouble_bounds {value : ℚ} (hnonneg : 0 ≤ value) :
    value * (1 - 1 / 2 ^ 53) ≤ toDouble value ∧ toDouble value ≤ value * (1 + 1 / 2 ^ 53) := by
  have herror : |toDouble value - value| ≤ |value| / 2 ^ 53 := abs_toDouble_sub_le value
  rw [abs_of_nonneg hnonneg, abs_le] at herror
  constructor <;> linarith [herror.1, herror.2]

theorem toDouble_nonneg {value : ℚ} (hnonneg : 0 ≤ value) : 0 ≤ toDouble value :=
  (mul_nonneg hnonneg (by norm_num)).trans (toDouble_bounds hnonneg).1

/-- A quotient of a rounded number is rounded twice. -/
theorem toDouble_div_bounds {value divisor : ℚ} (hnonneg : 0 ≤ value) (hpos : 0 < divisor) :
    value / divisor * (1 - 1 / 2 ^ 51) ≤ toDouble (toDouble value / divisor)
      ∧ toDouble (toDouble value / divisor) ≤ value / divisor * (1 + 1 / 2 ^ 51) := by
  obtain ⟨hlower, hupper⟩ := toDouble_bounds hnonneg
  have hquotient : 0 ≤ value / divisor := div_nonneg hnonneg hpos.le
  obtain ⟨hbelow, habove⟩ :=
    toDouble_bounds (div_nonneg (toDouble_nonneg hnonneg) hpos.le)
  constructor
  · calc value / divisor * (1 - 1 / 2 ^ 51)
        ≤ value * (1 - 1 / 2 ^ 53) / divisor * (1 - 1 / 2 ^ 53) := by
          rw [mul_div_right_comm, mul_assoc]
          exact mul_le_mul_of_nonneg_left (by norm_num) hquotient
      _ ≤ toDouble value / divisor * (1 - 1 / 2 ^ 53) := by
          apply mul_le_mul_of_nonneg_right (div_le_div_of_nonneg_right hlower hpos.le)
          norm_num
      _ ≤ toDouble (toDouble value / divisor) := hbelow
  · calc toDouble (toDouble value / divisor)
        ≤ toDouble value / divisor * (1 + 1 / 2 ^ 53) := habove
      _ ≤ value * (1 + 1 / 2 ^ 53) / divisor * (1 + 1 / 2 ^ 53) := by
          apply mul_le_mul_of_nonneg_right (div_le_div_of_nonneg_right hupper hpos.le)
          norm_num
      _ ≤ value / divisor * (1 + 1 / 2 ^ 51) := by
          rw [mul_div_right_comm, mul_assoc]
          exact mul_le_mul_of_nonneg_left (by norm_num) hquotient

/-- Below two to the power of 53 every integer is a double. -/
theorem toDouble_intCast {number : ℤ} (hlt : |number| < 2 ^ 53) : toDouble number = number := by
  rcases eq_or_ne number 0 with rfl | hnumber
  · rw [Int.cast_zero, toDouble_zero]
  · have habs : (0 : ℚ) < |(number : ℚ)| := abs_pos.mpr (Int.cast_ne_zero.mpr hnumber)
    have hlog : Int.log 2 |(number : ℚ)| < 53 := by
      apply (Int.lt_zpow_iff_log_lt one_lt_two habs).mp
      exact_mod_cast hlt
    obtain ⟨bits, hbits⟩ := Int.eq_ofNat_of_zero_le
      (by omega : 0 ≤ 52 - Int.log 2 |(number : ℚ)|)
    have hspacing : spacing (number : ℚ) = (2 ^ bits : ℚ)⁻¹ := by
      rw [spacing, ← zpow_natCast, ← zpow_neg]
      congr 1
      omega
    have hscaled : (number : ℚ) / spacing (number : ℚ) = ((number * 2 ^ bits : ℤ) : ℚ) := by
      rw [hspacing, div_inv_eq_mul]
      push_cast
      rfl
    rw [toDouble, hscaled, roundEven_intCast, ← hscaled,
      div_mul_cancel₀ _ (spacing_pos _).ne']

/-- Rounding does not bring a value below two to the power of 53. -/
theorem two_pow_le_toDouble {value : ℚ} (hvalue : 2 ^ 53 ≤ value) : 2 ^ 53 ≤ toDouble value := by
  have hpos : 0 < value := lt_of_lt_of_le (by norm_num) hvalue
  have habs : |value| = value := abs_of_pos hpos
  have hlog : 53 ≤ Int.log 2 value := (Int.zpow_le_iff_le_log one_lt_two hpos).mp (by
    exact_mod_cast hvalue)
  have hself : (2 : ℚ) ^ Int.log 2 value ≤ value := by
    exact_mod_cast Int.zpow_log_le_self one_lt_two hpos
  have hscaled : ((2 ^ 52 : ℤ) : ℚ) ≤ value / spacing value := by
    rw [le_div_iff₀ (spacing_pos value), spacing, habs, zpow_sub₀ two_ne_zero]
    refine le_of_eq_of_le ?_ hself
    norm_num
    exact mul_div_cancel₀ _ (by norm_num)
  have hround : 2 ^ 52 ≤ roundEven (value / spacing value) :=
    (Int.le_floor.mpr hscaled).trans (floor_le_roundEven _)
  have hspacing : 2 ≤ spacing value := by
    rw [spacing, habs]
    calc (2 : ℚ) = 2 ^ (1 : ℤ) := (zpow_one 2).symm
      _ ≤ 2 ^ (Int.log 2 value - 52) := zpow_le_zpow_right₀ one_le_two (by omega)
  calc (2 : ℚ) ^ 53 = 2 ^ 52 * 2 := by norm_num
    _ ≤ roundEven (value / spacing value) * spacing value := by
        apply mul_le_mul _ hspacing two_pos.le
        · exact_mod_cast le_trans (by norm_num) hround
        · exact_mod_cast hround

/-! ## Sums -/

/-- Add up from the left; every sum is rounded. -/
def addDoubles (values : List ℚ) : ℚ := values.foldl (fun sum value => toDouble (sum + value)) 0

theorem addDoubles_append_singleton (values : List ℚ) (value : ℚ) :
    addDoubles (values ++ [value]) = toDouble (addDoubles values + value) :=
  List.foldl_concat _ _ _ _

theorem addDoubles_nonneg {values : List ℚ} (hvalues : ∀ value ∈ values, 0 ≤ value) :
    0 ≤ addDoubles values := by
  induction values using List.reverseRecOn with
  | nil => exact le_refl 0
  | append_singleton values value ih =>
      rw [addDoubles_append_singleton]
      rw [List.forall_mem_append, List.forall_mem_singleton] at hvalues
      exact toDouble_nonneg (add_nonneg (ih hvalues.1) hvalues.2)

/-- A sum of amounts that stays below two to the power of 53 was never rounded. -/
theorem addDoubles_intCast {numbers : List ℤ} (hnonneg : ∀ number ∈ numbers, 0 ≤ number)
    (hlt : addDoubles (numbers.map fun number : ℤ => toDouble number) < 2 ^ 53) :
    addDoubles (numbers.map fun number : ℤ => toDouble number) = (numbers.sum : ℤ) := by
  induction numbers using List.reverseRecOn with
  | nil => rfl
  | append_singleton numbers number ih =>
      rw [List.forall_mem_append, List.forall_mem_singleton] at hnonneg
      obtain ⟨hnumbers, hnumber⟩ := hnonneg
      rw [List.map_append, List.map_singleton, addDoubles_append_singleton] at hlt ⊢
      have hsum : 0 ≤ addDoubles (numbers.map fun number : ℤ => toDouble number) := by
        apply addDoubles_nonneg
        intro value hvalue
        obtain ⟨other, hother, rfl⟩ := List.mem_map.mp hvalue
        exact toDouble_nonneg (Int.cast_nonneg (hnumbers other hother))
      have hlast : 0 ≤ toDouble number := toDouble_nonneg (Int.cast_nonneg hnumber)
      have hexact := lt_of_not_ge fun hlarge => hlt.not_ge (two_pow_le_toDouble hlarge)
      have hsmall : (number : ℚ) < 2 ^ 53 := lt_of_not_ge fun hlarge =>
        (two_pow_le_toDouble hlarge).not_gt (by linarith)
      have hrest := ih hnumbers (by linarith)
      rw [hrest, toDouble_intCast (abs_lt.mpr ⟨by omega, by exact_mod_cast hsmall⟩)] at hexact ⊢
      have hbound : numbers.sum + number < 2 ^ 53 := by exact_mod_cast hexact
      have hpositive : 0 ≤ numbers.sum := List.sum_nonneg hnumbers
      rw [← Int.cast_add, toDouble_intCast (abs_lt.mpr ⟨by omega, hbound⟩), List.sum_append,
        List.sum_singleton]

/-! ## Whole numbers -/

/-- A number that is an integer. -/
def toInteger? (value : ℚ) : Option ℤ :=
  if value.den = 1 then some value.num else none

theorem toInteger?_eq_some {value : ℚ} {number : ℤ} :
    toInteger? value = some number ↔ value = number := by
  rw [toInteger?]
  constructor
  · intro hvalue
    split at hvalue
    · next hwhole =>
      cases hvalue
      exact (Rat.den_eq_one_iff value).mp hwhole |>.symm
    · cases hvalue
  · rintro rfl
    rw [if_pos (Rat.den_intCast number), Rat.num_intCast]

end Stallorder.Doubles
