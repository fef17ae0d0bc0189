import Mathlib

/-!
# Months and days

Days are counted from the first of January 1970, months from the January of the
year 0, both without end in either direction.  The first day of a month has a
closed form, in which a year begins in March so that the leap day comes last.
The month of a day is estimated from the mean length of a month, which is off by
at most one.
-/

namespace Stallorder.Calendar

/-- Leap days before a year that begins in March. -/
def leapDays (year : ℤ) : ℤ := year / 4 - year / 100 + year / 400

/-- The first day of a month. -/
def monthStart (month : ℤ) : ℤ :=
  let year := (month - 2) / 12
  365 * year + leapDays year + (153 * ((month - 2) % 12) + 2) / 5 - 719468

/-- There are 4800 months in 146097 days. -/
def estimatedMonth (day : ℤ) : ℤ := 4800 * (day + 719528) / 146097

def monthOfDay (day : ℤ) : ℤ :=
  let estimate := estimatedMonth day
  if day < monthStart estimate then estimate - 1
  else if monthStart (estimate + 1) ≤ day then estimate + 1
  else estimate

def dayOfMonth (day : ℤ) : ℤ := day - monthStart (monthOfDay day) + 1

/-! ## The months follow one another -/

theorem leapDays_succ (year : ℤ) :
    leapDays year ≤ leapDays (year + 1) ∧ leapDays (year + 1) ≤ leapDays year + 1 := by
  unfold leapDays
  omega

theorem monthStart_eq (year offset : ℤ) (hoffset : 0 ≤ offset ∧ offset < 12) :
    monthStart (12 * year + offset + 2)
      = 365 * year + leapDays year + (153 * offset + 2) / 5 - 719468 := by
  have hyear : (12 * year + offset + 2 - 2) / 12 = year := by omega
  have hmonth : (12 * year + offset + 2 - 2) % 12 = offset := by omega
  simp only [monthStart, hyear, hmonth]

theorem exists_year_offset (month : ℤ) :
    ∃ year offset : ℤ, month = 12 * year + offset + 2 ∧ 0 ≤ offset ∧ offset < 12 :=
  ⟨(month - 2) / 12, (month - 2) % 12, by omega, by omega, by omega⟩

/-- A month has at least 28 and at most 31 days. -/
theorem monthStart_succ_bounds (month : ℤ) :
    monthStart month + 28 ≤ monthStart (month + 1)
      ∧ monthStart (month + 1) ≤ monthStart month + 31 := by
  obtain ⟨year, offset, rfl, hlower, hupper⟩ := exists_year_offset month
  rw [monthStart_eq year offset ⟨hlower, hupper⟩]
  by_cases hlast : offset = 11
  · -- The year ends with February, which takes the leap day.
    have hleap := leapDays_succ year
    have hnext : 12 * year + offset + 2 + 1 = 12 * (year + 1) + 0 + 2 := by omega
    rw [hnext, monthStart_eq (year + 1) 0 ⟨le_refl 0, by omega⟩]
    omega
  · have hnext : 12 * year + offset + 2 + 1 = 12 * year + (offset + 1) + 2 := by omega
    rw [hnext, monthStart_eq year (offset + 1) ⟨by omega, by omega⟩]
    omega

theorem monthStart_strictMono : StrictMono monthStart :=
  strictMono_int_of_lt_succ fun month => by
    have hlength := monthStart_succ_bounds month
    omega

theorem monthStart_le_iff {left right : ℤ} : monthStart left ≤ monthStart right ↔ left ≤ right :=
  monthStart_strictMono.le_iff_le

theorem monthStart_lt_iff {left right : ℤ} : monthStart left < monthStart right ↔ left < right :=
  monthStart_strictMono.lt_iff_lt

/-- The months are estimated by their mean length. -/
theorem monthStart_estimate (month : ℤ) :
    146097 * month - 20000 ≤ 4800 * (monthStart month + 719528)
      ∧ 4800 * (monthStart month + 719528) ≤ 146097 * month + 20000 := by
  simp only [monthStart, leapDays]
  omega

/-! ## The month of a day -/

/-- A day lies in one month. -/
theorem eq_of_within {left right day : ℤ}
    (hleft : monthStart left ≤ day ∧ day < monthStart (left + 1))
    (hright : monthStart right ≤ day ∧ day < monthStart (right + 1)) : left = right := by
  have hle : left < right + 1 := monthStart_lt_iff.mp (hleft.1.trans_lt hright.2)
  have hge : right < left + 1 := monthStart_lt_iff.mp (hright.1.trans_lt hleft.2)
  omega

theorem within_monthOfDay (day : ℤ) :
    monthStart (monthOfDay day) ≤ day ∧ day < monthStart (monthOfDay day + 1) := by
  have hdiv := Int.mul_ediv_add_emod (4800 * (day + 719528)) 146097
  have hnonneg := Int.emod_nonneg (4800 * (day + 719528)) (by norm_num : (146097 : ℤ) ≠ 0)
  have hlt := Int.emod_lt_of_pos (4800 * (day + 719528)) (by norm_num : (0 : ℤ) < 146097)
  rw [← estimatedMonth] at hdiv
  simp only [monthOfDay]
  by_cases hbefore : day < monthStart (estimatedMonth day)
  · rw [if_pos hbefore, sub_add_cancel]
    have hestimate := monthStart_estimate (estimatedMonth day - 1)
    exact ⟨by omega, hbefore⟩
  · rw [if_neg hbefore]
    by_cases hafter : monthStart (estimatedMonth day + 1) ≤ day
    · rw [if_pos hafter]
      have hestimate := monthStart_estimate (estimatedMonth day + 1 + 1)
      exact ⟨hafter, by omega⟩
    · rw [if_neg hafter]
      exact ⟨not_lt.mp hbefore, not_le.mp hafter⟩

theorem monthOfDay_eq_iff {day month : ℤ} :
    monthOfDay day = month ↔ monthStart month ≤ day ∧ day < monthStart (month + 1) := by
  constructor
  · rintro rfl
    exact within_monthOfDay day
  · exact fun hwithin => eq_of_within (within_monthOfDay day) hwithin

theorem le_monthOfDay_iff {day month : ℤ} : month ≤ monthOfDay day ↔ monthStart month ≤ day := by
  obtain ⟨hstart, hend⟩ := within_monthOfDay day
  constructor
  · exact fun hle => (monthStart_le_iff.mpr hle).trans hstart
  · intro hle
    have hlt : month < monthOfDay day + 1 := monthStart_lt_iff.mp (hle.trans_lt hend)
    omega

@[simp]
theorem monthOfDay_monthStart (month : ℤ) : monthOfDay (monthStart month) = month :=
  monthOfDay_eq_iff.mpr ⟨le_refl _, monthStart_strictMono (by omega)⟩

end Stallorder.Calendar
