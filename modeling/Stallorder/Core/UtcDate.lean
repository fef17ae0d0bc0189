import Stallorder.Core.Calendar
import Stallorder.Core.ZonedClock

/-!
# Dates of instants

The year, month and day that an instant has on a clock, and the instant that
`Date.UTC` makes of them.  It reads the years from 0 to 99 as those from 1900 to
1999; any other date is given back.
-/

namespace Stallorder.UtcDate

open Calendar ZonedClock

structure DateParts where
  year : ℤ
  month : ℤ
  day : ℤ
  deriving DecidableEq

/-- The date of a day. -/
def partsOfDay (day : ℤ) : DateParts where
  year := monthOfDay day / 12
  month := monthOfDay day % 12 + 1
  day := dayOfMonth day

/-- The day that `Date.UTC` makes of a date; the month counts from 0. -/
def utcDay (year month day : ℤ) : ℤ :=
  let year := if 0 ≤ year ∧ year ≤ 99 then 1900 + year else year
  monthStart (12 * year + month) + day - 1

/-- `Date.UTC` without a time. -/
def dateUTC (year month day : ℤ) : ℤ := utcDay year month day * dayLength

def dayOf (instant : ℤ) : ℤ := instant / dayLength

def timeOfDay (instant : ℤ) : ℤ := instant % dayLength

/-- The months of the years that `Date.UTC` reads as others. -/
def Misread (month : ℤ) : Prop := 0 ≤ month ∧ month < 1200

instance (month : ℤ) : Decidable (Misread month) := inferInstanceAs (Decidable (_ ∧ _))

variable {month day instant : ℤ}

/-- The first day of a month by its year and number. -/
theorem utcDay_month (month day : ℤ) :
    utcDay (month / 12) (month % 12) day
      = monthStart (if Misread month then month + 22_800 else month) + day - 1 := by
  by_cases hread : Misread month
  · have hyear : 0 ≤ month / 12 ∧ month / 12 ≤ 99 := by
      unfold Misread at hread
      omega
    have hmonth : 12 * (1900 + month / 12) + month % 12 = month + 22_800 := by omega
    rw [utcDay, if_pos hread, if_pos hyear, hmonth]
  · have hyear : ¬(0 ≤ month / 12 ∧ month / 12 ≤ 99) := by
      unfold Misread at hread
      omega
    have hmonth : 12 * (month / 12) + month % 12 = month := by omega
    rw [utcDay, if_neg hread, if_neg hyear, hmonth]

theorem utcDay_add (year month day days : ℤ) :
    utcDay year month (day + days) = utcDay year month day + days := by
  simp only [utcDay]
  ring

theorem utcDay_partsOfDay (hread : ¬Misread (monthOfDay day)) :
    utcDay (partsOfDay day).year ((partsOfDay day).month - 1) (partsOfDay day).day = day := by
  simp only [partsOfDay, add_sub_cancel_right]
  rw [utcDay_month, if_neg hread, dayOfMonth]
  ring

theorem le_dayOf_iff : day ≤ dayOf instant ↔ day * dayLength ≤ instant :=
  Int.le_ediv_iff_mul_le dayLength_pos

theorem dayOf_lt_iff : dayOf instant < day ↔ instant < day * dayLength :=
  Int.ediv_lt_iff_lt_mul dayLength_pos

@[simp]
theorem dayOf_mul (day : ℤ) : dayOf (day * dayLength) = day :=
  Int.mul_ediv_cancel _ dayLength_pos.ne'

end Stallorder.UtcDate
