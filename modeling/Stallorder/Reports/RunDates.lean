import Stallorder.Reports.ReportScheduling

/-!
# The local date of a run

A run is made for a date of the schedule.  It lands on that date unless the
clocks skip the time of sending, and what the corrections make of it shows
another date: the last hours of the day before, or the first of the day after.
-/

namespace Stallorder.Reports

open Calendar ZonedClock UtcDate

/-- Dates from February of the year 100 on are read as they are on every clock. -/
def readableFrom : ℤ := monthStart 1_201

variable (schedule : ScheduleTime) (date : ℤ)

def zoneOf : TimeZone := schedule.timezone.toTimeZone

def sendTime : ℤ := schedule.sendHour * 3_600_000 + schedule.sendMinute * 60_000

/-- The local time of sending, read as UTC. -/
def sendTarget : ℤ := date * dayLength + sendTime schedule

/-- The run for a date. -/
def runOn : ℤ :=
  zonedDateTimeToUtc (zoneOf schedule) (partsOfDay date) schedule.sendHour schedule.sendMinute

/-- The date on which the run for a date lands. -/
def landingDay : ℤ := dayOf (wallClock (zoneOf schedule) (runOn schedule date))

/-- The offset of an instant in whole minutes. -/
def minuteOffset (instant : ℤ) : ℤ := floorTo minuteLength ((zoneOf schedule).offset instant)

/-- The clocks skip the time of sending at a change. -/
def SkipsSending (change : ℤ) : Prop :=
  Skips (sendTarget schedule date) change (minuteOffset schedule (change - 1))
    (minuteOffset schedule change)

/-- The time of sending is skipped, and taken back across midnight. -/
def MovedBack : Prop :=
  ∃ change, SkipsSending schedule date change ∧ sendTarget schedule date < change
    ∧ sendTime schedule + (zoneOf schedule).offset (change - 1)
        < minuteOffset schedule change

/-- The time of sending is skipped, and put off across midnight. -/
def MovedOn : Prop :=
  ∃ change, SkipsSending schedule date change ∧ change ≤ sendTarget schedule date
    ∧ dayLength + minuteOffset schedule (change - 1)
        ≤ sendTime schedule + (zoneOf schedule).offset change

variable {schedule date} {instant change : ℤ}

/-! ## Reading clocks to the minute -/

theorem sendTime_bounds (schedule : ScheduleTime) :
    0 ≤ sendTime schedule ∧ sendTime schedule ≤ dayLength - minuteLength := by
  have hhour := schedule.sendHour_range
  have hminute := schedule.sendMinute_range
  unfold sendTime dayLength minuteLength
  omega

theorem minute_dvd_sendTarget : minuteLength ∣ sendTarget schedule date := by
  refine dvd_add (Dvd.dvd.mul_left (by norm_num) _) (dvd_add ?_ ?_)
  · exact Dvd.dvd.mul_left (by norm_num) _
  · exact dvd_mul_left _ _

theorem floorTo_minutes (instant : ℤ) :
    dayOf instant * dayLength + timeOfDay instant / 3_600_000 * 3_600_000
        + timeOfDay instant / 60_000 % 60 * 60_000
      = floorTo minuteLength instant := by
  unfold dayOf timeOfDay floorTo dayLength minuteLength
  omega

theorem not_misread_of_readable (hreadable : readableFrom ≤ date + 2) :
    ¬Misread (monthOfDay date) := by
  have hstart : monthStart 1_200 + 2 ≤ readableFrom := by decide
  have hmonth : 1_200 ≤ monthOfDay date := le_monthOfDay_iff.mpr (by omega)
  unfold Misread
  omega

theorem representedMinute_eq {zone : TimeZone}
    (hreadable : readableFrom ≤ dayOf (wallClock zone instant) + 2) :
    representedMinute zone instant = floorTo minuteLength (wallClock zone instant) := by
  rw [← floorTo_minutes]
  simp only [representedMinute, zonedDate, dateUTC]
  rw [utcDay_partsOfDay (not_misread_of_readable hreadable)]

theorem switches_representedMinute
    (hswitch : SwitchesAt (zoneOf schedule) (sendTarget schedule date - dayLength) change)
    (hreadable : readableFrom ≤ date) :
    Switches (representedMinute (zoneOf schedule)) minuteLength (sendTarget schedule date) change
      (minuteOffset schedule (change - 1)) (minuteOffset schedule change) := by
  have hfloors := hswitch.switches minuteLength_pos (le_refl _) minute_dvd_sendTarget
  refine ⟨fun guess hguess hlower hupper => ?_, minute_dvd_sendTarget, hfloors.before_dvd,
    hfloors.after_dvd, hfloors.abs_before, hfloors.abs_after⟩
  refine (representedMinute_eq ?_).trans (hfloors.shown_eq guess hguess hlower hupper)
  have hbound := abs_le.mp ((zoneOf schedule).abs_offset_le guess)
  have htime := sendTime_bounds schedule
  have hminute := minuteLength_pos
  have hday : date - 2 ≤ dayOf (wallClock (zoneOf schedule) guess) := by
    rw [le_dayOf_iff, wallClock, sub_mul]
    unfold sendTarget at hlower
    omega
  omega

theorem runOn_eq_correctGuess (hreadable : readableFrom ≤ date) :
    runOn schedule date
      = correctGuess (representedMinute (zoneOf schedule)) (sendTarget schedule date) 4
          (sendTarget schedule date) := by
  simp only [runOn, zonedDateTimeToUtc, dateUTC]
  rw [utcDay_partsOfDay (not_misread_of_readable (by omega)), sendTarget, sendTime, add_assoc]

theorem runOn_eq_settled
    (hswitch : SwitchesAt (zoneOf schedule) (sendTarget schedule date - dayLength) change)
    (hreadable : readableFrom ≤ date) :
    runOn schedule date
      = settled (sendTarget schedule date) change (minuteOffset schedule (change - 1))
          (minuteOffset schedule change) := by
  rw [runOn_eq_correctGuess hreadable]
  exact (switches_representedMinute hswitch hreadable).correctGuess_eq_settled

/-! ## Where the run lands -/

theorem minuteOffset_bounds (schedule : ScheduleTime) (instant : ℤ) :
    minuteOffset schedule instant ≤ (zoneOf schedule).offset instant
      ∧ (zoneOf schedule).offset instant < minuteOffset schedule instant + minuteLength :=
  ⟨floorTo_le minuteLength_pos _, lt_floorTo_add minuteLength_pos _⟩

theorem abs_minuteOffset_lt (schedule : ScheduleTime) (instant : ℤ) :
    |minuteOffset schedule instant| < dayLength :=
  abs_floorTo_lt minuteLength_pos (le_refl _) ((zoneOf schedule).abs_offset_le instant)

/-- Only the change near the time of sending can skip it. -/
theorem eq_of_skipsSending {other : ℤ}
    (hswitch : SwitchesAt (zoneOf schedule) (sendTarget schedule date - dayLength) change)
    (hskips : SkipsSending schedule date other) : other = change := by
  have hbefore := abs_lt.mp (abs_minuteOffset_lt schedule (other - 1))
  have hafter := abs_lt.mp (abs_minuteOffset_lt schedule other)
  unfold SkipsSending Skips at hskips
  refine hswitch.eq_of_differs (by omega) (by omega) fun hsame => ?_
  have hminutes : minuteOffset schedule other = minuteOffset schedule (other - 1) :=
    congrArg (floorTo minuteLength) hsame
  omega

theorem movedBack_iff
    (hswitch : SwitchesAt (zoneOf schedule) (sendTarget schedule date - dayLength) change) :
    MovedBack schedule date ↔ SkipsSending schedule date change
      ∧ sendTarget schedule date < change
      ∧ sendTime schedule + (zoneOf schedule).offset (change - 1)
          < minuteOffset schedule change := by
  constructor
  · rintro ⟨other, hskips, hmoved⟩
    cases eq_of_skipsSending hswitch hskips
    exact ⟨hskips, hmoved⟩
  · exact fun hmoved => ⟨change, hmoved⟩

theorem movedOn_iff
    (hswitch : SwitchesAt (zoneOf schedule) (sendTarget schedule date - dayLength) change) :
    MovedOn schedule date ↔ SkipsSending schedule date change
      ∧ change ≤ sendTarget schedule date
      ∧ dayLength + minuteOffset schedule (change - 1)
          ≤ sendTime schedule + (zoneOf schedule).offset change := by
  constructor
  · rintro ⟨other, hskips, hmoved⟩
    cases eq_of_skipsSending hswitch hskips
    exact ⟨hskips, hmoved⟩
  · exact fun hmoved => ⟨change, hmoved⟩

/-- The time that a clock shows at the run. -/
theorem wallClock_runOn
    (hswitch : SwitchesAt (zoneOf schedule) (sendTarget schedule date - dayLength) change)
    (hreadable : readableFrom ≤ date) :
    wallClock (zoneOf schedule) (runOn schedule date)
      = changedClock change ((zoneOf schedule).offset (change - 1))
          ((zoneOf schedule).offset change) (runOn schedule date) := by
  have hwithin := (switches_representedMinute hswitch hreadable).settled_within
  rw [← runOn_eq_settled hswitch hreadable] at hwithin
  rw [wallClock, hswitch.offset_eq _ (by omega) (by omega), changedClock]

theorem dayOf_eq_iff {day : ℤ} :
    dayOf instant = day ↔ day * dayLength ≤ instant ∧ instant < (day + 1) * dayLength := by
  rw [← le_dayOf_iff, ← dayOf_lt_iff]
  omega

/-- The clocks are changed by at most two hours. -/
theorem abs_change_le (schedule : ScheduleTime) (change : ℤ) :
    |(zoneOf schedule).offset change - (zoneOf schedule).offset (change - 1)|
      ≤ 120 * minuteLength :=
  schedule.timezone.step_le change

/-- A time of sending that is not skipped is shown, to the minute. -/
theorem wallClock_of_not_skips
    (hswitch : SwitchesAt (zoneOf schedule) (sendTarget schedule date - dayLength) change)
    (hreadable : readableFrom ≤ date) (hskips : ¬SkipsSending schedule date change) :
    sendTarget schedule date ≤ wallClock (zoneOf schedule) (runOn schedule date)
      ∧ wallClock (zoneOf schedule) (runOn schedule date)
        < sendTarget schedule date + minuteLength := by
  have hbefore := minuteOffset_bounds schedule (change - 1)
  have hafter := minuteOffset_bounds schedule change
  rw [wallClock_runOn hswitch hreadable, runOn_eq_settled hswitch hreadable,
    settled_of_not_skips hskips]
  unfold SkipsSending Skips at hskips
  unfold changedClock
  split_ifs <;> omega

theorem wallClock_of_skips
    (hswitch : SwitchesAt (zoneOf schedule) (sendTarget schedule date - dayLength) change)
    (hreadable : readableFrom ≤ date) (hskips : SkipsSending schedule date change) :
    wallClock (zoneOf schedule) (runOn schedule date)
      = sendTarget schedule date
        + if sendTarget schedule date < change then
            (zoneOf schedule).offset (change - 1) - minuteOffset schedule change
          else (zoneOf schedule).offset change - minuteOffset schedule (change - 1) := by
  rw [wallClock_runOn hswitch hreadable, runOn_eq_settled hswitch hreadable,
    settled_of_skips hskips]
  unfold SkipsSending Skips at hskips
  by_cases hside : sendTarget schedule date < change
  · rw [if_pos hside, if_pos hside, changedClock_of_lt hskips.1]
    ring
  · rw [if_neg hside, if_neg hside, changedClock_of_le hskips.2]
    ring

/-- A run lands on its date unless it is moved. -/
theorem landingDay_eq (schedule : ScheduleTime) (hreadable : readableFrom ≤ date) :
    (MovedBack schedule date → landingDay schedule date = date - 1)
      ∧ (MovedOn schedule date → landingDay schedule date = date + 1)
      ∧ (¬MovedBack schedule date → ¬MovedOn schedule date → landingDay schedule date = date) := by
  obtain ⟨change, hswitch⟩ := exists_switchesAt (zoneOf schedule)
    (sendTarget schedule date - dayLength)
  have htime := sendTime_bounds schedule
  have hminute := minuteLength_pos
  have hstep := abs_le.mp (abs_change_le schedule change)
  have hbefore := minuteOffset_bounds schedule (change - 1)
  have hafter := minuteOffset_bounds schedule change
  have hday : 120 * minuteLength + minuteLength < dayLength := by norm_num
  have htarget : sendTarget schedule date = date * dayLength + sendTime schedule := rfl
  rw [movedBack_iff hswitch, movedOn_iff hswitch]
  simp only [landingDay, dayOf_eq_iff, sub_mul, add_mul, one_mul]
  by_cases hskips : SkipsSending schedule date change
  · rw [wallClock_of_skips hswitch hreadable hskips]
    simp only [hskips, true_and]
    unfold SkipsSending Skips at hskips
    by_cases hside : sendTarget schedule date < change
    · rw [if_pos hside]
      omega
    · rw [if_neg hside]
      omega
  · have hshown := wallClock_of_not_skips hswitch hreadable hskips
    simp only [hskips, false_and, false_imp_iff, true_and, not_false_eq_true, true_imp_iff]
    omega

end Stallorder.Reports
