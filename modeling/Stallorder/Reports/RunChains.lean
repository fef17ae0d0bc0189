import Stallorder.Reports.RunDates

/-!
# Chains of runs

The run after the run for a date is the run for the next date of the schedule,
wherever the two land.  The periods of the runs follow one another as long as
all runs are moved alike.
-/

namespace Stallorder.Reports

open Calendar ZonedClock UtcDate

/-! ## Runs come one after another -/

section Order

variable (zone : GradualZone) {schedule : ScheduleTime} {date : ℤ}

/-- Within two days the offset changes once, by at most two hours. -/
theorem abs_offset_sub_le_of_near {earlier later : ℤ} (hle : earlier ≤ later)
    (hnear : later < earlier + 2 * dayLength) :
    |zone.offset later - zone.offset earlier| ≤ 120 * minuteLength := by
  obtain ⟨change, hswitch⟩ := exists_switchesAt zone.toTimeZone earlier
  have hday := dayLength_pos
  have hminute := minuteLength_pos
  have hstep := abs_le.mp (zone.step_le change)
  rw [hswitch.offset_eq later hle hnear, hswitch.offset_eq earlier (le_refl _) (by omega)]
  refine abs_le.mpr ?_
  split_ifs <;> constructor <;> omega

theorem abs_offset_sub_le_of_le {earlier later : ℤ} (hle : earlier ≤ later)
    (hnear : later ≤ earlier + 3 * dayLength) :
    |zone.offset later - zone.offset earlier| ≤ 240 * minuteLength := by
  have hday : 4 < dayLength := by norm_num
  have hfirst := abs_le.mp (abs_offset_sub_le_of_near zone
    (by omega : earlier ≤ (earlier + later) / 2) (by omega))
  have hsecond := abs_le.mp (abs_offset_sub_le_of_near zone
    (by omega : (earlier + later) / 2 ≤ later) (by omega))
  exact abs_le.mpr ⟨by omega, by omega⟩

theorem abs_offset_sub_le {left right : ℤ} (hle : left ≤ right + 3 * dayLength)
    (hge : right ≤ left + 3 * dayLength) :
    |zone.offset right - zone.offset left| ≤ 240 * minuteLength := by
  rcases le_total left right with horder | horder
  · exact abs_offset_sub_le_of_le zone horder hge
  · rw [abs_sub_comm]
    exact abs_offset_sub_le_of_le zone horder hle

/-- A run differs from its target by an offset that is in force near it. -/
theorem exists_offset_runOn (schedule : ScheduleTime) (hreadable : readableFrom ≤ date) :
    ∃ instant, sendTarget schedule date - dayLength ≤ instant
      ∧ instant < sendTarget schedule date + dayLength
      ∧ runOn schedule date = sendTarget schedule date - minuteOffset schedule instant := by
  obtain ⟨change, hswitch⟩ := exists_switchesAt (zoneOf schedule)
    (sendTarget schedule date - dayLength)
  have hstart := hswitch.after_start
  have hend := hswitch.before_end
  rw [runOn_eq_settled hswitch hreadable]
  have hside : settled (sendTarget schedule date) change (minuteOffset schedule (change - 1))
        (minuteOffset schedule change)
      = sendTarget schedule date - minuteOffset schedule (change - 1)
      ∨ settled (sendTarget schedule date) change (minuteOffset schedule (change - 1))
        (minuteOffset schedule change)
      = sendTarget schedule date - minuteOffset schedule change := by
    unfold settled
    split_ifs <;> simp
  rcases hside with hbefore | hafter
  · exact ⟨change - 1, by omega, by omega, hbefore⟩
  · exact ⟨change, by omega, by omega, hafter⟩

theorem runOn_lt_runOn_succ (hreadable : readableFrom ≤ date) :
    runOn schedule date < runOn schedule (date + 1) := by
  obtain ⟨before, hbeforeFrom, hbeforeTo, hbefore⟩ := exists_offset_runOn schedule hreadable
  obtain ⟨after, hafterFrom, hafterTo, hafter⟩ :=
    exists_offset_runOn schedule (by omega : readableFrom ≤ date + 1)
  have htarget : sendTarget schedule (date + 1) = sendTarget schedule date + dayLength := by
    unfold sendTarget
    ring
  have hchange := abs_le.mp (abs_offset_sub_le schedule.timezone
    (by omega : before ≤ after + 3 * dayLength) (by omega))
  have hlower := minuteOffset_bounds schedule before
  have hupper := minuteOffset_bounds schedule after
  have hday : 240 * minuteLength + minuteLength < dayLength := by norm_num
  rw [hbefore, hafter, htarget]
  unfold zoneOf at hlower hupper
  omega

theorem runOn_lt_runOn {earlier later : ℤ} (hreadable : readableFrom ≤ earlier)
    (hlt : earlier < later) : runOn schedule earlier < runOn schedule later := by
  induction later, Int.add_one_le_of_lt hlt using Int.leInduction with
  | base => exact runOn_lt_runOn_succ hreadable
  | succ later hle ih =>
      exact (ih (by omega)).trans (runOn_lt_runOn_succ (by omega))

end Order

/-! ## The run after a run -/

section Next

variable {schedule : ScheduleTime} {date : ℤ}

/-- The days from one date of the schedule to the next. -/
def cycleDays (schedule : ScheduleTime) : ℤ :=
  if schedule.reportType = .weeklySales then 7 else 1

/-- The date is one on which the schedule sends. -/
def Scheduled (schedule : ScheduleTime) (date : ℤ) : Prop :=
  schedule.reportType = .weeklySales → schedule.dayOfWeek = some (weekday date)

theorem findSome?_range_eq_some {Value : Type} {search : ℕ → Option Value} {value : Value}
    {count : ℕ} (found : ℕ) (hfound : search found = some value) (hcount : found < count)
    (hnone : ∀ index < found, search index = none) :
    (List.range count).findSome? search = some value := by
  obtain ⟨more, rfl⟩ := Nat.exists_eq_add_of_lt hcount
  have hbefore : (List.range found).findSome? search = none :=
    List.findSome?_eq_none_iff.mpr fun index hindex => hnone index (List.mem_range.mp hindex)
  rw [add_assoc, List.range_add, List.findSome?_append, hbefore, Option.none_or, add_comm more 1,
    List.range_add, List.map_append, List.findSome?_append]
  simp [hfound]

theorem movedDay_partsOfDay {day : ℤ} (hreadable : readableFrom ≤ day + 2) (days : ℤ) :
    movedDay (partsOfDay day) days = day + days := by
  rw [movedDay, utcDay_add, utcDay_partsOfDay (not_misread_of_readable hreadable)]

theorem candidateRun_eq {after day : ℤ} (hreadable : readableFrom ≤ day + 2) (offset : ℕ) :
    candidateRun schedule after (partsOfDay day) offset
      = if schedule.reportType = .weeklySales
          ∧ some (weekday (day + offset)) ≠ schedule.dayOfWeek then none
        else if after < runOn schedule (day + offset) then some (runOn schedule (day + offset))
        else none := by
  simp only [candidateRun, addLocalDays, movedDay_partsOfDay hreadable]
  rfl

theorem landingDay_near (schedule : ScheduleTime) (hreadable : readableFrom ≤ date) :
    date - 1 ≤ landingDay schedule date ∧ landingDay schedule date ≤ date + 1
      ∧ (MovedBack schedule date ↔ landingDay schedule date = date - 1)
      ∧ (MovedOn schedule date ↔ landingDay schedule date = date + 1) := by
  obtain ⟨hback, hon, hstays⟩ := landingDay_eq schedule hreadable
  by_cases hmovedBack : MovedBack schedule date
  · have hlanding := hback hmovedBack
    have hnot : ¬MovedOn schedule date := fun hmovedOn => by
      have hother := hon hmovedOn
      omega
    exact ⟨by omega, by omega, iff_of_true hmovedBack hlanding, iff_of_false hnot (by omega)⟩
  · by_cases hmovedOn : MovedOn schedule date
    · have hlanding := hon hmovedOn
      exact ⟨by omega, by omega, iff_of_false hmovedBack (by omega), iff_of_true hmovedOn hlanding⟩
    · have hlanding := hstays hmovedBack hmovedOn
      exact ⟨by omega, by omega, iff_of_false hmovedBack (by omega),
        iff_of_false hmovedOn (by omega)⟩

theorem scheduled_add_cycle (hscheduled : Scheduled schedule date) :
    Scheduled schedule (date + cycleDays schedule) := by
  intro hweekly
  rw [hscheduled hweekly, cycleDays, if_pos hweekly]
  unfold weekday
  congr 1
  omega

/-- No date of the schedule lies between a run and the next. -/
theorem not_scheduled_between {other : ℤ} (hscheduled : Scheduled schedule date)
    (hlower : date - 1 ≤ other) (hupper : other < date + cycleDays schedule)
    (hother : Scheduled schedule other) : other ≤ date := by
  by_cases hweekly : schedule.reportType = .weeklySales
  · have hsame := (hscheduled hweekly).symm.trans (hother hweekly)
    rw [Option.some.injEq] at hsame
    rw [cycleDays, if_pos hweekly] at hupper
    unfold weekday at hsame
    omega
  · rw [cycleDays, if_neg hweekly] at hupper
    omega

theorem nextScheduledRun_runOn (hscheduled : Scheduled schedule date)
    (hreadable : readableFrom < date) :
    nextScheduledRun schedule (runOn schedule date)
      = some (runOn schedule (date + cycleDays schedule)) := by
  have hnear := landingDay_near schedule hreadable.le
  have hcycle : 1 ≤ cycleDays schedule ∧ cycleDays schedule ≤ 7 := by
    unfold cycleDays
    split_ifs <;> omega
  have hlocal : zonedDate schedule.timezone.toTimeZone (runOn schedule date)
      = partsOfDay (landingDay schedule date) := rfl
  obtain ⟨days, hdays⟩ :=
    Int.eq_ofNat_of_zero_le (by omega :
      0 ≤ date + cycleDays schedule - landingDay schedule date)
  simp only [nextScheduledRun, hlocal]
  refine findSome?_range_eq_some days ?_ (by omega) fun index hindex => ?_
  · have hdate : landingDay schedule date + (days : ℤ) = date + cycleDays schedule := by omega
    have hlater : runOn schedule date < runOn schedule (date + cycleDays schedule) :=
      runOn_lt_runOn hreadable.le (by omega)
    rw [candidateRun_eq (by omega), hdate, if_neg, if_pos hlater]
    rintro ⟨hweekly, hother⟩
    exact hother (scheduled_add_cycle hscheduled hweekly).symm
  · rw [candidateRun_eq (by omega)]
    by_cases hother : schedule.reportType = .weeklySales
        ∧ some (weekday (landingDay schedule date + index)) ≠ schedule.dayOfWeek
    · rw [if_pos hother]
    · rw [if_neg hother, if_neg]
      have hbefore : landingDay schedule date + (index : ℤ) ≤ date := by
        refine not_scheduled_between hscheduled (by omega) (by omega) fun hweekly => ?_
        by_contra hdiffers
        exact hother ⟨hweekly, fun hsame => hdiffers hsame.symm⟩
      rcases hbefore.eq_or_lt with hsame | hearlier
      · rw [hsame]
        exact lt_irrefl _
      · exact (runOn_lt_runOn (by omega) hearlier).asymm

end Next

/-! ## Chains -/

section Chains

/-- The day that a date stands for. -/
def dayOfParts (date : DateParts) : ℤ :=
  monthStart (12 * date.year + (date.month - 1)) + date.day - 1

/-- A period begins on the day after another ends. -/
def Follows (earlier later : ReportPeriod) : Prop :=
  dayOfParts later.periodStart = dayOfParts earlier.periodEnd + 1

/-- From a run on, there is always a next, later than the one before and reporting on the
days that follow. -/
def CoversDays (schedule : ScheduleTime) (first : ℤ) : Prop :=
  ∃ runs : ℕ → ℤ, runs 0 = first ∧ ∀ index,
    nextScheduledRun schedule (runs index) = some (runs (index + 1))
      ∧ runs index < runs (index + 1)
      ∧ Follows
          (reportPeriodForRun schedule.reportType (runs index) schedule.timezone.toTimeZone)
          (reportPeriodForRun schedule.reportType (runs (index + 1)) schedule.timezone.toTimeZone)

/-- A date of a schedule from the year 101 on: `Date.UTC` reads the years up to 99 as others. -/
structure FirstDate (schedule : ScheduleTime) where
  date : ℤ
  scheduled : Scheduled schedule date
  recent : monthStart 1_212 ≤ date

/-- Whatever is found is the run for a date of the schedule, and still to come. -/
theorem exists_firstDate_of_next {schedule : ScheduleTime} {after run : ℤ}
    (hrecent : monthStart 1_212 ≤ dayOf (wallClock (zoneOf schedule) after))
    (hnext : nextScheduledRun schedule after = some run) :
    ∃ first : FirstDate schedule, run = runOn schedule first.date ∧ after < run := by
  have hreadable : readableFrom < monthStart 1_212 := by decide
  obtain ⟨offset, -, hcandidate⟩ := List.exists_of_findSome?_eq_some hnext
  have hlocal : zonedDate schedule.timezone.toTimeZone after
      = partsOfDay (dayOf (wallClock (zoneOf schedule) after)) := rfl
  rw [hlocal, candidateRun_eq (by omega)] at hcandidate
  split_ifs at hcandidate with hother hlater
  cases hcandidate
  refine ⟨⟨dayOf (wallClock (zoneOf schedule) after) + offset, fun hweekly => ?_, by omega⟩, rfl,
    hlater⟩
  by_contra hdiffers
  exact hother ⟨hweekly, fun hsame => hdiffers hsame.symm⟩

/-- The run for a date and the run for the next are moved alike. -/
def MovedAlike (schedule : ScheduleTime) (date : ℤ) : Prop :=
  (MovedBack schedule date ↔ MovedBack schedule (date + cycleDays schedule))
    ∧ (MovedOn schedule date ↔ MovedOn schedule (date + cycleDays schedule))

variable {schedule : ScheduleTime} {date : ℤ}

theorem dayOfParts_partsOfDay (day : ℤ) : dayOfParts (partsOfDay day) = day := by
  have hmonth : 12 * (monthOfDay day / 12) + monthOfDay day % 12 = monthOfDay day := by omega
  simp only [dayOfParts, partsOfDay, add_sub_cancel_right, hmonth, dayOfMonth]
  ring

theorem period_runOn (schedule : ScheduleTime) (hreadable : readableFrom < date) :
    dayOfParts (reportPeriodForRun schedule.reportType (runOn schedule date)
        schedule.timezone.toTimeZone).periodEnd = landingDay schedule date - 1
      ∧ dayOfParts (reportPeriodForRun schedule.reportType (runOn schedule date)
        schedule.timezone.toTimeZone).periodStart
          = landingDay schedule date - cycleDays schedule := by
  have hnear := landingDay_near schedule hreadable.le
  have hlocal : zonedDate schedule.timezone.toTimeZone (runOn schedule date)
      = partsOfDay (landingDay schedule date) := rfl
  simp only [reportPeriodForRun, hlocal, addLocalDays]
  rw [movedDay_partsOfDay (by omega), dayOfParts_partsOfDay, movedDay_partsOfDay (by omega),
    dayOfParts_partsOfDay]
  refine ⟨by ring, ?_⟩
  unfold cycleDays
  split_ifs <;> ring

theorem follows_iff (schedule : ScheduleTime) (hreadable : readableFrom < date) :
    Follows
        (reportPeriodForRun schedule.reportType (runOn schedule date)
          schedule.timezone.toTimeZone)
        (reportPeriodForRun schedule.reportType (runOn schedule (date + cycleDays schedule))
          schedule.timezone.toTimeZone)
      ↔ MovedAlike schedule date := by
  have hcycle : 1 ≤ cycleDays schedule := by
    unfold cycleDays
    split_ifs <;> omega
  obtain ⟨hlower, hupper, hback, hon⟩ := landingDay_near schedule hreadable.le
  obtain ⟨hlower', hupper', hback', hon'⟩ :=
    landingDay_near schedule (by omega : readableFrom ≤ date + cycleDays schedule)
  rw [Follows, (period_runOn schedule hreadable).1,
    (period_runOn schedule (by omega : readableFrom < date + cycleDays schedule)).2, MovedAlike,
    hback, hon, hback', hon']
  omega

theorem scheduled_add_cycles (hscheduled : Scheduled schedule date) (index : ℕ) :
    Scheduled schedule (date + index * cycleDays schedule) := by
  induction index with
  | zero => simpa using hscheduled
  | succ index ih =>
      have hnext : date + ((index + 1 : ℕ) : ℤ) * cycleDays schedule
          = date + index * cycleDays schedule + cycleDays schedule := by
        push_cast
        ring
      rw [hnext]
      exact scheduled_add_cycle ih

/-- The runs from the run for a date on are those for the dates of the schedule. -/
theorem coversDays_iff (schedule : ScheduleTime) (first : FirstDate schedule) :
    CoversDays schedule (runOn schedule first.date)
      ↔ ∀ index : ℕ, MovedAlike schedule (first.date + index * cycleDays schedule) := by
  have hcycle : 1 ≤ cycleDays schedule := by
    unfold cycleDays
    split_ifs <;> omega
  have hreadable : ∀ index : ℕ, readableFrom < first.date + index * cycleDays schedule := by
    intro index
    have hstart : readableFrom < monthStart 1_212 := by decide
    have hrecent := first.recent
    have hlater : 0 ≤ (index : ℤ) * cycleDays schedule := by positivity
    omega
  have hsucc : ∀ index : ℕ, first.date + ((index + 1 : ℕ) : ℤ) * cycleDays schedule
      = first.date + index * cycleDays schedule + cycleDays schedule := by
    intro index
    push_cast
    ring
  have hnext : ∀ index : ℕ,
      nextScheduledRun schedule (runOn schedule (first.date + index * cycleDays schedule))
        = some (runOn schedule (first.date + ((index + 1 : ℕ) : ℤ) * cycleDays schedule)) := by
    intro index
    rw [hsucc]
    exact nextScheduledRun_runOn (scheduled_add_cycles first.scheduled index) (hreadable index)
  constructor
  · rintro ⟨runs, hfirst, hruns⟩
    have hdates : ∀ index : ℕ,
        runs index = runOn schedule (first.date + index * cycleDays schedule) := by
      intro index
      induction index with
      | zero => simpa using hfirst
      | succ index ih =>
          have hstep := (hruns index).1
          rw [ih, hnext] at hstep
          exact (Option.some.inj hstep).symm
    intro index
    have hfollows := (hruns index).2.2
    rw [hdates, hdates, hsucc] at hfollows
    exact (follows_iff schedule (hreadable index)).mp hfollows
  · intro halike
    refine ⟨fun index => runOn schedule (first.date + index * cycleDays schedule), by simp,
      fun index => ⟨hnext index, ?_, ?_⟩⟩
    · exact runOn_lt_runOn (hreadable index).le (by rw [hsucc]; omega)
    · have hfollows := (follows_iff schedule (hreadable index)).mpr (halike index)
      rw [← hsucc] at hfollows
      exact hfollows

theorem movedAlike_of_unskipped (hunskipped : ∀ date change, ¬SkipsSending schedule date change) :
    MovedAlike schedule date := by
  have hback : ∀ date, ¬MovedBack schedule date := fun date ⟨change, hskips, _⟩ =>
    hunskipped date change hskips
  have hon : ∀ date, ¬MovedOn schedule date := fun date ⟨change, hskips, _⟩ =>
    hunskipped date change hskips
  exact ⟨iff_of_false (hback _) (hback _), iff_of_false (hon _) (hon _)⟩

end Chains

/-! ## A change of the clocks -/

/-- Four hours behind UTC, and three from the first of October 2017 on. -/
def asuncion : GradualZone where
  toTimeZone := TimeZone.switching 1_506_830_400_000 (-240 * minuteLength) (-180 * minuteLength)
    (by decide) (by decide) (by decide) (by decide)
  step_le instant := by
    simp only [TimeZone.switching]
    refine abs_le.mpr ?_
    split_ifs <;> constructor <;> norm_num

/-- At half past nine, every day. -/
def morningTime : ScheduleTime := .daily asuncion 9 30 (by decide) (by decide)

theorem morningTime_unskipped (date change : ℤ) : ¬SkipsSending morningTime date change := by
  have hday : dayLength = 86_400_000 := by norm_num
  have hbefore : floorTo minuteLength (-240 * minuteLength) = -14_400_000 := by decide
  have hafter : floorTo minuteLength (-180 * minuteLength) = -10_800_000 := by decide
  simp only [SkipsSending, Skips, minuteOffset, zoneOf, sendTarget, sendTime, morningTime,
    ScheduleTime.daily, asuncion, TimeZone.switching, apply_ite (floorTo minuteLength), hbefore,
    hafter, hday]
  split_ifs <;> omega

/-- A report that is first sent before the clocks change covers its days. -/
theorem coversDays_iff_morningTime :
    ∃ run, nextScheduledRun morningTime 1_506_700_000_000 = some run
      ∧ CoversDays morningTime run := by
  have hnext : nextScheduledRun morningTime 1_506_700_000_000 = some 1_506_778_200_000 := by
    decide +kernel
  obtain ⟨first, hfirst, -⟩ := exists_firstDate_of_next (by decide +kernel) hnext
  refine ⟨_, hnext, ?_⟩
  rw [hfirst]
  exact (coversDays_iff morningTime first).mpr fun _ =>
    movedAlike_of_unskipped morningTime_unskipped

/-- Half an hour after midnight, every day. -/
def nightlyReport : ScheduleTime := .daily asuncion 0 30 (by decide) (by decide)

/-- The thirtieth of September 2017. -/
def september30 : ℤ := 17_439

/-- The run for the first of October lands on the thirtieth of September, after the run for
that day: both report on the twenty-ninth. -/
theorem nightlyReport_not_coversDays :
    ¬CoversDays nightlyReport (runOn nightlyReport september30) := by
  rintro ⟨runs, hfirst, hruns⟩
  obtain ⟨hnext, -, hfollows⟩ := hruns 0
  have hsecond : nextScheduledRun nightlyReport (runOn nightlyReport september30)
      = some 1_506_828_600_000 := by decide +kernel
  rw [hfirst, hsecond, Option.some.injEq] at hnext
  rw [hfirst, zero_add, ← hnext] at hfollows
  exact absurd hfollows (by unfold Follows; decide +kernel)

end Stallorder.Reports
