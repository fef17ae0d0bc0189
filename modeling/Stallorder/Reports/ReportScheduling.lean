import Stallorder.Core.UtcDate

/-!
# The runs of a report schedule

A schedule sends a report every day, or on one day of the week, at a time of day
in its time zone.  The next run after an instant is searched among the local
dates from that instant on; a run reports on the day, or the seven days, before
its local date.
-/

namespace Stallorder.Reports

open ZonedClock UtcDate

/-- A zone whose clocks are changed by at most two hours. -/
structure GradualZone extends TimeZone where
  step_le : ∀ instant, |offset instant - offset (instant - 1)| ≤ 120 * minuteLength

inductive ReportType
  | dailySales
  | weeklySales
  | paymentVariance
  deriving DecidableEq

/-- The schema asks for a day of the week from weekly reports and from no others. -/
structure ScheduleTime where
  reportType : ReportType
  timezone : GradualZone
  sendHour : ℤ
  sendMinute : ℤ
  dayOfWeek : Option ℤ
  sendHour_range : 0 ≤ sendHour ∧ sendHour ≤ 23
  sendMinute_range : 0 ≤ sendMinute ∧ sendMinute ≤ 59
  dayOfWeek_range : ∀ weekday ∈ dayOfWeek, 0 ≤ weekday ∧ weekday ≤ 6
  dayOfWeek_shape : dayOfWeek.isSome ↔ reportType = .weeklySales

/-- Every day at the same time. -/
def ScheduleTime.daily (timezone : GradualZone) (sendHour sendMinute : ℤ)
    (hhour : 0 ≤ sendHour ∧ sendHour ≤ 23) (hminute : 0 ≤ sendMinute ∧ sendMinute ≤ 59) :
    ScheduleTime where
  reportType := .dailySales
  timezone := timezone
  sendHour := sendHour
  sendMinute := sendMinute
  dayOfWeek := none
  sendHour_range := hhour
  sendMinute_range := hminute
  dayOfWeek_range := by simp
  dayOfWeek_shape := by simp

structure ReportPeriod where
  periodStart : DateParts
  periodEnd : DateParts

/-- Sunday is 0. -/
def weekday (day : ℤ) : ℤ := (day + 4) % 7

/-- The local date of an instant. -/
def zonedDate (zone : TimeZone) (instant : ℤ) : DateParts :=
  partsOfDay (dayOf (wallClock zone instant))

/-- The local date and time of an instant, to the minute, as an instant of UTC. -/
def representedMinute (zone : TimeZone) (instant : ℤ) : ℤ :=
  let date := zonedDate zone instant
  let time := timeOfDay (wallClock zone instant)
  let hour := time / 3_600_000
  let minute := time / 60_000 % 60
  dateUTC date.year (date.month - 1) date.day + hour * 3_600_000 + minute * 60_000

def zonedDateTimeToUtc (zone : TimeZone) (date : DateParts) (hour minute : ℤ) : ℤ :=
  let target := dateUTC date.year (date.month - 1) date.day + hour * 3_600_000 + minute * 60_000
  correctGuess (representedMinute zone) target 4 target

/-- The day that `Date.UTC` makes of a date with its day moved. -/
def movedDay (date : DateParts) (days : ℤ) : ℤ :=
  utcDay date.year (date.month - 1) (date.day + days)

def addLocalDays (date : DateParts) (days : ℤ) : DateParts := partsOfDay (movedDay date days)

/-- The run on a local date, if it is a date of the schedule and the run is still to come. -/
def candidateRun (schedule : ScheduleTime) (after : ℤ) (localNow : DateParts) (offset : ℕ) :
    Option ℤ :=
  let localDate := addLocalDays localNow offset
  if schedule.reportType = .weeklySales
      ∧ some (weekday (movedDay localNow offset)) ≠ schedule.dayOfWeek then none
  else
    let candidate := zonedDateTimeToUtc schedule.timezone.toTimeZone localDate schedule.sendHour
      schedule.sendMinute
    if after < candidate then some candidate else none

def nextScheduledRun (schedule : ScheduleTime) (after : ℤ) : Option ℤ :=
  let localNow := zonedDate schedule.timezone.toTimeZone after
  (List.range 15).findSome? (candidateRun schedule after localNow)

def reportPeriodForRun (reportType : ReportType) (runAt : ℤ) (zone : TimeZone) : ReportPeriod :=
  let runDate := zonedDate zone runAt
  let periodEnd := addLocalDays runDate (-1)
  { periodStart := addLocalDays periodEnd (if reportType = .weeklySales then -6 else 0)
    periodEnd }

end Stallorder.Reports
