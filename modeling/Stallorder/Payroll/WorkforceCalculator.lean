import Stallorder.Core.Grouping
import Stallorder.Core.Schema

/-!
# Payroll shifts and lines

The clock events of each staff member at each stall are paired into shifts: a
clock-out closes the clock-in before it.  A shift belongs to the local date of
its clock-in.  The lines of a payroll add up the shifts of a staff member, shift
by shift: rounding, the unpaid break and overtime are worked out for each of
them.
-/

namespace Stallorder.Payroll

open Grouping

abbrev Timestamp := ℤ

inductive DayType
  | workday
  | restDay
  | regularDayOff
  | nationalHoliday
  deriving DecidableEq

structure PayrollPolicy where
  regularDayMinutes : ℕ
  roundingIncrementMinutes : ℕ
  overtimeTier1Minutes : ℕ
  overtimeTier1MultiplierBps : ℕ
  overtimeTier2MultiplierBps : ℕ
  defaultHolidayMultiplierBps : ℕ

/-! ## Clock events -/

inductive ClockEventType
  | clockIn
  | clockOut
  deriving DecidableEq

structure ClockEvent (Zone : Type) where
  id : ℕ
  profileId : ℕ
  stallId : ℕ
  eventType : ClockEventType
  occurredAt : Timestamp
  displayName : Text
  stallName : Text
  timezone : Zone

structure Schedule where
  unpaidBreakMinutes : ℕ
  dayType : DayType

structure WageRate (Date : Type) where
  profileId : ℕ
  stallId : Option ℕ
  hourlyRate : ℕ
  effectiveFrom : Date
  effectiveTo : Option Date

/-- What the shifts of a period are built from.  `calendarDate` gives the date that an
instant has in a time zone. -/
structure ShiftInput (Zone Date : Type) where
  calendarDate : Zone → Timestamp → Date
  events : List (ClockEvent Zone)
  dateFrom : Date
  dateTo : Date
  schedules : ℕ → ℕ → Date → Option Schedule
  holidays : Date → Option ℕ
  wageRates : List (WageRate Date)

structure PayrollShift (Date : Type) where
  id : ℕ × ℕ
  profileId : ℕ
  profileName : Text
  stallId : ℕ
  stallName : Text
  workDate : Date
  workedMinutes : ℕ
  unpaidBreakMinutes : ℕ
  dayType : DayType
  holidayMultiplierBps : Option ℕ
  hourlyRate : Option ℕ

inductive AnomalyMessage
  | repeatedClockIn
  | clockOutWithoutClockIn
  | longShift
  | clockInWithoutClockOut
  deriving DecidableEq

structure Anomaly where
  profileId : ℕ
  profileName : Text
  stallName : Text
  message : AnomalyMessage
  occurredAt : Timestamp
  deriving DecidableEq

section Shifts

variable {Zone Date : Type} [LinearOrder Date]

def anomaly (event : ClockEvent Zone) (message : AnomalyMessage) : Anomaly where
  profileId := event.profileId
  profileName := event.displayName
  stallName := event.stallName
  message := message
  occurredAt := event.occurredAt

/-- Rates of the stall come before general ones, later ones before earlier ones. -/
def preferredRate (left right : WageRate Date) : Bool :=
  if left.stallId.isSome ≠ right.stallId.isSome then left.stallId.isSome
  else right.effectiveFrom ≤ left.effectiveFrom

def resolveWageRate (rates : List (WageRate Date)) (profileId stallId : ℕ) (workDate : Date) :
    Option (WageRate Date) :=
  ((rates.filter fun rate =>
      rate.profileId = profileId
        && (rate.stallId = some stallId || rate.stallId = none)
        && rate.effectiveFrom ≤ workDate
        && rate.effectiveTo.all fun effectiveTo => workDate ≤ effectiveTo).insertionSort
    fun left right => preferredRate left right).head?

/-- Half a minute is rounded up. -/
def roundedMinutes (milliseconds : ℤ) : ℕ := ((milliseconds + 30_000) / 60_000).toNat

/-- The shift of a clock-in and the clock-out that closes it, when it falls into the
period. -/
def shiftOf (input : ShiftInput Zone Date) (clockIn clockOut : ClockEvent Zone) :
    Option (PayrollShift Date) :=
  let workDate := input.calendarDate clockIn.timezone clockIn.occurredAt
  if workDate < input.dateFrom || input.dateTo < workDate then none
  else
    let schedule := input.schedules clockIn.profileId clockIn.stallId workDate
    let holiday := input.holidays workDate
    some {
      id := (clockIn.id, clockOut.id)
      profileId := clockIn.profileId
      profileName := clockIn.displayName
      stallId := clockIn.stallId
      stallName := clockIn.stallName
      workDate
      workedMinutes := roundedMinutes (clockOut.occurredAt - clockIn.occurredAt)
      unpaidBreakMinutes := (schedule.map (·.unpaidBreakMinutes)).getD 0
      dayType :=
        if holiday.isSome then .nationalHoliday else (schedule.map (·.dayType)).getD .workday
      holidayMultiplierBps := holiday
      hourlyRate := (resolveWageRate input.wageRates clockIn.profileId clockIn.stallId
        workDate).map (·.hourlyRate) }

/-- The shifts and anomalies found so far, and the clock-in that is not closed yet. -/
structure ScanState (Zone Date : Type) where
  openEvent : Option (ClockEvent Zone)
  shifts : List (PayrollShift Date)
  anomalies : List Anomaly

def scanEvent (input : ShiftInput Zone Date) (state : ScanState Zone Date)
    (event : ClockEvent Zone) : ScanState Zone Date :=
  match event.eventType, state.openEvent with
  | .clockIn, some earlier =>
      { state with
        openEvent := some event
        anomalies := state.anomalies ++ [anomaly earlier .repeatedClockIn] }
  | .clockIn, none => { state with openEvent := some event }
  | .clockOut, none =>
      { state with anomalies := state.anomalies ++ [anomaly event .clockOutWithoutClockIn] }
  | .clockOut, some clockIn =>
      match shiftOf input clockIn event with
      | none => { state with openEvent := none }
      | some shift =>
          { openEvent := none
            shifts := state.shifts ++ [shift]
            anomalies :=
              if 16 * 60 < shift.workedMinutes then
                state.anomalies ++ [anomaly clockIn .longShift]
              else state.anomalies }

/-- The events of one staff member at one stall. -/
def scanGroup (input : ShiftInput Zone Date) (state : ScanState Zone Date)
    (events : List (ClockEvent Zone)) : ScanState Zone Date :=
  let scanned := events.foldl (scanEvent input) { state with openEvent := none }
  match scanned.openEvent with
  | some earlier =>
      { scanned with
        anomalies := scanned.anomalies ++ [anomaly earlier .clockInWithoutClockOut] }
  | none => scanned

def staffAtStall (event : ClockEvent Zone) : ℕ × ℕ := (event.profileId, event.stallId)

/-- The events of each staff member at each stall, in their order. -/
def groupedEvents (events : List (ClockEvent Zone)) :
    List ((ℕ × ℕ) × List (ClockEvent Zone)) :=
  groupBy staffAtStall (fun group event => group.getD [] ++ [event]) events

def buildPayrollShifts (input : ShiftInput Zone Date) : List (PayrollShift Date) × List Anomaly :=
  let scanned := (groupedEvents input.events).foldl
    (fun state group => scanGroup input state group.2)
    { openEvent := none, shifts := [], anomalies := [] }
  (scanned.shifts, scanned.anomalies)

end Shifts

/-! ## Lines -/

/-- Minutes rounded to the nearest multiple of the increment, halves up. -/
def roundWorkedMinutes (minutes increment : ℕ) : ℕ :=
  (2 * minutes + increment) / (2 * increment) * increment

def wageForMinutes (hourlyRate minutes multiplierBps : ℕ) : ℕ :=
  (hourlyRate * minutes * multiplierBps + 300_000) / 600_000

/-- What a shift is paid for. -/
structure PaidShift (Date : Type) extends PayrollShift Date where
  payableMinutes : ℕ
  grossAmount : ℕ

structure PayrollLine (Date : Type) where
  profileId : ℕ
  profileName : Text
  hourlyRate : ℕ
  regularMinutes : ℕ
  overtimeTier1Minutes : ℕ
  overtimeTier2Minutes : ℕ
  holidayMinutes : ℕ
  regularAmount : ℕ
  overtimeAmount : ℕ
  holidayAmount : ℕ
  grossAmount : ℕ
  missingWageRate : Bool
  shifts : List (PaidShift Date)

section Lines

variable {Date : Type} (policy : PayrollPolicy)

def roundedWork (shift : PayrollShift Date) : ℕ :=
  roundWorkedMinutes shift.workedMinutes policy.roundingIncrementMinutes

def payableMinutes (shift : PayrollShift Date) : ℕ :=
  roundedWork policy shift - shift.unpaidBreakMinutes

def isHoliday (shift : PayrollShift Date) : Bool := shift.dayType = .nationalHoliday

def regularMinutes (shift : PayrollShift Date) : ℕ :=
  if isHoliday shift then 0 else min (payableMinutes policy shift) policy.regularDayMinutes

def overtimeMinutes (shift : PayrollShift Date) : ℕ :=
  if isHoliday shift then 0 else payableMinutes policy shift - regularMinutes policy shift

/-- Extend the line of a staff member by a shift, or make it. -/
def addShift (line : Option (PayrollLine Date)) (shift : PayrollShift Date) : PayrollLine Date :=
  let hourlyRate := shift.hourlyRate.getD 0
  let payable := payableMinutes policy shift
  let regular := regularMinutes policy shift
  let overtimeTier1 := min (overtimeMinutes policy shift) policy.overtimeTier1Minutes
  let overtimeTier2 := overtimeMinutes policy shift - overtimeTier1
  let holiday := if isHoliday shift then payable else 0
  let regularAmount := wageForMinutes hourlyRate regular 10_000
  let overtimeAmount :=
    wageForMinutes hourlyRate overtimeTier1 policy.overtimeTier1MultiplierBps
      + wageForMinutes hourlyRate overtimeTier2 policy.overtimeTier2MultiplierBps
  let holidayAmount := wageForMinutes hourlyRate holiday
    (shift.holidayMultiplierBps.getD policy.defaultHolidayMultiplierBps)
  let grossAmount := regularAmount + overtimeAmount + holidayAmount
  let line := line.getD {
    profileId := shift.profileId
    profileName := shift.profileName
    hourlyRate
    regularMinutes := 0
    overtimeTier1Minutes := 0
    overtimeTier2Minutes := 0
    holidayMinutes := 0
    regularAmount := 0
    overtimeAmount := 0
    holidayAmount := 0
    grossAmount := 0
    missingWageRate := shift.hourlyRate.isNone
    shifts := [] }
  { line with
    hourlyRate := max line.hourlyRate hourlyRate
    regularMinutes := line.regularMinutes + regular
    overtimeTier1Minutes := line.overtimeTier1Minutes + overtimeTier1
    overtimeTier2Minutes := line.overtimeTier2Minutes + overtimeTier2
    holidayMinutes := line.holidayMinutes + holiday
    regularAmount := line.regularAmount + regularAmount
    overtimeAmount := line.overtimeAmount + overtimeAmount
    holidayAmount := line.holidayAmount + holidayAmount
    grossAmount := line.grossAmount + grossAmount
    missingWageRate := line.missingWageRate || shift.hourlyRate.isNone
    shifts := line.shifts ++ [{ shift with payableMinutes := payable, grossAmount }] }

/-- The lines in the order of the names; `nameOrder` compares names as the locale does. -/
def calculatePayrollLines (nameOrder : Text → Text → Bool) (shifts : List (PayrollShift Date)) :
    List (PayrollLine Date) :=
  ((groupBy (·.profileId) (addShift policy) shifts).map Prod.snd).insertionSort
    fun left right => nameOrder left.profileName right.profileName

end Lines

end Stallorder.Payroll
