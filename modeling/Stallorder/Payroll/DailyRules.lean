import Stallorder.Core.Capped
import Stallorder.Payroll.WorkforceCalculator

/-!
# Daily limits over shifts

The limit on regular minutes and the unpaid break are meant for a day, while the
lines apply both to every shift.  The shifts are the closed punches of the
period, and what a line credits on a date is a sum over them with the limit put
on each.
-/

namespace Stallorder.Payroll

open Grouping Capped

variable {Zone Date : Type} [LinearOrder Date]

/-! ## The closed punches -/

/-- A clock-in and the clock-out that closes it. -/
structure Punch (Zone : Type) where
  clockIn : ClockEvent Zone
  clockOut : ClockEvent Zone

/-- A clock-out closes the clock-in just before it. -/
def closedPunches (events : List (ClockEvent Zone)) : List (Punch Zone) :=
  ((events.zip events.tail).filter fun pair =>
    pair.1.eventType = .clockIn && pair.2.eventType = .clockOut).map
      fun pair => ⟨pair.1, pair.2⟩

theorem closedPunches_cons_cons (first second : ClockEvent Zone)
    (rest : List (ClockEvent Zone)) :
    closedPunches (first :: second :: rest)
      = if first.eventType = .clockIn ∧ second.eventType = .clockOut then
          ⟨first, second⟩ :: closedPunches (second :: rest)
        else closedPunches (second :: rest) := by
  unfold closedPunches
  by_cases hpair : first.eventType = .clockIn ∧ second.eventType = .clockOut
  · simp [hpair]
  · rw [if_neg hpair, List.tail_cons, List.zip_cons_cons, List.filter_cons_of_neg]
    · rfl
    · simpa using hpair

/-- A clock-out opens nothing. -/
theorem closedPunches_cons_clockOut {event : ClockEvent Zone}
    (hout : event.eventType = .clockOut) (rest : List (ClockEvent Zone)) :
    closedPunches (event :: rest) = closedPunches rest := by
  cases rest with
  | nil => rfl
  | cons second rest =>
      rw [closedPunches_cons_cons, if_neg]
      simp [hout]

variable (input : ShiftInput Zone Date)

def shiftsOf (punches : List (Punch Zone)) : List (PayrollShift Date) :=
  punches.filterMap fun punch => shiftOf input punch.clockIn punch.clockOut

theorem shifts_foldl_scanEvent (events : List (ClockEvent Zone)) (state : ScanState Zone Date)
    (hopen : ∀ event, state.openEvent = some event → event.eventType = .clockIn) :
    (events.foldl (scanEvent input) state).shifts
      = state.shifts ++ shiftsOf input (closedPunches (state.openEvent.toList ++ events)) := by
  induction events generalizing state with
  | nil =>
      cases hstate : state.openEvent with
      | none => simp [shiftsOf, closedPunches]
      | some event => simp [shiftsOf, closedPunches]
  | cons event events ih =>
      rw [List.foldl_cons]
      cases htype : event.eventType with
      | clockIn =>
          have hnext : (scanEvent input state event).openEvent = some event
              ∧ (scanEvent input state event).shifts = state.shifts := by
            cases hstate : state.openEvent <;> simp [scanEvent, htype, hstate]
          rw [ih _ (by rw [hnext.1]; rintro _ ⟨⟩; exact htype), hnext.1, hnext.2]
          cases hstate : state.openEvent with
          | none => rfl
          | some earlier =>
              have hnot : ¬(earlier.eventType = .clockIn ∧ event.eventType = .clockOut) := by
                simp [htype]
              rw [Option.toList_some, Option.toList_some, List.singleton_append,
                List.singleton_append, closedPunches_cons_cons, if_neg hnot]
      | clockOut =>
          cases hstate : state.openEvent with
          | none =>
              have hnext : (scanEvent input state event).openEvent = none
                  ∧ (scanEvent input state event).shifts = state.shifts := by
                simp [scanEvent, htype, hstate]
              rw [ih _ (by rw [hnext.1]; rintro _ ⟨⟩), hnext.1, hnext.2]
              simp only [Option.toList_none, List.nil_append]
              rw [closedPunches_cons_clockOut htype]
          | some clockIn =>
              have hnext : (scanEvent input state event).openEvent = none
                  ∧ (scanEvent input state event).shifts
                    = state.shifts ++ (shiftOf input clockIn event).toList := by
                cases hshift : shiftOf input clockIn event <;>
                  simp [scanEvent, htype, hstate, hshift]
              have hpair : clockIn.eventType = .clockIn ∧ event.eventType = .clockOut :=
                ⟨hopen clockIn hstate, htype⟩
              rw [ih _ (by rw [hnext.1]; rintro _ ⟨⟩), hnext.1, hnext.2]
              simp only [Option.toList_none, List.nil_append, Option.toList_some,
                List.singleton_append]
              rw [closedPunches_cons_cons, if_pos hpair, closedPunches_cons_clockOut htype]
              cases hshift : shiftOf input clockIn event <;>
                simp [shiftsOf, hshift]

theorem shifts_scanGroup (state : ScanState Zone Date) (events : List (ClockEvent Zone)) :
    (scanGroup input state events).shifts
      = state.shifts ++ shiftsOf input (closedPunches events) := by
  have hscan := shifts_foldl_scanEvent input events { state with openEvent := none }
    (by rintro _ ⟨⟩)
  have hkept : (scanGroup input state events).shifts
      = (events.foldl (scanEvent input) { state with openEvent := none }).shifts := by
    unfold scanGroup
    cases hopen : (events.foldl (scanEvent input) { state with openEvent := none }).openEvent <;>
      simp [hopen]
  rw [hkept, hscan]
  rfl

/-- The closed punches of every staff member at every stall. -/
def allPunches (events : List (ClockEvent Zone)) : List (Punch Zone) :=
  (groupedEvents events).flatMap fun group => closedPunches group.2

theorem buildPayrollShifts_eq :
    (buildPayrollShifts input).1 = shiftsOf input (allPunches input.events) := by
  have hfold : ∀ (groups : List ((ℕ × ℕ) × List (ClockEvent Zone))) (state : ScanState Zone Date),
      (groups.foldl (fun state group => scanGroup input state group.2) state).shifts
        = state.shifts
          ++ shiftsOf input (groups.flatMap fun group => closedPunches group.2) := by
    intro groups
    induction groups with
    | nil =>
        intro state
        exact (List.append_nil _).symm
    | cons group groups ih =>
        intro state
        rw [List.foldl_cons, ih, shifts_scanGroup, List.flatMap_cons, List.append_assoc]
        simp only [shiftsOf, List.filterMap_append]
  exact hfold (groupedEvents input.events) _

/-! ## What a punch comes to -/

def punchDate (punch : Punch Zone) : Date :=
  input.calendarDate punch.clockIn.timezone punch.clockIn.occurredAt

def InPeriod (date : Date) : Prop := input.dateFrom ≤ date ∧ date ≤ input.dateTo

instance (date : Date) : Decidable (InPeriod input date) :=
  inferInstanceAs (Decidable (_ ∧ _))

def scheduledBreak (profileId stallId : ℕ) (date : Date) : ℕ :=
  ((input.schedules profileId stallId date).map (·.unpaidBreakMinutes)).getD 0

/-- A holiday of the organization, or by the schedule. -/
def HolidayFor (profileId stallId : ℕ) (date : Date) : Prop :=
  (input.holidays date).isSome
    ∨ ((input.schedules profileId stallId date).map (·.dayType)) = some .nationalHoliday

instance (profileId stallId : ℕ) (date : Date) :
    Decidable (HolidayFor input profileId stallId date) :=
  inferInstanceAs (Decidable (_ ∨ _))

variable (policy : PayrollPolicy)

/-- The rounded minutes between the clock-in and the clock-out. -/
def punchedMinutes (punch : Punch Zone) : ℕ :=
  roundWorkedMinutes (roundedMinutes (punch.clockOut.occurredAt - punch.clockIn.occurredAt))
    policy.roundingIncrementMinutes

/-- The punched minutes without the scheduled break. -/
def netMinutes (punch : Punch Zone) : ℕ :=
  punchedMinutes policy punch
    - scheduledBreak input punch.clockIn.profileId punch.clockIn.stallId (punchDate input punch)

def onHoliday (punch : Punch Zone) : Bool :=
  HolidayFor input punch.clockIn.profileId punch.clockIn.stallId (punchDate input punch)

variable {input policy} {punch : Punch Zone} {shift : PayrollShift Date}

/-- What a shift has from its punch. -/
structure Records (input : ShiftInput Zone Date) (punch : Punch Zone)
    (shift : PayrollShift Date) : Prop where
  inPeriod : InPeriod input (punchDate input punch)
  workDate : shift.workDate = punchDate input punch
  profileId : shift.profileId = punch.clockIn.profileId
  stallId : shift.stallId = punch.clockIn.stallId
  workedMinutes : shift.workedMinutes
    = roundedMinutes (punch.clockOut.occurredAt - punch.clockIn.occurredAt)
  unpaidBreakMinutes : shift.unpaidBreakMinutes
    = scheduledBreak input punch.clockIn.profileId punch.clockIn.stallId (punchDate input punch)
  isHoliday : isHoliday shift = onHoliday input punch

theorem dayType_eq_nationalHoliday_iff (holiday : Bool) (scheduled : Option DayType) :
    (if holiday then .nationalHoliday else scheduled.getD .workday) = DayType.nationalHoliday
      ↔ holiday ∨ scheduled = some .nationalHoliday := by
  cases holiday <;> cases scheduled <;> simp

theorem records_of_shiftOf (hshift : shiftOf input punch.clockIn punch.clockOut = some shift) :
    Records input punch shift := by
  dsimp only [shiftOf] at hshift
  split at hshift
  · cases hshift
  · next hperiod =>
      cases hshift
      refine ⟨by simpa [InPeriod, punchDate] using hperiod, rfl, rfl, rfl, rfl, rfl, ?_⟩
      exact decide_eq_decide.mpr (dayType_eq_nationalHoliday_iff _ _)

theorem exists_shiftOf_of_inPeriod (hperiod : InPeriod input (punchDate input punch)) :
    ∃ shift, shiftOf input punch.clockIn punch.clockOut = some shift := by
  dsimp only [shiftOf]
  rw [if_neg]
  · exact ⟨_, rfl⟩
  · simpa [InPeriod, punchDate] using hperiod

namespace Records

variable (hrecords : Records input punch shift)
include hrecords

theorem roundedWork_eq : roundedWork policy shift = punchedMinutes policy punch := by
  rw [roundedWork, hrecords.workedMinutes, punchedMinutes]

theorem payableMinutes_eq : payableMinutes policy shift = netMinutes input policy punch := by
  rw [payableMinutes, hrecords.roundedWork_eq, hrecords.unpaidBreakMinutes, netMinutes]

theorem regularMinutes_eq :
    regularMinutes policy shift
      = if onHoliday input punch then 0
        else min (netMinutes input policy punch) policy.regularDayMinutes := by
  rw [regularMinutes, hrecords.isHoliday, hrecords.payableMinutes_eq]

end Records

/-- What is read off the shifts of some punches can be read off the punches. -/
theorem map_filter_shiftsOf {Value : Type} {ofShift : PayrollShift Date → Bool}
    {ofPunch : Punch Zone → Bool} {value : PayrollShift Date → Value}
    {punchValue : Punch Zone → Value}
    (hselect : ∀ {punch shift}, Records input punch shift → ofShift shift = ofPunch punch)
    (hvalue : ∀ {punch shift}, Records input punch shift → value shift = punchValue punch)
    (punches : List (Punch Zone)) :
    ((shiftsOf input punches).filter ofShift).map value
      = (punches.filter fun punch =>
          InPeriod input (punchDate input punch) && ofPunch punch).map punchValue := by
  induction punches with
  | nil => rfl
  | cons punch punches ih =>
      by_cases hperiod : InPeriod input (punchDate input punch)
      · obtain ⟨shift, hshift⟩ := exists_shiftOf_of_inPeriod hperiod
        have hrecords := records_of_shiftOf hshift
        have hcons : shiftsOf input (punch :: punches) = shift :: shiftsOf input punches :=
          List.filterMap_cons_some hshift
        rw [hcons, List.filter_cons, List.filter_cons, hselect hrecords]
        by_cases hchosen : ofPunch punch
        · simp [hchosen, hperiod, ih, hvalue hrecords]
        · simp [hchosen, ih]
      · have hshift : shiftOf input punch.clockIn punch.clockOut = none := by
          cases hshift : shiftOf input punch.clockIn punch.clockOut with
          | none => rfl
          | some shift => exact absurd (records_of_shiftOf hshift).inPeriod hperiod
        have hcons : shiftsOf input (punch :: punches) = shiftsOf input punches :=
          List.filterMap_cons_none hshift
        rw [hcons, ih, List.filter_cons_of_neg]
        simp [hperiod]

/-! ## What the lines add up -/

/-- What the lines pay for, over all staff members. -/
def paidShifts (lines : List (PayrollLine Date)) : List (PaidShift Date) :=
  lines.flatMap (·.shifts)

variable {nameOrder : Text → Text → Bool} {shifts : List (PayrollShift Date)}

/-- The shifts of a line with the minutes they are paid for. -/
def payables (line : PayrollLine Date) : List (PayrollShift Date × ℕ) :=
  line.shifts.map fun paid => (paid.toPayrollShift, paid.payableMinutes)

omit [LinearOrder Date] in
/-- Every shift is paid for once, with its payable minutes. -/
theorem payables_perm :
    ((calculatePayrollLines policy nameOrder shifts).flatMap payables).Perm
      (shifts.map fun shift => (shift, payableMinutes policy shift)) := by
  have hmake : ∀ shift : PayrollShift Date,
      payables (addShift policy none shift) = [(shift, payableMinutes policy shift)] :=
    fun _ => rfl
  have hextend : ∀ (line : PayrollLine Date) (shift : PayrollShift Date),
      payables (addShift policy (some line) shift)
        = payables line ++ [(shift, payableMinutes policy shift)] :=
    fun line shift => List.map_append
  refine ((List.perm_insertionSort _ _).flatMap_right _).trans ?_
  rw [List.flatMap_map]
  exact flatMap_groupBy_perm payables _ hmake hextend shifts

/-- A line credits the minutes of its shifts, which are all of one staff member. -/
structure AddsUp (policy : PayrollPolicy) (line : PayrollLine Date) : Prop where
  regular : line.regularMinutes
    = (line.shifts.map fun paid => regularMinutes policy paid.toPayrollShift).sum
  overtime : line.overtimeTier1Minutes + line.overtimeTier2Minutes
    = (line.shifts.map fun paid => overtimeMinutes policy paid.toPayrollShift).sum
  own : ∀ paid ∈ line.shifts, paid.profileId = line.profileId

omit [LinearOrder Date] in
theorem addsUp_of_mem_lines {line : PayrollLine Date}
    (hline : line ∈ calculatePayrollLines policy nameOrder shifts) : AddsUp policy line := by
  let Holds : ℕ → PayrollLine Date → Prop := fun profileId line =>
    line.profileId = profileId ∧ AddsUp policy line
  have hmake : ∀ shift : PayrollShift Date,
      Holds shift.profileId (addShift policy none shift) := by
    intro shift
    refine ⟨rfl, ?_, ?_, ?_⟩
    · simp [addShift]
    · simp [addShift]
    · simp [addShift]
  have hextend : ∀ (line : PayrollLine Date) (shift : PayrollShift Date),
      Holds shift.profileId line → Holds shift.profileId (addShift policy (some line) shift) := by
    rintro line shift ⟨hsame, hline⟩
    refine ⟨hsame, ?_, ?_, ?_⟩
    · simp [addShift, hline.regular]
    · have hovertime := hline.overtime
      simp only [addShift, Option.getD_some, List.map_append, List.sum_append, List.map_singleton,
        List.sum_singleton, ← hovertime]
      omega
    · intro paid hpaid
      rcases List.mem_append.mp hpaid with hpaid | hpaid
      · exact hline.own paid hpaid
      · cases List.mem_singleton.mp hpaid
        exact hsame.symm
  rw [calculatePayrollLines, (List.perm_insertionSort _ _).mem_iff, List.mem_map] at hline
  obtain ⟨group, hgroup, rfl⟩ := hline
  exact (forall_mem_groupBy Holds hmake hextend shifts group hgroup).2

/-- What the lines credit to a staff member. -/
def credited (minutes : PayrollLine Date → ℕ) (lines : List (PayrollLine Date))
    (profileId : ℕ) : ℕ :=
  ((lines.filter (·.profileId = profileId)).map minutes).sum

omit [LinearOrder Date] in
theorem credited_eq_sum_paidShifts {minutes : PayrollLine Date → ℕ}
    {ofShift : PaidShift Date → ℕ} {lines : List (PayrollLine Date)}
    (hown : ∀ line ∈ lines, ∀ paid ∈ line.shifts, paid.profileId = line.profileId)
    (hadds : ∀ line ∈ lines, minutes line = (line.shifts.map ofShift).sum) (profileId : ℕ) :
    credited minutes lines profileId
      = (((paidShifts lines).filter (·.profileId = profileId)).map ofShift).sum := by
  induction lines with
  | nil => rfl
  | cons line lines ih =>
      obtain ⟨hline, hlines⟩ := List.forall_mem_cons.mp hown
      obtain ⟨hsum, hsums⟩ := List.forall_mem_cons.mp hadds
      have hrest := ih hlines hsums
      rw [paidShifts, List.flatMap_cons, List.filter_append, List.map_append, List.sum_append,
        ← paidShifts, ← hrest]
      by_cases hsame : line.profileId = profileId
      · rw [List.filter_eq_self.mpr fun paid hpaid => by simp [hline paid hpaid, hsame], ← hsum]
        simp [credited, hsame]
      · rw [List.filter_eq_nil_iff.mpr fun paid hpaid => by simp [hline paid hpaid, hsame]]
        simp [credited, hsame]

/-! ## The daily rules -/

/-- A break was taken off the minutes of a shift. -/
def breakDeducted (policy : PayrollPolicy) (paid : PaidShift Date) : Bool :=
  paid.payableMinutes < roundedWork policy paid.toPayrollShift

/-- The dates of the shifts that are paid for. -/
def workDates (lines : List (PayrollLine Date)) : Finset Date :=
  ((paidShifts lines).map (·.workDate)).toFinset

/-- The minutes that a staff member is paid for on a date, without those of a holiday. -/
def workdayMinutes (lines : List (PayrollLine Date)) (profileId : ℕ) (date : Date) : ℕ :=
  (((paidShifts lines).filter fun paid =>
      paid.profileId = profileId && paid.workDate = date).map fun paid =>
    if isHoliday paid.toPayrollShift then 0 else paid.payableMinutes).sum

/-- A staff member is credited the minutes of each date up to the limit as regular ones and
the minutes beyond it as overtime, and at each stall the break is deducted at most once a
date. -/
structure DailyRules (policy : PayrollPolicy) (lines : List (PayrollLine Date)) : Prop where
  regular : ∀ profileId, credited (·.regularMinutes) lines profileId
    = ∑ date ∈ workDates lines,
        min (workdayMinutes lines profileId date) policy.regularDayMinutes
  overtime : ∀ profileId,
    credited (fun line => line.overtimeTier1Minutes + line.overtimeTier2Minutes) lines profileId
      = ∑ date ∈ workDates lines,
          (workdayMinutes lines profileId date - policy.regularDayMinutes)
  breaks : ∀ profileId stallId date,
    ((paidShifts lines).filter fun paid =>
      paid.profileId = profileId && paid.stallId = stallId && paid.workDate = date
        && breakDeducted policy paid).length ≤ 1

/-- The punches of a staff member that count for a date of the period. -/
def punchesOn (input : ShiftInput Zone Date) (profileId : ℕ) (date : Date) : List (Punch Zone) :=
  (allPunches input.events).filter fun punch =>
    InPeriod input (punchDate input punch)
      && (punch.clockIn.profileId = profileId && punchDate input punch = date)

/-- The minutes that count against the daily limit. -/
def ordinaryMinutes (input : ShiftInput Zone Date) (policy : PayrollPolicy)
    (punch : Punch Zone) : ℕ :=
  if onHoliday input punch then 0 else netMinutes input policy punch

/-- No day is split into punches that go over the limit together, or that lose more than
one break. -/
structure Undivided (policy : PayrollPolicy) (input : ShiftInput Zone Date) : Prop where
  regular : ∀ profileId date,
    policy.regularDayMinutes = 0
      ∨ ((punchesOn input profileId date).map (ordinaryMinutes input policy)).sum
          ≤ policy.regularDayMinutes
      ∨ ((punchesOn input profileId date).filter fun punch =>
          0 < ordinaryMinutes input policy punch).length ≤ 1
  breaks : ∀ profileId stallId date,
    scheduledBreak input profileId stallId date = 0
      ∨ ((punchesOn input profileId date).filter fun punch =>
          punch.clockIn.stallId = stallId && 0 < punchedMinutes policy punch).length ≤ 1

/-- What is paid for, read off the punches. -/
theorem filter_paidShifts_perm {Value : Type} (nameOrder : Text → Text → Bool)
    (select : PayrollShift Date × ℕ → Bool) (value : PayrollShift Date × ℕ → Value)
    (ofPunch : Punch Zone → Bool) (punchValue : Punch Zone → Value)
    (hselect : ∀ {punch shift}, Records input punch shift →
      select (shift, payableMinutes policy shift) = ofPunch punch)
    (hvalue : ∀ {punch shift}, Records input punch shift →
      value (shift, payableMinutes policy shift) = punchValue punch) :
    (((paidShifts (calculatePayrollLines policy nameOrder (buildPayrollShifts input).1)).filter
        fun paid => select (paid.toPayrollShift, paid.payableMinutes)).map
      fun paid => value (paid.toPayrollShift, paid.payableMinutes)).Perm
      (((allPunches input.events).filter fun punch =>
          InPeriod input (punchDate input punch) && ofPunch punch).map punchValue) := by
  rw [buildPayrollShifts_eq, ← map_filter_shiftsOf hselect hvalue]
  have hperm := @payables_perm Date policy nameOrder (shiftsOf input (allPunches input.events))
  have hpaid : ∀ lines : List (PayrollLine Date), lines.flatMap payables
      = (paidShifts lines).map fun paid => (paid.toPayrollShift, paid.payableMinutes) := by
    intro lines
    rw [paidShifts, List.map_flatMap]
    rfl
  rw [hpaid] at hperm
  have hread := (hperm.filter select).map value
  rw [List.filter_map, List.filter_map, List.map_map, List.map_map] at hread
  exact hread

/-- The punches of a staff member that count for the period. -/
def punchesOf (input : ShiftInput Zone Date) (profileId : ℕ) : List (Punch Zone) :=
  (allPunches input.events).filter fun punch =>
    InPeriod input (punchDate input punch) && punch.clockIn.profileId = profileId

theorem filter_punchesOf (profileId : ℕ) (date : Date) :
    (punchesOf input profileId).filter (punchDate input · = date)
      = punchesOn input profileId date := by
  rw [punchesOf, punchesOn, List.filter_filter]
  apply List.filter_congr
  intro punch _
  rw [Bool.and_comm, Bool.and_assoc]

theorem Records.regularMinutes_eq_min (hrecords : Records input punch shift) :
    regularMinutes policy shift
      = min (ordinaryMinutes input policy punch) policy.regularDayMinutes := by
  rw [hrecords.regularMinutes_eq, ordinaryMinutes]
  by_cases hholiday : onHoliday input punch
  · simp [hholiday]
  · simp [hholiday]

theorem Records.overtimeMinutes_eq (hrecords : Records input punch shift) :
    overtimeMinutes policy shift
      = ordinaryMinutes input policy punch - policy.regularDayMinutes := by
  rw [overtimeMinutes, hrecords.regularMinutes_eq_min, hrecords.isHoliday,
    hrecords.payableMinutes_eq, ordinaryMinutes]
  by_cases hholiday : onHoliday input punch
  · simp [hholiday]
  · rw [if_neg hholiday, if_neg hholiday]
    omega

section Credited

variable (nameOrder : Text → Text → Bool) (profileId : ℕ)

/-- What the lines credit is credited for the punches one by one. -/
theorem credited_eq_sum_punches {minutes : PayrollLine Date → ℕ}
    {ofShift : PayrollShift Date → ℕ} {ofPunch : Punch Zone → ℕ}
    (hadds : ∀ line, AddsUp policy line → minutes line
      = (line.shifts.map fun paid => ofShift paid.toPayrollShift).sum)
    (hvalue : ∀ {punch shift}, Records input punch shift → ofShift shift = ofPunch punch) :
    credited minutes (calculatePayrollLines policy nameOrder (buildPayrollShifts input).1)
        profileId
      = ((punchesOf input profileId).map ofPunch).sum := by
  rw [credited_eq_sum_paidShifts
    (fun line hline => (addsUp_of_mem_lines hline : AddsUp policy line).own)
    (fun line hline => hadds line (addsUp_of_mem_lines hline))]
  apply List.Perm.sum_eq
  apply filter_paidShifts_perm nameOrder (fun paid => paid.1.profileId = profileId)
    (fun paid => ofShift paid.1)
  · intro punch shift hrecords
    rw [hrecords.profileId]
  · exact hvalue

theorem credited_regularMinutes_eq :
    credited (·.regularMinutes)
        (calculatePayrollLines policy nameOrder (buildPayrollShifts input).1) profileId
      = cappedSum (ordinaryMinutes input policy) policy.regularDayMinutes
          (punchesOf input profileId) :=
  credited_eq_sum_punches nameOrder profileId (fun _ hadds => hadds.regular)
    Records.regularMinutes_eq_min

theorem credited_overtimeMinutes_eq :
    credited (fun line => line.overtimeTier1Minutes + line.overtimeTier2Minutes)
        (calculatePayrollLines policy nameOrder (buildPayrollShifts input).1) profileId
      = excessSum (ordinaryMinutes input policy) policy.regularDayMinutes
          (punchesOf input profileId) :=
  credited_eq_sum_punches nameOrder profileId (fun _ hadds => hadds.overtime)
    Records.overtimeMinutes_eq

theorem workdayMinutes_eq (date : Date) :
    workdayMinutes (calculatePayrollLines policy nameOrder (buildPayrollShifts input).1)
        profileId date
      = ((punchesOn input profileId date).map (ordinaryMinutes input policy)).sum := by
  apply List.Perm.sum_eq
  apply filter_paidShifts_perm nameOrder
    (fun paid => paid.1.profileId = profileId && paid.1.workDate = date)
    (fun paid => if isHoliday paid.1 then 0 else paid.2)
  · intro punch shift hrecords
    rw [hrecords.profileId, hrecords.workDate]
  · intro punch shift hrecords
    rw [hrecords.isHoliday, hrecords.payableMinutes_eq, ordinaryMinutes]

theorem punchDate_mem_workDates (hpunch : punch ∈ punchesOf input profileId) :
    punchDate input punch
      ∈ workDates (calculatePayrollLines policy nameOrder (buildPayrollShifts input).1) := by
  have hdates := @filter_paidShifts_perm Zone Date _ input policy Date nameOrder
    (fun paid => paid.1.profileId = profileId) (fun paid => paid.1.workDate)
    (fun punch => punch.clockIn.profileId = profileId) (punchDate input)
    (fun hrecords => by rw [hrecords.profileId]) (fun hrecords => hrecords.workDate)
  have hmem := hdates.mem_iff.mpr (List.mem_map_of_mem hpunch)
  obtain ⟨paid, hpaid, hdate⟩ := List.mem_map.mp hmem
  rw [workDates, List.mem_toFinset, ← hdate]
  exact List.mem_map_of_mem (List.mem_of_mem_filter hpaid)

end Credited

/-- A break is taken off every punch with minutes to take it off. -/
theorem breakDeducted_iff (hrecords : Records input punch shift) :
    payableMinutes policy shift < roundedWork policy shift
      ↔ 0 < shift.unpaidBreakMinutes ∧ 0 < punchedMinutes policy punch := by
  rw [payableMinutes, hrecords.roundedWork_eq]
  omega

theorem length_breakDeducted_eq (profileId stallId : ℕ) (date : Date) :
    ((paidShifts (calculatePayrollLines policy nameOrder (buildPayrollShifts input).1)).filter
        fun paid => paid.profileId = profileId && paid.stallId = stallId
          && paid.workDate = date && breakDeducted policy paid).length
      = if scheduledBreak input profileId stallId date = 0 then 0
        else ((punchesOn input profileId date).filter fun punch =>
          punch.clockIn.stallId = stallId && 0 < punchedMinutes policy punch).length := by
  let select : PayrollShift Date × ℕ → Bool := fun paid =>
    paid.1.profileId = profileId && paid.1.stallId = stallId && paid.1.workDate = date
      && decide (paid.2 < roundedWork policy paid.1)
  let ofPunch : Punch Zone → Bool := fun punch =>
    punch.clockIn.profileId = profileId && punch.clockIn.stallId = stallId
      && punchDate input punch = date
      && (decide (0 < scheduledBreak input profileId stallId date)
        && decide (0 < punchedMinutes policy punch))
  have hselect : ∀ {punch shift}, Records input punch shift →
      select (shift, payableMinutes policy shift) = ofPunch punch := by
    intro punch shift hrecords
    have hdeducted : payableMinutes policy shift < roundedWork policy shift ↔ _ :=
      breakDeducted_iff hrecords
    rw [hrecords.unpaidBreakMinutes] at hdeducted
    rw [Bool.eq_iff_iff]
    simp only [select, ofPunch, Bool.and_eq_true, decide_eq_true_eq, hrecords.profileId,
      hrecords.stallId, hrecords.workDate, hdeducted]
    refine and_congr_right fun hsame => ?_
    rw [hsame.1.1, hsame.1.2, hsame.2]
  have hlength := (filter_paidShifts_perm nameOrder select (fun _ => ()) ofPunch (fun _ => ())
    hselect (fun _ => rfl)).length_eq
  rw [List.length_map, List.length_map] at hlength
  refine hlength.trans ?_
  unfold punchesOn
  rw [List.filter_filter]
  by_cases hbreak : scheduledBreak input profileId stallId date = 0
  · rw [if_pos hbreak, List.filter_eq_nil_iff.mpr (by simp [ofPunch, hbreak])]
    rfl
  · rw [if_neg hbreak]
    congr 1
    refine List.filter_congr fun punch _ => ?_
    rw [Bool.eq_iff_iff]
    simp only [ofPunch, Bool.and_eq_true, decide_eq_true_eq]
    have hpositive := Nat.pos_of_ne_zero hbreak
    tauto

/-- The regular minutes of a staff member follow the daily rule when no date is credited
more than the limit. -/
theorem regular_rule_iff (nameOrder : Text → Text → Bool) (profileId : ℕ) :
    credited (·.regularMinutes)
        (calculatePayrollLines policy nameOrder (buildPayrollShifts input).1) profileId
      = ∑ date ∈ workDates
            (calculatePayrollLines policy nameOrder (buildPayrollShifts input).1),
          min (workdayMinutes
              (calculatePayrollLines policy nameOrder (buildPayrollShifts input).1) profileId date)
            policy.regularDayMinutes
      ↔ ∀ date, cappedSum (ordinaryMinutes input policy) policy.regularDayMinutes
          (punchesOn input profileId date) ≤ policy.regularDayMinutes := by
  have hdates : ∀ punch ∈ punchesOf input profileId, punchDate input punch
      ∈ workDates (calculatePayrollLines policy nameOrder (buildPayrollShifts input).1) :=
    fun punch hpunch => punchDate_mem_workDates nameOrder profileId hpunch
  simp only [credited_regularMinutes_eq, workdayMinutes_eq, ← filter_punchesOf]
  rw [cappedSum_eq_sum_keys_iff hdates]
  refine ⟨fun hle date => ?_, fun hle date _ => hle date⟩
  by_cases hdate : date
      ∈ workDates (calculatePayrollLines policy nameOrder (buildPayrollShifts input).1)
  · exact hle date hdate
  · have hnone : (punchesOf input profileId).filter (punchDate input · = date) = [] := by
      rw [List.filter_eq_nil_iff]
      intro punch hpunch hsame
      rw [decide_eq_true_eq] at hsame
      exact hdate (hsame ▸ hdates punch hpunch)
    rw [hnone]
    exact Nat.zero_le _

theorem dailyRules_iff (nameOrder : Text → Text → Bool) (policy : PayrollPolicy)
    (input : ShiftInput Zone Date) :
    DailyRules policy (calculatePayrollLines policy nameOrder (buildPayrollShifts input).1)
      ↔ Undivided policy input := by
  constructor
  · intro hrules
    refine ⟨fun profileId date => ?_, fun profileId stallId date => ?_⟩
    · have hle := (regular_rule_iff nameOrder profileId).mp (hrules.regular profileId) date
      exact (cappedSum_le_iff _).mp hle
    · have hle := hrules.breaks profileId stallId date
      rw [length_breakDeducted_eq] at hle
      by_cases hbreak : scheduledBreak input profileId stallId date = 0
      · exact .inl hbreak
      · rw [if_neg hbreak] at hle
        exact .inr hle
  · intro hundivided
    have hregular : ∀ profileId, _ := fun profileId =>
      (regular_rule_iff nameOrder profileId).mpr fun date =>
        (cappedSum_le_iff _).mpr (hundivided.regular profileId date)
    refine ⟨hregular, fun profileId => ?_, fun profileId stallId date => ?_⟩
    · have hcapped := hregular profileId
      simp only [credited_regularMinutes_eq, workdayMinutes_eq, ← filter_punchesOf] at hcapped
      simp only [credited_overtimeMinutes_eq, workdayMinutes_eq, ← filter_punchesOf]
      exact excessSum_eq_sum_keys
        (fun punch hpunch => punchDate_mem_workDates nameOrder profileId hpunch) hcapped
    · rw [length_breakDeducted_eq]
      by_cases hbreak : scheduledBreak input profileId stallId date = 0
      · rw [if_pos hbreak]
        exact Nat.zero_le 1
      · rw [if_neg hbreak]
        exact (hundivided.breaks profileId stallId date).resolve_left hbreak

/-! ## A day in two parts -/

/-- Twelve hours in two parts, each with a break of one hour to take off. -/
def dividedDay : ShiftInput Unit ℕ where
  calendarDate _ occurredAt := (occurredAt / 86_400_000).toNat
  events := [(1, .clockIn, 8), (2, .clockOut, 14), (3, .clockIn, 15), (4, .clockOut, 21)].map
    fun event : ℕ × ClockEventType × ℤ =>
      { id := event.1
        profileId := 1
        stallId := 1
        eventType := event.2.1
        occurredAt := event.2.2 * 3_600_000
        displayName := []
        stallName := []
        timezone := () }
  dateFrom := 0
  dateTo := 0
  schedules _ _ _ := some ⟨60, .workday⟩
  holidays _ := none
  wageRates := []

def eightHourPolicy : PayrollPolicy where
  regularDayMinutes := 480
  roundingIncrementMinutes := 15
  overtimeTier1Minutes := 120
  overtimeTier1MultiplierBps := 13_400
  overtimeTier2MultiplierBps := 16_700
  defaultHolidayMultiplierBps := 20_000

/-- Ten hours are credited as regular ones, where eight are the limit. -/
theorem dividedDay_breaks_dailyRules :
    ¬DailyRules eightHourPolicy
      (calculatePayrollLines eightHourPolicy (fun _ _ => true)
        (buildPayrollShifts dividedDay).1) := by
  intro hrules
  have hregular := hrules.regular 1
  exact absurd hregular (by decide +kernel)

end Stallorder.Payroll
