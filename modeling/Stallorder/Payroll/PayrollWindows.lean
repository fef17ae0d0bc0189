import Stallorder.Attendance.AttendanceService
import Stallorder.Core.Neighbors
import Stallorder.Core.UtcDate
import Stallorder.Payroll.DailyRules

/-!
# Payrolls over windows of the clock events

A payroll reads the clock events of its dates and of a day before and after, and
no more than a fixed number of them.  Shifts are found by pairing what was read.
A window never pairs events that do not belong together: it pays for a shift
exactly when the shift begins on its dates and ends within what it has read.
-/

namespace Stallorder.PayrollWindows

open Payroll Checks UtcDate ZonedClock FirstOf Neighbors AttendanceService

/-! ## Reading the events -/

structure AttendanceRow extends ClockEvent TimeZone where
  decision : AttendanceDecision

structure AttendanceTable where
  rows : List AttendanceRow
  nodup : (rows.map (·.id)).Nodup

def AttendanceTable.accepted (table : AttendanceTable) : List (ClockEvent TimeZone) :=
  (table.rows.filter (·.decision = .accepted)).map (·.toClockEvent)

/-- What the other queries of the dashboard have answered. -/
structure PayrollSettings where
  policy : PayrollPolicy
  schedules : ℕ → ℕ → ℤ → Option Schedule
  holidays : ℤ → Option ℕ
  wageRates : List (WageRate ℤ)
  nameOrder : Text → Text → Bool

/-- Dates are counted in days.  `place` is where the scan of the query meets a row, which
decides between events of one time. -/
structure DashboardInput where
  dateFrom : ℤ
  dateTo : ℤ
  restrictedStallIds : Option (List ℕ)
  place : ℕ → ℕ
  settings : PayrollSettings

inductive WorkforceOperationError
  | dateRangeInvalid
  | dateRangeTooLarge
  deriving DecidableEq

def assertDateRange (dateFrom dateTo maxDays : ℤ) : Except WorkforceOperationError Unit := do
  failWhen (dateTo < dateFrom) .dateRangeInvalid
  failWhen (maxDays < dateTo - dateFrom + 1) .dateRangeTooLarge

def bufferFrom (dateFrom : ℤ) : Payroll.Timestamp := dateFrom * dayLength - 24 * 60 * 60_000

def bufferTo (dateTo : ℤ) : Payroll.Timestamp := (dateTo + 1) * dayLength + 24 * 60 * 60_000

def eventOrder (place : ℕ → ℕ) (event : ClockEvent TimeZone) : ℕ ×ₗ ℕ ×ₗ ℤ ×ₗ ℕ ×ₗ ℕ :=
  toLex (event.profileId, toLex (event.stallId, toLex (event.occurredAt,
    toLex (place event.id, event.id))))

def inWindow (input : DashboardInput) (event : ClockEvent TimeZone) : Bool :=
  bufferFrom input.dateFrom ≤ event.occurredAt && event.occurredAt < bufferTo input.dateTo
    && input.restrictedStallIds.all (event.stallId ∈ ·)

def attendanceEvents (table : AttendanceTable) (input : DashboardInput) :
    List (ClockEvent TimeZone) :=
  firstOf (eventOrder input.place) 20_000 (table.accepted.filter (inWindow input))

/-! ## The dashboard -/

structure WorkforceDashboard where
  payrollPreview : List (PayrollLine ℤ)
  anomalies : List Anomaly

def calendarDate (zone : TimeZone) (instant : Payroll.Timestamp) : ℤ :=
  dayOf (wallClock zone instant)

def shiftInput (table : AttendanceTable) (input : DashboardInput) : ShiftInput TimeZone ℤ where
  calendarDate := calendarDate
  events := attendanceEvents table input
  dateFrom := input.dateFrom
  dateTo := input.dateTo
  schedules := input.settings.schedules
  holidays := input.settings.holidays
  wageRates := input.settings.wageRates

def getWorkforceDashboard (table : AttendanceTable) (input : DashboardInput) :
    Except WorkforceOperationError WorkforceDashboard := do
  assertDateRange input.dateFrom input.dateTo 366
  let (shifts, anomalies) := buildPayrollShifts (shiftInput table input)
  return {
    payrollPreview := calculatePayrollLines input.settings.policy input.settings.nameOrder shifts
    anomalies }

/-- The shifts that are paid for, by the ids of their two events. -/
def paidIds (table : AttendanceTable) (input : DashboardInput) : List (ℕ × ℕ) :=
  match getWorkforceDashboard table input with
  | .ok dashboard => (paidShifts dashboard.payrollPreview).map (·.id)
  | .error _ => []

/-! ## Which shifts a payroll pays for -/

section Closing

variable (place : ℕ → ℕ) (events : List (ClockEvent TimeZone))

/-- The clock-out follows the clock-in among the events of the staff member at the stall. -/
def Closes (clockIn clockOut : ClockEvent TimeZone) : Prop :=
  clockIn.eventType = .clockIn ∧ clockOut.eventType = .clockOut
    ∧ staffAtStall clockOut = staffAtStall clockIn
    ∧ eventOrder place clockIn < eventOrder place clockOut
    ∧ ∀ other ∈ events, staffAtStall other = staffAtStall clockIn →
      eventOrder place clockIn < eventOrder place other →
        eventOrder place clockOut ≤ eventOrder place other

instance (clockIn clockOut : ClockEvent TimeZone) :
    Decidable (Closes place events clockIn clockOut) :=
  inferInstanceAs (Decidable (_ ∧ _ ∧ _ ∧ _ ∧ _))

end Closing

section Reaching

variable (table : AttendanceTable) (input : DashboardInput)

/-- The shift begins on the dates of the payroll and ends within what the payroll reads. -/
def Reaches (clockIn clockOut : ClockEvent TimeZone) : Prop :=
  input.dateFrom ≤ calendarDate clockIn.timezone clockIn.occurredAt
    ∧ calendarDate clockIn.timezone clockIn.occurredAt ≤ input.dateTo
    ∧ input.dateTo - input.dateFrom < 366
    ∧ (input.restrictedStallIds.all (clockIn.stallId ∈ ·) = true)
    ∧ clockOut.occurredAt < bufferTo input.dateTo
    ∧ (before (eventOrder input.place) (table.accepted.filter (inWindow input))
        clockOut).length < 20_000

instance (clockIn clockOut : ClockEvent TimeZone) :
    Decidable (Reaches table input clockIn clockOut) :=
  inferInstanceAs (Decidable (_ ∧ _ ∧ _ ∧ _ ∧ _ ∧ _))

def Pays (ids : ℕ × ℕ) : Prop :=
  ∃ clockIn ∈ table.accepted, ∃ clockOut ∈ table.accepted, (clockIn.id, clockOut.id) = ids
    ∧ Closes input.place table.accepted clockIn clockOut ∧ Reaches table input clockIn clockOut

instance (ids : ℕ × ℕ) : Decidable (Pays table input ids) :=
  inferInstanceAs (Decidable (∃ clockIn ∈ table.accepted, ∃ clockOut ∈ table.accepted, _))

end Reaching

/-! ## The events that were read -/

section Events

variable {table : AttendanceTable} {input : DashboardInput} {place : ℕ → ℕ}
  {event other clockIn clockOut : ClockEvent TimeZone}

theorem id_inj (hevent : event ∈ table.accepted) (hother : other ∈ table.accepted)
    (hid : event.id = other.id) : event = other := by
  obtain ⟨row, hrow, rfl⟩ := List.mem_map.mp hevent
  obtain ⟨otherRow, hotherRow, rfl⟩ := List.mem_map.mp hother
  rw [List.inj_on_of_nodup_map table.nodup (List.mem_filter.mp hrow).1
    (List.mem_filter.mp hotherRow).1 hid]

theorem nodup_accepted (table : AttendanceTable) : (table.accepted.map (·.id)).Nodup := by
  rw [AttendanceTable.accepted, List.map_map]
  exact table.nodup.sublist (List.filter_sublist.map _)

theorem nodup_eventOrder (place : ℕ → ℕ) {events : List (ClockEvent TimeZone)}
    (hnodup : (events.map (·.id)).Nodup) : (events.map (eventOrder place)).Nodup := by
  have hid : (fun event : ClockEvent TimeZone => event.id)
      = (fun key : ℕ ×ₗ ℕ ×ₗ ℤ ×ₗ ℕ ×ₗ ℕ =>
          (ofLex (ofLex (ofLex (ofLex key).2).2).2).2) ∘ eventOrder place := rfl
  rw [hid, ← List.map_map] at hnodup
  exact List.Nodup.of_map _ hnodup

/-- Of the events of one staff member at one stall, an earlier one is not later in time. -/
theorem occurredAt_le (hsame : staffAtStall other = staffAtStall event)
    (hlt : eventOrder place event < eventOrder place other) :
    event.occurredAt ≤ other.occurredAt := by
  obtain ⟨hprofile, hstall⟩ := Prod.mk.inj hsame
  unfold eventOrder at hlt
  rw [Prod.Lex.toLex_lt_toLex] at hlt
  rcases hlt with hlt | ⟨-, hlt⟩
  · exact absurd hprofile hlt.ne'
  · rw [Prod.Lex.toLex_lt_toLex] at hlt
    rcases hlt with hlt | ⟨-, hlt⟩
    · exact absurd hstall hlt.ne'
    · rw [Prod.Lex.toLex_lt_toLex] at hlt
      exact hlt.elim le_of_lt fun heq => heq.1.le

theorem nodup_candidates (table : AttendanceTable) (input : DashboardInput) :
    ((table.accepted.filter (inWindow input)).map (eventOrder input.place)).Nodup :=
  nodup_eventOrder input.place ((nodup_accepted table).sublist (List.filter_sublist.map _))

theorem growing_attendanceEvents (table : AttendanceTable) (input : DashboardInput) :
    (attendanceEvents table input).Pairwise
      fun left right => eventOrder input.place left < eventOrder input.place right :=
  growing_firstOf _ (nodup_candidates table input)

theorem accepted_of_mem (hmem : event ∈ attendanceEvents table input) :
    event ∈ table.accepted ∧ inWindow input event = true :=
  List.mem_filter.mp (mem_of_mem_firstOf hmem)

theorem inWindow_iff : inWindow input event = true
    ↔ bufferFrom input.dateFrom ≤ event.occurredAt ∧ event.occurredAt < bufferTo input.dateTo
      ∧ input.restrictedStallIds.all (event.stallId ∈ ·) = true := by
  simp only [inWindow, Bool.and_eq_true, decide_eq_true_eq, and_assoc]

/-- A zone is less than a day ahead or behind. -/
theorem bufferFrom_le_of_date
    (hdate : input.dateFrom ≤ calendarDate clockIn.timezone clockIn.occurredAt) :
    bufferFrom input.dateFrom ≤ clockIn.occurredAt := by
  have hshown : input.dateFrom * dayLength ≤ wallClock clockIn.timezone clockIn.occurredAt :=
    le_dayOf_iff.mp hdate
  have hoffset := (abs_le.mp (clockIn.timezone.abs_offset_le clockIn.occurredAt)).2
  rw [wallClock] at hshown
  calc bufferFrom input.dateFrom = input.dateFrom * dayLength - dayLength := rfl
    _ ≤ clockIn.occurredAt + clockIn.timezone.offset clockIn.occurredAt - dayLength :=
      Int.sub_le_sub_right hshown dayLength
    _ ≤ clockIn.occurredAt := by linarith [minuteLength_pos]

/-- With the clock-out of a shift, a payroll has read the shift. -/
theorem reads_iff (hin : clockIn ∈ table.accepted) (hout : clockOut ∈ table.accepted)
    (hcloses : Closes input.place table.accepted clockIn clockOut)
    (hdate : input.dateFrom ≤ calendarDate clockIn.timezone clockIn.occurredAt) :
    (clockIn ∈ attendanceEvents table input ∧ clockOut ∈ attendanceEvents table input)
      ↔ (input.restrictedStallIds.all (clockIn.stallId ∈ ·) = true)
        ∧ clockOut.occurredAt < bufferTo input.dateTo
        ∧ (before (eventOrder input.place) (table.accepted.filter (inWindow input))
            clockOut).length < 20_000 := by
  obtain ⟨-, -, hsame, hlt, -⟩ := hcloses
  have hle : clockIn.occurredAt ≤ clockOut.occurredAt := occurredAt_le hsame hlt
  have hstall : clockOut.stallId = clockIn.stallId := (Prod.mk.inj hsame).2
  have hbegins := bufferFrom_le_of_date hdate
  constructor
  · rintro ⟨-, hread⟩
    obtain ⟨-, hwindow⟩ := accepted_of_mem hread
    obtain ⟨-, hends, hstalls⟩ := inWindow_iff.mp hwindow
    rw [hstall] at hstalls
    exact ⟨hstalls, hends, (mem_firstOf_iff (nodup_candidates table input)
      (mem_of_mem_firstOf hread)).mp hread⟩
  · rintro ⟨hstalls, hends, hrank⟩
    have hinCandidate : clockIn ∈ table.accepted.filter (inWindow input) :=
      List.mem_filter.mpr ⟨hin, inWindow_iff.mpr ⟨hbegins, hle.trans_lt hends, hstalls⟩⟩
    have houtCandidate : clockOut ∈ table.accepted.filter (inWindow input) :=
      List.mem_filter.mpr ⟨hout, inWindow_iff.mpr ⟨hbegins.trans hle, hends, by rwa [hstall]⟩⟩
    have hread : clockOut ∈ attendanceEvents table input :=
      (mem_firstOf_iff (nodup_candidates table input) houtCandidate).mpr hrank
    exact ⟨mem_firstOf_of_lt (nodup_candidates table input) hread hinCandidate hlt, hread⟩

/-- What comes between two events that were read was read. -/
theorem read_of_between (hin : clockIn ∈ attendanceEvents table input)
    (hout : clockOut ∈ attendanceEvents table input)
    (hsame : staffAtStall clockOut = staffAtStall clockIn) (hother : other ∈ table.accepted)
    (hstaff : staffAtStall other = staffAtStall clockIn)
    (hafter : eventOrder input.place clockIn < eventOrder input.place other)
    (hbefore : eventOrder input.place other < eventOrder input.place clockOut) :
    other ∈ attendanceEvents table input := by
  obtain ⟨hfrom, -, hstalls⟩ := inWindow_iff.mp (accepted_of_mem hin).2
  obtain ⟨-, hto, -⟩ := inWindow_iff.mp (accepted_of_mem hout).2
  have hlow := occurredAt_le hstaff hafter
  have hhigh := occurredAt_le (hsame.trans hstaff.symm) hbefore
  have hwindow : inWindow input other = true := by
    rw [inWindow_iff, (Prod.mk.inj hstaff).2]
    exact ⟨hfrom.trans hlow, hhigh.trans_lt hto, hstalls⟩
  exact mem_firstOf_of_lt (nodup_candidates table input) hout
    (List.mem_filter.mpr ⟨hother, hwindow⟩) hbefore

/-! ## Pairing what was read -/

theorem mem_allPunches_iff {events : List (ClockEvent TimeZone)} {punch : Punch TimeZone}
    (hgrowing : events.Pairwise fun left right => eventOrder place left < eventOrder place right) :
    punch ∈ allPunches events ↔ punch.clockIn.eventType = .clockIn
      ∧ punch.clockOut.eventType = .clockOut
      ∧ Follows (eventOrder place)
          (events.filter (staffAtStall · = staffAtStall punch.clockIn))
          punch.clockIn punch.clockOut := by
  have hgroup : ∀ staff : ℕ × ℕ, punch ∈ closedPunches (events.filter (staffAtStall · = staff))
      ↔ punch.clockIn.eventType = .clockIn ∧ punch.clockOut.eventType = .clockOut
        ∧ Follows (eventOrder place) (events.filter (staffAtStall · = staff))
            punch.clockIn punch.clockOut := by
    intro staff
    have hsorted := hgrowing.sublist (List.filter_sublist (p := (staffAtStall · = staff)))
    rw [← mem_zip_tail_iff hsorted]
    generalize events.filter (staffAtStall · = staff) = group
    unfold closedPunches
    rw [List.mem_map]
    constructor
    · rintro ⟨⟨first, second⟩, hmem, rfl⟩
      obtain ⟨hzip, htypes⟩ := List.mem_filter.mp hmem
      simp only [Bool.and_eq_true, decide_eq_true_eq] at htypes
      exact ⟨htypes.1, htypes.2, hzip⟩
    · rintro ⟨hin, hout, hzip⟩
      refine ⟨(punch.clockIn, punch.clockOut), List.mem_filter.mpr ⟨hzip, ?_⟩, rfl⟩
      rw [Bool.and_eq_true, decide_eq_true_eq, decide_eq_true_eq]
      exact ⟨hin, hout⟩
  unfold allPunches
  rw [List.mem_flatMap]
  constructor
  · rintro ⟨⟨staff, group⟩, hgroupMem, hpunch⟩
    obtain ⟨-, rfl⟩ := Grouping.mem_collect_iff.mp hgroupMem
    have hfollows := (hgroup staff).mp hpunch
    have hstaff : staffAtStall punch.clockIn = staff :=
      of_decide_eq_true (List.mem_filter.mp hfollows.2.2.first_mem).2
    rw [hstaff]
    exact hfollows
  · intro hfollows
    have hpunch := (hgroup (staffAtStall punch.clockIn)).mpr hfollows
    refine ⟨(staffAtStall punch.clockIn, _), Grouping.mem_collect_iff.mpr ⟨?_, rfl⟩, hpunch⟩
    exact List.ne_nil_of_mem hfollows.2.2.first_mem

theorem mem_of_mem_closedPunches {events : List (ClockEvent TimeZone)} {punch : Punch TimeZone}
    {staff : ℕ × ℕ} (hmem : punch ∈ closedPunches (events.filter (staffAtStall · = staff))) :
    (punch.clockIn ∈ events ∧ punch.clockOut ∈ events) ∧ staffAtStall punch.clockIn = staff := by
  obtain ⟨pair, hpair, rfl⟩ := List.mem_map.mp hmem
  obtain ⟨hfirst, hsecond⟩ := List.of_mem_zip (List.mem_filter.mp hpair).1
  obtain ⟨hin, hstaff⟩ := List.mem_filter.mp hfirst
  exact ⟨⟨hin, (List.mem_filter.mp (List.mem_of_mem_tail hsecond)).1⟩, of_decide_eq_true hstaff⟩

theorem mem_of_mem_allPunches {events : List (ClockEvent TimeZone)} {punch : Punch TimeZone}
    (hmem : punch ∈ allPunches events) : punch.clockIn ∈ events ∧ punch.clockOut ∈ events := by
  obtain ⟨⟨staff, group⟩, hgroup, hpunch⟩ := List.mem_flatMap.mp hmem
  obtain ⟨-, rfl⟩ := Grouping.mem_collect_iff.mp hgroup
  exact (mem_of_mem_closedPunches hpunch).1

theorem nodup_allPunches {events : List (ClockEvent TimeZone)} (hnodup : events.Nodup) :
    (allPunches events).Nodup := by
  apply List.nodup_flatMap.mpr
  constructor
  · rintro ⟨staff, group⟩ hgroup
    obtain ⟨-, rfl⟩ := Grouping.mem_collect_iff.mp hgroup
    apply List.Nodup.map
    · intro left right heq
      obtain ⟨hin, hout⟩ := Punch.mk.inj heq
      exact Prod.ext hin hout
    · exact (nodup_zip_tail (hnodup.filter _)).filter _
  · have hkeys : ((groupedEvents events).Pairwise fun left right => left.1 ≠ right.1) :=
      List.pairwise_map.mp (Grouping.nodup_keys_groupBy events)
    apply hkeys.imp_of_mem
    rintro ⟨staff, group⟩ ⟨otherStaff, otherGroup⟩ hgroup hother hne punch hpunch hpunchOther
    obtain ⟨-, rfl⟩ := Grouping.mem_collect_iff.mp hgroup
    obtain ⟨-, rfl⟩ := Grouping.mem_collect_iff.mp hother
    exact hne ((mem_of_mem_closedPunches hpunch).2.symm.trans (mem_of_mem_closedPunches hpunchOther).2)

/-! ## What is paid -/

def punchIds (punch : Punch TimeZone) : ℕ × ℕ := (punch.clockIn.id, punch.clockOut.id)

theorem ids_shiftsOf (shiftInput : ShiftInput TimeZone ℤ) (punches : List (Punch TimeZone)) :
    (shiftsOf shiftInput punches).map (·.id)
      = (punches.filter fun punch => InPeriod shiftInput (punchDate shiftInput punch)).map
          punchIds := by
  induction punches with
  | nil => rfl
  | cons punch punches ih =>
      by_cases hperiod : InPeriod shiftInput (punchDate shiftInput punch)
      · obtain ⟨shift, hshift⟩ := exists_shiftOf_of_inPeriod hperiod
        have hid : shift.id = punchIds punch := by
          dsimp only [shiftOf] at hshift
          split at hshift
          · cases hshift
          · cases hshift
            rfl
        have hcons : shiftsOf shiftInput (punch :: punches)
            = shift :: shiftsOf shiftInput punches := List.filterMap_cons_some hshift
        rw [hcons, List.map_cons, ih, hid, List.filter_cons, if_pos (decide_eq_true hperiod),
          List.map_cons]
      · have hshift : shiftOf shiftInput punch.clockIn punch.clockOut = none := by
          cases hshift : shiftOf shiftInput punch.clockIn punch.clockOut with
          | none => rfl
          | some shift => exact absurd (records_of_shiftOf hshift).inPeriod hperiod
        have hcons : shiftsOf shiftInput (punch :: punches) = shiftsOf shiftInput punches :=
          List.filterMap_cons_none hshift
        rw [hcons, ih, List.filter_cons, if_neg (by simpa using hperiod)]

theorem ids_paidShifts (policy : PayrollPolicy) (nameOrder : Text → Text → Bool)
    (shifts : List (PayrollShift ℤ)) :
    ((paidShifts (calculatePayrollLines policy nameOrder shifts)).map (·.id)).Perm
      (shifts.map (·.id)) := by
  have hperm : ((calculatePayrollLines policy nameOrder shifts).flatMap payables).Perm
      (shifts.map fun shift => (shift, payableMinutes policy shift)) := payables_perm
  have hids := hperm.map (·.1.id)
  have hpaid : ∀ lines : List (PayrollLine ℤ),
      (paidShifts lines).map (·.id) = (lines.flatMap payables).map (·.1.id) := by
    intro lines
    rw [paidShifts, List.map_flatMap, List.map_flatMap]
    simp only [payables, List.map_map, Function.comp_def]
  rw [hpaid]
  simpa only [List.map_map, Function.comp_def] using hids

variable (table input)

/-- The closed punches of what was read, on the dates of the payroll. -/
def readPunches : List (Punch TimeZone) :=
  (allPunches (attendanceEvents table input)).filter fun punch =>
    InPeriod (shiftInput table input) (punchDate (shiftInput table input) punch)

theorem assertDateRange_eq (dateFrom dateTo maxDays : ℤ) :
    (assertDateRange dateFrom dateTo maxDays = .ok ()
        ∧ dateFrom ≤ dateTo ∧ dateTo - dateFrom < maxDays)
      ∨ (∃ error, assertDateRange dateFrom dateTo maxDays = .error error)
        ∧ ¬(dateFrom ≤ dateTo ∧ dateTo - dateFrom < maxDays) := by
  unfold assertDateRange
  by_cases hinvalid : dateTo < dateFrom
  · right
    rw [decide_eq_true hinvalid, failWhen_true]
    exact ⟨⟨_, rfl⟩, fun hvalid => absurd hvalid.1 hinvalid.not_ge⟩
  · rw [decide_eq_false hinvalid, failWhen_false, bind_ok]
    by_cases hlarge : maxDays < dateTo - dateFrom + 1
    · right
      rw [decide_eq_true hlarge, failWhen_true]
      exact ⟨⟨_, rfl⟩, fun hvalid => absurd hvalid.2 (by omega)⟩
    · left
      rw [decide_eq_false hlarge, failWhen_false]
      exact ⟨rfl, not_lt.mp hinvalid, by omega⟩

/-- In a range of dates that the dashboard takes, it pays for the punches that it reads. -/
theorem paidIds_perm (hvalid : input.dateFrom ≤ input.dateTo
      ∧ input.dateTo - input.dateFrom < 366) :
    (paidIds table input).Perm ((readPunches table input).map punchIds) := by
  rcases assertDateRange_eq input.dateFrom input.dateTo 366 with ⟨hok, -⟩ | ⟨-, hnot⟩
  · have hids : paidIds table input = (paidShifts (calculatePayrollLines input.settings.policy
        input.settings.nameOrder (buildPayrollShifts (shiftInput table input)).1)).map (·.id) := by
      rw [paidIds, getWorkforceDashboard, hok]
      rfl
    rw [hids]
    refine (ids_paidShifts _ _ _).trans ?_
    rw [buildPayrollShifts_eq, ids_shiftsOf]
    exact List.Perm.refl _
  · exact absurd hvalid hnot

theorem paidIds_of_invalid (hinvalid : ¬(input.dateFrom ≤ input.dateTo
      ∧ input.dateTo - input.dateFrom < 366)) : paidIds table input = [] := by
  rcases assertDateRange_eq input.dateFrom input.dateTo 366 with ⟨-, hvalid⟩ | ⟨⟨error, herror⟩, -⟩
  · exact absurd hvalid hinvalid
  · rw [paidIds, getWorkforceDashboard, herror]
    rfl

theorem nodup_readPunches : ((readPunches table input).map punchIds).Nodup := by
  have hevents : (attendanceEvents table input).Nodup :=
    (growing_attendanceEvents table input).imp fun hlt heq => absurd (heq ▸ hlt) (lt_irrefl _)
  apply List.Nodup.map_on
  · intro left hleft right hright hids
    obtain ⟨hleftIn, hleftOut⟩ := mem_of_mem_allPunches (List.mem_filter.mp hleft).1
    obtain ⟨hrightIn, hrightOut⟩ := mem_of_mem_allPunches (List.mem_filter.mp hright).1
    obtain ⟨hin, hout⟩ := Prod.mk.inj hids
    have hclockIn := id_inj (accepted_of_mem hleftIn).1 (accepted_of_mem hrightIn).1 hin
    have hclockOut := id_inj (accepted_of_mem hleftOut).1 (accepted_of_mem hrightOut).1 hout
    cases left
    cases right
    exact congrArg₂ Punch.mk hclockIn hclockOut
  · exact (nodup_allPunches hevents).filter _

/-- Reading only a window makes and breaks no pair. -/
theorem follows_read_iff (hin : clockIn ∈ attendanceEvents table input)
    (hout : clockOut ∈ attendanceEvents table input) :
    Follows (eventOrder input.place) ((attendanceEvents table input).filter
        (staffAtStall · = staffAtStall clockIn)) clockIn clockOut
      ↔ staffAtStall clockOut = staffAtStall clockIn
        ∧ eventOrder input.place clockIn < eventOrder input.place clockOut
        ∧ ∀ other ∈ table.accepted, staffAtStall other = staffAtStall clockIn →
          eventOrder input.place clockIn < eventOrder input.place other →
            eventOrder input.place clockOut ≤ eventOrder input.place other := by
  constructor
  · intro hfollows
    have hsame : staffAtStall clockOut = staffAtStall clockIn :=
      of_decide_eq_true (List.mem_filter.mp hfollows.second_mem).2
    refine ⟨hsame, hfollows.lt, fun other hother hstaff hafter => ?_⟩
    by_contra hbetween
    have hread := read_of_between hin hout hsame hother hstaff hafter (not_le.mp hbetween)
    exact hbetween (hfollows.none_between other
      (List.mem_filter.mpr ⟨hread, decide_eq_true hstaff⟩) hafter)
  · rintro ⟨hsame, hlt, hnone⟩
    refine ⟨List.mem_filter.mpr ⟨hin, decide_eq_true rfl⟩,
      List.mem_filter.mpr ⟨hout, decide_eq_true hsame⟩, hlt, fun other hother => ?_⟩
    obtain ⟨hread, hstaff⟩ := List.mem_filter.mp hother
    exact hnone other (accepted_of_mem hread).1 (of_decide_eq_true hstaff)

/-- A payroll pays for a shift exactly when it reaches it. -/
theorem mem_readPunches_iff (ids : ℕ × ℕ) (hvalid : input.dateTo - input.dateFrom < 366) :
    ids ∈ (readPunches table input).map punchIds ↔ Pays table input ids := by
  constructor
  · intro hmem
    obtain ⟨⟨clockIn, clockOut⟩, hpunch, rfl⟩ := List.mem_map.mp hmem
    obtain ⟨hpunches, hperiod⟩ := List.mem_filter.mp hpunch
    obtain ⟨hfrom, hto⟩ := of_decide_eq_true hperiod
    obtain ⟨hin, hout⟩ := mem_of_mem_allPunches hpunches
    obtain ⟨hinType, houtType, hfollows⟩ :=
      (mem_allPunches_iff (growing_attendanceEvents table input)).mp hpunches
    have hcloses : Closes input.place table.accepted clockIn clockOut :=
      ⟨hinType, houtType, (follows_read_iff table input hin hout).mp hfollows⟩
    have hinTable := (accepted_of_mem hin).1
    have houtTable := (accepted_of_mem hout).1
    exact ⟨clockIn, hinTable, clockOut, houtTable, rfl, hcloses, hfrom, hto, hvalid,
      (reads_iff hinTable houtTable hcloses hfrom).mp ⟨hin, hout⟩⟩
  · rintro ⟨clockIn, hinTable, clockOut, houtTable, rfl, hcloses, hfrom, hto, -, hreached⟩
    obtain ⟨hin, hout⟩ := (reads_iff hinTable houtTable hcloses hfrom).mpr hreached
    obtain ⟨hinType, houtType, hfollows⟩ := hcloses
    have hpunch : ⟨clockIn, clockOut⟩ ∈ allPunches (attendanceEvents table input) :=
      (mem_allPunches_iff (growing_attendanceEvents table input)).mpr
        ⟨hinType, houtType, (follows_read_iff table input hin hout).mpr hfollows⟩
    exact List.mem_map.mpr ⟨⟨clockIn, clockOut⟩,
      List.mem_filter.mpr ⟨hpunch, decide_eq_true ⟨hfrom, hto⟩⟩, rfl⟩

theorem count_paidIds (ids : ℕ × ℕ) :
    (paidIds table input).count ids = if Pays table input ids then 1 else 0 := by
  by_cases hvalid : input.dateFrom ≤ input.dateTo ∧ input.dateTo - input.dateFrom < 366
  · have hmem := mem_readPunches_iff table input ids hvalid.2
    rw [(paidIds_perm table input hvalid).count_eq]
    by_cases hpays : Pays table input ids
    · rw [if_pos hpays]
      exact List.count_eq_one_of_mem (nodup_readPunches table input) (hmem.mpr hpays)
    · rw [if_neg hpays]
      exact List.count_eq_zero_of_not_mem fun hpaid => hpays (hmem.mp hpaid)
  · rw [paidIds_of_invalid table input hvalid, List.count_nil, if_neg]
    rintro ⟨clockIn, -, clockOut, -, -, -, hfrom, hto, hshort, -⟩
    exact hvalid ⟨hfrom.trans hto, hshort⟩

end Events

/-- Any number of payrolls pay for a shift as often as one of them reaches it. -/
theorem count_paid (table : AttendanceTable) (inputs : List DashboardInput) (ids : ℕ × ℕ) :
    (inputs.flatMap (paidIds table)).count ids
      = inputs.countP fun input => Pays table input ids := by
  induction inputs with
  | nil => rfl
  | cons input inputs ih =>
      rw [List.flatMap_cons, List.count_append, ih, count_paidIds, List.countP_cons, add_comm]
      simp only [decide_eq_true_eq]

end Stallorder.PayrollWindows
