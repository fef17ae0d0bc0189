import Stallorder.Core.Checks
import Stallorder.Core.Run
import Stallorder.Core.Schema
import Stallorder.Core.Table
import Stallorder.Reports.ReportScheduling

/-!
# Delivering scheduled reports

An invocation reads the schedules that are due and takes them one by one: a
transaction moves the schedule on to its next run and records a delivery, and
after it has committed the report is built, sent, and its outcome recorded.
Invocations overlap, and each may stop at any point.
-/

namespace Stallorder.Reports

open UtcDate Checks

inductive DeliveryStatus
  | processing
  | sent
  | simulated
  | failure
  deriving DecidableEq

structure ReportSchedule where
  id : ℕ
  time : ScheduleTime
  isEnabled : Bool
  nextRunAt : ℤ
  lastRunAt : Option ℤ
  archivedAt : Option ℤ

structure ReportDelivery where
  id : ℕ
  reportScheduleId : ℕ
  reportType : ReportType
  status : DeliveryStatus
  scheduledFor : ℤ
  periodStart : DateParts
  periodEnd : DateParts
  providerMessageId : Option Text
  errorCode : Option Text
  sentAt : Option ℤ
  deriving DecidableEq

instance : KeyIndexed ReportSchedule ℕ := KeyIndexed.ofKey ReportSchedule.id

/-- Deliveries are unique by schedule and run. -/
instance : Indexed ReportDelivery ℕ :=
  (KeyIndexed.ofKey ReportDelivery.id).toIndexed.addUnique fun delivery =>
    some (delivery.reportScheduleId, delivery.scheduledFor)

structure ReportDatabase where
  schedules : Table ReportSchedule
  deliveries : Table ReportDelivery

inductive ReportError
  | nextRunNotFound
  | uniqueViolation
  | notProcessable
  deriving DecidableEq

/-! ## Claiming a run -/

def isDue (now : ℤ) (schedule : ReportSchedule) : Bool :=
  schedule.isEnabled && schedule.archivedAt.isNone && schedule.nextRunAt ≤ now

/-- The first schedules that are due. -/
def dueSchedules (schedules : Table ReportSchedule) (now limit : ℤ) : List ReportSchedule :=
  ((schedules.rows.filter fun schedule => isDue now schedule).insertionSort
    fun left right => left.nextRunAt ≤ right.nextRunAt).take (min (max limit 1) 50).toNat

/-- The schedule is still as it was read. -/
def isUnclaimed (read stored : ReportSchedule) : Bool :=
  stored.id = read.id && stored.isEnabled && stored.archivedAt.isNone
    && stored.nextRunAt = read.nextRunAt

def advance (nextRunAt scheduledFor : ℤ) (schedule : ReportSchedule) : ReportSchedule :=
  { schedule with nextRunAt, lastRunAt := some scheduledFor }

theorem collides_advance {nextRunAt scheduledFor : ℤ} {row other : ReportSchedule}
    (hcollides : Indexed.collides (advance nextRunAt scheduledFor row) other) :
    Indexed.collides row other := hcollides

def newDelivery (schedule : ReportSchedule) (deliveryId : ℕ) : ReportDelivery :=
  let period := reportPeriodForRun schedule.time.reportType schedule.nextRunAt
    schedule.time.timezone.toTimeZone
  { id := deliveryId
    reportScheduleId := schedule.id
    reportType := schedule.time.reportType
    status := .processing
    scheduledFor := schedule.nextRunAt
    periodStart := period.periodStart
    periodEnd := period.periodEnd
    providerMessageId := none
    errorCode := none
    sentAt := none }

/-- The transaction of a schedule: nothing when it was claimed or changed since it was read. -/
def claimRun (schedule : ReportSchedule) (deliveryId : ℕ) (database : ReportDatabase) :
    Except ReportError (Option ReportDatabase) := do
  let scheduledFor := schedule.nextRunAt
  let nextRunAt ← orFail (nextScheduledRun schedule.time scheduledFor) .nextRunNotFound
  match database.schedules.get? schedule.id with
  | none => return none
  | some stored =>
      if isUnclaimed schedule stored then
        let deliveries ← orFail (database.deliveries.insert? (newDelivery schedule deliveryId))
          .uniqueViolation
        let schedules := database.schedules.update schedule.id (advance nextRunAt scheduledFor)
          collides_advance
        return some { schedules, deliveries }
      else return none

/-! ## Recording an outcome -/

structure SendResult where
  simulated : Bool
  messageId : Text

def isCodeCharacter (c : Char) : Bool :=
  c.isAlphanum || c = '_' || c = '-'

/-- A character outside the basic plane is replaced by two. -/
def sanitizeErrorCode (message : Option Text) : Text :=
  let code := ((message.getD "UNKNOWN_ERROR".toList).flatMap fun c =>
    if isCodeCharacter c then [c] else if c.val < 0x10000 then ['_'] else ['_', '_']).take 80
  if code = [] then "UNKNOWN_ERROR".toList else code

/-- What building and sending a report came to; what is thrown may have no message. -/
abbrev SendOutcome := Except (Option Text) SendResult

def recordOutcome (outcome : SendOutcome) (now : ℤ) (delivery : ReportDelivery) :
    ReportDelivery :=
  match outcome with
  | .ok result =>
      { delivery with
        status := if result.simulated then .simulated else .sent
        providerMessageId := some result.messageId
        sentAt := some now
        errorCode := none }
  | .error message =>
      { delivery with status := .failure, errorCode := some (sanitizeErrorCode message) }

theorem collides_recordOutcome {outcome : SendOutcome} {now : ℤ} {row other : ReportDelivery}
    (hcollides : Indexed.collides (recordOutcome outcome now row) other) :
    Indexed.collides row other := by
  cases outcome <;> exact hcollides

def processReportDelivery (deliveryId : ℕ) (outcome : SendOutcome) (now : ℤ)
    (deliveries : Table ReportDelivery) : Except ReportError (Table ReportDelivery) := do
  let delivery ← orFail (deliveries.get? deliveryId) .notProcessable
  failWhen (delivery.status ≠ .processing) .notProcessable
  return deliveries.update deliveryId (recordOutcome outcome now) collides_recordOutcome

/-! ## Invocations side by side -/

/-- Where an invocation stands: before the transaction of the first remaining schedule, or
between a transaction and the record of its outcome. -/
inductive Position
  | claiming (remaining : List ReportSchedule)
  | processing (deliveryId : ℕ) (remaining : List ReportSchedule)

structure ReportSystem where
  database : ReportDatabase
  /-- An invocation that returned, threw or crashed is none. -/
  invocations : List (Option Position)

inductive ReportCommand
  | start (now limit : ℤ)
  | claim (invocation deliveryId : ℕ)
  | process (invocation : ℕ) (outcome : SendOutcome) (now : ℤ)
  | crash (invocation : ℕ)

def positionOf (system : ReportSystem) (invocation : ℕ) : Option Position :=
  system.invocations[invocation]?.join

def moveTo (system : ReportSystem) (invocation : ℕ) (position : Option Position) : ReportSystem :=
  { system with invocations := system.invocations.set invocation position }

def step (system : ReportSystem) : ReportCommand → ReportSystem
  | .start now limit =>
      { system with
        invocations := system.invocations
          ++ [some (.claiming (dueSchedules system.database.schedules now limit))] }
  | .claim invocation deliveryId =>
      match positionOf system invocation with
      | some (.claiming []) => moveTo system invocation none
      | some (.claiming (schedule :: remaining)) =>
          match claimRun schedule deliveryId system.database with
          | .error _ => moveTo system invocation none
          | .ok none => moveTo system invocation (some (.claiming remaining))
          | .ok (some database) =>
              moveTo { system with database } invocation
                (some (.processing deliveryId remaining))
      | _ => system
  | .process invocation outcome now =>
      match positionOf system invocation with
      | some (.processing deliveryId remaining) =>
          match processReportDelivery deliveryId outcome now system.database.deliveries with
          | .error _ => moveTo system invocation none
          | .ok deliveries =>
              moveTo { system with database := { system.database with deliveries } } invocation
                (some (.claiming remaining))
      | _ => system
  | .crash invocation => moveTo system invocation none

def opened (schedules : Table ReportSchedule) : ReportSystem where
  database := { schedules, deliveries := .empty }
  invocations := []

end Stallorder.Reports
