import Stallorder.Core.Checks
import Stallorder.Core.Run
import Stallorder.Core.Schema

/-!
# Print jobs

A print job is printed by a browser that claims it or by a printer that fetches
it.  Both report afterwards whether it was printed, and a job whose report does
not come is written off by the next refresh of the queue.  Every change of a
job is an update under a condition on its status; a request that sends several
statements holds what it read before until its last one.
-/

namespace Stallorder.PrintJobs

open Checks

abbrev Timestamp := ℤ

def printResultUnknownAfterMs : ℤ := 5 * 60_000

inductive PrintJobStatus
  | pending
  | printing
  | succeeded
  | failed
  | cancelled
  deriving DecidableEq

inductive PrinterConnectionType
  | webprntBluetooth
  | cloudprnt
  | systemPrint
  deriving DecidableEq

structure Printer where
  id : ℕ
  isEnabled : Bool
  connectionType : PrinterConnectionType
  deriving DecidableEq

structure PrintJob where
  status : PrintJobStatus
  printerId : Option ℕ
  printRuleId : Option ℕ
  attemptCount : ℕ
  maxAttempts : ℕ
  lastError : Option Text
  nextRetryAt : Option Timestamp
  printingAt : Option Timestamp
  printedAt : Option Timestamp
  deriving DecidableEq

/-- A job as it is queued. -/
def queuedJob (printerId printRuleId : Option ℕ) (maxAttempts : ℕ) : PrintJob where
  status := .pending
  printerId := printerId
  printRuleId := printRuleId
  attemptCount := 0
  maxAttempts := maxAttempts
  lastError := none
  nextRetryAt := none
  printingAt := none
  printedAt := none

inductive PrintQueueError
  | notFound
  | conflict
  | cloudprntDeviceClaimRequired
  | printRuleInactive
  deriving DecidableEq

/-- Update the job when it meets the condition; otherwise no row changes. -/
def updateMany (condition : PrintJob → Bool) (data : PrintJob → PrintJob) (job : PrintJob) :
    Option PrintJob :=
  if condition job then some (data job) else none

/-- When the next attempt of a failed job may start. -/
def nextRetry (attemptCount maxAttempts : ℕ) (now : Timestamp) : Option Timestamp :=
  if attemptCount < maxAttempts then some (now + 30_000) else none

/-! ## Requests of browsers -/

def startPrinting (printerId : ℕ) (now : Timestamp) (job : PrintJob) : PrintJob :=
  { job with
    status := .printing
    printerId := some printerId
    attemptCount := job.attemptCount + 1
    printingAt := some now
    lastError := none
    nextRetryAt := none }

def markSucceeded (now : Timestamp) (job : PrintJob) : PrintJob :=
  { job with status := .succeeded, printedAt := some now, lastError := none, nextRetryAt := none }

def markFailed (error : Text) (nextRetryAt : Option Timestamp) (job : PrintJob) : PrintJob :=
  { job with status := .failed, lastError := some error, nextRetryAt }

def isPrinting (job : PrintJob) : Bool := job.status = .printing

def isWaiting (job : PrintJob) : Bool := job.status = .pending || job.status = .failed

/-- The printer is the one found in the stall, if any; `ruleActive` tells whether the rule
of the job is there and enabled. -/
def claim (printer : Option Printer) (ruleActive : Bool) (now : Timestamp) (job : PrintJob) :
    Except PrintQueueError PrintJob := do
  let printer ← orFail printer .notFound
  failWhen (!printer.isEnabled || (job.printerId.isSome && job.printerId ≠ some printer.id))
    .conflict
  failWhen (printer.connectionType = .cloudprnt) .cloudprntDeviceClaimRequired
  failWhen (job.printRuleId.isSome && !ruleActive) .printRuleInactive
  orFail (updateMany (fun row => isWaiting row && row.attemptCount < job.maxAttempts)
    (startPrinting printer.id now) job) .conflict

def success (now : Timestamp) (job : PrintJob) : Except PrintQueueError PrintJob :=
  orFail (updateMany isPrinting (markSucceeded now) job) .conflict

def fail (error : Text) (now : Timestamp) (job : PrintJob) : Except PrintQueueError PrintJob :=
  orFail (updateMany isPrinting
    (markFailed error (nextRetry job.attemptCount job.maxAttempts now)) job) .conflict

def retry (job : PrintJob) : Except PrintQueueError PrintJob :=
  orFail (updateMany (fun row => row.status = .failed && row.attemptCount < job.maxAttempts)
    (fun row => { row with
      status := .pending
      lastError := none
      nextRetryAt := none
      printingAt := none }) job) .conflict

def cancel (job : PrintJob) : Except PrintQueueError PrintJob :=
  orFail (updateMany isWaiting (fun row => { row with status := .cancelled, nextRetryAt := none })
    job) .conflict

/-- The refresh of the queue writes off a job whose result is overdue. -/
def reconcileStalePrintJobs (now : Timestamp) (job : PrintJob) : PrintJob :=
  (updateMany (fun row => isPrinting row
      && row.printingAt.any fun printingAt => printingAt < now - printResultUnknownAfterMs)
    (markFailed "PRINT_RESULT_UNKNOWN".toList none) job).getD job

/-! ## Requests of the printer -/

def isDigit (c : Char) : Bool := '0' ≤ c && c ≤ '9'

/-- Whether a decoded device status reports success: it is `OK`, or a code of the two
hundreds, alone or before white space. -/
def cloudPrntStatusSucceeded (status : Text) : Bool :=
  status = "OK".toList || match status with
  | '2' :: second :: third :: rest =>
      isDigit second && isDigit third && rest.head?.all Text.isWhitespace
  | _ => false

/-- A poll that reports trouble with a job leaves a note on the job. -/
def notePollStatus (printerId : ℕ) (status : Text) (job : PrintJob) : PrintJob :=
  if cloudPrntStatusSucceeded status then job
  else
    (updateMany (fun row => row.printerId = some printerId && isPrinting row)
      (fun row => { row with lastError := some ("CloudPRNT: ".toList ++ status) }) job).getD job

/-- The transaction of a fetch.  `printerEnabled` tells whether the device is an enabled
CloudPRNT printer, `ruleEligible` whether the job has no rule or one that prints by itself. -/
def claimPendingCloudJob (printerId : ℕ) (printerEnabled ruleEligible : Bool) (now : Timestamp)
    (job : PrintJob) : PrintJob :=
  if printerEnabled && ruleEligible && job.attemptCount < job.maxAttempts then
    (updateMany (fun row => row.printerId = some printerId && row.status = .pending
        && row.attemptCount < job.maxAttempts)
      (startPrinting printerId now) job).getD job
  else job

/-- What a delete request read of the job, and the status it reports. -/
structure DeviceReport where
  printerId : ℕ
  deviceStatus : Text
  status : PrintJobStatus
  attemptCount : ℕ
  maxAttempts : ℕ
  deriving DecidableEq

/-- A delete request reads the job of its printer. -/
def beginDelete (printerId : ℕ) (deviceStatus : Text) (job : PrintJob) : Option DeviceReport :=
  if job.printerId = some printerId then
    some {
      printerId
      deviceStatus
      status := job.status
      attemptCount := job.attemptCount
      maxAttempts := job.maxAttempts }
  else none

/-- The status that a delete request gives to the job, none when it found the job there. -/
def reportedStatus (report : DeviceReport) : Option PrintJobStatus :=
  let status : PrintJobStatus :=
    if cloudPrntStatusSucceeded report.deviceStatus then .succeeded else .failed
  if report.status = status then none else some status

def finishDelete (report : DeviceReport) (now : Timestamp) (job : PrintJob) : PrintJob :=
  if reportedStatus report = none then job
  else
    (updateMany (fun row => row.printerId = some report.printerId && isPrinting row)
      (if cloudPrntStatusSucceeded report.deviceStatus then markSucceeded now
        else markFailed ("CloudPRNT: ".toList ++ report.deviceStatus)
          (nextRetry report.attemptCount report.maxAttempts now)) job).getD job

/-! ## Interleaved requests -/

inductive AttemptState
  | inProgress
  | succeeded
  | writtenOff
  deriving DecidableEq

/-- A request that has not sent its last statement. -/
inductive Handler
  /-- The claim of an attempt is committed. -/
  | claimed (attempt : ℕ) (printerId : ℕ)
  /-- The job was read back and its ticket is being built. -/
  | building (attempt : ℕ) (attemptCount maxAttempts : ℕ)
  /-- The printer reports an attempt, and the job was read. -/
  | deleting (attempt : ℕ) (report : DeviceReport)
  | done
  deriving DecidableEq

/-- The attempts of the job are numbered from zero, in the order of their claims. -/
structure PrintState where
  job : PrintJob
  handlers : List Handler
  attempts : List AttemptState

def queuedState (printerId printRuleId : Option ℕ) (maxAttempts : ℕ) : PrintState where
  job := queuedJob printerId printRuleId maxAttempts
  handlers := []
  attempts := []

inductive PrintCommand
  | claim (printer : Option Printer) (ruleActive : Bool) (now : Timestamp)
  | readBack (handler : ℕ)
  | buildTicket (handler : ℕ) (fails : Bool) (now : Timestamp)
  | success (attempt : ℕ) (now : Timestamp)
  | fail (attempt : ℕ) (error : Text) (now : Timestamp)
  | retry
  | cancel
  | refresh (now : Timestamp)
  | poll (printerId : ℕ) (status : Text)
  | fetch (printerId : ℕ) (printerEnabled ruleEligible : Bool) (now : Timestamp)
  | beginDelete (attempt : ℕ) (printerId : ℕ) (deviceStatus : Text)
  | finishDelete (handler : ℕ) (now : Timestamp)

def settleLast (outcome : AttemptState) (attempts : List AttemptState) : List AttemptState :=
  attempts.dropLast ++ [outcome]

/-- What a change of the job means for its attempts. -/
def attemptsAfter (before after : PrintJobStatus) (attempts : List AttemptState) :
    List AttemptState :=
  if before ≠ .printing ∧ after = .printing then attempts ++ [.inProgress]
  else if before = .printing ∧ after = .succeeded then settleLast .succeeded attempts
  else if before = .printing ∧ after = .failed then settleLast .writtenOff attempts
  else attempts

/-- The job changes, and with it its attempts. -/
def PrintState.withJob (state : PrintState) (job : PrintJob) : PrintState :=
  { state with job, attempts := attemptsAfter state.job.status job.status state.attempts }

def PrintState.handle (state : PrintState) (handler : Handler) : PrintState :=
  { state with handlers := state.handlers ++ [handler] }

def PrintState.continue (state : PrintState) (position : ℕ) (handler : Handler) : PrintState :=
  { state with handlers := state.handlers.set position handler }

/-- A transaction that fails changes nothing. -/
def commit (state : PrintState) (outcome : Except PrintQueueError PrintJob) : PrintState :=
  match outcome with
  | .ok job => state.withJob job
  | .error _ => state

def printStep (state : PrintState) : PrintCommand → PrintState
  | .claim printer ruleActive now =>
      match printer, claim printer ruleActive now state.job with
      | some printer, .ok job =>
          (state.withJob job).handle (.claimed state.attempts.length printer.id)
      | _, _ => state
  | .readBack position =>
      match state.handlers[position]? with
      | some (.claimed attempt printerId) =>
          if state.job.printerId = some printerId ∧ isPrinting state.job then
            state.continue position
              (.building attempt state.job.attemptCount state.job.maxAttempts)
          else state.continue position .done
      | _ => state
  | .buildTicket position fails now =>
      match state.handlers[position]? with
      | some (.building _ attemptCount maxAttempts) =>
          if fails then
            (state.withJob ((updateMany isPrinting
                (markFailed "列印資料建立失敗".toList (nextRetry attemptCount maxAttempts now))
                state.job).getD state.job)).continue position .done
          else state.continue position .done
      | _ => state
  | .success _ now => commit state (success now state.job)
  | .fail _ error now => commit state (fail error now state.job)
  | .retry => commit state (retry state.job)
  | .cancel => commit state (cancel state.job)
  | .refresh now => state.withJob (reconcileStalePrintJobs now state.job)
  | .poll printerId status => state.withJob (notePollStatus printerId status state.job)
  | .fetch printerId printerEnabled ruleEligible now =>
      state.withJob (claimPendingCloudJob printerId printerEnabled ruleEligible now state.job)
  | .beginDelete attempt printerId deviceStatus =>
      match beginDelete printerId deviceStatus state.job with
      | some report => state.handle (.deleting attempt report)
      | none => state
  | .finishDelete position now =>
      match state.handlers[position]? with
      | some (.deleting _ report) =>
          (state.withJob (finishDelete report now state.job)).continue position .done
      | _ => state

end Stallorder.PrintJobs
