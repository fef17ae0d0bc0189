import Stallorder.Billing.PaygClosing
import Stallorder.Core.FirstOf
import Stallorder.Core.Table

/-!
# The automatic close

A scheduled invocation takes the first subscriptions, by the end of their
periods, and closes the ones that are due, one after the other.  A job for each
period says whether it is being closed and how often that was tried.  Invocations
may overlap, and each of them may end after any of its steps.
-/

namespace Stallorder.AutomaticClose

open OrderContract Billing PaygClosing TaxPolicy ZonedClock FirstOf

def maxBatchSize : ℕ := 50

def maxAttempts : ℕ := 5

/-! ## Subscriptions and jobs -/

structure BilledSubscription where
  id : Uuid
  status : Text
  planCode : Text
  planIsActive : Bool
  pricingEffectiveAt : Option Timestamp
  invoiceCloseDelayHours : Option ℤ
  sealedAt : Option Timestamp
  contractHash : Option Text
  taxTreatment : BillingTaxTreatment
  contract : BillingCycleContract
  billingPeriodStart : ℤ
  billingPeriodEnd : ℤ

instance : KeyIndexed BilledSubscription Uuid := .ofKey (·.id)

namespace BilledSubscription

/-- What the query of an invocation asks of a subscription. -/
def selected (subscription : BilledSubscription) : Bool :=
  subscription.status = "ACTIVE".toList && subscription.pricingEffectiveAt.isSome
    && subscription.invoiceCloseDelayHours.isSome && subscription.planCode = "PAYG".toList
    && subscription.planIsActive && subscription.sealedAt.isSome
    && subscription.contractHash.isSome && subscription.taxTreatment ≠ .unconfigured

/-- The order in which subscriptions are taken. -/
def queueKey (subscription : BilledSubscription) : ℤ ×ₗ Uuid :=
  toLex (subscription.billingPeriodEnd, subscription.id)

/-- A subscription and its period, which name a job. -/
def period (subscription : BilledSubscription) : Uuid × ℤ :=
  (subscription.id, subscription.billingPeriodStart)

/-- The time at which the period is due. -/
def closeAfter (subscription : BilledSubscription) (delayHours : ℤ) :
    Except BillingCycleError Timestamp := do
  let stop ← billingPeriodEndInstant (subscription.billingPeriodStart * dayLength)
    subscription.contract
  return stop + delayHours * 3_600_000

/-- A closed period is followed by the next one. -/
def closed (subscription : BilledSubscription) (period : ℤ) : BilledSubscription :=
  if firstOfMonth subscription.billingPeriodStart = firstOfMonth period then
    { subscription with
      billingPeriodStart := addUtcMonths (firstOfMonth period) 1
      billingPeriodEnd := addUtcMonths (addUtcMonths (firstOfMonth period) 1) 1 }
  else subscription

end BilledSubscription

inductive JobStatus
  | pending
  | running
  | succeeded
  | skipped
  | failed
  deriving DecidableEq

structure PaygCloseJob where
  subscriptionId : Uuid
  billingPeriod : ℤ
  status : JobStatus
  attemptCount : ℕ
  lastErrorCode : Option Text
  lastRequestId : Option Text
  startedAt : Option Timestamp
  completedAt : Option Timestamp
  deriving DecidableEq

def PaygCloseJob.period (job : PaygCloseJob) : Uuid × ℤ := (job.subscriptionId, job.billingPeriod)

instance : KeyIndexed PaygCloseJob (Uuid × ℤ) := .ofKey (·.period)

def newJob (subscription : BilledSubscription) : PaygCloseJob where
  subscriptionId := subscription.id
  billingPeriod := subscription.billingPeriodStart
  status := .pending
  attemptCount := 0
  lastErrorCode := none
  lastRequestId := none
  startedAt := none
  completedAt := none

/-- A job that an invocation passes by. -/
def PaygCloseJob.passedBy (job : PaygCloseJob) : Bool :=
  job.status = .succeeded || job.status = .running || maxAttempts ≤ job.attemptCount

def PaygCloseJob.claimable (job : PaygCloseJob) : Bool :=
  (job.status = .pending || job.status = .failed) && job.attemptCount < maxAttempts

/-! ## Invocations -/

structure ExperienceState where
  paygAutomaticInvoiceCloseEnabled : Bool
  openBetaFreeAccess : Bool
  paygBillingEnabled : Bool
  paygRefundCreditsEnabled : Bool

structure CloseResult where
  eligible : ℕ
  succeeded : ℕ
  skipped : ℕ
  failed : ℕ

def CloseResult.empty : CloseResult := ⟨0, 0, 0, 0⟩

inductive WorkStage
  /-- At the head of the loop. -/
  | next
  /-- The job has been read, and it is not passed by. -/
  | upserted
  | closing
  /-- The period has been closed, or it has not. -/
  | recording (errorCode : Option Text)
  | ended
  deriving DecidableEq

structure Invocation where
  now : Timestamp
  remaining : List BilledSubscription
  stage : WorkStage
  result : CloseResult

namespace Invocation

def skip (invocation : Invocation) : Invocation :=
  { invocation with
    remaining := invocation.remaining.tail
    stage := .next
    result := { invocation.result with skipped := invocation.result.skipped + 1 } }

def finish (invocation : Invocation) : Invocation := { invocation with stage := .ended }

end Invocation

/-- How the closing of a period ends.  An invoice that has been settled is left as it is, without
an error; and the answer of a closing can be lost. -/
structure ClosingOutcome where
  closes : Bool
  errorCode : Option Text

/-- What one step of an invocation meets. -/
structure WorkInput where
  requestId : Text
  outcome : ClosingOutcome
  /-- The write of the outcome throws. -/
  writeFails : Bool
  clock : Timestamp

structure CloseTables where
  subscriptions : Table BilledSubscription
  jobs : Table PaygCloseJob

namespace CloseTables

def queue (tables : CloseTables) : List BilledSubscription :=
  tables.subscriptions.rows.filter (·.selected)

/-- The query of an invocation. -/
def batch (tables : CloseTables) : List BilledSubscription :=
  firstOf (·.queueKey) maxBatchSize tables.queue

end CloseTables

/-! ## The steps of an invocation -/

/-- Look at a subscription, and create its job when it is due. -/
def lookAt (tables : CloseTables) (invocation : Invocation) (subscription : BilledSubscription) :
    CloseTables × Invocation :=
  match subscription.invoiceCloseDelayHours with
  | none => (tables, invocation.skip)
  | some delayHours =>
      match subscription.closeAfter delayHours with
      | .error _ => (tables, invocation.finish)
      | .ok closeAfter =>
          if invocation.now < closeAfter then (tables, invocation.skip)
          else
            let due := { invocation with
              result := { invocation.result with eligible := invocation.result.eligible + 1 } }
            match tables.jobs.get? subscription.period with
            | some job =>
                (tables, if job.passedBy then due.skip else { due with stage := .upserted })
            | none => ({ tables with jobs := tables.jobs.put (newJob subscription) },
                { due with stage := .upserted })

def claimed (job : PaygCloseJob) (requestId : Text) (now : Timestamp) : PaygCloseJob :=
  { job with
    status := .running
    attemptCount := job.attemptCount + 1
    lastErrorCode := none
    lastRequestId := some requestId
    startedAt := some now
    completedAt := none }

/-- Claim the job, if nobody has done so. -/
def claim (tables : CloseTables) (invocation : Invocation) (subscription : BilledSubscription)
    (requestId : Text) : CloseTables × Invocation :=
  match tables.jobs.get? subscription.period with
  | some job =>
      if job.claimable then
        ({ tables with jobs := tables.jobs.put (claimed job requestId invocation.now) },
          { invocation with stage := .closing })
      else (tables, invocation.skip)
  | none => (tables, invocation.skip)

def unexpectedCode : Text := "PAYG_CLOSE_UNEXPECTED".toList

def closedIn (subscriptions : Table BilledSubscription) (period : Uuid × ℤ) :
    Table BilledSubscription :=
  subscriptions.rewrite
    (fun subscription => if subscription.id = period.1 then subscription.closed period.2
      else subscription)
    fun subscription => by
      change BilledSubscription.id (ite _ _ _) = subscription.id
      rw [apply_ite BilledSubscription.id, BilledSubscription.closed,
        apply_ite BilledSubscription.id, ite_self, ite_self]

/-- Close the period. -/
def close (tables : CloseTables) (invocation : Invocation) (subscription : BilledSubscription)
    (outcome : ClosingOutcome) : CloseTables × Invocation :=
  (if outcome.closes then
      { tables with subscriptions := closedIn tables.subscriptions subscription.period }
    else tables,
    { invocation with stage := .recording outcome.errorCode })

def recorded (job : PaygCloseJob) (errorCode : Option Text) (now : Timestamp) : PaygCloseJob :=
  { job with
    status := if errorCode.isSome then .failed else .succeeded
    lastErrorCode := errorCode
    completedAt := some now }

def counted (result : CloseResult) (errorCode : Option Text) : CloseResult :=
  if errorCode.isSome then { result with failed := result.failed + 1 }
  else { result with succeeded := result.succeeded + 1 }

/-- Record the outcome.  When a success cannot be recorded, a failure is; when a failure cannot
be recorded, the invocation ends. -/
def record (tables : CloseTables) (invocation : Invocation) (subscription : BilledSubscription)
    (errorCode : Option Text) (input : WorkInput) : CloseTables × Invocation :=
  if input.writeFails then
    (tables, if errorCode.isSome then invocation.finish
      else { invocation with stage := .recording (some unexpectedCode) })
  else
    match tables.jobs.get? subscription.period with
    | some job => ({ tables with jobs := tables.jobs.put (recorded job errorCode input.clock) },
        { invocation with
          remaining := invocation.remaining.tail
          stage := .next
          result := counted invocation.result errorCode })
    | none => (tables, invocation.finish)

def work (tables : CloseTables) (invocation : Invocation) (input : WorkInput) :
    CloseTables × Invocation :=
  match invocation.stage, invocation.remaining with
  | .next, subscription :: _ => lookAt tables invocation subscription
  | .upserted, subscription :: _ => claim tables invocation subscription input.requestId
  | .closing, subscription :: _ => close tables invocation subscription input.outcome
  | .recording errorCode, subscription :: _ =>
      record tables invocation subscription errorCode input
  | .ended, _ => (tables, invocation)
  | _, [] => (tables, invocation.finish)

/-! ## Runs -/

/-- The tables, and every invocation there has been. -/
structure CloseDb where
  tables : CloseTables
  invocations : List Invocation

def CloseDb.opened (subscriptions : Table BilledSubscription) : CloseDb where
  tables := ⟨subscriptions, .empty⟩
  invocations := []

inductive CloseCommand
  | invoke (state : ExperienceState) (now : Timestamp)
  | work (position : ℕ) (input : WorkInput)
  | crash (position : ℕ)

/-- An invocation starts, unless the automatic close is switched off. -/
def invoke (db : CloseDb) (state : ExperienceState) (now : Timestamp) : CloseDb :=
  if state.paygAutomaticInvoiceCloseEnabled && !state.openBetaFreeAccess
      && state.paygBillingEnabled && state.paygRefundCreditsEnabled then
    { db with invocations := db.invocations ++ [⟨now, db.tables.batch, .next, .empty⟩] }
  else db

def step (db : CloseDb) : CloseCommand → CloseDb
  | .invoke state now => invoke db state now
  | .work position input =>
      match db.invocations[position]? with
      | some invocation =>
          let (tables, worked) := work db.tables invocation input
          { tables := tables
            invocations := db.invocations.set position worked }
      | none => db
  | .crash position =>
      match db.invocations[position]? with
      | some invocation =>
          { db with invocations := db.invocations.set position invocation.finish }
      | none => db

end Stallorder.AutomaticClose
