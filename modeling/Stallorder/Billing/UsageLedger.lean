import Stallorder.Core.Checks
import Stallorder.Core.UtcDate
import Stallorder.Server.SyncDatabase

/-!
# The usage ledger

Orders are billed by events that two triggers on the orders write: one when an
order is completed, and one when a completed order is refunded in full.  After
each event the summaries of its month are computed again from the whole ledger;
an invoice charges what the summaries say.
-/

namespace Stallorder.UsageLedger

open OrderContract SyncDatabase Calendar UtcDate ZonedClock Checks

/-! ## Rows -/

structure BilledOrder where
  id : Uuid
  stallId : Uuid
  isTest : Bool
  origin : OrderOrigin
  status : OrderStatus
  paymentStatus : PaymentStatus
  completedAt : Option Timestamp
  deriving DecidableEq

instance : KeyIndexed BilledOrder Uuid := .ofKey (·.id)

structure UsageStall where
  id : Uuid
  isActive : Bool
  deriving DecidableEq

instance : KeyIndexed UsageStall Uuid := .ofKey (·.id)

inductive UsageEventType
  | billableOrderCompleted
  | billableOrderFullRefund
  | other
  deriving DecidableEq

structure UsageEvent where
  stallId : Uuid
  eventType : UsageEventType
  quantity : ℤ
  /-- The first day of the month. -/
  billingPeriod : ℤ
  referenceId : Uuid
  occurredAt : Timestamp
  deriving DecidableEq

structure UsageSummary where
  stallId : Uuid
  billingPeriod : ℤ
  grossCompletedOrderCount : ℤ
  fullRefundCreditCount : ℤ
  netBillableOrderCount : ℤ
  unitPrice : ℤ
  uncappedAmount : ℤ
  capAmount : ℤ
  finalCharge : ℤ
  capSavings : ℤ
  deriving DecidableEq

instance : KeyIndexed UsageSummary (Uuid × ℤ) := .ofKey fun summary =>
  (summary.stallId, summary.billingPeriod)

/-- What the subscription of the organization and its plan say about usage. -/
structure UsageContract where
  planCode : Text
  pricingMode : Text
  usageMetric : Option Text
  usageScope : Option Text
  usageUnitPrice : ℕ
  monthlyCapAmount : Option ℕ
  pricingEffectiveAt : Option Timestamp
  billingTimezone : TimeZone

structure UsageDb where
  orders : Table BilledOrder
  stalls : Table UsageStall
  events : List UsageEvent
  summaries : Table UsageSummary

def UsageDb.empty : UsageDb where
  orders := .empty
  stalls := .empty
  events := []
  summaries := .empty

inductive UsageError
  | paygPricingNotConfigured
  | constraintViolated
  | stallMissing
  | orderExists
  | orderMissing
  deriving DecidableEq

/-! ## Summaries -/

structure UsagePricing where
  unitPrice : ℕ
  capAmount : ℕ
  effectiveAt : Option Timestamp

/-- The pricing of a pay-as-you-go subscription. -/
def pricingOf : Option UsageContract → Except UsageError (Option UsagePricing)
  | none => .ok none
  | some contract =>
      if contract.planCode ≠ "PAYG".toList then .ok none
      else if contract.pricingMode ≠ "USAGE_PER_STALL_CAPPED".toList
          ∨ contract.usageMetric ≠ some "NET_BILLABLE_COMPLETED_ORDER".toList
          ∨ contract.usageScope ≠ some "STALL".toList then .error .paygPricingNotConfigured
      else
        match contract.monthlyCapAmount with
        | some capAmount =>
            .ok (some ⟨contract.usageUnitPrice, capAmount, contract.pricingEffectiveAt⟩)
        | none => .error .paygPricingNotConfigured

def monthOf (day : ℤ) : ℤ := monthStart (monthOfDay day)

/-- The pricing applies to the event. -/
def isEffective (pricing : UsagePricing) (event : UsageEvent) : Bool :=
  pricing.effectiveAt.all (· ≤ event.occurredAt)

/-- The events of a type that a summary counts. -/
def counted (pricing : UsagePricing) (events : List UsageEvent) (stallId : Uuid) (period : ℤ)
    (eventType : UsageEventType) : List UsageEvent :=
  events.filter fun event => event.stallId = stallId && event.billingPeriod = period
    && event.eventType = eventType && isEffective pricing event

def calculated (pricing : UsagePricing) (events : List UsageEvent) (stallId : Uuid)
    (period : ℤ) : UsageSummary :=
  let quantities := fun eventType =>
    ((counted pricing events stallId period eventType).map (·.quantity)).sum
  let grossCount := quantities .billableOrderCompleted
  let refundCount := -quantities .billableOrderFullRefund
  let netCount := max (grossCount - refundCount) 0
  { stallId := stallId
    billingPeriod := period
    grossCompletedOrderCount := max grossCount 0
    fullRefundCreditCount := max refundCount 0
    netBillableOrderCount := netCount
    unitPrice := pricing.unitPrice
    uncappedAmount := netCount * pricing.unitPrice
    capAmount := pricing.capAmount
    finalCharge := min (netCount * pricing.unitPrice) pricing.capAmount
    capSavings := max (netCount * pricing.unitPrice - pricing.capAmount) 0 }

/-- The stalls that are active, or that have any event in the period. -/
def scopedStalls (db : UsageDb) (period : ℤ) : List UsageStall :=
  db.stalls.rows.filter fun stall => stall.isActive
    || db.events.any fun event => event.stallId = stall.id && event.billingPeriod = period

def upsertSummaries (pricing : UsagePricing) (events : List UsageEvent) (period : ℤ)
    (summaries : Table UsageSummary) (stalls : List UsageStall) : Table UsageSummary :=
  stalls.foldl (fun summaries stall => summaries.put (calculated pricing events stall.id period))
    summaries

def rebuildPaygStallUsageSummaries (contract : Option UsageContract) (db : UsageDb)
    (billingPeriod : ℤ) : Except UsageError UsageDb := do
  match ← pricingOf contract with
  | none => return db
  | some pricing =>
      let period := monthOf billingPeriod
      return { db with
        summaries := upsertSummaries pricing db.events period db.summaries
          (scopedStalls db period) }

/-! ## Triggers -/

def isBillable (order : BilledOrder) : Bool :=
  !order.isTest && order.origin ≠ .test && order.origin ≠ .systemCanary

/-- `on conflict do nothing`: an order has one event of a type. -/
def addEvent (db : UsageDb) (event : UsageEvent) : UsageDb :=
  if db.events.any fun other =>
      other.eventType = event.eventType && other.referenceId = event.referenceId then db
  else { db with events := db.events ++ [event] }

def recordBillableOrderCompleted (contract : Option UsageContract) (taipei : TimeZone)
    (db : UsageDb) (old : Option BilledOrder) (new : BilledOrder) (now : Timestamp) :
    Except UsageError UsageDb :=
  if isBillable new && new.status = .completed && old.all (·.status ≠ .completed) then
    let timezone := (contract.map (·.billingTimezone)).getD taipei
    let completedAt := new.completedAt.getD now
    let period := monthOf (dayOf (wallClock timezone completedAt))
    rebuildPaygStallUsageSummaries contract
      (addEvent db ⟨new.stallId, .billableOrderCompleted, 1, period, new.id, completedAt⟩) period
  else .ok db

def recordBillableOrderFullRefund (contract : Option UsageContract) (db : UsageDb)
    (old new : BilledOrder) (now : Timestamp) : Except UsageError UsageDb :=
  if new.paymentStatus = .refunded && old.paymentStatus ≠ new.paymentStatus then
    match db.events.find? fun event => event.eventType = .billableOrderCompleted
        && event.referenceId = new.id && event.stallId = new.stallId with
    | none => .ok db
    | some completion =>
        rebuildPaygStallUsageSummaries contract
          (addEvent db ⟨new.stallId, .billableOrderFullRefund, -1, completion.billingPeriod,
            new.id, now⟩) completion.billingPeriod
  else .ok db

/-! ## Runs -/

inductive UsageCommand
  | insertOrder (order : BilledOrder) (now : Timestamp)
  | updateOrder (order : BilledOrder) (now : Timestamp)
  | saveStall (stall : UsageStall)
  /-- Other events of a stall. -/
  | recordUsage (stallId : Uuid) (quantity billingPeriod : ℤ) (referenceId : Uuid)
      (now : Timestamp)
  | rebuild (billingPeriod : ℤ)

variable (contract : Option UsageContract) (taipei : TimeZone)

def runCommand (db : UsageDb) : UsageCommand → Except UsageError UsageDb
  | .insertOrder order now => do
      failWhen (db.stalls.get? order.stallId).isNone .stallMissing
      failWhen (db.orders.get? order.id).isSome .orderExists
      recordBillableOrderCompleted contract taipei { db with orders := db.orders.put order } none
        order now
  | .updateOrder order now => do
      failWhen (db.stalls.get? order.stallId).isNone .stallMissing
      let old ← orFail (db.orders.get? order.id) .orderMissing
      -- The triggers of a statement run in the order of their names.
      let refunded ← recordBillableOrderFullRefund contract
        { db with orders := db.orders.put order } old order now
      recordBillableOrderCompleted contract taipei refunded (some old) order now
  | .saveStall stall => .ok { db with stalls := db.stalls.put stall }
  | .recordUsage stallId quantity billingPeriod referenceId now => do
      failWhen (db.stalls.get? stallId).isNone .stallMissing
      failWhen (monthOf billingPeriod ≠ billingPeriod) .constraintViolated
      return { db with
        events := db.events ++ [⟨stallId, .other, quantity, billingPeriod, referenceId, now⟩] }
  | .rebuild billingPeriod => rebuildPaygStallUsageSummaries contract db billingPeriod

/-- A statement that fails leaves everything as it was. -/
def step (db : UsageDb) (command : UsageCommand) : UsageDb :=
  match runCommand contract taipei db command with
  | .ok db' => db'
  | .error _ => db

end Stallorder.UsageLedger
