import Stallorder.Core.Checks
import Stallorder.Core.Run
import Stallorder.Core.SqlText
import Stallorder.Core.UtcDate
import Stallorder.Offline.OrderContract

/-!
# The workflow of plan invoices

An invoice is created for a plan, lines are added to it, and it is paid by hand:
a merchant submits a payment, and an administrator verifies or rejects it.  The
totals are recalculated by the database whenever the lines of an invoice change,
while the payments are counted by the service.
-/

namespace Stallorder.InvoiceWorkflow

open OrderContract Checks UtcDate

/-! ## Invoices and payments -/

inductive InvoiceStatus
  | draft
  | opened
  | paid
  | void
  | overdue
  | cancelled
  deriving DecidableEq

inductive LineItemType
  | basePlan
  | additionalStall
  | excessOrder
  | orderPackage
  | addOn
  | customService
  | credit
  | discount
  | paygUsage
  deriving DecidableEq

structure InvoiceLineItem where
  itemType : LineItemType
  code : Text
  description : Text
  quantity : ℤ
  unitPrice : ℤ
  subtotal : ℤ
  deriving DecidableEq

/-- The days of a period are counted as `Core.Calendar` counts them. -/
structure Invoice where
  status : InvoiceStatus
  currency : Text
  billingPeriodStart : ℤ
  billingPeriodEnd : ℤ
  subtotal : ℤ
  discountAmount : ℤ
  taxAmount : ℤ
  totalAmount : ℤ
  amountPaid : ℤ
  amountDue : ℤ
  issuedAt : Option Timestamp
  dueAt : Timestamp
  lineItems : List InvoiceLineItem
  deriving DecidableEq

inductive PaymentMethod
  | bankTransfer
  | cash
  | linePayManual
  | other
  deriving DecidableEq

inductive VerificationStatus
  | pendingVerification
  | verified
  | rejected
  | voided
  deriving DecidableEq

/-- The invoice of a payment is named by its position. -/
structure ManualPaymentRecord where
  invoiceId : ℕ
  paymentMethod : PaymentMethod
  amount : ℤ
  currency : Text
  verificationStatus : VerificationStatus
  idempotencyKey : Text
  deriving DecidableEq

/-- The invoices and payments of an organization. -/
structure BillingAccount where
  invoices : List Invoice
  payments : List ManualPaymentRecord

def BillingAccount.opened : BillingAccount := ⟨[], []⟩

inductive BillingWorkflowError
  | planVersionNotAvailable
  | renewalTooEarly
  | invoiceNotFound
  | invoiceNotPayable
  | invoiceNotEditable
  | invoiceAmountMismatch
  | invoiceHasPendingPayment
  | invoiceDiscountExceedsTotal
  | paymentNotFound
  | paymentStateConflict
  | paymentIdempotencyConflict
  | paymentAmountExceedsDue
  | addOnNotAvailable
  /-- A check constraint refuses the row. -/
  | constraintViolated
  deriving DecidableEq

/-! ## The constraints of the tables -/

def isAmount (amount : ℤ) : Bool := 0 ≤ amount && amount ≤ 2_147_483_647

theorem isAmount_iff {amount : ℤ} :
    isAmount amount = true ↔ 0 ≤ amount ∧ amount ≤ 2_147_483_647 := by
  simp only [isAmount, Bool.and_eq_true, decide_eq_true_eq]

def lineItemCheck (line : InvoiceLineItem) : Bool :=
  SqlText.codeText 1 79 line.code
    && 1 ≤ line.description.length && line.description.length ≤ 300
    && 0 < line.quantity && isAmount line.quantity
    && isAmount line.unitPrice
    && isAmount line.subtotal && line.subtotal = line.quantity * line.unitPrice

def invoiceCheck (invoice : Invoice) : Bool :=
  isAmount invoice.subtotal && isAmount invoice.discountAmount && isAmount invoice.taxAmount
    && isAmount invoice.totalAmount && isAmount invoice.amountPaid && isAmount invoice.amountDue
    && invoice.subtotal + invoice.taxAmount - invoice.discountAmount = invoice.totalAmount
    && invoice.totalAmount - invoice.amountPaid = invoice.amountDue
    && invoice.amountPaid ≤ invoice.totalAmount
    && invoice.discountAmount ≤ invoice.subtotal + invoice.taxAmount

/-! ## Lines -/

/-- The lines that are taken off the total. -/
def isDeduction (line : InvoiceLineItem) : Bool :=
  line.itemType = .credit || line.itemType = .discount

def chargeTotal (lines : List InvoiceLineItem) : ℤ :=
  ((lines.filter (!isDeduction ·)).map (·.subtotal)).sum

def discountTotal (lines : List InvoiceLineItem) : ℤ :=
  ((lines.filter isDeduction).map (·.subtotal)).sum

def isEditable (status : InvoiceStatus) : Bool :=
  status ∈ [InvoiceStatus.draft, .opened, .overdue]

def isPayable (status : InvoiceStatus) : Bool :=
  status ∈ [InvoiceStatus.opened, .overdue]

def withTotals (invoice : Invoice) : Invoice :=
  let charges := chargeTotal invoice.lineItems
  let discounts := discountTotal invoice.lineItems
  { invoice with
    subtotal := charges
    discountAmount := discounts
    totalAmount := charges + invoice.taxAmount - discounts
    amountDue := charges + invoice.taxAmount - discounts - invoice.amountPaid }

/-- The trigger that runs after the lines of an invoice have changed. -/
def recalculateInvoiceTotals (invoice : Invoice) : Except BillingWorkflowError Invoice := do
  failWhen (!isEditable invoice.status) .invoiceNotEditable
  failWhen (chargeTotal invoice.lineItems + invoice.taxAmount < discountTotal invoice.lineItems)
    .invoiceDiscountExceedsTotal
  failWhen (!invoiceCheck (withTotals invoice)) .constraintViolated
  return withTotals invoice

def insertLine (invoice : Invoice) (line : InvoiceLineItem) :
    Except BillingWorkflowError Invoice := do
  failWhen (!lineItemCheck line) .constraintViolated
  recalculateInvoiceTotals { invoice with lineItems := invoice.lineItems ++ [line] }

def isBasePlan (line : InvoiceLineItem) : Bool := line.itemType = .basePlan

/-- A deletion of no line recalculates nothing. -/
def deleteBasePlan (invoice : Invoice) : Except BillingWorkflowError Invoice :=
  if invoice.lineItems.any isBasePlan then
    recalculateInvoiceTotals { invoice with
      lineItems := invoice.lineItems.filter (!isBasePlan ·) }
  else .ok invoice

def issue (invoice : Invoice) (now : Timestamp) : Invoice :=
  { invoice with status := .opened, issuedAt := some (invoice.issuedAt.getD now) }

/-! ## Plan invoices -/

inductive PlanInterval
  | trial
  | monthly
  | annual
  deriving DecidableEq

inductive BillingInterval
  | monthly
  | annual
  deriving DecidableEq

inductive PricingMode
  | fixed
  | usage
  | usagePerStallCapped
  | custom
  deriving DecidableEq

structure PlanVersion where
  id : Uuid
  planCode : Text
  displayName : Text
  billingInterval : PlanInterval
  pricingMode : PricingMode
  basePrice : ℤ
  annualPrice : Option ℤ
  currency : Text

structure Subscription where
  isActive : Bool
  planVersionId : Uuid
  billingPeriodEnd : ℤ

def addCalendarMonths (day months : ℤ) : ℤ :=
  let date := partsOfDay day
  let target := utcDay date.year (date.month - 1 + months) 1
  let month := partsOfDay target
  let lastDay := (partsOfDay (utcDay month.year month.month 0)).day
  target + min date.day lastDay - 1

def billingPeriod (interval : BillingInterval) (now : Timestamp) : ℤ × ℤ :=
  let start := dayOf now
  (start, addCalendarMonths start (if interval = .annual then 12 else 1))

def isManualRenewalTooEarly (subscription : Subscription) (requestedPlanVersionId : Uuid)
    (now : Timestamp) : Bool :=
  subscription.isActive && subscription.planVersionId = requestedPlanVersionId
    && dayOf now < subscription.billingPeriodEnd

def planPrice (version : PlanVersion) (interval : BillingInterval) : Option ℤ :=
  if interval = .annual then version.annualPrice else some version.basePrice

def basePlanLine (version : PlanVersion) (interval : BillingInterval) (unitPrice : ℤ) :
    InvoiceLineItem where
  itemType := .basePlan
  code := version.planCode
  description := version.displayName ++ (if interval = .annual then " 年繳" else " 月繳").toList
  quantity := 1
  unitPrice := unitPrice
  subtotal := unitPrice

def draftInvoice (version : PlanVersion) (period : ℤ × ℤ) (dueAt : Timestamp) : Invoice where
  status := .draft
  currency := version.currency
  billingPeriodStart := period.1
  billingPeriodEnd := period.2
  subtotal := 0
  discountAmount := 0
  taxAmount := 0
  totalAmount := 0
  amountPaid := 0
  amountDue := 0
  issuedAt := none
  dueAt := dueAt
  lineItems := []

def isOfPeriod (period : ℤ × ℤ) (invoice : Invoice) : Bool :=
  invoice.billingPeriodStart = period.1 && invoice.billingPeriodEnd = period.2

/-- The invoice of the plan takes the place of an earlier one for the same period. -/
def pricedInvoice (invoice : Invoice) (version : PlanVersion) (interval : BillingInterval)
    (unitPrice : ℤ) (dueAt now : Timestamp) : Except BillingWorkflowError Invoice := do
  failWhen (!isEditable invoice.status) .invoiceNotEditable
  failWhen (invoice.currency ≠ version.currency) .invoiceAmountMismatch
  let cleared ← deleteBasePlan invoice
  let priced ← insertLine cleared (basePlanLine version interval unitPrice)
  return { issue priced now with dueAt := dueAt }

/-- The price of a plan version that can be invoiced now. -/
def requestedPrice (subscription : Subscription) (version : PlanVersion)
    (interval : BillingInterval) (now : Timestamp) : Except BillingWorkflowError ℤ := do
  failWhen (version.billingInterval = .trial || version.pricingMode ≠ .fixed)
    .planVersionNotAvailable
  let unitPrice ← orFail (planPrice version interval) .planVersionNotAvailable
  failWhen (isManualRenewalTooEarly subscription version.id now) .renewalTooEarly
  return unitPrice

/-- The subscription is that of the organization as it is read. -/
def createPlanInvoice (account : BillingAccount) (subscription : Subscription)
    (version : PlanVersion) (interval : BillingInterval) (dueAt now : Timestamp) :
    Except BillingWorkflowError BillingAccount := do
  let unitPrice ← requestedPrice subscription version interval now
  let period := billingPeriod interval now
  match account.invoices.findIdx? (isOfPeriod period) with
  | some position => do
      let invoice ← orFail account.invoices[position]? .invoiceNotFound
      let priced ← pricedInvoice invoice version interval unitPrice dueAt now
      return { account with invoices := account.invoices.set position priced }
  | none => do
      let draft := draftInvoice version period dueAt
      let priced ← pricedInvoice draft version interval unitPrice dueAt now
      return { account with invoices := account.invoices ++ [priced] }

/-! ## Further lines -/

inductive Availability
  | enabled
  | manualApprovalRequired
  | comingSoon
  deriving DecidableEq

structure AddOn where
  code : Text
  displayName : Text
  unitPrice : ℤ
  availabilityStatus : Availability
  isActive : Bool

inductive ManualItemType
  | customService
  | credit
  | discount
  deriving DecidableEq

def ManualItemType.itemType : ManualItemType → LineItemType
  | .customService => .customService
  | .credit => .credit
  | .discount => .discount

inductive LineInput
  | addOn (code : Text) (quantity : ℤ)
  | manual (itemType : ManualItemType) (code description : Text) (quantity unitPrice : ℤ)

def isAvailable (code : Text) (addOn : AddOn) : Bool :=
  addOn.code = code && addOn.isActive
    && addOn.availabilityStatus ∈ [Availability.enabled, .manualApprovalRequired]

/-- Order packages and additional stalls are not added as lines. -/
def isAssignable (addOn : AddOn) : Bool :=
  !("ORDER_PACKAGE_".toList.isPrefixOf addOn.code)
    && !("ADDITIONAL_STALL_".toList.isPrefixOf addOn.code)

def inputLine (catalog : List AddOn) : LineInput → Except BillingWorkflowError InvoiceLineItem
  | .addOn code quantity => do
      let addOn ← orFail ((catalog.find? (isAvailable code)).filter isAssignable)
        .addOnNotAvailable
      return {
        itemType := .addOn
        code := addOn.code
        description := addOn.displayName
        quantity := quantity
        unitPrice := addOn.unitPrice
        subtotal := quantity * addOn.unitPrice }
  | .manual itemType code description quantity unitPrice =>
      .ok {
        itemType := itemType.itemType
        code := code
        description := description
        quantity := quantity
        unitPrice := unitPrice
        subtotal := quantity * unitPrice }

def addInvoiceLine (account : BillingAccount) (invoiceId : ℕ) (catalog : List AddOn)
    (input : LineInput) (now : Timestamp) : Except BillingWorkflowError BillingAccount := do
  let invoice ← orFail account.invoices[invoiceId]? .invoiceNotFound
  failWhen (!isEditable invoice.status) .invoiceNotEditable
  let line ← inputLine catalog input
  let lined ← insertLine invoice line
  return { account with invoices := account.invoices.set invoiceId (issue lined now) }

/-! ## Payments -/

structure ManualPaymentInput where
  invoiceId : ℕ
  paymentMethod : PaymentMethod
  amount : ℤ
  idempotencyKey : Text

def samePayment (input : ManualPaymentInput) (payment : ManualPaymentRecord) : Bool :=
  payment.invoiceId = input.invoiceId && payment.paymentMethod = input.paymentMethod
    && payment.amount = input.amount

/-- The checks of the texts that a payment carries are left out with the texts. -/
def submitManualPayment (account : BillingAccount) (input : ManualPaymentInput) :
    Except BillingWorkflowError BillingAccount :=
  match account.payments.find? (·.idempotencyKey = input.idempotencyKey) with
  | some existing => do
      failWhen (!samePayment input existing) .paymentIdempotencyConflict
      return account
  | none => do
      let invoice ← orFail account.invoices[input.invoiceId]? .invoiceNotFound
      failWhen (!isPayable invoice.status || invoice.amountDue ≤ 0) .invoiceNotPayable
      failWhen (invoice.amountDue < input.amount) .paymentAmountExceedsDue
      failWhen (!(0 < input.amount && isAmount input.amount)) .constraintViolated
      return { account with payments := account.payments ++ [{
        invoiceId := input.invoiceId
        paymentMethod := input.paymentMethod
        amount := input.amount
        currency := invoice.currency
        verificationStatus := .pendingVerification
        idempotencyKey := input.idempotencyKey }] }

/-- The invoice after a payment has been counted. -/
def creditedInvoice (invoice : Invoice) (amount : ℤ) : Invoice :=
  let amountPaid := invoice.amountPaid + amount
  { invoice with
    amountPaid := amountPaid
    amountDue := invoice.totalAmount - amountPaid
    status := if amountPaid = invoice.totalAmount then .paid else invoice.status }

def verifyManualPayment (account : BillingAccount) (paymentId : ℕ) :
    Except BillingWorkflowError BillingAccount := do
  let payment ← orFail account.payments[paymentId]? .paymentNotFound
  if payment.verificationStatus = .verified then return account
  failWhen (payment.verificationStatus ≠ .pendingVerification) .paymentStateConflict
  let invoice ← orFail account.invoices[payment.invoiceId]? .invoiceNotFound
  failWhen (!isPayable invoice.status) .invoiceNotPayable
  failWhen (payment.currency ≠ invoice.currency || invoice.amountDue < payment.amount)
    .invoiceAmountMismatch
  let credited := creditedInvoice invoice payment.amount
  failWhen (!invoiceCheck credited) .constraintViolated
  return {
    payments := account.payments.set paymentId { payment with verificationStatus := .verified }
    invoices := account.invoices.set payment.invoiceId credited }

def rejectManualPayment (account : BillingAccount) (paymentId : ℕ) :
    Except BillingWorkflowError BillingAccount := do
  let payment ← orFail account.payments[paymentId]? .paymentNotFound
  failWhen (payment.verificationStatus ≠ .pendingVerification) .paymentStateConflict
  return { account with
    payments := account.payments.set paymentId { payment with verificationStatus := .rejected } }

/-! ## Voided and overdue invoices -/

def isPendingOn (invoiceId : ℕ) (payment : ManualPaymentRecord) : Bool :=
  payment.invoiceId = invoiceId && payment.verificationStatus = .pendingVerification

def voidInvoice (account : BillingAccount) (invoiceId : ℕ) :
    Except BillingWorkflowError BillingAccount := do
  let invoice ← orFail account.invoices[invoiceId]? .invoiceNotFound
  failWhen (!isEditable invoice.status || 0 < invoice.amountPaid) .invoiceNotEditable
  failWhen (account.payments.any (isPendingOn invoiceId)) .invoiceHasPendingPayment
  return { account with
    invoices := account.invoices.set invoiceId { invoice with status := .void } }

def overdueInvoice (now : Timestamp) (invoice : Invoice) : Invoice :=
  if invoice.status = .opened && invoice.dueAt < now then { invoice with status := .overdue }
  else invoice

/-- The job that marks the invoices whose due date has passed. -/
def markOverdue (account : BillingAccount) (now : Timestamp) : BillingAccount :=
  { account with invoices := account.invoices.map (overdueInvoice now) }

/-! ## Runs -/

inductive BillingCommand
  | createPlanInvoice (subscription : Subscription) (version : PlanVersion)
      (interval : BillingInterval) (dueAt now : Timestamp)
  | addInvoiceLine (invoiceId : ℕ) (catalog : List AddOn) (input : LineInput) (now : Timestamp)
  | submitManualPayment (input : ManualPaymentInput)
  | verifyManualPayment (paymentId : ℕ)
  | rejectManualPayment (paymentId : ℕ)
  | voidInvoice (invoiceId : ℕ)
  | markOverdue (now : Timestamp)

def billingOutcome (account : BillingAccount) :
    BillingCommand → Except BillingWorkflowError BillingAccount
  | .createPlanInvoice subscription version interval dueAt now =>
      createPlanInvoice account subscription version interval dueAt now
  | .addInvoiceLine invoiceId catalog input now =>
      addInvoiceLine account invoiceId catalog input now
  | .submitManualPayment input => submitManualPayment account input
  | .verifyManualPayment paymentId => verifyManualPayment account paymentId
  | .rejectManualPayment paymentId => rejectManualPayment account paymentId
  | .voidInvoice invoiceId => voidInvoice account invoiceId
  | .markOverdue now => .ok (markOverdue account now)

/-- A command that is refused is rolled back. -/
def billingStep (account : BillingAccount) (command : BillingCommand) : BillingAccount :=
  match billingOutcome account command with
  | .ok account => account
  | .error _ => account

end Stallorder.InvoiceWorkflow
