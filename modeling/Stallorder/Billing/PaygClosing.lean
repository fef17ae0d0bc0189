import Stallorder.Billing.BillingPeriod
import Stallorder.Billing.TaxPolicy

/-!
# Closing billing periods

The invoice of a billing period has one line for the usage of each stall and one
for each credit of a late refund that it takes.  A period can be closed again as
long as its invoice is editable: the lines of the earlier closing are replaced,
and credits are selected anew.  Between closings the invoice goes through the
workflow of all invoices.
-/

namespace Stallorder.PaygClosing

open OrderContract InvoiceWorkflow TaxPolicy Checks UtcDate ZonedClock Billing

/-! ## Invoices -/

/-- A line with the stall of its usage or the adjustment of its credit. -/
structure BilledLine extends InvoiceLineItem where
  referenceId : Option ℕ
  deriving DecidableEq

structure PricingSnapshot where
  usageUnitPrice : ℤ
  taxTreatment : BillingTaxTreatment
  taxRateBps : Option ℤ
  contractHash : Option Text
  deriving DecidableEq

/-- The days of a period are counted as `Core.Calendar` counts them. -/
structure BilledInvoice where
  planVersionId : Option Uuid
  pricingMode : PricingMode
  pricingSnapshot : Option PricingSnapshot
  status : InvoiceStatus
  currency : Text
  billingPeriodStart : ℤ
  billingPeriodEnd : ℤ
  subtotal : ℤ
  discountAmount : ℤ
  taxAmount : ℤ
  totalAmount : ℤ
  amountPaid : ℤ
  amountDue : ℤ
  issuedAt : Option Timestamp
  dueAt : Timestamp
  /-- A tax document of the invoice has been issued. -/
  taxDocumentIssued : Bool
  lineItems : List BilledLine
  deriving DecidableEq

/-- The invoice as the workflow of invoices sees it. -/
def BilledInvoice.plain (invoice : BilledInvoice) : Invoice where
  status := invoice.status
  currency := invoice.currency
  billingPeriodStart := invoice.billingPeriodStart
  billingPeriodEnd := invoice.billingPeriodEnd
  subtotal := invoice.subtotal
  discountAmount := invoice.discountAmount
  taxAmount := invoice.taxAmount
  totalAmount := invoice.totalAmount
  amountPaid := invoice.amountPaid
  amountDue := invoice.amountDue
  issuedAt := invoice.issuedAt
  dueAt := invoice.dueAt
  lineItems := invoice.lineItems.map (·.toInvoiceLineItem)

/-- What the workflow has made of an invoice; it adds lines at the end. -/
def BilledInvoice.adopt (invoice : BilledInvoice) (plain : Invoice) : BilledInvoice :=
  { invoice with
    status := plain.status
    subtotal := plain.subtotal
    discountAmount := plain.discountAmount
    totalAmount := plain.totalAmount
    amountPaid := plain.amountPaid
    amountDue := plain.amountDue
    issuedAt := plain.issuedAt
    lineItems := invoice.lineItems
      ++ (plain.lineItems.drop invoice.lineItems.length).map fun line => ⟨line, none⟩ }

/-! ## Credits -/

inductive CreditStatus
  | unapplied
  | applied
  | void
  deriving DecidableEq

/-- Invoices are named by their positions. -/
structure CreditAdjustment where
  id : ℕ
  originalInvoiceId : ℕ
  targetInvoiceId : Option ℕ
  creditAmount : ℤ
  taxCreditAmount : ℤ
  status : CreditStatus
  deriving DecidableEq

def CreditAdjustment.amount (credit : CreditAdjustment) : ℤ :=
  credit.creditAmount + credit.taxCreditAmount

/-- What is billed to an organization that pays by usage. -/
structure PaygAccount where
  /-- The current period of the subscription. -/
  billingPeriodStart : ℤ
  billingPeriodEnd : ℤ
  invoices : List BilledInvoice
  payments : List ManualPaymentRecord
  credits : List CreditAdjustment

/-- An invoice that a fixed plan has left. -/
def ofPlan (invoice : Invoice) : BilledInvoice where
  planVersionId := none
  pricingMode := .fixed
  pricingSnapshot := none
  status := invoice.status
  currency := invoice.currency
  billingPeriodStart := invoice.billingPeriodStart
  billingPeriodEnd := invoice.billingPeriodEnd
  subtotal := invoice.subtotal
  discountAmount := invoice.discountAmount
  taxAmount := invoice.taxAmount
  totalAmount := invoice.totalAmount
  amountPaid := invoice.amountPaid
  amountDue := invoice.amountDue
  issuedAt := invoice.issuedAt
  dueAt := invoice.dueAt
  taxDocumentIssued := false
  lineItems := invoice.lineItems.map fun line => ⟨line, none⟩

def firstOfMonth (day : ℤ) : ℤ :=
  let date := partsOfDay day
  utcDay date.year (date.month - 1) 1

def addUtcMonths (day count : ℤ) : ℤ :=
  let date := partsOfDay day
  utcDay date.year (date.month - 1 + count) 1

/-- The account of a subscription that has just been migrated. -/
def PaygAccount.opened (planInvoices : List Invoice) (effectiveDate : ℤ) : PaygAccount where
  billingPeriodStart := firstOfMonth effectiveDate
  billingPeriodEnd := addUtcMonths (firstOfMonth effectiveDate) 1
  invoices := planInvoices.map ofPlan
  payments := []
  credits := []

/-! ## The contract -/

structure BillingCycle where
  billingTimezone : Text
  billingCycleAnchorDay : ℤ
  billingPeriodType : BillingPeriodType
  invoiceCloseDelayHours : Option ℤ
  deriving DecidableEq

structure PaygPlanVersion where
  id : Uuid
  planCode : Text
  pricingMode : PricingMode
  currency : Text
  basePrice : ℤ
  usageUnitPrice : ℤ
  usageMetric : Option Text
  usageScope : Option Text
  monthlyCapAmount : Option ℤ
  minimumCharge : ℤ
  cycle : BillingCycle
  taxPolicy : BillingTaxPolicy
  /-- The version is sealed, and by whom is known. -/
  isSealed : Bool
  contractHash : Option Text

/-- The subscription with its plan version. -/
structure PaygSubscription where
  planVersion : PaygPlanVersion
  cycle : BillingCycle
  pricingEffectiveAt : Option Timestamp

structure BillingExperience where
  paygBillingEnabled : Bool
  openBetaFreeAccess : Bool
  paygRefundCreditsEnabled : Bool

/-- The time zone database and the hash of the contract of a version. -/
structure Premises where
  timeZone : Text → Option TimeZone
  calculatePaygContractHash : PaygPlanVersion → Text

inductive PaygBillingError
  | notEnabled
  | openBetaActive
  | refundCreditsNotEnabled
  | subscriptionNotFound
  | planNotConfigured
  | periodNotClosable
  | invoiceConflict
  | invoiceHasPendingPayment
  | planVersionNotSealed
  | contractHashMismatch
  | subscriptionContractMismatch
  | taxPolicyUnconfigured
  | cycle (error : BillingCycleError)
  | tax (error : TaxError)
  /-- A trigger or a constraint has refused a row. -/
  | database (error : BillingWorkflowError)
  deriving DecidableEq

section Contract

variable (premises : Premises)

def BillingCycle.contract (cycle : BillingCycle) : BillingCycleContract where
  billingTimezone := premises.timeZone cycle.billingTimezone
  billingCycleAnchorDay := cycle.billingCycleAnchorDay
  billingPeriodType := cycle.billingPeriodType

def assertEnabled (experience : BillingExperience) : Except PaygBillingError Unit := do
  failWhen (!experience.paygBillingEnabled) .notEnabled
  failWhen experience.openBetaFreeAccess .openBetaActive
  failWhen (!experience.paygRefundCreditsEnabled) .refundCreditsNotEnabled

def assertPaygVersion (version : PaygPlanVersion) : Except PaygBillingError Unit :=
  failWhen (version.planCode ≠ "PAYG".toList
    || version.pricingMode ≠ .usagePerStallCapped
    || version.currency ≠ "TWD".toList
    || version.basePrice ≠ 0
    || version.usageUnitPrice ≠ 1
    || version.usageMetric ≠ some "NET_BILLABLE_COMPLETED_ORDER".toList
    || version.usageScope ≠ some "STALL".toList
    || version.monthlyCapAmount ≠ some 1499
    || version.minimumCharge ≠ 0) .planNotConfigured

def assertPaygContractIntegrity (version : PaygPlanVersion) : Except PaygBillingError Unit := do
  failWhen (!version.isSealed || version.contractHash.isNone) .planVersionNotSealed
  failWhen (version.contractHash ≠ some (premises.calculatePaygContractHash version))
    .contractHashMismatch
  let _ ← (assertSupportedBillingCycle (version.cycle.contract premises)).mapError .cycle
  (assertTaxPolicy version.taxPolicy).mapError .tax
  failWhen (version.taxPolicy.treatment = .unconfigured) .taxPolicyUnconfigured

/-- The period has ended, and it is not before the plan. -/
def assertPeriodClosable (subscription : PaygSubscription) (periodStart now : ℤ) :
    Except PaygBillingError Unit := do
  let contract := subscription.cycle.contract premises
  let ended ← (hasBillingPeriodEnded (periodStart * dayLength) contract now).mapError .cycle
  failWhen (!ended) .periodNotClosable
  let pricingEffectiveAt ← orFail subscription.pricingEffectiveAt .periodNotClosable
  let effective ← (billingPeriodForInstant pricingEffectiveAt contract).mapError .cycle
  failWhen (periodStart * dayLength < effective) .periodNotClosable

def assertClosable (subscription : PaygSubscription) (periodStart now : ℤ) :
    Except PaygBillingError Unit := do
  assertPaygVersion subscription.planVersion
  assertPaygContractIntegrity premises subscription.planVersion
  failWhen (subscription.cycle ≠ subscription.planVersion.cycle) .subscriptionContractMismatch
  assertPeriodClosable premises subscription periodStart now

end Contract

/-! ## Lines -/

/-- The trigger that runs after the lines of an invoice have changed. -/
def recalculate (invoice : BilledInvoice) : Except PaygBillingError BilledInvoice := do
  let totals ← (recalculateInvoiceTotals invoice.plain).mapError .database
  return { invoice with
    subtotal := totals.subtotal
    discountAmount := totals.discountAmount
    totalAmount := totals.totalAmount
    amountDue := totals.amountDue }

def insertLines (invoice : BilledInvoice) (lines : List BilledLine) :
    Except PaygBillingError BilledInvoice :=
  if lines.isEmpty then .ok invoice
  else do
    failWhen (lines.any (!lineItemCheck ·.toInvoiceLineItem)) (.database .constraintViolated)
    recalculate { invoice with lineItems := invoice.lineItems ++ lines }

def deleteLines (invoice : BilledInvoice) (deleted : BilledLine → Bool) :
    Except PaygBillingError BilledInvoice :=
  if invoice.lineItems.any deleted then
    recalculate { invoice with lineItems := invoice.lineItems.filter (!deleted ·) }
  else .ok invoice

def lateRefundCode : Text := "PAYG_LATE_REFUND_CREDIT".toList

/-- The lines that closing a period has written. -/
def isClosingLine (line : BilledLine) : Bool :=
  line.itemType = .paygUsage || (line.itemType = .credit && line.code = lateRefundCode)

/-- The usage of a stall in a period, as it has been summed up. -/
structure StallUsageSummary where
  stallId : ℕ
  stallName : Text
  finalCharge : ℤ
  finalCharge_nonneg : 0 ≤ finalCharge

def usageLine (summary : StallUsageSummary) (extractedTax : ℤ) : BilledLine where
  itemType := .paygUsage
  code := "PAYG_STALL_USAGE".toList
  description := summary.stallName ++ "｜PAYG 完成訂單用量".toList
  quantity := 1
  unitPrice := summary.finalCharge - extractedTax
  subtotal := summary.finalCharge - extractedTax
  referenceId := some summary.stallId

def creditLine (credit : CreditAdjustment) : BilledLine where
  itemType := .credit
  code := lateRefundCode
  description := "先前帳期完整退款折抵".toList
  quantity := 1
  unitPrice := credit.amount
  subtotal := credit.amount
  referenceId := some credit.id

/-! ## Selecting credits -/

/-- The credits that nothing has taken, or the invoice itself. -/
def isCandidate (invoiceId : ℕ) (credit : CreditAdjustment) : Bool :=
  credit.status = .unapplied
    || (credit.status = .applied && credit.targetInvoiceId = some invoiceId)

/-- A credit is for the periods after that of its invoice. -/
def isApplicable (invoices : List BilledInvoice) (periodStart : ℤ) (credit : CreditAdjustment) :
    Bool :=
  invoices[credit.originalInvoiceId]?.any (·.billingPeriodEnd ≤ periodStart)

/-- A credit that does not fit is passed over. -/
def selectCreditsWithinTotal (totalAmount : ℤ) :
    ℤ → List CreditAdjustment → List CreditAdjustment
  | _, [] => []
  | applied, credit :: credits =>
      if totalAmount < applied + credit.amount then
        selectCreditsWithinTotal totalAmount applied credits
      else credit :: selectCreditsWithinTotal totalAmount (applied + credit.amount) credits

def selectedCredits (account : PaygAccount) (invoiceId : ℕ) (periodStart totalAmount : ℤ) :
    List CreditAdjustment :=
  selectCreditsWithinTotal totalAmount 0
    ((account.credits.filter (isCandidate invoiceId)).filter
      (isApplicable account.invoices periodStart))

/-- A candidate is applied when it is selected, and is free again when it is not. -/
def retarget (invoiceId : ℕ) (selected : List CreditAdjustment) (credit : CreditAdjustment) :
    CreditAdjustment :=
  if selected.any (·.id = credit.id) then
    { credit with status := .applied, targetInvoiceId := some invoiceId }
  else if isCandidate invoiceId credit && credit.targetInvoiceId = some invoiceId then
    { credit with status := .unapplied, targetInvoiceId := none }
  else credit

/-! ## Closing a period -/

def findInvoice (account : PaygAccount) (periodStart periodEnd : ℤ) : Option ℕ :=
  account.invoices.findIdx? fun invoice =>
    invoice.billingPeriodStart = periodStart && invoice.billingPeriodEnd = periodEnd

def pricingSnapshotFor (version : PaygPlanVersion) : PricingSnapshot where
  usageUnitPrice := version.usageUnitPrice
  taxTreatment := version.taxPolicy.treatment
  taxRateBps := version.taxPolicy.rateBps
  contractHash := version.contractHash

def draftInvoice (version : PaygPlanVersion) (periodStart periodEnd : ℤ) (dueAt : Timestamp) :
    BilledInvoice where
  planVersionId := some version.id
  pricingMode := version.pricingMode
  pricingSnapshot := some (pricingSnapshotFor version)
  status := .draft
  currency := version.currency
  billingPeriodStart := periodStart
  billingPeriodEnd := periodEnd
  subtotal := 0
  discountAmount := 0
  taxAmount := 0
  totalAmount := 0
  amountPaid := 0
  amountDue := 0
  issuedAt := none
  dueAt := dueAt
  taxDocumentIssued := false
  lineItems := []

/-- Nothing more is written to the invoice. -/
def isSettled (invoice : BilledInvoice) : Bool :=
  !isEditable invoice.status || invoice.taxDocumentIssued

/-- The period follows the one that has been closed. -/
def advancePeriod (account : PaygAccount) (periodStart periodEnd : ℤ) : PaygAccount :=
  if firstOfMonth account.billingPeriodStart = periodStart then
    { account with
      billingPeriodStart := periodEnd
      billingPeriodEnd := addUtcMonths periodEnd 1 }
  else account

/-- The lines and totals of an invoice that can be edited. -/
def closedInvoice (version : PaygPlanVersion) (invoice : BilledInvoice)
    (summaries : List StallUsageSummary) (tax : BillingTax) (lineTaxes : List ℤ)
    (selected : List CreditAdjustment) (now : Timestamp) :
    Except PaygBillingError BilledInvoice := do
  let creditTotal := (selected.map (·.amount)).sum
  let cleared ← deleteLines invoice isClosingLine
  let charged ← insertLines cleared (List.zipWith usageLine summaries lineTaxes)
  let credited ← insertLines charged (selected.map creditLine)
  let totalAmount := tax.totalAmount - creditTotal
  failWhen (totalAmount < invoice.amountPaid) .invoiceConflict
  let closed := { credited with
    status := .opened
    issuedAt := some (invoice.issuedAt.getD now)
    planVersionId := some version.id
    pricingMode := version.pricingMode
    pricingSnapshot := some (pricingSnapshotFor version)
    subtotal := tax.subtotal
    taxAmount := tax.taxAmount
    discountAmount := creditTotal
    totalAmount := totalAmount
    amountDue := totalAmount - invoice.amountPaid }
  failWhen (!invoiceCheck closed.plain) (.database .constraintViolated)
  return closed

def closeInvoice (account : PaygAccount) (version : PaygPlanVersion) (invoiceId : ℕ)
    (invoice : BilledInvoice) (summaries : List StallUsageSummary) (now : Timestamp) :
    Except PaygBillingError PaygAccount := do
  let charges := summaries.map (·.finalCharge)
  let tax ← (usageTax version.taxPolicy charges).mapError .tax
  let lineTaxes ← (extractedTaxes version.taxPolicy charges tax.taxAmount).mapError .tax
  let selected := selectedCredits account invoiceId invoice.billingPeriodStart tax.totalAmount
  let closed ← closedInvoice version invoice summaries tax lineTaxes selected now
  return advancePeriod { account with
    invoices := account.invoices.set invoiceId closed
    credits := account.credits.map (retarget invoiceId selected) }
    invoice.billingPeriodStart invoice.billingPeriodEnd

structure CloseInput where
  experience : BillingExperience
  /-- The subscription as it is read. -/
  subscription : Option PaygSubscription
  billingPeriod : ℤ
  summaries : List StallUsageSummary
  now : Timestamp

variable (premises : Premises)

def closeBillingPeriod (account : PaygAccount) (input : CloseInput) :
    Except PaygBillingError PaygAccount := do
  assertEnabled input.experience
  let subscription ← orFail input.subscription .subscriptionNotFound
  let periodStart := firstOfMonth input.billingPeriod
  let periodEnd := addUtcMonths periodStart 1
  assertClosable premises subscription periodStart input.now
  let version := subscription.planVersion
  match findInvoice account periodStart periodEnd with
  | some invoiceId => do
      let invoice ← orFail account.invoices[invoiceId]? .invoiceConflict
      failWhen (invoice.planVersionId ≠ some version.id
        || invoice.pricingMode ≠ .usagePerStallCapped) .invoiceConflict
      if isSettled invoice then do
        failWhen (invoice.pricingSnapshot.bind (·.contractHash) ≠ version.contractHash)
          .invoiceConflict
        return account
      failWhen (account.payments.any (isPendingOn invoiceId)) .invoiceHasPendingPayment
      closeInvoice account version invoiceId invoice input.summaries input.now
  | none => do
      let start ← (billingPeriodStartInstant (periodEnd * dayLength)
        (subscription.cycle.contract premises)).mapError .cycle
      let draft := draftInvoice version periodStart periodEnd (start + 7 * dayLength)
      closeInvoice { account with invoices := account.invoices ++ [draft] } version
        account.invoices.length draft input.summaries input.now

/-! ## Refunds -/

/-- The credit for an order of an invoice: the price of one order and its tax. -/
def creditParts (snapshot : Option PricingSnapshot) : ℤ × ℤ :=
  let unitPrice := max ((snapshot.map (·.usageUnitPrice)).getD 1) 1
  let rateBps := max ((snapshot.bind (·.taxRateBps)).getD 0) 0
  match (snapshot.map (·.taxTreatment)).getD .unconfigured with
  | .inclusive =>
      let tax := roundQuotient (unitPrice * rateBps) (10_000 + rateBps) .halfUp
      (max (unitPrice - tax) 0, tax)
  | .exclusive => (unitPrice, roundQuotient (unitPrice * rateBps) 10_000 .halfUp)
  | _ => (unitPrice, 0)

/-- The invoice of a period that a refund no longer changes. -/
def isBilled (billingPeriod : ℤ) (invoice : BilledInvoice) : Bool :=
  invoice.billingPeriodStart = billingPeriod
    && (invoice.status = .paid || invoice.taxDocumentIssued)

/-- The first full refund of an order that was completed in the period. -/
def recordBillableOrderFullRefund (account : PaygAccount) (billingPeriod : ℤ) :
    Except PaygBillingError PaygAccount :=
  match account.invoices.findIdx? (isBilled billingPeriod) with
  | none => .ok account
  | some invoiceId => do
      let invoice ← orFail account.invoices[invoiceId]? .invoiceConflict
      let (creditAmount, taxCreditAmount) := creditParts invoice.pricingSnapshot
      failWhen (creditAmount ≤ 0 || taxCreditAmount < 0) (.database .constraintViolated)
      return { account with credits := account.credits ++ [{
        id := account.credits.length
        originalInvoiceId := invoiceId
        targetInvoiceId := none
        creditAmount
        taxCreditAmount
        status := .unapplied }] }

/-! ## Runs -/

/-- What the workflow does with an invoice that exists. -/
inductive WorkflowCommand
  | addInvoiceLine (invoiceId : ℕ) (catalog : List AddOn) (input : LineInput) (now : Timestamp)
  | submitManualPayment (input : ManualPaymentInput)
  | verifyManualPayment (paymentId : ℕ)
  | rejectManualPayment (paymentId : ℕ)
  | voidInvoice (invoiceId : ℕ)
  | markOverdue (now : Timestamp)

def WorkflowCommand.command : WorkflowCommand → BillingCommand
  | .addInvoiceLine invoiceId catalog input now => .addInvoiceLine invoiceId catalog input now
  | .submitManualPayment input => .submitManualPayment input
  | .verifyManualPayment paymentId => .verifyManualPayment paymentId
  | .rejectManualPayment paymentId => .rejectManualPayment paymentId
  | .voidInvoice invoiceId => .voidInvoice invoiceId
  | .markOverdue now => .markOverdue now

def PaygAccount.plain (account : PaygAccount) : BillingAccount where
  invoices := account.invoices.map (·.plain)
  payments := account.payments

def PaygAccount.adopt (account : PaygAccount) (plain : BillingAccount) : PaygAccount :=
  { account with
    invoices := List.zipWith BilledInvoice.adopt account.invoices plain.invoices
    payments := plain.payments }

inductive PaygCommand
  | close (input : CloseInput)
  | fullRefund (billingPeriod : ℤ)
  | workflow (command : WorkflowCommand)
  | issueTaxDocument (invoiceId : ℕ)

def issueTaxDocument (account : PaygAccount) (invoiceId : ℕ) : PaygAccount :=
  { account with
    invoices := account.invoices.modify invoiceId fun invoice =>
      { invoice with taxDocumentIssued := true } }

def paygOutcome (account : PaygAccount) : PaygCommand → Except PaygBillingError PaygAccount
  | .close input => closeBillingPeriod premises account input
  | .fullRefund billingPeriod => recordBillableOrderFullRefund account billingPeriod
  | .workflow command =>
      ((billingOutcome account.plain command.command).map account.adopt).mapError .database
  | .issueTaxDocument invoiceId => .ok (issueTaxDocument account invoiceId)

/-- A command that is refused is rolled back. -/
def paygStep (account : PaygAccount) (command : PaygCommand) : PaygAccount :=
  match paygOutcome premises account command with
  | .ok account => account
  | .error _ => account

end Stallorder.PaygClosing
