import Stallorder.Core.Schema

/-!
# The lifecycle of an invoice and the mock provider

The statuses of an invoice document with the transitions that are allowed, and
the adapter that plays the provider in memory.
-/

namespace Stallorder.MockProvider

/-! ## Statuses -/

inductive LifecycleStatus
  | notRequired
  | pending
  | issuing
  | issued
  | issueFailed
  | voidPending
  | voided
  | voidFailed
  | allowancePending
  | partiallyAllowed
  | fullyAllowed
  | allowanceFailed
  | allowanceVoidPending
  | allowanceVoided
  | allowanceVoidFailed
  | reconciliationRequired
  | manualReview
  deriving DecidableEq

def transitions : LifecycleStatus → List LifecycleStatus
  | .notRequired => []
  | .pending => [.issuing, .notRequired, .manualReview]
  | .issuing => [.issued, .issueFailed, .reconciliationRequired]
  | .issued => [.voidPending, .allowancePending, .reconciliationRequired, .manualReview]
  | .issueFailed => [.issuing, .manualReview]
  | .voidPending => [.voided, .voidFailed, .reconciliationRequired]
  | .voided => [.reconciliationRequired, .manualReview]
  | .voidFailed => [.voidPending, .manualReview]
  | .allowancePending =>
      [.partiallyAllowed, .fullyAllowed, .allowanceFailed, .reconciliationRequired]
  | .partiallyAllowed => [.allowancePending, .allowanceVoidPending, .voidPending,
      .reconciliationRequired, .manualReview]
  | .fullyAllowed =>
      [.allowanceVoidPending, .voidPending, .reconciliationRequired, .manualReview]
  | .allowanceFailed => [.allowancePending, .manualReview]
  | .allowanceVoidPending => [.allowanceVoided, .allowanceVoidFailed, .reconciliationRequired]
  | .allowanceVoided => [.issued, .reconciliationRequired, .manualReview]
  | .allowanceVoidFailed => [.allowanceVoidPending, .manualReview]
  | .reconciliationRequired =>
      [.manualReview, .issued, .voided, .partiallyAllowed, .fullyAllowed]
  | .manualReview =>
      [.issued, .voided, .partiallyAllowed, .fullyAllowed, .reconciliationRequired]

def canTransitionInvoice (source target : LifecycleStatus) : Bool :=
  source = target || target ∈ transitions source

/-! ## The provider -/

structure StoredInvoice where
  status : LifecycleStatus
  externalInvoiceNumber : Text
  externalAllowanceReference : Option Text
  totalAmount : ℤ
  taxAmount : ℤ
  allowedAmount : ℤ
  deriving DecidableEq

/-- The hashes that the provider numbers the invoice and its allowances with. -/
structure ReferenceCodes where
  invoiceNumber : Text
  /-- Of the amount that is allowed after the allowance. -/
  allowanceReference : ℤ → Text

/-- What the adapter remembers of the invoice. -/
abbrev Adapter := Option StoredInvoice

def issueInvoice (codes : ReferenceCodes) (totalAmount taxAmount : ℤ) (adapter : Adapter) :
    StoredInvoice :=
  adapter.getD {
    status := .issued
    externalInvoiceNumber := codes.invoiceNumber
    externalAllowanceReference := none
    totalAmount := totalAmount
    taxAmount := taxAmount
    allowedAmount := 0 }

def requireInvoice (adapter : Adapter) (externalInvoiceNumber : Text) : Option StoredInvoice :=
  adapter.filter (·.externalInvoiceNumber = externalInvoiceNumber)

/-- A call that the provider refuses returns `none`. -/
def voidInvoice (adapter : Adapter) (externalInvoiceNumber reason : Text) :
    Option StoredInvoice := do
  guard (reason.trim ≠ [])
  let stored ← requireInvoice adapter externalInvoiceNumber
  guard (stored.status ∈ [LifecycleStatus.voided, .issued, .fullyAllowed])
  return { stored with status := .voided }

/-- The largest integer that a number of the source represents exactly with all below it. -/
def maxSafeInteger : ℤ := 9_007_199_254_740_991

def allowanceStatus (allowedAmount totalAmount : ℤ) : LifecycleStatus :=
  if allowedAmount = totalAmount then .fullyAllowed else .partiallyAllowed

def createAllowance (codes : ReferenceCodes) (adapter : Adapter)
    (externalInvoiceNumber : Text) (amount : ℤ) (reason : Text) : Option StoredInvoice := do
  guard (amount ≤ maxSafeInteger ∧ 0 < amount ∧ reason.trim ≠ [])
  let stored ← requireInvoice adapter externalInvoiceNumber
  guard (stored.status ∈ [LifecycleStatus.issued, .partiallyAllowed])
  guard (stored.allowedAmount + amount ≤ stored.totalAmount)
  let allowedAmount := stored.allowedAmount + amount
  return { stored with
    allowedAmount := allowedAmount
    externalAllowanceReference := some (codes.allowanceReference allowedAmount)
    status := allowanceStatus allowedAmount stored.totalAmount }

/-- Whatever allowance is named, all that is allowed is taken back. -/
def voidAllowance (adapter : Adapter) (externalInvoiceNumber : Text) : Option StoredInvoice := do
  let stored ← requireInvoice adapter externalInvoiceNumber
  guard stored.externalAllowanceReference.isSome
  return { stored with
    allowedAmount := 0
    externalAllowanceReference := none
    status := .allowanceVoided }

inductive MismatchCode
  | statusMismatch
  | amountMismatch
  | taxMismatch
  deriving DecidableEq

def mismatchCodes (stored : StoredInvoice) (expectedStatus : LifecycleStatus)
    (expectedTotalAmount expectedTaxAmount : ℤ) : List MismatchCode :=
  (if stored.status ≠ expectedStatus then [.statusMismatch] else [])
    ++ (if stored.totalAmount ≠ expectedTotalAmount then [.amountMismatch] else [])
    ++ if stored.taxAmount ≠ expectedTaxAmount then [.taxMismatch] else []

end Stallorder.MockProvider
