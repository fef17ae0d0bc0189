import Stallorder.Core.Table
import Stallorder.Offline.OrderContract

/-!
# The delivery tables

Connections to delivery platforms, the ledger of their orders, the webhooks that
announced them, the orders that were imported from them, and the queue of jobs
that work on them.  Hashes are kept as the values that are hashed.
-/

namespace Stallorder.DeliveryDatabase

open OrderContract

/-! ## Errors -/

inductive DeliveryErrorCode
  | backendNotWritable
  | connectionNotFound
  | connectionStateConflict
  | duplicateEvent
  | invalidCredentials
  | invalidWebhook
  | mappingRequired
  | permissionDenied
  | providerDisabled
  | providerContractError
  | providerNotApproved
  | providerResourceNotFound
  | providerTimeout
  | providerUnavailable
  | retryableProviderError
  | storeNotFound
  | unsupportedMapping
  deriving DecidableEq

inductive DeliveryError
  | platform (code : DeliveryErrorCode) (retryable : Bool)
  | uniqueViolation
  | constraintViolated
  | recordNotFound
  | transactionAborted
  | other
  deriving DecidableEq

/-- The code of a final error of the platform. -/
def DeliveryError.permanent (code : DeliveryErrorCode) : DeliveryError := .platform code false

def safeDeliveryErrorCode : DeliveryError → DeliveryErrorCode
  | .platform code _ => code
  | _ => .providerUnavailable

def DeliveryError.retryable : DeliveryError → Bool
  | .platform _ retryable => retryable
  | _ => true

/-! ## Connections -/

inductive DeliveryProvider
  | uberEats
  | foodpanda
  | mock
  deriving DecidableEq

inductive DeliveryCapability
  | orderPreparing
  | orderReady
  deriving DecidableEq

/-- The capabilities that decide about the actions of orders. -/
def DeliveryProvider.capabilities : DeliveryProvider → List DeliveryCapability
  | .uberEats => []
  | .foodpanda => [.orderReady]
  | .mock => [.orderPreparing, .orderReady]

inductive ConnectionStatus
  | draft
  | pendingAuthorization
  | pendingPartnerApproval
  | pendingStoreMapping
  | configuring
  | testing
  | active
  | paused
  | error
  | disconnected
  | rejected
  deriving DecidableEq

structure DeliveryConnection where
  id : Uuid
  organizationId : Uuid
  stallId : Uuid
  provider : DeliveryProvider
  status : ConnectionStatus
  externalStoreId : Option Text
  deriving DecidableEq

instance : KeyIndexed DeliveryConnection Uuid := .ofKey (·.id)

/-! ## Orders of a platform -/

structure OrderModifier where
  externalModifierId : Text
  name : Text
  quantity : ℤ
  unitPrice : ℤ
  totalPrice : ℤ
  deriving DecidableEq

structure ExternalOrderItem where
  externalItemId : Text
  externalProductId : Text
  name : Text
  quantity : ℤ
  unitPrice : ℤ
  totalPrice : ℤ
  modifiers : List OrderModifier
  notes : Option Text
  deriving DecidableEq

structure OrderPricing where
  subtotal : ℤ
  platformDiscount : ℤ
  merchantDiscount : ℤ
  deliveryFee : ℤ
  serviceFee : ℤ
  tax : ℤ
  total : ℤ
  merchantReceivable : ℤ
  deriving DecidableEq

/-- An order in the words that all platforms share. -/
structure NormalizedExternalOrder where
  provider : DeliveryProvider
  externalOrderId : Text
  externalOrderNumber : Option Text
  externalStoreId : Text
  currency : Text
  scheduledPickupAt : Option Timestamp
  customerDisplayName : Option Text
  customerNote : Option Text
  items : List ExternalOrderItem
  pricing : OrderPricing
  paymentStatus : Text
  merchantCollectedCash : Bool
  isDelivery : Bool
  /-- The state that the platform reports, when it is a text. -/
  currentState : Option Text
  deriving DecidableEq

def isMoney (amount : ℤ) : Bool := 0 ≤ amount && amount ≤ 100_000_000

def isIdentifier (identifier : Text) : Bool :=
  1 ≤ identifier.length16 && identifier.length16 ≤ 200

def isQuantity (quantity : ℤ) : Bool := 1 ≤ quantity && quantity ≤ 100

def OrderModifier.accepts (modifier : OrderModifier) : Bool :=
  isIdentifier modifier.externalModifierId && isIdentifier modifier.name
    && isQuantity modifier.quantity && isMoney modifier.unitPrice && isMoney modifier.totalPrice

def ExternalOrderItem.accepts (item : ExternalOrderItem) : Bool :=
  isIdentifier item.externalItemId && isIdentifier item.externalProductId
    && isIdentifier item.name && isQuantity item.quantity && isMoney item.unitPrice
    && isMoney item.totalPrice && item.modifiers.length ≤ 30
    && item.modifiers.all OrderModifier.accepts
    && item.notes.all fun notes => notes.length16 ≤ 500

def OrderPricing.accepts (pricing : OrderPricing) : Bool :=
  isMoney pricing.subtotal && isMoney pricing.platformDiscount
    && isMoney pricing.merchantDiscount && isMoney pricing.deliveryFee
    && isMoney pricing.serviceFee && isMoney pricing.tax && isMoney pricing.total
    && isMoney pricing.merchantReceivable

def isCurrency (currency : Text) : Bool := currency.length = 3 && currency.all Char.isUpper

/-- The orders that `persistedOrderSchema` accepts. -/
def NormalizedExternalOrder.accepts (order : NormalizedExternalOrder) : Bool :=
  isIdentifier order.externalOrderId
    && order.externalOrderNumber.all (fun number => 1 ≤ number.length16 && number.length16 ≤ 120)
    && isIdentifier order.externalStoreId && isCurrency order.currency
    && order.customerDisplayName.all (·.length16 ≤ 120)
    && order.customerNote.all (·.length16 ≤ 500)
    && 1 ≤ order.items.length && order.items.length ≤ 100
    && order.items.all ExternalOrderItem.accepts && order.pricing.accepts
    && 1 ≤ order.paymentStatus.length16 && order.paymentStatus.length16 ≤ 80

/-! ## The ledger -/

structure LedgerAmounts where
  externalSubtotalAmount : ℤ
  externalDiscountAmount : ℤ
  merchantDiscountAmount : ℤ
  platformDiscountAmount : ℤ
  externalDeliveryFeeAmount : ℤ
  externalServiceFeeAmount : ℤ
  externalTaxAmount : ℤ
  externalTotalAmount : ℤ
  merchantReceivableAmount : ℤ
  deriving DecidableEq

def OrderPricing.ledgerAmounts (pricing : OrderPricing) : LedgerAmounts where
  externalSubtotalAmount := pricing.subtotal
  externalDiscountAmount := pricing.platformDiscount + pricing.merchantDiscount
  merchantDiscountAmount := pricing.merchantDiscount
  platformDiscountAmount := pricing.platformDiscount
  externalDeliveryFeeAmount := pricing.deliveryFee
  externalServiceFeeAmount := pricing.serviceFee
  externalTaxAmount := pricing.tax
  externalTotalAmount := pricing.total
  merchantReceivableAmount := pricing.merchantReceivable

def LedgerAmounts.nonnegative (amounts : LedgerAmounts) : Bool :=
  0 ≤ amounts.externalSubtotalAmount && 0 ≤ amounts.externalDiscountAmount
    && 0 ≤ amounts.merchantDiscountAmount && 0 ≤ amounts.platformDiscountAmount
    && 0 ≤ amounts.externalDeliveryFeeAmount && 0 ≤ amounts.externalServiceFeeAmount
    && 0 ≤ amounts.externalTaxAmount && 0 ≤ amounts.externalTotalAmount
    && 0 ≤ amounts.merchantReceivableAmount

inductive LedgerStatus
  | received
  | validating
  | mappingRequired
  | readyForImport
  | imported
  | waitingProviderConfirmation
  | confirmed
  | rejected
  | failed
  | cancelled
  deriving DecidableEq

structure ExternalOrder where
  id : Uuid
  organizationId : Uuid
  stallId : Uuid
  connectionId : Uuid
  provider : DeliveryProvider
  externalOrderId : Text
  externalOrderNumber : Option Text
  internalOrderId : Option Uuid
  externalStoreId : Text
  externalStatus : Text
  processingStatus : LedgerStatus
  currency : Text
  amounts : LedgerAmounts
  scheduledPickupAt : Option Timestamp
  acceptedAt : Option Timestamp
  rejectedAt : Option Timestamp
  completedAt : Option Timestamp
  lastSyncedAt : Option Timestamp
  payloadHash : Text
  deriving DecidableEq

/-- A connection lists an order of its platform once, and an imported order
belongs to one of them. -/
instance : Indexed ExternalOrder Uuid where
  key := (·.id)
  collides left right :=
    left.id = right.id
      || (left.connectionId = right.connectionId && left.provider = right.provider
        && left.externalOrderId = right.externalOrderId)
      || (left.internalOrderId.isSome && left.internalOrderId = right.internalOrderId)
  collides_symm hcollides := by
    simp only [Bool.or_eq_true, Bool.and_eq_true, decide_eq_true_eq] at hcollides ⊢
    rcases hcollides with (hid | ⟨⟨hconnection, hprovider⟩, hexternal⟩) | ⟨hsome, hinternal⟩
    · exact Or.inl (Or.inl hid.symm)
    · exact Or.inl (Or.inr ⟨⟨hconnection.symm, hprovider.symm⟩, hexternal.symm⟩)
    · exact Or.inr ⟨hinternal ▸ hsome, hinternal.symm⟩
  collides_of_key_eq hkey := by simp [hkey]

def externalOrdersChecks (order : ExternalOrder) : Bool :=
  1 ≤ order.externalOrderId.length && order.externalOrderId.length ≤ 200
    && order.externalOrderNumber.all (fun number => 1 ≤ number.length && number.length ≤ 120)
    && 1 ≤ order.externalStoreId.length && order.externalStoreId.length ≤ 200
    && 1 ≤ order.externalStatus.length && order.externalStatus.length ≤ 120
    && isCurrency order.currency && order.amounts.nonnegative

/-! ## Webhooks -/

inductive ReplayKey
  | verified (key : Text)
  | rejected (provider : DeliveryProvider) (connectionId : Uuid) (payloadHash : Text)
  deriving DecidableEq

inductive WebhookStatus
  | received
  | verified
  | processing
  | processed
  | retryPending
  | deadLetter
  | rejected
  deriving DecidableEq

structure WebhookEvent where
  id : Uuid
  provider : DeliveryProvider
  connectionId : Uuid
  organizationId : Uuid
  stallId : Uuid
  externalEventId : Option Text
  eventType : Text
  signatureValid : Bool
  replayKey : ReplayKey
  payloadHash : Text
  processingStatus : WebhookStatus
  processedAt : Option Timestamp
  lastErrorCode : Option DeliveryErrorCode
  deriving DecidableEq

instance : Indexed WebhookEvent Uuid where
  key := (·.id)
  collides left right :=
    left.id = right.id
      || (left.connectionId = right.connectionId && left.provider = right.provider
        && left.replayKey = right.replayKey)
  collides_symm hcollides := by
    simp only [Bool.or_eq_true, Bool.and_eq_true, decide_eq_true_eq] at hcollides ⊢
    exact hcollides.imp Eq.symm (And.imp (And.imp Eq.symm Eq.symm) Eq.symm)
  collides_of_key_eq hkey := by simp [hkey]

def deliveryWebhookEventsChecks (event : WebhookEvent) : Bool :=
  event.externalEventId.all (fun id => 1 ≤ id.length && id.length ≤ 200)
    && 1 ≤ event.eventType.length && event.eventType.length ≤ 160

/-! ## Imported orders -/

structure PreparedNoteOption where
  noteGroupId : Uuid
  noteOptionId : Uuid
  groupName : Text
  optionName : Text
  priceDelta : ℤ
  sortOrder : ℕ
  deriving DecidableEq

structure PreparedOrderItem where
  productId : Uuid
  name : Text
  baseUnitPrice : ℤ
  unitPrice : ℤ
  quantity : ℤ
  note : Option Text
  noteOptions : List PreparedNoteOption
  deriving DecidableEq

/-- What the idempotency key of an imported order is derived from. -/
structure OrderIdempotencyKey where
  connectionId : Uuid
  provider : DeliveryProvider
  externalOrderId : Text
  deriving DecidableEq

structure ImportedOrder where
  id : Uuid
  organizationId : Uuid
  stallId : Uuid
  idempotencyKey : OrderIdempotencyKey
  isTest : Bool
  externalProvider : DeliveryProvider
  externalOrderId : Text
  externalOrderNumber : Option Text
  externalStoreId : Text
  externalPaymentStatus : Text
  externalSubtotalAmount : ℤ
  externalTotalAmount : ℤ
  merchantReceivableAmount : ℤ
  platformDiscountAmount : ℤ
  merchantDiscountAmount : ℤ
  scheduledPickupAt : Option Timestamp
  customerName : Text
  isDelivery : Bool
  note : Option Text
  subtotal : ℤ
  discountAmount : ℤ
  total : ℤ
  confirmationExpiresAt : Timestamp
  items : List PreparedOrderItem
  deriving DecidableEq

instance : Indexed ImportedOrder Uuid where
  key := (·.id)
  collides left right :=
    left.id = right.id
      || (left.stallId = right.stallId && left.idempotencyKey = right.idempotencyKey)
  collides_symm hcollides := by
    simp only [Bool.or_eq_true, Bool.and_eq_true, decide_eq_true_eq] at hcollides ⊢
    exact hcollides.imp Eq.symm (And.imp Eq.symm Eq.symm)
  collides_of_key_eq hkey := by simp [hkey]

def orderItemNoteOptionsChecks (option : PreparedNoteOption) : Bool :=
  1 ≤ option.groupName.length && option.groupName.length ≤ 120
    && 1 ≤ option.optionName.length && option.optionName.length ≤ 120
    && -10_000_000 ≤ option.priceDelta && option.priceDelta ≤ 10_000_000

def orderItemsChecks (item : PreparedOrderItem) : Bool :=
  0 < item.quantity && 0 ≤ item.unitPrice && 0 ≤ item.baseUnitPrice
    && item.noteOptions.all orderItemNoteOptionsChecks

/-- The checks of the order, its items and their options, which are inserted
together. -/
def ordersChecks (order : ImportedOrder) : Bool :=
  0 ≤ order.subtotal && 0 ≤ order.discountAmount && 0 ≤ order.total
    && order.subtotal - order.discountAmount = order.total
    && 0 ≤ order.externalSubtotalAmount && 0 ≤ order.externalTotalAmount
    && 0 ≤ order.merchantReceivableAmount && 0 ≤ order.platformDiscountAmount
    && 0 ≤ order.merchantDiscountAmount && order.items.all orderItemsChecks

/-- The audit entry of an import. -/
structure ImportAudit where
  entityId : Uuid
  externalOrderLedgerId : Uuid
  jobId : Uuid
  deriving DecidableEq

/-! ## Jobs -/

inductive DeliveryJobType
  | connectionHealthCheck
  | storeDiscovery
  | storeActivation
  | menuFullSync
  | menuIncrementalSync
  | availabilitySync
  | orderFetch
  | orderImport
  | orderAccept
  | orderReject
  | orderPreparing
  | orderReady
  | orderReconciliation
  | connectionDisconnect
  deriving DecidableEq

inductive DeliveryJobStatus
  | pending
  | processing
  | succeeded
  | retryPending
  | failed
  | deadLetter
  | cancelled
  deriving DecidableEq

inductive ExternalTransitionStatus
  | confirmed
  | preparing
  | packing
  | ready
  | cancelled
  | completed
  deriving DecidableEq

def ExternalTransitionStatus.text : ExternalTransitionStatus → Text
  | .confirmed => "CONFIRMED".toList
  | .preparing => "PREPARING".toList
  | .packing => "PACKING".toList
  | .ready => "READY".toList
  | .cancelled => "CANCELLED".toList
  | .completed => "COMPLETED".toList

/-- What the keys of an action are made of. -/
structure DeliveryActionKey where
  provider : DeliveryProvider
  connectionId : Uuid
  externalOrderId : Text
  action : ExternalTransitionStatus
  deriving DecidableEq

inductive DeduplicationKey
  | orderFetch (connectionId : Uuid) (externalOrderId : Text)
  | orderImport (connectionId : Uuid) (externalOrderId : Text)
  | orderAction (key : DeliveryActionKey)
  deriving DecidableEq

/-- The length of the key as a text: an id takes 36 characters and a hash 64. -/
def DeduplicationKey.charLength : DeduplicationKey → ℕ
  | .orderFetch _ externalOrderId => 12 + 36 + 1 + externalOrderId.length
  | .orderImport _ externalOrderId => 13 + 36 + 1 + externalOrderId.length
  | .orderAction key =>
      let provider := match key.provider with
        | .uberEats => "UBER_EATS"
        | .foodpanda => "FOODPANDA"
        | .mock => "MOCK"
      13 + provider.length + 1 + 36 + 1 + 64 + 1 + key.action.text.length

inductive DeliveryJobInput
  | orderFetch (externalOrderId : Text) (webhookEventId : Uuid) (payloadHash : Text)
  | orderImport (externalOrderLedgerId : Uuid) (webhookEventId : Option Uuid)
      (order : NormalizedExternalOrder)
  | orderAction (externalOrderId : Text) (idempotencyKey : DeliveryActionKey)
  deriving DecidableEq

inductive JobErrorCode
  | workerLeaseExpired
  | delivery (code : DeliveryErrorCode)
  deriving DecidableEq

structure DeliverySyncJob where
  id : Uuid
  organizationId : Uuid
  stallId : Uuid
  connectionId : Uuid
  provider : DeliveryProvider
  jobType : DeliveryJobType
  status : DeliveryJobStatus
  priority : ℤ
  deduplicationKey : DeduplicationKey
  claimedByWorker : Option Text
  attemptCount : ℕ
  maxAttempts : ℕ
  scheduledAt : Timestamp
  startedAt : Option Timestamp
  completedAt : Option Timestamp
  nextAttemptAt : Option Timestamp
  lastErrorCode : Option JobErrorCode
  input : DeliveryJobInput
  createdAt : Timestamp
  updatedAt : Timestamp
  deriving DecidableEq

instance : Indexed DeliverySyncJob Uuid where
  key := (·.id)
  collides left right :=
    left.id = right.id
      || (left.connectionId = right.connectionId && left.provider = right.provider
        && left.deduplicationKey = right.deduplicationKey)
  collides_symm hcollides := by
    simp only [Bool.or_eq_true, Bool.and_eq_true, decide_eq_true_eq] at hcollides ⊢
    exact hcollides.imp Eq.symm (And.imp (And.imp Eq.symm Eq.symm) Eq.symm)
  collides_of_key_eq hkey := by simp [hkey]

def deliverySyncJobsChecks (job : DeliverySyncJob) : Bool :=
  0 ≤ job.priority && job.priority ≤ 1000
    && 8 ≤ job.deduplicationKey.charLength && job.deduplicationKey.charLength ≤ 240
    && job.claimedByWorker.all (fun worker => 1 ≤ worker.length && worker.length ≤ 160)
    && job.attemptCount ≤ 100 && 1 ≤ job.maxAttempts && job.maxAttempts ≤ 20
    && job.attemptCount ≤ job.maxAttempts

structure DeliveryDb where
  connections : Table DeliveryConnection
  externalOrders : CheckedTable ExternalOrder externalOrdersChecks
  webhookEvents : CheckedTable WebhookEvent deliveryWebhookEventsChecks
  orders : CheckedTable ImportedOrder ordersChecks
  jobs : CheckedTable DeliverySyncJob deliverySyncJobsChecks
  importAudits : List ImportAudit

end Stallorder.DeliveryDatabase
