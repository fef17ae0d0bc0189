import Stallorder.Core.Schema

/-!
# The offline order contract

The types and schemas that the device and the server share: an offline order
with its items, its state machine, its events, its payment and print jobs, the
cash events of a drawer, the records of an upload and the receipts that answer
it.  Identifiers are the 128-bit values of UUIDs and timestamps are
milliseconds, which is the precision of the ISO strings on the wire.
-/

namespace Stallorder.OrderContract

abbrev Uuid := ℕ
abbrev Timestamp := ℤ

/-- A calendar day, written `yyyymmdd`. -/
abbrev BusinessDate := ℕ

def offlineAppProtocolVersion : ℕ := 2

/-! ## The state machine of an order -/

inductive OfflineOrderState
  | localNew
  | localConfirmed
  | localPreparing
  | localReady
  | localCompleted
  | localCancelled
  deriving DecidableEq

open OfflineOrderState in
def offlineOrderStateTransitions : OfflineOrderState → List OfflineOrderState
  | localNew => [localConfirmed, localCancelled]
  | localConfirmed => [localPreparing, localReady, localCancelled]
  | localPreparing => [localReady, localCancelled]
  | localReady => [localCompleted, localCancelled]
  | localCompleted => []
  | localCancelled => []

def canTransitionOfflineOrder (current next : OfflineOrderState) : Bool :=
  next ∈ offlineOrderStateTransitions current

/-! ## Payments and statuses -/

inductive OfflinePaymentMethod
  | cash
  | manualLinePay
  | manualJkopay
  | otherManual
  deriving DecidableEq

inductive OfflinePaymentStatus
  | unpaid
  | paidLocal
  | pendingReconciliation
  deriving DecidableEq

inductive OfflineSyncStatus
  | pending
  | processing
  | failed
  | synced
  | syncedWithConflict
  | conflict
  | rejected
  deriving DecidableEq

/-- The kinds of payment option a menu offers. -/
inductive PaymentOptionKind
  | cash
  | linePay
  | jkoPay
  | custom
  deriving DecidableEq

def paymentMethodForKind : PaymentOptionKind → OfflinePaymentMethod
  | .cash => .cash
  | .linePay => .manualLinePay
  | .jkoPay => .manualJkopay
  | .custom => .otherManual

/-- Money is an integer between zero and one hundred million. -/
def money (amount : ℤ) : Bool :=
  0 ≤ amount && amount ≤ 100_000_000

def shortText (text : Text) : Bool :=
  text.length16 ≤ 120

def noteText (text : Text) : Bool :=
  text.length16 ≤ 1_000

/-! ## Items -/

structure OfflineOrderNoteOption where
  noteGroupId : Uuid
  noteOptionId : Uuid
  groupName : Text
  optionName : Text
  priceDelta : ℤ
  sortOrder : ℤ
  deriving DecidableEq

def offlineOrderNoteOptionSchema : Schema OfflineOrderNoteOption where
  normalize option := { option with
    groupName := option.groupName.trim
    optionName := option.optionName.trim }
  accepts option :=
    shortText option.groupName && 1 ≤ option.groupName.length16
      && shortText option.optionName && 1 ≤ option.optionName.length16
      && -100_000_000 ≤ option.priceDelta && option.priceDelta ≤ 100_000_000
      && 0 ≤ option.sortOrder && option.sortOrder ≤ 1_000_000
  normalize_normalize option := by simp

structure OfflineOrderItem where
  localItemId : Uuid
  productId : Uuid
  name : Text
  baseUnitPrice : ℤ
  unitPrice : ℤ
  quantity : ℤ
  note : Text
  noteOptions : List OfflineOrderNoteOption
  deriving DecidableEq

def offlineOrderItemSchema : Schema OfflineOrderItem where
  normalize item := { item with
    name := item.name.trim
    note := item.note.trim
    noteOptions := item.noteOptions.map offlineOrderNoteOptionSchema.normalize }
  accepts item :=
    shortText item.name && 1 ≤ item.name.length16
      && money item.baseUnitPrice && money item.unitPrice
      && 1 ≤ item.quantity && item.quantity ≤ 100
      && noteText item.note
      && item.noteOptions.length ≤ 50
      && item.noteOptions.all offlineOrderNoteOptionSchema.accepts
  normalize_normalize item := by
    simp [offlineOrderNoteOptionSchema.normalize_normalize]

/-! ## Events, payments and print jobs -/

structure OfflineOrderEvent where
  eventId : Uuid
  offlineOrderId : Uuid
  previousState : Option OfflineOrderState
  nextState : OfflineOrderState
  reason : Option Text
  occurredAtDevice : Timestamp
  deriving DecidableEq

def offlineOrderEventSchema : Schema OfflineOrderEvent where
  normalize event := { event with reason := event.reason.map Text.trim }
  accepts event := event.reason.all fun reason => shortText reason && reason.length16 ≤ 200
  normalize_normalize event := by simp [Option.map_map, Function.comp_def]

structure OfflinePayment where
  localPaymentId : Uuid
  offlineOrderId : Uuid
  paymentOptionId : Option Uuid
  method : OfflinePaymentMethod
  status : OfflinePaymentStatus
  amount : ℤ
  cashReceived : Option ℤ
  changeAmount : Option ℤ
  methodLabel : Text
  cashShiftId : Option Uuid
  recordedAtDevice : Timestamp
  deriving DecidableEq

/-- A cash payment names the drawer and what was handed over and given back. -/
def cashPaymentConsistent (payment : OfflinePayment) : Bool :=
  payment.status = .paidLocal
    && payment.cashShiftId.isSome
    && payment.cashReceived.any (payment.amount ≤ ·)
    && payment.changeAmount = payment.cashReceived.map (· - payment.amount)

def manualPaymentConsistent (payment : OfflinePayment) : Bool :=
  payment.status = .pendingReconciliation
    && payment.cashReceived.isNone
    && payment.changeAmount.isNone
    && payment.cashShiftId.isNone

def offlinePaymentSchema : Schema OfflinePayment where
  normalize payment := { payment with methodLabel := payment.methodLabel.trim }
  accepts payment :=
    payment.status ≠ .unpaid
      && money payment.amount
      && payment.cashReceived.all money && payment.changeAmount.all money
      && shortText payment.methodLabel && 1 ≤ payment.methodLabel.length16
      && (if payment.method = .cash then cashPaymentConsistent payment
          else manualPaymentConsistent payment)
  normalize_normalize payment := by simp

inductive OfflinePrintStatus
  | pending
  | printing
  | succeeded
  | failed
  | cancelled
  deriving DecidableEq

/-- The deduplication key `offline-order:<id>:receipt:v1`; any other text a
client may send is carried as such. -/
inductive PrintDeduplicationKey
  | receipt (offlineOrderId : Uuid)
  | other (text : Text)
  deriving DecidableEq

structure OfflinePrintJob where
  printJobId : Uuid
  offlineOrderId : Uuid
  printerId : Option Uuid
  templateVersion : Text
  status : OfflinePrintStatus
  attemptCount : ℕ
  printedAt : Option Timestamp
  deduplicationKey : PrintDeduplicationKey
  deriving DecidableEq

def isWordCharacter (extra : List Char) (c : Char) : Bool :=
  c.isAlphanum || c ∈ extra

/-- The pattern `[A-Za-z0-9][A-Za-z0-9<extra>]{0,<more>}`. -/
def matchesToken (extra : List Char) (more : ℕ) : Text → Bool
  | [] => false
  | first :: rest =>
      first.isAlphanum && rest.length ≤ more && rest.all (isWordCharacter extra)

def PrintDeduplicationKey.accepted : PrintDeduplicationKey → Bool
  | .receipt _ => true
  | .other text => matchesToken [':', '_', '-'] 199 text

def PrintDeduplicationKey.trim : PrintDeduplicationKey → PrintDeduplicationKey
  | .receipt offlineOrderId => .receipt offlineOrderId
  | .other text => .other text.trim

@[simp]
theorem PrintDeduplicationKey.trim_trim (dedupKey : PrintDeduplicationKey) :
    dedupKey.trim.trim = dedupKey.trim := by
  cases dedupKey with
  | receipt _ => rfl
  | other text => simp [PrintDeduplicationKey.trim]

def offlinePrintJobSchema : Schema OfflinePrintJob where
  normalize job := { job with
    templateVersion := job.templateVersion.trim
    deduplicationKey := job.deduplicationKey.trim }
  accepts job :=
    matchesToken ['.', '_', '+', '-'] 39 job.templateVersion
      && job.attemptCount ≤ 100
      && job.deduplicationKey.accepted
      && (job.status = .succeeded) = job.printedAt.isSome
  normalize_normalize job := by simp

/-! ## Orders -/

/-- `OFF-<device>-<day>-<sequence>`. -/
structure LocalDisplayNumber where
  deviceCode : ℕ
  businessDate : BusinessDate
  sequence : ℕ
  deriving DecidableEq

structure OfflineOrder where
  offlineOrderId : Uuid
  deviceId : Uuid
  organizationId : Uuid
  stallId : Uuid
  localSequence : ℕ
  localDisplayNumber : LocalDisplayNumber
  menuSnapshotVersion : ℕ
  itemsSnapshot : List OfflineOrderItem
  subtotal : ℤ
  discountAmount : ℤ
  total : ℤ
  currency : Text
  paymentMethod : Option OfflinePaymentMethod
  paymentStatus : OfflinePaymentStatus
  orderStatus : OfflineOrderState
  customerLabel : Text
  customerContact : Text
  note : Text
  createdAtDevice : Timestamp
  updatedAtDevice : Timestamp
  idempotencyKey : Uuid
  syncStatus : OfflineSyncStatus
  retryCount : ℕ
  lastRetryAt : Option Timestamp
  promotionEpoch : ℕ
  protocolVersion : ℕ
  deriving DecidableEq

def itemsTotal (items : List OfflineOrderItem) : ℤ :=
  (items.map fun item => item.unitPrice * item.quantity).sum

/-- The product, the note and the options of an item, in a canonical order. -/
def configurationKey (item : OfflineOrderItem) : Uuid × Text × List Uuid :=
  (item.productId, item.note,
    (item.noteOptions.map (·.noteOptionId)).insertionSort (· ≤ ·))

def orderPaymentConsistent (order : OfflineOrder) : Bool :=
  match order.paymentMethod with
  | none => order.paymentStatus = .unpaid
  | some .cash => order.paymentStatus = .paidLocal
  | some _ => order.paymentStatus = .pendingReconciliation

def localDisplayNumberAccepted (number : LocalDisplayNumber) : Bool :=
  number.deviceCode < 16 ^ 6 && number.businessDate < 10 ^ 8 && number.sequence < 10 ^ 9

def currencyAccepted (currency : Text) : Bool :=
  currency.length = 3 && currency.all Char.isUpper

def offlineOrderSchema : Schema OfflineOrder where
  normalize order := { order with
    itemsSnapshot := order.itemsSnapshot.map offlineOrderItemSchema.normalize
    customerLabel := order.customerLabel.trim
    customerContact := order.customerContact.trim
    note := order.note.trim }
  accepts order :=
    1 ≤ order.localSequence && order.localSequence ≤ 999_999_999
      && localDisplayNumberAccepted order.localDisplayNumber
      && 1 ≤ order.menuSnapshotVersion
      && 1 ≤ order.itemsSnapshot.length && order.itemsSnapshot.length ≤ 100
      && order.itemsSnapshot.all offlineOrderItemSchema.accepts
      && money order.subtotal && order.discountAmount = 0 && money order.total
      && currencyAccepted order.currency
      && shortText order.customerLabel && order.customerLabel.length16 ≤ 50
      && order.customerContact.length16 ≤ 80
      && noteText order.note
      && order.retryCount ≤ 100
      && 1 ≤ order.promotionEpoch
      && order.protocolVersion = offlineAppProtocolVersion
      && order.subtotal = itemsTotal order.itemsSnapshot
      && order.total = order.subtotal - order.discountAmount
      && orderPaymentConsistent order
      && !(order.orderStatus = .localCompleted && order.paymentStatus = .unpaid)
      && order.createdAtDevice ≤ order.updatedAtDevice
      && (order.itemsSnapshot.map configurationKey).Nodup
  normalize_normalize order := by
    simp [offlineOrderItemSchema.normalize_normalize]

/-! ## Cash events -/

inductive OfflineCashEventType
  | cashIn
  | cashOut
  | provisionalClose
  deriving DecidableEq

structure OfflineCashEvent where
  cashEventId : Uuid
  deviceId : Uuid
  organizationId : Uuid
  stallId : Uuid
  cashShiftId : Uuid
  eventType : OfflineCashEventType
  amount : ℤ
  countedAmount : Option ℤ
  reason : Text
  occurredAtDevice : Timestamp
  idempotencyKey : Uuid
  promotionEpoch : ℕ
  protocolVersion : ℕ
  deriving DecidableEq

def offlineCashEventSchema : Schema OfflineCashEvent where
  normalize event := { event with reason := event.reason.trim }
  accepts event :=
    money event.amount && event.countedAmount.all money
      && 1 ≤ event.reason.length16 && event.reason.length16 ≤ 200
      && 1 ≤ event.promotionEpoch
      && event.protocolVersion = offlineAppProtocolVersion
      && (event.eventType = .provisionalClose) = event.countedAmount.isSome
      && (event.eventType = .provisionalClose || 0 < event.amount)
  normalize_normalize event := by simp

/-! ## Upload records and receipts -/

structure OfflineOrderSyncRecord where
  queueId : Uuid
  order : OfflineOrder
  events : List OfflineOrderEvent
  payment : Option OfflinePayment
  printJobs : List OfflinePrintJob
  deriving DecidableEq

structure OfflineCashSyncRecord where
  queueId : Uuid
  event : OfflineCashEvent
  deriving DecidableEq

inductive OfflineSyncRecord
  | order (record : OfflineOrderSyncRecord)
  | cashEvent (record : OfflineCashSyncRecord)
  deriving DecidableEq

def OfflineSyncRecord.queueId : OfflineSyncRecord → Uuid
  | .order record => record.queueId
  | .cashEvent record => record.queueId

inductive OfflineSyncConflictType
  | menuVersionExpired
  | priceChanged
  | productDisabled
  | productDeleted
  | roleChanged
  | deviceRevoked
  | invalidStateTransition
  | duplicateOrder
  | paymentReconciliationRequired
  | clockSkew
  | backendEpochChanged
  | cashTotalMismatch
  | printStatusUnknown
  | unknownReference
  | shiftAlreadyClosed
  | duplicateCashMovement
  | multipleOfflineShift
  deriving DecidableEq

inductive ReceiptOutcome
  | accepted
  | acceptedWithConflict
  | duplicate
  | rejected
  deriving DecidableEq

/-- The error codes a refused record is answered with. -/
inductive SyncErrorCode
  | scopeInvalid
  | protocolInvalid
  | recordOutsidePermit
  | clockInvalid
  | payloadInvalid
  | menuSnapshotScopeInvalid
  | eventChainInvalid
  | eventOutsidePermit
  | deviceRevoked
  | payloadReplayMismatch
  | idempotencyCollision
  | menuSnapshotNotFound
  | menuSnapshotInvalid
  | riskLimitReached
  | manualPaymentLimitReached
  | paymentActionNotAllowed
  | paymentScopeInvalid
  | paymentSnapshotInvalid
  | cashShiftNotFound
  | printActionNotAllowed
  | businessDateInvalid
  | cashActionNotAllowed
  | cashIdempotencyCollision
  | cashShiftAlreadyClosed
  | syncRejected
  deriving DecidableEq

inductive ConflictResolutionStatus
  | open
  | autoResolved
  | acceptedLocal
  | merged
  | rejected
  | cancelled
  deriving DecidableEq

structure ReceiptConflict where
  conflictId : Uuid
  type : OfflineSyncConflictType
  resolutionStatus : ConflictResolutionStatus
  deriving DecidableEq

inductive SyncEntityType
  | order
  | cashEvent
  deriving DecidableEq

/-- `YYMMDD-NNN`, the number of a canonical order. -/
structure CanonicalOrderNumber where
  businessDate : BusinessDate
  value : ℕ
  deriving DecidableEq

structure OfflineSyncReceipt where
  queueId : Uuid
  localEntityId : Uuid
  recordType : SyncEntityType
  outcome : ReceiptOutcome
  canonicalOrderId : Option Uuid
  canonicalOrderNumber : Option CanonicalOrderNumber
  serverReceivedAt : Timestamp
  conflicts : List ReceiptConflict
  errorCode : Option SyncErrorCode
  deriving DecidableEq

structure OfflineSyncResponse where
  receipts : List OfflineSyncReceipt
  serverTime : Timestamp
  promotionEpoch : ℕ
  deriving DecidableEq

end Stallorder.OrderContract
