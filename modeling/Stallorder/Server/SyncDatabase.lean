import Stallorder.Server.DeviceDatabase

/-!
# The synchronization tables of the server

Canonical orders with the rows that belong to them, the receipts, conflicts and
inbox messages of the synchronization, the order counters and the cash drawer,
with their unique indexes.  A digest of a payload is a value of the type `Hash`.
The menu tables are read only and are carried as lists.
-/

namespace Stallorder.SyncDatabase

open OrderContract DeviceDatabase

/-! ## Canonical orders -/

inductive OrderSource
  | offlinePos
  | staffPos
  | other
  deriving DecidableEq

inductive OrderOrigin
  | onlineQr
  | onlineStaff
  | offlinePos
  | imported
  | test
  | systemCanary
  deriving DecidableEq

inductive OrderStatus
  | waitingConfirmation
  | confirmed
  | preparing
  | packing
  | ready
  | completed
  | cancelled
  | expired
  deriving DecidableEq

inductive OrderItemStatus
  | pending
  | preparing
  | ready
  | served
  deriving DecidableEq

inductive PaymentStatus
  | unpaid
  | paid
  | refunded
  | pendingReconciliation
  deriving DecidableEq

inductive PaymentMethod
  | cash
  | manualTransfer
  | other
  deriving DecidableEq

/-- The texts that an order keeps the hash of instead of a device. -/
inductive DeviceHashText
  | offlinePos (deviceId : Uuid)
  | staffOrder (profileId : Uuid)
  | other (text : Text)
  deriving DecidableEq

abbrev Digest := ℕ

structure CanonicalNoteOption where
  noteGroupId : Option Uuid
  noteOptionId : Option Uuid
  groupName : Text
  optionName : Text
  priceDelta : ℤ
  sortOrder : ℤ
  deriving DecidableEq

structure CanonicalItem where
  productId : Option Uuid
  name : Text
  baseUnitPrice : ℤ
  unitPrice : ℤ
  quantity : ℤ
  note : Option Text
  status : OrderItemStatus
  preparingAt : Option Timestamp
  readyAt : Option Timestamp
  servedAt : Option Timestamp
  noteOptions : List CanonicalNoteOption
  deriving DecidableEq

/-- An event of a canonical order; its type is `OFFLINE_ORDER_` and the state. -/
structure CanonicalEvent where
  eventType : OfflineOrderState
  previousStatus : Option OrderStatus
  newStatus : OrderStatus
  createdBy : Uuid
  createdAt : Timestamp
  deriving DecidableEq

structure CanonicalPayment where
  paymentOptionId : Option Uuid
  cashShiftId : Option Uuid
  amount : ℤ
  method : PaymentMethod
  status : PaymentStatus
  methodLabel : Text
  offlinePaymentMethod : Option OfflinePaymentMethod
  awaitsReconciliation : Bool
  cashReceived : Option ℤ
  changeAmount : Option ℤ
  recordedById : Uuid
  paidAt : Option Timestamp
  deriving DecidableEq

structure CanonicalPrintJob where
  offlinePrintJobId : Uuid
  printerId : Option Uuid
  requestedById : Uuid
  status : OfflinePrintStatus
  attemptCount : ℕ
  printStatusUnknown : Bool
  queuedAt : Timestamp
  printedAt : Option Timestamp
  templateVersion : Text
  deriving DecidableEq

structure CanonicalOrder where
  id : Uuid
  organizationId : Uuid
  stallId : Uuid
  orderNo : CanonicalOrderNumber
  idempotencyKey : Uuid
  source : OrderSource
  origin : OrderOrigin
  customerName : Text
  customerPhone : Option Text
  note : Option Text
  status : OrderStatus
  paymentStatus : PaymentStatus
  subtotal : ℤ
  discountAmount : ℤ
  total : ℤ
  deviceHash : Digest
  confirmedAt : Option Timestamp
  completedAt : Option Timestamp
  cancelledAt : Option Timestamp
  cancelledById : Option Uuid
  createdAt : Timestamp
  paidAt : Option Timestamp
  sourceDeviceId : Option Uuid
  offlineOrderId : Option Uuid
  offlineLocalSequence : Option ℕ
  menuSnapshotVersion : Option ℕ
  deviceCreatedAt : Option Timestamp
  serverReceivedAt : Option Timestamp
  syncedWithConflict : Bool
  deviceClockOffsetMs : Option ℤ
  localDisplayNumber : Option LocalDisplayNumber
  items : List CanonicalItem
  events : List CanonicalEvent
  payment : Option CanonicalPayment
  printJobs : List CanonicalPrintJob
  deriving DecidableEq

/-- Two orders that came from the same device under the same offline number. -/
def sameOfflineOrder (left right : CanonicalOrder) : Bool :=
  left.sourceDeviceId.isSome && left.offlineOrderId.isSome
    && left.sourceDeviceId = right.sourceDeviceId
    && left.offlineOrderId = right.offlineOrderId

/-- Idempotency keys are unique within a stall, and among all offline orders. -/
def sameOrderKey (left right : CanonicalOrder) : Bool :=
  left.idempotencyKey = right.idempotencyKey
    && (left.stallId = right.stallId
      || (left.origin = .offlinePos && right.origin = .offlinePos))

def sharesPrintJob (left right : CanonicalOrder) : Bool :=
  left.printJobs.any fun job => right.printJobs.any fun other =>
    job.offlinePrintJobId = other.offlinePrintJobId

instance : Indexed CanonicalOrder Uuid where
  key := (·.id)
  collides left right :=
    left.id = right.id
      || (left.stallId = right.stallId && left.orderNo = right.orderNo)
      || sameOfflineOrder left right || sameOrderKey left right || sharesPrintJob left right
  collides_symm {left right} hcollides := by
    simp only [Bool.or_eq_true, Bool.and_eq_true, decide_eq_true_eq] at hcollides ⊢
    rcases hcollides with (((hid | hnumber) | hoffline) | hkey) | hjob
    · exact Or.inl (Or.inl (Or.inl (Or.inl hid.symm)))
    · exact Or.inl (Or.inl (Or.inl (Or.inr ⟨hnumber.1.symm, hnumber.2.symm⟩)))
    · refine Or.inl (Or.inl (Or.inr ?_))
      simp only [sameOfflineOrder, Bool.and_eq_true, decide_eq_true_eq] at hoffline ⊢
      obtain ⟨⟨⟨hdevice, horder⟩, hsameDevice⟩, hsameOrder⟩ := hoffline
      exact ⟨⟨⟨hsameDevice ▸ hdevice, hsameOrder ▸ horder⟩, hsameDevice.symm⟩,
        hsameOrder.symm⟩
    · refine Or.inl (Or.inr ?_)
      simp only [sameOrderKey, Bool.and_eq_true, Bool.or_eq_true, decide_eq_true_eq] at hkey ⊢
      exact ⟨hkey.1.symm, hkey.2.imp Eq.symm And.symm⟩
    · refine Or.inr ?_
      simp only [sharesPrintJob, List.any_eq_true, decide_eq_true_eq] at hjob ⊢
      obtain ⟨job, hjob, other, hother, hsame⟩ := hjob
      exact ⟨other, hother, job, hjob, hsame.symm⟩
  collides_of_key_eq hkey := by simp [hkey]

/-! ## Synchronization rows -/

structure OrderSyncReceipt where
  id : Uuid
  deviceId : Uuid
  offlineOrderId : Uuid
  idempotencyKey : Uuid
  orderId : Uuid
  outcome : ReceiptOutcome
  localDisplayNumber : LocalDisplayNumber
  canonicalOrderNumber : CanonicalOrderNumber
  promotionEpoch : ℕ
  serverReceivedAt : Timestamp
  deriving DecidableEq

instance : Indexed OrderSyncReceipt Uuid where
  key := (·.id)
  collides left right :=
    left.id = right.id
      || (left.deviceId = right.deviceId && left.offlineOrderId = right.offlineOrderId)
      || left.idempotencyKey = right.idempotencyKey || left.orderId = right.orderId
  collides_symm hcollides := by
    simp only [Bool.or_eq_true, Bool.and_eq_true, decide_eq_true_eq] at hcollides ⊢
    rcases hcollides with ((hid | hoffline) | hkey) | horder
    · exact Or.inl (Or.inl (Or.inl hid.symm))
    · exact Or.inl (Or.inl (Or.inr ⟨hoffline.1.symm, hoffline.2.symm⟩))
    · exact Or.inl (Or.inr hkey.symm)
    · exact Or.inr horder.symm
  collides_of_key_eq hkey := by simp [hkey]

structure SyncConflict where
  id : Uuid
  deviceId : Uuid
  receiptId : Option Uuid
  orderId : Option Uuid
  localEntityType : SyncEntityType
  localEntityId : Uuid
  offlineOrderId : Option Uuid
  conflictType : OfflineSyncConflictType
  resolutionStatus : ConflictResolutionStatus
  deriving DecidableEq

/-- A conflict is unique by what it is about. -/
def sameConflict (left right : SyncConflict) : Bool :=
  left.deviceId = right.deviceId && left.localEntityType = right.localEntityType
    && left.localEntityId = right.localEntityId && left.conflictType = right.conflictType

instance : Indexed SyncConflict Uuid where
  key := (·.id)
  collides left right := left.id = right.id || sameConflict left right
  collides_symm hcollides := by
    simp only [Bool.or_eq_true, sameConflict, Bool.and_eq_true, decide_eq_true_eq]
      at hcollides ⊢
    rcases hcollides with hid | ⟨⟨⟨hdevice, htype⟩, hentity⟩, hconflict⟩
    · exact Or.inl hid.symm
    · exact Or.inr ⟨⟨⟨hdevice.symm, htype.symm⟩, hentity.symm⟩, hconflict.symm⟩
  collides_of_key_eq hkey := by simp [hkey]

inductive InboxStatus
  | received
  | processed
  | rejected
  deriving DecidableEq

/-- A message that was taken in: the digest of its payload and, when it was
refused, the code it was refused with. -/
structure InboxMessage (Hash : Type) where
  deviceId : Option Uuid
  source : SyncEntityType
  messageKey : Uuid
  payloadHash : Hash
  status : InboxStatus
  errorCode : Option SyncErrorCode
  deriving DecidableEq

instance (Hash : Type) : KeyIndexed (InboxMessage Hash) (SyncEntityType × Uuid) :=
  .ofKey fun message => (message.source, message.messageKey)

structure StallOrderCounter where
  stallId : Uuid
  businessDate : BusinessDate
  nextValue : ℕ
  deriving DecidableEq

instance : KeyIndexed StallOrderCounter (Uuid × BusinessDate) :=
  .ofKey fun counter => (counter.stallId, counter.businessDate)

/-! ## The cash drawer -/

inductive CashShiftStatus
  | open
  | closing
  | reviewRequired
  | closed
  deriving DecidableEq

structure CashShift where
  id : Uuid
  organizationId : Uuid
  stallId : Uuid
  status : CashShiftStatus
  openingAmount : ℤ
  systemExpectedAmount : Option ℤ
  countedAmount : Option ℤ
  varianceAmount : Option ℤ
  note : Option Text
  closedById : Option Uuid
  closedAt : Option Timestamp
  deriving DecidableEq

instance : KeyIndexed CashShift Uuid := .ofKey (·.id)

inductive CashMovementType
  | openingFloat
  | cashSale
  | cashRefund
  | cashIn
  | cashOut
  | correction
  deriving DecidableEq

structure CashMovement where
  id : Uuid
  cashShiftId : Uuid
  type : CashMovementType
  amount : ℤ
  reason : Text
  offlineCashEventId : Option Uuid
  recordedById : Uuid
  createdAt : Timestamp
  deriving DecidableEq

instance : Indexed CashMovement Uuid where
  key := (·.id)
  collides left right :=
    left.id = right.id
      || (left.offlineCashEventId.isSome && left.cashShiftId = right.cashShiftId
        && left.offlineCashEventId = right.offlineCashEventId)
  collides_symm hcollides := by
    simp only [Bool.or_eq_true, Bool.and_eq_true, decide_eq_true_eq] at hcollides ⊢
    rcases hcollides with hid | ⟨⟨hsome, hshift⟩, hevent⟩
    · exact Or.inl hid.symm
    · exact Or.inr ⟨⟨hevent ▸ hsome, hshift.symm⟩, hevent.symm⟩
  collides_of_key_eq hkey := by simp [hkey]

/-! ## Menu tables -/

structure CurrentNoteOption where
  id : Uuid
  noteGroupId : Uuid
  priceDelta : ℤ
  deriving DecidableEq

/-- A product assigned to a stall, with its active note options. -/
structure StallProduct where
  organizationId : Uuid
  stallId : Uuid
  productId : Uuid
  priceOverride : Option ℤ
  isEnabled : Bool
  availableFrom : Option Timestamp
  availableUntil : Option Timestamp
  productIsActive : Bool
  defaultPrice : ℤ
  categoryIsActive : Bool
  activeOptions : List CurrentNoteOption
  deriving DecidableEq

/-- A payment option or a printer, as far as the synchronization reads it. -/
structure StallResource where
  id : Uuid
  organizationId : Uuid
  stallId : Uuid
  isEnabled : Bool
  deriving DecidableEq

/-! ## The database -/

structure ServerDb (Hash : Type) where
  devices : DeviceDb
  stallProducts : List StallProduct
  paymentOptions : List StallResource
  printers : List StallResource
  cashShifts : Table CashShift
  cashMovements : Table CashMovement
  orders : Table CanonicalOrder
  counters : Table StallOrderCounter
  receipts : Table OrderSyncReceipt
  conflicts : Table SyncConflict
  inbox : Table (InboxMessage Hash)

/-- The tables a synchronization finds before anything was uploaded. -/
def ServerDb.initial (Hash : Type) (devices : DeviceDb) (stallProducts : List StallProduct)
    (paymentOptions printers : List StallResource) (cashShifts : Table CashShift) :
    ServerDb Hash where
  devices := devices
  stallProducts := stallProducts
  paymentOptions := paymentOptions
  printers := printers
  cashShifts := cashShifts
  cashMovements := .empty
  orders := .empty
  counters := .empty
  receipts := .empty
  conflicts := .empty
  inbox := .empty

end Stallorder.SyncDatabase
