import Stallorder.Core.Checks
import Stallorder.Core.Decimals
import Stallorder.Offline.LocalDatabase

/-!
# Local operations

The operations a cashier performs while the device is offline: creating an
order, moving an order through its states and recording a cash event.  Each
runs in one database transaction.  An exception in the calling code does not
abort that transaction, so what was put before it stays; a refused `add` does
abort it.  Identifiers the device draws, the clock and the calendar of a time
zone are arguments; the calendar has no date in a time zone it does not know.
-/

namespace Stallorder.Operations

open OrderContract Permit Catalog LocalDatabase Checks Doubles

inductive LocalErrorCode
  | bootstrapRequired
  | permitExpired
  | menuExpired
  | deviceNotLeader
  | scopeMismatch
  | actionNotAllowed
  | productUnavailable
  | itemLimitExceeded
  | noteSelectionInvalid
  | riskLimitReached
  | paymentNotAllowed
  | cashShiftRequired
  | customerContactRequired
  | managerRequired
  | invalidStateTransition
  | recordNotFound
  deriving DecidableEq

/-- What a local operation throws: its own error, a schema error, the error of
an unknown time zone or of a missing index, or the failure of a transaction
that a constraint aborted. -/
inductive LocalError
  | operation (code : LocalErrorCode)
  | schemaInvalid
  | rangeError
  | indexNotFound
  | transactionFailed
  deriving DecidableEq

def unsynchronized : OfflineSyncStatus → Bool
  | .pending | .processing | .failed | .conflict | .rejected => true
  | .synced | .syncedWithConflict => false

/-! ## The bootstrap in force -/

structure Bootstrap where
  device : DeviceProfile
  permit : StoredPermit
  menu : StoredMenuSnapshot

/-- The first valid device profile of the stall. -/
def deviceOfStall (db : LocalDb) (stallId : Uuid) : Option DeviceProfile :=
  (db.deviceProfile.rows.filter deviceProfileSchema).find? fun profile =>
    profile.stallId = stallId

/-- The valid permit of the stall that was issued last. -/
def newestPermit (db : LocalDb) (stallId : Uuid) : Option StoredPermit :=
  ((db.offlinePermit.rows.filter fun permit =>
    activePermitSchema permit && permit.stallId = stallId).insertionSort
      fun left right => right.issuedAt ≤ left.issuedAt).head?

def readBootstrap (db : LocalDb) (organizationId stallId : Uuid) (now : Timestamp) :
    Except LocalError Bootstrap := do
  let device ← orFail (deviceOfStall db stallId) (.operation .deviceNotLeader)
  failWhen (device.organizationId ≠ organizationId) (.operation .scopeMismatch)
  let permit ← orFail (newestPermit db stallId) (.operation .bootstrapRequired)
  failWhen (permit.deviceId ≠ device.id) (.operation .scopeMismatch)
  failWhen (permit.expiresAt ≤ now) (.operation .permitExpired)
  let menu ← orFail (db.menuSnapshots.get? (stallId, permit.menuSnapshotVersion))
    (.operation .bootstrapRequired)
  failWhen (!menuSnapshotSchema menu) (.operation .bootstrapRequired)
  failWhen (menu.stallId ≠ stallId || menu.catalog.stallId ≠ stallId)
    (.operation .scopeMismatch)
  failWhen (menu.expiresAt ≤ now) (.operation .menuExpired)
  return { device, permit, menu }

/-! ## Creating an order -/

inductive PaymentTiming
  | payNow
  | payLater
  deriving DecidableEq

/-- The idempotency key of a draft; only the schema of the order asks for a UUID. -/
inductive DraftKey
  | uuid (idempotencyKey : Uuid)
  | other (text : Text)
  deriving DecidableEq

def DraftKey.uuid? : DraftKey → Option Uuid
  | .uuid idempotencyKey => some idempotencyKey
  | .other _ => none

theorem DraftKey.uuid?_eq_some {key : DraftKey} {idempotencyKey : Uuid} :
    key.uuid? = some idempotencyKey ↔ key = .uuid idempotencyKey := by
  cases key <;> simp [DraftKey.uuid?]

structure CreateOfflineOrderDraft where
  organizationId : Uuid
  stallId : Uuid
  idempotencyKey : DraftKey
  customerLabel : Text
  customerContact : Text
  note : Text
  paymentTiming : PaymentTiming
  paymentOptionId : Option Uuid
  cashReceived : Option ℚ
  queuePrint : Bool
  items : List DraftItem

/-- The identifiers drawn while an order is created. -/
structure CreationIds where
  offlineOrderId : Uuid
  itemId : ℕ → Uuid
  localPaymentId : Uuid
  eventId : Uuid
  printJobId : Uuid
  queueId : Uuid

structure Admission where
  bootstrap : Bootstrap
  items : List PricedItem
  subtotal : ℚ
  unsynchronizedOrders : List StoredOrder

def limitedItem (item : DraftItem) : LimitedOrderItem where
  productId := item.productId
  quantity := item.quantity
  note := item.note

def pricingErrorCode : PricingError → LocalErrorCode
  | .productUnavailable => .productUnavailable
  | .itemLimitExceeded => .itemLimitExceeded
  | .noteSelectionInvalid => .noteSelectionInvalid

def unsynchronizedOrders (db : LocalDb) (stallId : Uuid) : List StoredOrder :=
  db.offlineOrders.rows.filter fun row =>
    row.stallId = stallId && unsynchronized row.syncStatus

def totalOf (rows : List StoredOrder) : ℤ :=
  (rows.map fun row => row.payload.total).sum

/-- The checks that precede any write: the bootstrap, the items and the limits
on the orders that are not yet synchronized. -/
def admitOfflineOrder (db : LocalDb) (draft : CreateOfflineOrderDraft) (ids : CreationIds)
    (now : Timestamp) : Except LocalError Admission := do
  let bootstrap ← readBootstrap db draft.organizationId draft.stallId now
  let permit := bootstrap.permit
  let catalog := bootstrap.menu.catalog
  failWhen (.createOfflineOrder ∉ permit.allowedOfflineActions) (.operation .actionNotAllowed)
  failWhen (draft.items.length < 1 || 100 < draft.items.length
      || orderItemsExceedLimits (draft.items.map limitedItem) draft.note catalog.limits)
    (.operation .itemLimitExceeded)
  let items ← (prepareOfflineOrderItemSnapshots catalog now ids.itemId 0 draft.items).mapError
    fun error => .operation (pricingErrorCode error)
  let subtotal := addDoubles (items.map (·.amount))
  failWhen (permit.riskLimits.maxSingleOrderAmount < subtotal) (.operation .riskLimitReached)
  let pending := unsynchronizedOrders db draft.stallId
  failWhen (permit.riskLimits.maxPendingOrders ≤ pending.length
      || permit.riskLimits.maxTotalAmount < toDouble (totalOf pending + subtotal))
    (.operation .riskLimitReached)
  return { bootstrap, items, subtotal, unsynchronizedOrders := pending }

structure PaymentDecision where
  method : Option OfflinePaymentMethod
  payment : Option OfflinePayment
  /-- The drawer with a cash sale added, put as soon as it is known. -/
  cashShift : Option CashShiftSnapshot

def pendingManualTotal (rows : List StoredOrder) : ℤ :=
  totalOf (rows.filter fun row => row.payload.paymentStatus = .pendingReconciliation)

/-- The schemas read a year of four digits; the clock writes any other year with six. -/
def isoTimestamp (now : Timestamp) : Bool :=
  -62_167_219_200_000 ≤ now && now < 253_402_300_800_000

def addCashSale (shift : CashShiftSnapshot) (subtotal : ℤ) : CashShiftSnapshot :=
  { shift with
    offlineCashSales := some (shift.offlineCashSales.getD 0 + subtotal)
    cashSales := some (shift.cashSales.getD 0 + subtotal)
    expectedAmount := some (shift.expectedAmount.getD 0 + subtotal) }

/-- The open drawer of the stall. -/
def readOpenCashShift (db : LocalDb) (stallId : Uuid) :
    Except LocalError (CashShiftSnapshot × Uuid) := do
  let shift ← orFail (db.cashShiftSnapshot.get? stallId) (.operation .cashShiftRequired)
  failWhen (!cashShiftSnapshotSchema shift) (.operation .cashShiftRequired)
  failWhen (shift.status ≠ .open) (.operation .cashShiftRequired)
  let shiftId ← orFail shift.shiftId (.operation .cashShiftRequired)
  return (shift, shiftId)

def takeCashPayment (db : LocalDb) (draft : CreateOfflineOrderDraft) (ids : CreationIds)
    (now : Timestamp) (subtotal : ℚ) (option : CatalogPaymentOption) :
    Except LocalError PaymentDecision := do
  let (shift, shiftId) ← readOpenCashShift db draft.stallId
  -- The schema of the payment reads whole amounts and a date of four-digit years.
  let amount ← orFail (toInteger? subtotal) (.operation .paymentNotAllowed)
  let received ← orFail (toInteger? (draft.cashReceived.getD subtotal))
    (.operation .paymentNotAllowed)
  failWhen (!isoTimestamp now) (.operation .paymentNotAllowed)
  let payment ← orFail (offlinePaymentSchema.parse {
      localPaymentId := ids.localPaymentId
      offlineOrderId := ids.offlineOrderId
      paymentOptionId := some option.id
      method := .cash
      status := .paidLocal
      amount := amount
      cashReceived := some received
      changeAmount := some (received - amount)
      methodLabel := option.name
      cashShiftId := some shiftId
      recordedAtDevice := now }) (.operation .paymentNotAllowed)
  return {
    method := some .cash
    payment := some payment
    cashShift := some (addCashSale shift amount) }

def takeManualPayment (draft : CreateOfflineOrderDraft) (ids : CreationIds) (now : Timestamp)
    (admission : Admission) (option : CatalogPaymentOption) (method : OfflinePaymentMethod) :
    Except LocalError PaymentDecision := do
  let permit := admission.bootstrap.permit
  let limits := permit.riskLimits
  let subtotal := admission.subtotal
  failWhen (limits.maxManualPaymentAmount < subtotal
      || limits.maxTotalManualPaymentAmount
          < toDouble (pendingManualTotal admission.unsynchronizedOrders + subtotal))
    (.operation .paymentNotAllowed)
  failWhen (0 < limits.requireCustomerContactAboveAmount
      && limits.requireCustomerContactAboveAmount ≤ subtotal
      && draft.customerContact.trim = [])
    (.operation .customerContactRequired)
  failWhen (0 < limits.managerApprovalThreshold
      && limits.managerApprovalThreshold ≤ subtotal
      && !permit.roles.any (· ∈ managerRoles))
    (.operation .managerRequired)
  let amount ← orFail (toInteger? subtotal) (.operation .paymentNotAllowed)
  failWhen (!isoTimestamp now) (.operation .paymentNotAllowed)
  let payment ← orFail (offlinePaymentSchema.parse {
      localPaymentId := ids.localPaymentId
      offlineOrderId := ids.offlineOrderId
      paymentOptionId := some option.id
      method := method
      status := .pendingReconciliation
      amount := amount
      cashReceived := none
      changeAmount := none
      methodLabel := option.name
      cashShiftId := none
      recordedAtDevice := now }) (.operation .paymentNotAllowed)
  return { method := some method, payment := some payment, cashShift := none }

def decideOfflinePayment (db : LocalDb) (draft : CreateOfflineOrderDraft) (ids : CreationIds)
    (now : Timestamp) (admission : Admission) : Except LocalError PaymentDecision := do
  if draft.paymentTiming = .payLater then
    return { method := none, payment := none, cashShift := none }
  else
    let permit := admission.bootstrap.permit
    failWhen (.recordCashPayment ∉ permit.allowedOfflineActions) (.operation .paymentNotAllowed)
    let option ← orFail
      (admission.bootstrap.menu.catalog.paymentOptions.find? fun candidate =>
        draft.paymentOptionId = some candidate.id)
      (.operation .paymentNotAllowed)
    if paymentMethodForKind option.kind = .cash then
      takeCashPayment db draft ids now admission.subtotal option
    else
      takeManualPayment draft ids now admission option (paymentMethodForKind option.kind)

/-- The first six hexadecimal digits of the device identifier. -/
def deviceCode (deviceId : Uuid) : ℕ :=
  deviceId / 16 ^ 26 % 16 ^ 6

/-- One more than the largest sequence number used at the stall on that day. -/
def nextLocalSequence (db : LocalDb) (stallId : Uuid) (day : BusinessDate) : ℕ :=
  ((db.offlineOrders.rows.filter fun row =>
    row.stallId = stallId && row.payload.localDisplayNumber.businessDate = day).map
      fun row => row.payload.localSequence).foldl max 0 + 1

structure CreatedOfflineOrder where
  order : OfflineOrder
  event : OfflineOrderEvent
  payment : Option OfflinePayment
  printJob : Option OfflinePrintJob
  queueId : Uuid
  deriving DecidableEq

/-- A date that is written with eight digits. -/
def businessDate? (date : Text) : Option BusinessDate :=
  if date.length = 8 && date.all Char.isDigit then some (Decimals.digitsValue date) else none

theorem businessDate?_lt {date : Text} {day : BusinessDate} (hday : businessDate? date = some day) :
    day < 10 ^ 8 := by
  rw [businessDate?] at hday
  split at hday
  · next hdigits =>
    cases hday
    simp only [Bool.and_eq_true, decide_eq_true_eq, List.all_eq_true] at hdigits
    rw [← hdigits.1]
    exact Decimals.digitsValue_lt fun c hc =>
      Decimals.mem_decimalDigits_of_isDigit (hdigits.2 c hc)
  · cases hday

/-- The parts of an order as its schema reads them. -/
structure OrderParts where
  day : BusinessDate
  items : List OfflineOrderItem
  subtotal : ℤ
  idempotencyKey : Uuid

def orderParts? (date : Text) (draft : CreateOfflineOrderDraft) (now : Timestamp)
    (admission : Admission) : Option OrderParts := do
  guard (isoTimestamp now)
  let day ← businessDate? date
  let items ← admission.items.mapM PricedItem.whole?
  let subtotal ← toInteger? admission.subtotal
  let idempotencyKey ← draft.idempotencyKey.uuid?
  return { day, items, subtotal, idempotencyKey }

/-- The order before it passes its schema. -/
def draftOrder (parts : OrderParts) (db : LocalDb) (draft : CreateOfflineOrderDraft)
    (ids : CreationIds) (now : Timestamp) (admission : Admission) (decision : PaymentDecision) :
    OfflineOrder :=
  let permit := admission.bootstrap.permit
  let menu := admission.bootstrap.menu
  let device := admission.bootstrap.device
  let localSequence := nextLocalSequence db draft.stallId parts.day
  { offlineOrderId := ids.offlineOrderId
    deviceId := device.id
    organizationId := draft.organizationId
    stallId := draft.stallId
    localSequence := localSequence
    localDisplayNumber := {
      deviceCode := deviceCode device.id
      businessDate := parts.day
      sequence := localSequence }
    menuSnapshotVersion := menu.version
    itemsSnapshot := parts.items
    subtotal := parts.subtotal
    discountAmount := 0
    total := parts.subtotal
    currency := menu.currency
    paymentMethod := decision.method
    paymentStatus := (decision.payment.map (·.status)).getD .unpaid
    orderStatus := .localConfirmed
    customerLabel := draft.customerLabel.trim
    customerContact := draft.customerContact.trim
    note := draft.note.trim
    createdAtDevice := now
    updatedAtDevice := now
    idempotencyKey := parts.idempotencyKey
    syncStatus := .pending
    retryCount := 0
    lastRetryAt := none
    promotionEpoch := permit.promotionEpoch
    protocolVersion := offlineAppProtocolVersion }

def creationEvent (ids : CreationIds) (now : Timestamp) : OfflineOrderEvent where
  eventId := ids.eventId
  offlineOrderId := ids.offlineOrderId
  previousState := none
  nextState := .localConfirmed
  reason := none
  occurredAtDevice := now

def draftPrintJob (ids : CreationIds) : OfflinePrintJob where
  printJobId := ids.printJobId
  offlineOrderId := ids.offlineOrderId
  printerId := none
  templateVersion := "offline-v1".toList
  status := .pending
  attemptCount := 0
  printedAt := none
  deduplicationKey := .receipt ids.offlineOrderId

/-- A print job is queued when the draft, the menu and the permit all ask for it. -/
def assemblePrintJob (draft : CreateOfflineOrderDraft) (ids : CreationIds)
    (bootstrap : Bootstrap) : Except LocalError (Option OfflinePrintJob) :=
  if draft.queuePrint && bootstrap.menu.catalog.printEnabled
      && .queuePrintJob ∈ bootstrap.permit.allowedOfflineActions then do
    let job ← orFail (offlinePrintJobSchema.parse (draftPrintJob ids))
      (.operation .actionNotAllowed)
    return some job
  else .ok none

/-- The order as its schema reads it. -/
def parsedOrder? (date : Text) (db : LocalDb) (draft : CreateOfflineOrderDraft)
    (ids : CreationIds) (now : Timestamp) (admission : Admission) (decision : PaymentDecision) :
    Option OfflineOrder := do
  let parts ← orderParts? date draft now admission
  offlineOrderSchema.parse (draftOrder parts db draft ids now admission decision)

/-- Build the records of the new order and pass them through their schemas. -/
def assembleOfflineOrder (localBusinessDate : Timestamp → Text → Option Text) (db : LocalDb)
    (draft : CreateOfflineOrderDraft) (ids : CreationIds) (now : Timestamp)
    (admission : Admission) (decision : PaymentDecision) :
    Except LocalError CreatedOfflineOrder := do
  let date ← orFail (localBusinessDate now admission.bootstrap.menu.catalog.timezone) .rangeError
  let order ← orFail (parsedOrder? date db draft ids now admission decision)
    (.operation .itemLimitExceeded)
  let event ← orFail (offlineOrderEventSchema.parse (creationEvent ids now))
    (.operation .itemLimitExceeded)
  let printJob ← assemblePrintJob draft ids admission.bootstrap
  return { order, event, payment := decision.payment, printJob, queueId := ids.queueId }

def queueRecordForOrder (created : CreatedOfflineOrder) (stallId : Uuid) (now : Timestamp) :
    StoredQueueRecord where
  queueId := created.queueId
  idempotencyKey := created.order.idempotencyKey
  entityType := .order
  entityId := created.order.offlineOrderId
  stallId := stallId
  status := .pending
  retryCount := 0
  nextAttemptAt := now
  createdAt := now
  lastRetryAt := none
  syncedAt := none
  lastErrorCode := none

def storedOrder (order : OfflineOrder) (stallId : Uuid) : StoredOrder where
  localOrderId := order.offlineOrderId
  stallId := stallId
  syncStatus := .pending
  payload := order
  canonicalOrderId := none
  canonicalOrderNumber := none
  syncedAt := none
  purgeAfter := none

def storedEvent (event : OfflineOrderEvent) (orderId : Uuid) : StoredEvent where
  eventId := event.eventId
  localOrderId := orderId
  payload := event

def storedPayment (payment : OfflinePayment) (orderId : Uuid) : StoredPayment where
  localPaymentId := payment.localPaymentId
  localOrderId := orderId
  payload := payment

def storedPrintJob (job : OfflinePrintJob) (orderId : Uuid) : StoredPrintJob where
  printJobId := job.printJobId
  localOrderId := orderId
  deduplicationKey := job.deduplicationKey
  payload := job

/-- Add a row when there is one. -/
def insertOptional? {Row Key : Type} [Indexed Row Key] (table : Table Row) :
    Option Row → Option (Table Row)
  | none => some table
  | some row => table.insert? row

/-- Add the records of the new order to their stores; a repeated key or unique
index aborts the transaction. -/
def storeOfflineOrder (db : LocalDb) (created : CreatedOfflineOrder) (stallId : Uuid)
    (now : Timestamp) : Option LocalDb := do
  let orderId := created.order.offlineOrderId
  let orders ← db.offlineOrders.insert? (storedOrder created.order stallId)
  let events ← db.offlineOrderEvents.insert? (storedEvent created.event orderId)
  let payments ← insertOptional? db.offlinePayments
    (created.payment.map fun payment => storedPayment payment orderId)
  let printJobs ← insertOptional? db.offlinePrintJobs
    (created.printJob.map fun job => storedPrintJob job orderId)
  let queue ← db.syncQueue.insert? (queueRecordForOrder created stallId now)
  return { db with
    offlineOrders := orders
    offlineOrderEvents := events
    offlinePayments := payments
    offlinePrintJobs := printJobs
    syncQueue := queue }

def putCashShift (db : LocalDb) : Option CashShiftSnapshot → LocalDb
  | none => db
  | some shift => { db with cashShiftSnapshot := db.cashShiftSnapshot.put shift }

def createOfflineOrder (localBusinessDate : Timestamp → Text → Option Text) (db : LocalDb)
    (draft : CreateOfflineOrderDraft) (ids : CreationIds) (now : Timestamp) :
    LocalDb × Except LocalError CreatedOfflineOrder :=
  match admitOfflineOrder db draft ids now with
  | .error error => (db, .error error)
  | .ok admission =>
      match decideOfflinePayment db draft ids now admission with
      | .error error => (db, .error error)
      | .ok decision =>
          -- The drawer is put before the order passes its schema.
          let paid := putCashShift db decision.cashShift
          match assembleOfflineOrder localBusinessDate db draft ids now admission decision with
          | .error error => (paid, .error error)
          | .ok created =>
              match storeOfflineOrder paid created draft.stallId now with
              | none => (db, .error .transactionFailed)
              | some stored => (stored, .ok created)

/-! ## Moving an order through its states -/

/-- A reason is trimmed; a blank one is dropped. -/
def trimmedReason (reason : Option Text) : Option Text :=
  (reason.map Text.trim).filter (· ≠ [])

def movedOrder (order : OfflineOrder) (nextState : OfflineOrderState) (now : Timestamp) :
    OfflineOrder :=
  { order with
    orderStatus := nextState
    updatedAtDevice := now
    syncStatus := .pending }

def transitionEvent (order : OfflineOrder) (offlineOrderId : Uuid)
    (nextState : OfflineOrderState) (reason : Option Text) (eventId : Uuid)
    (now : Timestamp) : OfflineOrderEvent where
  eventId := eventId
  offlineOrderId := offlineOrderId
  previousState := some order.orderStatus
  nextState := nextState
  reason := trimmedReason reason
  occurredAtDevice := now

/-- The checks of a transition, the order it leads to and its event. -/
def prepareTransition (db : LocalDb) (offlineOrderId : Uuid) (nextState : OfflineOrderState)
    (reason : Option Text) (eventId : Uuid) (now : Timestamp) :
    Except LocalError (OfflineOrder × OfflineOrderEvent) := do
  let current ← orFail (db.offlineOrders.get? offlineOrderId) (.operation .recordNotFound)
  let order ← orFail (offlineOrderSchema.parse current.payload) (.operation .recordNotFound)
  failWhen (!unsynchronized current.syncStatus
      || !canTransitionOfflineOrder order.orderStatus nextState
      || (nextState = .localCompleted && order.paymentStatus = .unpaid))
    (.operation .invalidStateTransition)
  let updated ← orFail (offlineOrderSchema.parse (movedOrder order nextState now)) .schemaInvalid
  let event ← orFail (offlineOrderEventSchema.parse
    (transitionEvent order offlineOrderId nextState reason eventId now)) .schemaInvalid
  return (updated, event)

def transitionedOrder (updated : OfflineOrder) (row : StoredOrder) : StoredOrder :=
  { row with syncStatus := .pending, payload := updated }

def transitionOfflineOrder (db : LocalDb) (offlineOrderId : Uuid)
    (nextState : OfflineOrderState) (reason : Option Text) (eventId : Uuid)
    (now : Timestamp) : LocalDb × Except LocalError OfflineOrder :=
  match prepareTransition db offlineOrderId nextState reason eventId now with
  | .error error => (db, .error error)
  | .ok (updated, event) =>
      match db.offlineOrderEvents.insert? (storedEvent event offlineOrderId) with
      | none => (db, .error .transactionFailed)
      | some events => ({ db with
          offlineOrders := db.offlineOrders.update offlineOrderId (transitionedOrder updated) id
          offlineOrderEvents := events }, .ok updated)

/-! ## Cash events -/

structure CashEventInput where
  organizationId : Uuid
  stallId : Uuid
  eventType : OfflineCashEventType
  amount : ℤ
  countedAmount : Option ℤ
  reason : Text

structure CashEventIds where
  cashEventId : Uuid
  queueId : Uuid
  idempotencyKey : Uuid

/-- The drawer after a cash event. -/
def recordCashEvent (shift : CashShiftSnapshot) (event : StoredCashEvent)
    (input : CashEventInput) : CashShiftSnapshot :=
  let cashIn := if input.eventType = .cashIn then input.amount else 0
  let cashOut := if input.eventType = .cashOut then input.amount else 0
  { shift with
    status := if input.eventType = .provisionalClose then .provisionalClose else shift.status
    cashIn := some (shift.cashIn.getD 0 + cashIn)
    cashOut := some (shift.cashOut.getD 0 + cashOut)
    expectedAmount := some (shift.expectedAmount.getD 0 + (cashIn - cashOut))
    pendingEvents := shift.pendingEvents ++ [event] }

def prepareCashEvent (db : LocalDb) (input : CashEventInput) (ids : CashEventIds)
    (now : Timestamp) : Except LocalError (CashShiftSnapshot × OfflineCashEvent) := do
  let bootstrap ← readBootstrap db input.organizationId input.stallId now
  failWhen (.recordCashPayment ∉ bootstrap.permit.allowedOfflineActions)
    (.operation .actionNotAllowed)
  let (shift, shiftId) ← readOpenCashShift db input.stallId
  let event ← orFail (offlineCashEventSchema.parse {
      cashEventId := ids.cashEventId
      deviceId := bootstrap.device.id
      organizationId := input.organizationId
      stallId := input.stallId
      cashShiftId := shiftId
      eventType := input.eventType
      amount := input.amount
      countedAmount :=
        if input.eventType = .provisionalClose then input.countedAmount else none
      reason := input.reason
      occurredAtDevice := now
      idempotencyKey := ids.idempotencyKey
      promotionEpoch := bootstrap.permit.promotionEpoch
      protocolVersion := offlineAppProtocolVersion }) .schemaInvalid
  return (shift, event)

def queueRecordForCashEvent (event : OfflineCashEvent) (queueId stallId : Uuid)
    (now : Timestamp) : StoredQueueRecord where
  queueId := queueId
  idempotencyKey := event.idempotencyKey
  entityType := .cashEvent
  entityId := event.cashEventId
  stallId := stallId
  status := .pending
  retryCount := 0
  nextAttemptAt := now
  createdAt := now
  lastRetryAt := none
  syncedAt := none
  lastErrorCode := none

def createOfflineCashEvent (db : LocalDb) (input : CashEventInput) (ids : CashEventIds)
    (now : Timestamp) : LocalDb × Except LocalError OfflineCashEvent :=
  match prepareCashEvent db input ids now with
  | .error error => (db, .error error)
  | .ok (shift, event) =>
      match db.syncQueue.insert?
          (queueRecordForCashEvent event ids.queueId input.stallId now) with
      | none => (db, .error .transactionFailed)
      | some queue => ({ db with
          cashShiftSnapshot := db.cashShiftSnapshot.put (recordCashEvent shift
            { event := event, syncStatus := .pending, queueId := ids.queueId } input)
          syncQueue := queue }, .ok event)

/-! ## What an operation did -/

section Outcomes

variable {localBusinessDate : Timestamp → Text → Option Text} {db db' : LocalDb}

theorem mem_of_insertOptional? {Row Key : Type} [Indexed Row Key] {table table' : Table Row}
    {row : Option Row} {stored : Row} (hinsert : insertOptional? table row = some table') :
    stored ∈ table' ↔ stored ∈ table ∨ row = some stored := by
  cases row with
  | none =>
      cases hinsert
      simp
  | some inserted =>
      rw [Table.mem_of_insert? hinsert, Option.some.injEq, eq_comm (a := stored)]

/-- The records of a created order have passed their schemas. -/
structure Assembled (localBusinessDate : Timestamp → Text → Option Text) (db : LocalDb)
    (draft : CreateOfflineOrderDraft) (ids : CreationIds) (now : Timestamp)
    (admission : Admission) (decision : PaymentDecision) (parts : OrderParts)
    (created : CreatedOfflineOrder) : Prop where
  date : ∃ date, localBusinessDate now admission.bootstrap.menu.catalog.timezone = some date
    ∧ orderParts? date draft now admission = some parts
  order : offlineOrderSchema.parse (draftOrder parts db draft ids now admission decision)
    = some created.order
  event : offlineOrderEventSchema.parse (creationEvent ids now) = some created.event
  payment : created.payment = decision.payment
  printJob : ∀ job, created.printJob = some job →
    offlinePrintJobSchema.parse (draftPrintJob ids) = some job
  queueId : created.queueId = ids.queueId

theorem assembled_of_assembleOfflineOrder {draft : CreateOfflineOrderDraft}
    {ids : CreationIds} {now : Timestamp} {admission : Admission} {decision : PaymentDecision}
    {created : CreatedOfflineOrder}
    (hassemble : assembleOfflineOrder localBusinessDate db draft ids now admission decision
      = .ok created) :
    ∃ parts, Assembled localBusinessDate db draft ids now admission decision parts created := by
  obtain ⟨date, hdate, hassemble⟩ := bind_eq_ok.mp hassemble
  obtain ⟨order, horder, hassemble⟩ := bind_eq_ok.mp hassemble
  obtain ⟨event, hevent, hassemble⟩ := bind_eq_ok.mp hassemble
  obtain ⟨printJob, hprint, hreturn⟩ := bind_eq_ok.mp hassemble
  cases hreturn
  obtain ⟨parts, hparts, hparse⟩ := Option.bind_eq_some_iff.mp (orFail_eq_ok.mp horder)
  refine ⟨parts, ⟨date, orFail_eq_ok.mp hdate, hparts⟩, hparse, orFail_eq_ok.mp hevent, rfl, ?_,
    rfl⟩
  rintro job hjob
  cases hjob
  unfold assemblePrintJob at hprint
  split at hprint
  · obtain ⟨parsed, hparsed, hsome⟩ := bind_eq_ok.mp hprint
    cases hsome
    exact orFail_eq_ok.mp hparsed
  · cases hprint

theorem parsed_payment {raw payment : OfflinePayment}
    (hparsed : offlinePaymentSchema.parse raw = some payment) :
    offlinePaymentSchema.parse payment = some payment
      ∧ payment.offlineOrderId = raw.offlineOrderId := by
  refine ⟨offlinePaymentSchema.parse_parsed hparsed, ?_⟩
  rw [← (offlinePaymentSchema.parse_eq_some_iff.mp hparsed).2]
  rfl

/-- A payment decision carries a parsed payment of the order. -/
theorem payment_of_decideOfflinePayment {draft : CreateOfflineOrderDraft}
    {ids : CreationIds} {now : Timestamp} {admission : Admission} {decision : PaymentDecision}
    (hdecide : decideOfflinePayment db draft ids now admission = .ok decision)
    {payment : OfflinePayment} (hpayment : decision.payment = some payment) :
    offlinePaymentSchema.parse payment = some payment
      ∧ payment.offlineOrderId = ids.offlineOrderId := by
  unfold decideOfflinePayment at hdecide
  split at hdecide
  · cases hdecide
    cases hpayment
  · obtain ⟨-, -, hdecide⟩ := bind_eq_ok.mp hdecide
    obtain ⟨option, -, hdecide⟩ := bind_eq_ok.mp hdecide
    split at hdecide
    · obtain ⟨⟨shift, shiftId⟩, -, hdecide⟩ := bind_eq_ok.mp hdecide
      obtain ⟨amount, -, hdecide⟩ := bind_eq_ok.mp hdecide
      obtain ⟨received, -, hdecide⟩ := bind_eq_ok.mp hdecide
      obtain ⟨-, -, hdecide⟩ := bind_eq_ok.mp hdecide
      obtain ⟨parsed, hparsed, hreturn⟩ := bind_eq_ok.mp hdecide
      cases hreturn
      cases hpayment
      exact parsed_payment (orFail_eq_ok.mp hparsed)
    · obtain ⟨-, -, hdecide⟩ := bind_eq_ok.mp hdecide
      obtain ⟨-, -, hdecide⟩ := bind_eq_ok.mp hdecide
      obtain ⟨-, -, hdecide⟩ := bind_eq_ok.mp hdecide
      obtain ⟨amount, -, hdecide⟩ := bind_eq_ok.mp hdecide
      obtain ⟨-, -, hdecide⟩ := bind_eq_ok.mp hdecide
      obtain ⟨parsed, hparsed, hreturn⟩ := bind_eq_ok.mp hdecide
      cases hreturn
      cases hpayment
      exact parsed_payment (orFail_eq_ok.mp hparsed)

theorem cashShift_of_takeManualPayment {draft : CreateOfflineOrderDraft} {ids : CreationIds}
    {now : Timestamp} {admission : Admission} {option : CatalogPaymentOption}
    {method : OfflinePaymentMethod} {decision : PaymentDecision}
    (htake : takeManualPayment draft ids now admission option method = .ok decision) :
    decision.cashShift = none := by
  obtain ⟨-, -, htake⟩ := bind_eq_ok.mp htake
  obtain ⟨-, -, htake⟩ := bind_eq_ok.mp htake
  obtain ⟨-, -, htake⟩ := bind_eq_ok.mp htake
  obtain ⟨_, -, htake⟩ := bind_eq_ok.mp htake
  obtain ⟨-, -, htake⟩ := bind_eq_ok.mp htake
  obtain ⟨payment, -, hreturn⟩ := bind_eq_ok.mp htake
  cases hreturn
  rfl

/-- The order of a draft, once parsed, has the fields of the draft that no
schema touches. -/
theorem Assembled.order_eq {draft : CreateOfflineOrderDraft} {ids : CreationIds}
    {now : Timestamp} {admission : Admission} {decision : PaymentDecision} {parts : OrderParts}
    {created : CreatedOfflineOrder}
    (hassembled : Assembled localBusinessDate db draft ids now admission decision parts created) :
    created.order
      = offlineOrderSchema.normalize (draftOrder parts db draft ids now admission decision) :=
  (offlineOrderSchema.parse_eq_some_iff.mp hassembled.order).2.symm

theorem orderParts?_eq_some {date : Text} {draft : CreateOfflineOrderDraft} {now : Timestamp}
    {admission : Admission} {parts : OrderParts} :
    orderParts? date draft now admission = some parts ↔
      isoTimestamp now = true ∧ businessDate? date = some parts.day
        ∧ admission.items = parts.items.map .ofWhole ∧ admission.subtotal = parts.subtotal
        ∧ draft.idempotencyKey.uuid? = some parts.idempotencyKey := by
  simp only [orderParts?, Option.bind_eq_bind, Option.bind_eq_some_iff, Option.guard_eq_some',
    PricedItem.mapM_whole?_eq_some, toInteger?_eq_some, Option.pure_def, Option.some.injEq]
  constructor
  · rintro ⟨_, hiso, day, hday, items, hitems, subtotal, hsubtotal, key, hkey, rfl⟩
    exact ⟨hiso, hday, hitems, hsubtotal, hkey⟩
  · rintro ⟨hiso, hday, hitems, hsubtotal, hkey⟩
    exact ⟨(), hiso, parts.day, hday, parts.items, hitems, parts.subtotal, hsubtotal,
      parts.idempotencyKey, hkey, rfl⟩

theorem Assembled.items_eq {draft : CreateOfflineOrderDraft} {ids : CreationIds}
    {now : Timestamp} {admission : Admission} {decision : PaymentDecision} {parts : OrderParts}
    {created : CreatedOfflineOrder}
    (hassembled : Assembled localBusinessDate db draft ids now admission decision parts created) :
    admission.items = parts.items.map .ofWhole := by
  obtain ⟨date, -, hparts⟩ := hassembled.date
  exact (orderParts?_eq_some.mp hparts).2.2.1

theorem putCashShift_frame (db : LocalDb) (shift : Option CashShiftSnapshot) :
    ∃ cashShiftSnapshot, putCashShift db shift = { db with cashShiftSnapshot } := by
  cases shift with
  | none => exact ⟨db.cashShiftSnapshot, rfl⟩
  | some shift => exact ⟨db.cashShiftSnapshot.put shift, rfl⟩

/-- What storing a created order adds to the stores. -/
structure StoredOrderRecords (db db' : LocalDb) (created : CreatedOfflineOrder)
    (stallId : Uuid) (now : Timestamp) : Prop where
  orders : db.offlineOrders.insert? (storedOrder created.order stallId)
    = some db'.offlineOrders
  events : db.offlineOrderEvents.insert?
    (storedEvent created.event created.order.offlineOrderId) = some db'.offlineOrderEvents
  payments : insertOptional? db.offlinePayments
    (created.payment.map fun payment => storedPayment payment created.order.offlineOrderId)
      = some db'.offlinePayments
  printJobs : insertOptional? db.offlinePrintJobs
    (created.printJob.map fun job => storedPrintJob job created.order.offlineOrderId)
      = some db'.offlinePrintJobs
  queue : db.syncQueue.insert? (queueRecordForOrder created stallId now) = some db'.syncQueue
  others : db' = { db with
    offlineOrders := db'.offlineOrders
    offlineOrderEvents := db'.offlineOrderEvents
    offlinePayments := db'.offlinePayments
    offlinePrintJobs := db'.offlinePrintJobs
    syncQueue := db'.syncQueue }

theorem stored_of_storeOfflineOrder {created : CreatedOfflineOrder} {stallId : Uuid}
    {now : Timestamp} (hstore : storeOfflineOrder db created stallId now = some db') :
    StoredOrderRecords db db' created stallId now := by
  simp only [storeOfflineOrder, Option.bind_eq_bind, Option.bind_eq_some_iff] at hstore
  obtain ⟨orders, horders, events, hevents, payments, hpayments, printJobs, hprintJobs, queue,
    hqueue, hreturn⟩ := hstore
  cases hreturn
  exact ⟨horders, hevents, hpayments, hprintJobs, hqueue, rfl⟩

/-- The two ends of a creation: an error, after which at most the drawer was
put, or a stored order. -/
theorem createOfflineOrder_cases {draft : CreateOfflineOrderDraft} {ids : CreationIds}
    {now : Timestamp} {outcome : Except LocalError CreatedOfflineOrder}
    (hcreate : createOfflineOrder localBusinessDate db draft ids now = (db', outcome)) :
    (∃ error shift, outcome = .error error ∧ db' = putCashShift db shift) ∨
      ∃ admission decision parts created, outcome = .ok created
        ∧ admitOfflineOrder db draft ids now = .ok admission
        ∧ decideOfflinePayment db draft ids now admission = .ok decision
        ∧ Assembled localBusinessDate db draft ids now admission decision parts created
        ∧ StoredOrderRecords (putCashShift db decision.cashShift) db' created draft.stallId
          now := by
  unfold createOfflineOrder at hcreate
  split at hcreate
  · cases hcreate
    exact Or.inl ⟨_, none, rfl, rfl⟩
  · next admission hadmit =>
    split at hcreate
    · cases hcreate
      exact Or.inl ⟨_, none, rfl, rfl⟩
    · next decision hdecide =>
      simp only at hcreate
      split at hcreate
      · cases hcreate
        exact Or.inl ⟨_, decision.cashShift, rfl, rfl⟩
      · next created hassemble =>
        split at hcreate
        · cases hcreate
          exact Or.inl ⟨_, none, rfl, rfl⟩
        · next hstore =>
          cases hcreate
          obtain ⟨parts, hassembled⟩ := assembled_of_assembleOfflineOrder hassemble
          exact Or.inr ⟨admission, decision, parts, created, rfl, hadmit, hdecide, hassembled,
            stored_of_storeOfflineOrder hstore⟩

/-- The checks that a successful transition has passed. -/
structure Transition (db : LocalDb) (offlineOrderId : Uuid) (nextState : OfflineOrderState)
    (reason : Option Text) (eventId : Uuid) (now : Timestamp) (row : StoredOrder)
    (updated : OfflineOrder) (event : OfflineOrderEvent) : Prop where
  found : db.offlineOrders.get? offlineOrderId = some row
  pending : unsynchronized row.syncStatus = true
  parsed : ∃ order, offlineOrderSchema.parse row.payload = some order
    ∧ offlineOrderSchema.parse (movedOrder order nextState now) = some updated
    ∧ offlineOrderEventSchema.parse
      (transitionEvent order offlineOrderId nextState reason eventId now) = some event

theorem transition_of_prepareTransition {offlineOrderId : Uuid}
    {nextState : OfflineOrderState} {reason : Option Text} {eventId : Uuid} {now : Timestamp}
    {updated : OfflineOrder} {event : OfflineOrderEvent}
    (hprepare : prepareTransition db offlineOrderId nextState reason eventId now
      = .ok (updated, event)) :
    ∃ current, Transition db offlineOrderId nextState reason eventId now current updated
      event := by
  obtain ⟨current, hcurrent, hprepare⟩ := bind_eq_ok.mp hprepare
  obtain ⟨order, horder, hprepare⟩ := bind_eq_ok.mp hprepare
  obtain ⟨_, hallowed, hprepare⟩ := bind_eq_ok.mp hprepare
  obtain ⟨moved, hmoved, hprepare⟩ := bind_eq_ok.mp hprepare
  obtain ⟨recorded, hrecorded, hreturn⟩ := bind_eq_ok.mp hprepare
  cases hreturn
  have hallowed := failWhen_eq_ok.mp hallowed
  simp only [Bool.or_eq_false_iff, Bool.not_eq_false'] at hallowed
  exact ⟨current, orFail_eq_ok.mp hcurrent, hallowed.1.1, order, orFail_eq_ok.mp horder,
    orFail_eq_ok.mp hmoved, orFail_eq_ok.mp hrecorded⟩

/-- A transition fails and changes nothing, or it moves one order and adds one
event. -/
theorem transitionOfflineOrder_cases {offlineOrderId : Uuid} {nextState : OfflineOrderState}
    {reason : Option Text} {eventId : Uuid} {now : Timestamp}
    {outcome : Except LocalError OfflineOrder}
    (htransition : transitionOfflineOrder db offlineOrderId nextState reason eventId now
      = (db', outcome)) :
    (∃ error, outcome = .error error ∧ db' = db) ∨
      ∃ current updated event events, outcome = .ok updated
        ∧ Transition db offlineOrderId nextState reason eventId now current updated event
        ∧ db.offlineOrderEvents.insert? (storedEvent event offlineOrderId) = some events
        ∧ db' = { db with
          offlineOrders := db.offlineOrders.update offlineOrderId (transitionedOrder updated) id
          offlineOrderEvents := events } := by
  unfold transitionOfflineOrder at htransition
  split at htransition
  · cases htransition
    exact Or.inl ⟨_, rfl, rfl⟩
  · next hprepare =>
    obtain ⟨current, hcurrent⟩ := transition_of_prepareTransition hprepare
    split at htransition
    · cases htransition
      exact Or.inl ⟨_, rfl, rfl⟩
    · next hinsert =>
      cases htransition
      exact Or.inr ⟨current, _, _, _, rfl, hcurrent, hinsert, rfl⟩

/-- A cash event fails and changes nothing, or it adds a queue row and rewrites
the drawer of its stall. -/
theorem createOfflineCashEvent_cases {input : CashEventInput} {ids : CashEventIds}
    {now : Timestamp} {outcome : Except LocalError OfflineCashEvent}
    (hcreate : createOfflineCashEvent db input ids now = (db', outcome)) :
    (∃ error, outcome = .error error ∧ db' = db) ∨
      ∃ shift event queue, outcome = .ok event
        ∧ prepareCashEvent db input ids now = .ok (shift, event)
        ∧ db.syncQueue.insert?
          (queueRecordForCashEvent event ids.queueId input.stallId now) = some queue
        ∧ db' = { db with
          cashShiftSnapshot := db.cashShiftSnapshot.put (recordCashEvent shift
            { event := event, syncStatus := .pending, queueId := ids.queueId } input)
          syncQueue := queue } := by
  unfold createOfflineCashEvent at hcreate
  split at hcreate
  · cases hcreate
    exact Or.inl ⟨_, rfl, rfl⟩
  · next hprepare =>
    split at hcreate
    · cases hcreate
      exact Or.inl ⟨_, rfl, rfl⟩
    · next hinsert =>
      cases hcreate
      exact Or.inr ⟨_, _, _, rfl, hprepare, hinsert, rfl⟩

end Outcomes

end Stallorder.Operations
