import Stallorder.Server.SyncReplay

/-!
# Importing an uploaded order

The transaction that turns an uploaded order into a canonical one: the items
are priced again from the menu snapshot, the limits of the permit are checked
against what was imported in its window, conflicts with the current menu are
collected, and the order is stored with its receipt and its inbox message.
-/

namespace Stallorder.OrderImport

open OrderContract Permit Catalog DeviceDatabase SyncDatabase SyncReplay Checks

variable {Hash : Type}

/-! ## Mappings -/

def localStateToOrderStatus : OfflineOrderState → OrderStatus
  | .localNew => .confirmed
  | .localConfirmed => .confirmed
  | .localPreparing => .preparing
  | .localReady => .ready
  | .localCompleted => .completed
  | .localCancelled => .cancelled

def localStateToItemStatus : OfflineOrderState → OrderItemStatus
  | .localNew => .pending
  | .localConfirmed => .pending
  | .localPreparing => .preparing
  | .localReady => .ready
  | .localCompleted => .served
  | .localCancelled => .pending

def paymentMethodForOfflineMethod : OfflinePaymentMethod → PaymentMethod
  | .cash => .cash
  | .otherManual => .other
  | .manualLinePay => .manualTransfer
  | .manualJkopay => .manualTransfer

/-! ## Pricing from the snapshot -/

structure PreparedItem where
  item : OfflineOrderItem
  expectedOptions : List OfflineOrderNoteOption

def limitedItem (item : OfflineOrderItem) : LimitedOrderItem where
  productId := item.productId
  quantity := item.quantity
  note := item.note

/-- The item repeats what the snapshot says about the product. -/
def itemMatchesProduct (limits : OrderItemLimits) (item : OfflineOrderItem)
    (product : CatalogProduct) : Bool :=
  product.isActive && product.isEnabled
    && item.quantity ≤ limits.maxItemQuantity
    && item.note.length16 ≤ limits.maxNoteLength
    && item.name = product.name
    && item.baseUnitPrice = product.price

def optionMatches (expected : OfflineOrderNoteOption) (supplied : OfflineOrderNoteOption) :
    Bool :=
  supplied.noteGroupId = expected.noteGroupId
    && supplied.groupName = expected.groupName
    && supplied.optionName = expected.optionName
    && supplied.priceDelta = expected.priceDelta
    && supplied.sortOrder = expected.sortOrder

/-- The supplied options are the expected ones, looked up by identifier. -/
def optionsMatch (supplied expected : List OfflineOrderNoteOption) : Bool :=
  let suppliedIds := supplied.map (·.noteOptionId)
  let expectedIds := (expected.map (·.noteOptionId)).dedup
  expectedIds.length = suppliedIds.length
    && suppliedIds.all (· ∈ expectedIds)
    && expected.all fun option =>
      (supplied.find? fun candidate => candidate.noteOptionId = option.noteOptionId).any
        (optionMatches option)

def prepareSnapshotItem (catalog : MenuCatalog) (item : OfflineOrderItem) :
    Option PreparedItem := do
  let product ← productById catalog.products item.productId
  guard (itemMatchesProduct catalog.limits item product)
  let selectedIds := item.noteOptions.map (·.noteOptionId)
  guard selectedIds.Nodup
  let expectedOptions ← selectFromGroups selectedIds 0 product.noteGroups
  guard (optionsMatch item.noteOptions expectedOptions)
  guard (item.unitPrice = priceWithOptions product.price expectedOptions)
  return { item, expectedOptions }

def prepareSnapshotItems (order : OfflineOrder) (catalog : MenuCatalog) :
    Except ImportError (List PreparedItem) := do
  failWhen (order.currency ≠ catalog.currency
      || orderItemsExceedLimits (order.itemsSnapshot.map limitedItem) order.note catalog.limits)
    (.operation .payloadInvalid)
  let items ← orFail (order.itemsSnapshot.mapM (prepareSnapshotItem catalog))
    (.operation .payloadInvalid)
  failWhen (itemsTotal order.itemsSnapshot ≠ order.subtotal
      || order.discountAmount ≠ 0 || order.total ≠ itemsTotal order.itemsSnapshot)
    (.operation .payloadInvalid)
  return items

/-- The stored snapshot that the order was taken under. -/
def loadSnapshot (db : ServerDb Hash) (context : SharedSyncContext) (order : OfflineOrder) :
    Except ImportError MenuSnapshot := do
  let snapshot ← orFail (db.devices.menuSnapshots.rows.find? fun snapshot =>
      snapshot.organizationId = context.organizationId
        && snapshot.stallId = context.stallId
        && snapshot.version = order.menuSnapshotVersion)
    (.conflict .unknownReference .menuSnapshotNotFound)
  failWhen (!snapshotCatalogSchema snapshot.catalog
      || snapshot.catalog.stallId ≠ context.stallId)
    (.conflict .unknownReference .menuSnapshotInvalid)
  return snapshot

/-! ## The limits of the permit -/

/-- The orders of the device that were imported within the permit's window. -/
def ordersInWindow (db : ServerDb Hash) (context : SharedSyncContext) : List CanonicalOrder :=
  db.orders.rows.filter fun order =>
    order.sourceDeviceId = some context.device.id
      && order.origin = .offlinePos
      && order.deviceCreatedAt.any fun createdAt =>
        context.permitRecord.issuedAt ≤ createdAt && createdAt ≤ context.permitRecord.expiresAt

def isManualMethod (method : OfflinePaymentMethod) : Bool :=
  method ≠ .cash

def manualAmount (order : CanonicalOrder) : ℤ :=
  match order.payment with
  | some payment =>
      if payment.offlinePaymentMethod.any isManualMethod then payment.amount else 0
  | none => 0

def priorOrderTotal (orders : List CanonicalOrder) : ℤ :=
  (orders.map (·.total)).sum

def priorManualPaymentTotal (orders : List CanonicalOrder) : ℤ :=
  (orders.map manualAmount).sum

/-- The limits that every order counts towards. -/
def exceedsOrderLimits (limits : OfflineRuntimeLimits) (prior : List CanonicalOrder)
    (order : OfflineOrder) : Bool :=
  limits.maxPendingOrders < (prior.length : ℤ) + 1
    || limits.maxTotalAmount < (priorOrderTotal prior + order.total : ℤ)
    || limits.maxSingleOrderAmount < order.total

/-- The limits of an order that is paid by other means than cash. -/
def exceedsManualLimits (permit : OfflinePermitPayload) (prior : List CanonicalOrder)
    (order : OfflineOrder) : Bool :=
  order.paymentMethod.any isManualMethod
    && (permit.riskLimits.maxManualPaymentAmount < order.total
      || permit.riskLimits.maxTotalManualPaymentAmount
        < priorManualPaymentTotal prior + order.total
      || (0 < permit.riskLimits.requireCustomerContactAboveAmount
        && permit.riskLimits.requireCustomerContactAboveAmount ≤ order.total
        && order.customerContact = [])
      || (0 < permit.riskLimits.managerApprovalThreshold
        && permit.riskLimits.managerApprovalThreshold ≤ order.total
        && !permit.roles.any (· ∈ managerRoles)))

def checkRiskLimits (db : ServerDb Hash) (context : SharedSyncContext) (order : OfflineOrder) :
    Except ImportError Unit := do
  let prior := ordersInWindow db context
  failWhen (exceedsOrderLimits context.permit.riskLimits prior order)
    (.conflict .unknownReference .riskLimitReached)
  failWhen (exceedsManualLimits context.permit prior order)
    (.conflict .paymentReconciliationRequired .manualPaymentLimitReached)

/-! ## Conflicts with the current menu -/

structure ImportItem where
  item : OfflineOrderItem
  productId : Option Uuid
  noteOptions : List CanonicalNoteOption

/-- An option of the product as it stands; the last entry of the map wins. -/
def currentOption (product : StallProduct) (optionId : Uuid) : Option CurrentNoteOption :=
  product.activeOptions.reverse.find? fun option => option.id = optionId

def canonicalNoteOption (option : OfflineOrderNoteOption)
    (current : Option CurrentNoteOption) : CanonicalNoteOption where
  noteGroupId := current.map (·.noteGroupId)
  noteOptionId := current.map (·.id)
  groupName := option.groupName
  optionName := option.optionName
  priceDelta := option.priceDelta
  sortOrder := option.sortOrder

def currentlyDisabled (product : StallProduct) (now : Timestamp) : Bool :=
  !product.isEnabled || !product.productIsActive || !product.categoryIsActive
    || product.availableFrom.any (now < ·) || product.availableUntil.any (· ≤ now)

/-- The conflicts of one item with the assigned product. -/
def itemConflicts (product : StallProduct) (now : Timestamp) (prepared : PreparedItem) :
    List OfflineSyncConflictType :=
  let current := prepared.expectedOptions.map fun option =>
    currentOption product option.noteOptionId
  let deltas := current.map fun option => (option.map (·.priceDelta)).getD 0
  let currentUnit := max 0 (product.priceOverride.getD product.defaultPrice + deltas.sum)
  (if currentlyDisabled product now then [.productDisabled] else [])
    ++ (if current.any Option.isNone then [.priceChanged] else [])
    ++ (if currentUnit ≠ prepared.item.unitPrice then [.priceChanged] else [])

def assignedProduct (db : ServerDb Hash) (context : SharedSyncContext) (productId : Uuid) :
    Option StallProduct :=
  db.stallProducts.reverse.find? fun product =>
    product.organizationId = context.organizationId && product.stallId = context.stallId
      && product.productId = productId

def currentProductConflict (db : ServerDb Hash) (context : SharedSyncContext)
    (now : Timestamp) (prepared : PreparedItem) : ImportItem × List OfflineSyncConflictType :=
  match assignedProduct db context prepared.item.productId with
  | none => ({
      item := prepared.item
      productId := none
      noteOptions := prepared.expectedOptions.map fun option =>
        canonicalNoteOption option none }, [.productDeleted])
  | some product => ({
      item := prepared.item
      productId := some prepared.item.productId
      noteOptions := prepared.expectedOptions.map fun option =>
        canonicalNoteOption option (currentOption product option.noteOptionId) },
      itemConflicts product now prepared)

def currentProductConflicts (db : ServerDb Hash) (context : SharedSyncContext)
    (now : Timestamp) (prepared : List PreparedItem) :
    List ImportItem × List OfflineSyncConflictType :=
  let results := prepared.map (currentProductConflict db context now)
  (results.map (·.1), results.flatMap (·.2))

/-- The conflicts that the context of the upload gives rise to. -/
def contextConflicts (context : SharedSyncContext) (scope : RecordScope)
    (snapshot : MenuSnapshot) : List OfflineSyncConflictType :=
  (if snapshot.expiresAt < scope.occurredAt then [.menuVersionExpired] else [])
    ++ (if scope.epochChanged then [.backendEpochChanged] else [])
    ++ (if clockSkewWarningMs < |scope.clockOffsetMs| then [.clockSkew] else [])
    ++ (if isRevoked context then [.deviceRevoked] else [])
    ++ (if context.permit.roles.any fun role => role ∉ context.actor.roles then
      [.roleChanged] else [])

/-! ## Payment -/

/-- The uploaded payment belongs to the order and was offered by the snapshot. -/
def checkPayment (context : SharedSyncContext) (catalog : MenuCatalog) (order : OfflineOrder)
    (payment : OfflinePayment) : Except ImportError Uuid := do
  failWhen (.recordCashPayment ∉ context.permit.allowedOfflineActions)
    (.conflict .paymentReconciliationRequired .paymentActionNotAllowed)
  failWhen (payment.offlineOrderId ≠ order.offlineOrderId || payment.amount ≠ order.total
      || some payment.method ≠ order.paymentMethod)
    (.conflict .paymentReconciliationRequired .paymentScopeInvalid)
  let paymentOptionId ← orFail payment.paymentOptionId
    (.conflict .paymentReconciliationRequired .paymentScopeInvalid)
  failWhen (!(catalog.paymentOptions.find? fun option => option.id = paymentOptionId).any
      fun option => paymentMethodForKind option.kind = payment.method
        && option.name = payment.methodLabel)
    (.conflict .paymentReconciliationRequired .paymentSnapshotInvalid)
  return paymentOptionId

/-- The drawer of a cash payment, the status of the payment and its conflicts. -/
def settlePayment (db : ServerDb Hash) (context : SharedSyncContext)
    (payment : OfflinePayment) :
    Except ImportError (Option Uuid × PaymentStatus × List OfflineSyncConflictType) :=
  if payment.method = .cash then do
    let shift ← orFail (payment.cashShiftId.bind fun shiftId =>
        db.cashShifts.rows.find? fun shift =>
          shift.id = shiftId && shift.organizationId = context.organizationId
            && shift.stallId = context.stallId)
      (.conflict .unknownReference .cashShiftNotFound)
    if shift.status = .open then
      return (some shift.id, .paid, [])
    else
      return (some shift.id, .pendingReconciliation,
        [.shiftAlreadyClosed, .paymentReconciliationRequired])
  else
    return (none, .pendingReconciliation, [.paymentReconciliationRequired])

def isAvailable (resources : List StallResource) (context : SharedSyncContext)
    (resourceId : Uuid) : Bool :=
  resources.any fun resource =>
    resource.id = resourceId && resource.organizationId = context.organizationId
      && resource.stallId = context.stallId && resource.isEnabled

def importPayment (db : ServerDb Hash) (context : SharedSyncContext) (scope : RecordScope)
    (catalog : MenuCatalog) (order : OfflineOrder) (payment : OfflinePayment) :
    Except ImportError (CanonicalPayment × List OfflineSyncConflictType) := do
  let paymentOptionId ← checkPayment context catalog order payment
  let offered := isAvailable db.paymentOptions context paymentOptionId
  let (cashShiftId, status, conflicts) ← settlePayment db context payment
  return ({
    paymentOptionId := if offered then some paymentOptionId else none
    cashShiftId := cashShiftId
    amount := payment.amount
    method := paymentMethodForOfflineMethod payment.method
    status := status
    methodLabel := payment.methodLabel
    offlinePaymentMethod := some payment.method
    awaitsReconciliation := status = .pendingReconciliation
    cashReceived := payment.cashReceived
    changeAmount := payment.changeAmount
    recordedById := context.actor.profileId
    paidAt := if status = .paid then
      some (adjustedDeviceTime payment.recordedAtDevice scope.clockOffsetMs) else none },
    (if offered then [] else [.unknownReference]) ++ conflicts)

def importOptionalPayment (db : ServerDb Hash) (context : SharedSyncContext)
    (scope : RecordScope) (catalog : MenuCatalog) (order : OfflineOrder) :
    Option OfflinePayment →
      Except ImportError (Option CanonicalPayment × List OfflineSyncConflictType)
  | none => .ok (none, [])
  | some payment => do
      let (imported, conflicts) ← importPayment db context scope catalog order payment
      return (some imported, conflicts)

/-! ## Print jobs -/

def importPrintJob (db : ServerDb Hash) (context : SharedSyncContext) (scope : RecordScope)
    (job : OfflinePrintJob) : CanonicalPrintJob × List OfflineSyncConflictType :=
  let printerId := job.printerId.filter (isAvailable db.printers context)
  let status := if job.status = .printing then .failed else job.status
  ({
    offlinePrintJobId := job.printJobId
    printerId := printerId
    requestedById := context.actor.profileId
    status := status
    attemptCount := job.attemptCount
    printStatusUnknown := job.status = .printing
    queuedAt := scope.occurredAt
    printedAt := if status = .succeeded then
      job.printedAt.map (adjustedDeviceTime · scope.clockOffsetMs) else none
    templateVersion := job.templateVersion },
    (if job.printerId.isSome && printerId.isNone then [.unknownReference] else [])
      ++ (if job.status = .printing then [.printStatusUnknown] else []))

def importPrintJobs (db : ServerDb Hash) (context : SharedSyncContext) (scope : RecordScope)
    (printerEntitled : Bool) (jobs : List OfflinePrintJob) :
    Except ImportError (List CanonicalPrintJob × List OfflineSyncConflictType) := do
  failWhen (jobs ≠ [] && .queuePrintJob ∉ context.permit.allowedOfflineActions)
    (.conflict .printStatusUnknown .printActionNotAllowed)
  failWhen (jobs ≠ [] && !printerEntitled) .other
  let results := jobs.map (importPrintJob db context scope)
  return (results.map (·.1), results.flatMap (·.2))

/-! ## The canonical order -/

/-- What is drawn afresh, read from a clock or answered by another service
while one record is imported. -/
structure ImportAnswers where
  serverReceivedAt : Timestamp
  scopeAt : Timestamp
  ordersAvailable : Bool
  printerEntitled : Bool
  orderId : Uuid
  receiptId : Uuid
  conflictIds : OfflineSyncConflictType → Uuid

/-- Everything the checks of an import have established. -/
structure ImportPlan where
  items : List ImportItem
  payment : Option CanonicalPayment
  printJobs : List CanonicalPrintJob
  conflicts : List OfflineSyncConflictType

/-- The checks of the transaction and the rows they prepare. -/
def planImport (db : ServerDb Hash) (context : SharedSyncContext) (answers : ImportAnswers)
    (record : OfflineOrderSyncRecord) (order : OfflineOrder) (scope : RecordScope) :
    Except ImportError ImportPlan := do
  let snapshot ← loadSnapshot db context order
  let prepared ← prepareSnapshotItems order snapshot.catalog
  failWhen (!answers.ordersAvailable) .other
  checkRiskLimits db context order
  let (items, productConflicts) :=
    currentProductConflicts db context answers.serverReceivedAt prepared
  let (payment, paymentConflicts) ← importOptionalPayment db context scope snapshot.catalog
    order record.payment
  let (printJobs, printConflicts) ← importPrintJobs db context scope answers.printerEntitled
    record.printJobs
  return {
    items := items
    payment := payment
    printJobs := printJobs
    conflicts := (productConflicts ++ contextConflicts context scope snapshot
      ++ paymentConflicts ++ printConflicts).eraseDups }

def nonBlank (text : Text) : Option Text :=
  if text = [] then none else some text

def canonicalItem (order : OfflineOrder) (scope : RecordScope) (item : ImportItem) :
    CanonicalItem :=
  let status := localStateToItemStatus order.orderStatus
  let updatedAt := adjustedDeviceTime order.updatedAtDevice scope.clockOffsetMs
  { productId := item.productId
    name := item.item.name
    baseUnitPrice := item.item.baseUnitPrice
    unitPrice := item.item.unitPrice
    quantity := item.item.quantity
    note := nonBlank item.item.note
    status := status
    preparingAt := if status ≠ .pending then some scope.occurredAt else none
    readyAt := if status = .ready || status = .served then some updatedAt else none
    servedAt := if status = .served then some updatedAt else none
    noteOptions := item.noteOptions }

def canonicalEvent (context : SharedSyncContext) (scope : RecordScope)
    (event : OfflineOrderEvent) : CanonicalEvent where
  eventType := event.nextState
  previousStatus := event.previousState.map localStateToOrderStatus
  newStatus := localStateToOrderStatus event.nextState
  createdBy := context.actor.profileId
  createdAt := adjustedDeviceTime event.occurredAtDevice scope.clockOffsetMs

/-- The name of a customer who left none. -/
def defaultCustomerName : Text := "現場顧客".toList

def canonicalOrder (platform : Platform Hash) (context : SharedSyncContext)
    (answers : ImportAnswers) (record : OfflineOrderSyncRecord) (order : OfflineOrder)
    (scope : RecordScope) (plan : ImportPlan) (orderNo : CanonicalOrderNumber) :
    CanonicalOrder :=
  let status := localStateToOrderStatus order.orderStatus
  let updatedAt := adjustedDeviceTime order.updatedAtDevice scope.clockOffsetMs
  { id := answers.orderId
    organizationId := context.organizationId
    stallId := context.stallId
    orderNo := orderNo
    idempotencyKey := order.idempotencyKey
    source := .offlinePos
    origin := .offlinePos
    customerName := (nonBlank order.customerLabel).getD defaultCustomerName
    customerPhone := nonBlank order.customerContact
    note := nonBlank order.note
    status := status
    paymentStatus := (plan.payment.map (·.status)).getD .unpaid
    subtotal := order.subtotal
    discountAmount := 0
    total := order.total
    deviceHash := platform.hashText (.offlinePos context.device.id)
    confirmedAt := if status = .cancelled then none else some scope.occurredAt
    completedAt := if status = .completed then some updatedAt else none
    cancelledAt := if status = .cancelled then some updatedAt else none
    cancelledById := if status = .cancelled then some context.actor.profileId else none
    createdAt := scope.occurredAt
    paidAt := plan.payment.bind (·.paidAt)
    sourceDeviceId := some context.device.id
    offlineOrderId := some order.offlineOrderId
    offlineLocalSequence := some order.localSequence
    menuSnapshotVersion := some order.menuSnapshotVersion
    deviceCreatedAt := some scope.occurredAt
    serverReceivedAt := some answers.serverReceivedAt
    syncedWithConflict := plan.conflicts ≠ []
    deviceClockOffsetMs := some scope.clockOffsetMs
    localDisplayNumber := some order.localDisplayNumber
    items := plan.items.map (canonicalItem order scope)
    events := record.events.map (canonicalEvent context scope)
    payment := plan.payment
    printJobs := plan.printJobs }

/-! ## Writing -/

/-- Draw the next number of the stall for a business date. -/
def drawOrderNumber (db : ServerDb Hash) (stallId : Uuid) (day : BusinessDate) :
    Table StallOrderCounter × CanonicalOrderNumber :=
  let value := ((db.counters.get? (stallId, day)).map (·.nextValue)).getD 1
  (db.counters.put { stallId := stallId, businessDate := day, nextValue := value + 1 },
    { businessDate := day, value := value })

def receiptRow (context : SharedSyncContext) (answers : ImportAnswers) (order : OfflineOrder)
    (orderId : Uuid) (orderNo : CanonicalOrderNumber) (outcome : ReceiptOutcome) :
    OrderSyncReceipt where
  id := answers.receiptId
  deviceId := context.device.id
  offlineOrderId := order.offlineOrderId
  idempotencyKey := order.idempotencyKey
  orderId := orderId
  outcome := outcome
  localDisplayNumber := order.localDisplayNumber
  canonicalOrderNumber := orderNo
  promotionEpoch := context.promotionEpoch
  serverReceivedAt := answers.serverReceivedAt

def inboxRow (platform : Platform Hash) (context : SharedSyncContext)
    (record : OfflineSyncRecord) (idempotencyKey : Uuid) (source : SyncEntityType)
    (status : InboxStatus) (errorCode : Option SyncErrorCode) : InboxMessage Hash where
  deviceId := some context.device.id
  source := source
  messageKey := idempotencyKey
  payloadHash := platform.payloadHash record
  status := status
  errorCode := errorCode

/-- The conflict is found by what it is about, or created. -/
def findOrCreateConflict (conflicts : Table SyncConflict) (wanted : SyncConflict) :
    Option (Table SyncConflict × SyncConflict) :=
  match conflicts.rows.find? fun conflict => sameConflict conflict wanted with
  | some existing => some (conflicts, existing)
  | none => (conflicts.insert? wanted).map fun created => (created, wanted)

def orderConflict (context : SharedSyncContext) (answers : ImportAnswers)
    (order : OfflineOrder) (orderId : Uuid) (type : OfflineSyncConflictType) :
    SyncConflict where
  id := answers.conflictIds type
  deviceId := context.device.id
  receiptId := some answers.receiptId
  orderId := some orderId
  localEntityType := .order
  localEntityId := order.offlineOrderId
  offlineOrderId := some order.offlineOrderId
  conflictType := type
  resolutionStatus := .open

def createConflicts (conflicts : Table SyncConflict) :
    List SyncConflict → Option (Table SyncConflict × List SyncConflict)
  | [] => some (conflicts, [])
  | wanted :: rest => do
      let (created, conflict) ← findOrCreateConflict conflicts wanted
      let (all, others) ← createConflicts created rest
      return (all, conflict :: others)

def acceptedOutcome (conflicts : List OfflineSyncConflictType) : ReceiptOutcome :=
  if conflicts = [] then .accepted else .acceptedWithConflict

/-- The print jobs of one order are unique too. -/
def insertOrder? (orders : Table CanonicalOrder) (order : CanonicalOrder) :
    Option (Table CanonicalOrder) := do
  guard (order.printJobs.map (·.offlinePrintJobId)).Nodup
  orders.insert? order

/-- Store the order, its receipt, its conflicts and its inbox message; a refused
statement undoes them all. -/
def storeImport (platform : Platform Hash) (db : ServerDb Hash) (context : SharedSyncContext)
    (answers : ImportAnswers) (record : OfflineOrderSyncRecord) (order : OfflineOrder)
    (scope : RecordScope) (plan : ImportPlan) (day : BusinessDate) :
    Option (ServerDb Hash × OfflineSyncReceipt) := do
  let (counters, orderNo) := drawOrderNumber db context.stallId day
  let canonical := canonicalOrder platform context answers record order scope plan orderNo
  let outcome := acceptedOutcome plan.conflicts
  let orders ← insertOrder? db.orders canonical
  let receipts ← db.receipts.insert?
    (receiptRow context answers order canonical.id orderNo outcome)
  let (conflicts, created) ← createConflicts db.conflicts
    (plan.conflicts.map (orderConflict context answers order canonical.id))
  let inbox ← db.inbox.insert?
    (inboxRow platform context (.order record) order.idempotencyKey .order .processed none)
  return ({ db with counters, orders, receipts, conflicts, inbox },
    orderReceipt record order outcome (some (canonical.id, orderNo)) answers.serverReceivedAt
      (created.map responseConflict) none)

def importFresh (platform : Platform Hash) (db : ServerDb Hash) (context : SharedSyncContext)
    (answers : ImportAnswers) (record : OfflineOrderSyncRecord) (order : OfflineOrder)
    (scope : RecordScope) : Except ImportError (ServerDb Hash × OfflineSyncReceipt) := do
  let plan ← planImport db context answers record order scope
  let day ← orFail (platform.stallBusinessDate context.stallId scope.occurredAt)
    (.conflict .unknownReference .businessDateInvalid)
  orFail (storeImport platform db context answers record order scope plan day) .other

/-- An order that is already there gets the receipt and the message it lacks. -/
def reconcileOrphaned (platform : Platform Hash) (db : ServerDb Hash)
    (context : SharedSyncContext) (answers : ImportAnswers) (record : OfflineOrderSyncRecord)
    (order : OfflineOrder) (existing : CanonicalOrder) :
    Option (ServerDb Hash × OfflineSyncReceipt) := do
  let receipts ← db.receipts.insert?
    (receiptRow context answers order existing.id existing.orderNo .duplicate)
  let inbox ← db.inbox.insert?
    (inboxRow platform context (.order record) order.idempotencyKey .order .processed none)
  return ({ db with receipts, inbox },
    orderReceipt record order .duplicate (some (existing.id, existing.orderNo))
      answers.serverReceivedAt [] none)

/-- The transaction of one admitted record. -/
def importTransaction (platform : Platform Hash) [DecidableEq Hash] (db : ServerDb Hash)
    (context : SharedSyncContext) (answers : ImportAnswers) (record : OfflineOrderSyncRecord)
    (order : OfflineOrder) (scope : RecordScope) :
    Except ImportError (ServerDb Hash × OfflineSyncReceipt) := do
  match ← findReplay platform db context record order with
  | .rejected code => return (db, orderReceipt record order .rejected none
      answers.serverReceivedAt
      (conflictsOfOrder db context.device.id order.offlineOrderId) (some code))
  | .duplicate receipt => return (db, orderReceipt record order .duplicate
      (some (receipt.orderId, receipt.canonicalOrderNumber)) answers.serverReceivedAt
      (conflictsOfOrder db context.device.id order.offlineOrderId) none)
  | .orphaned existing =>
      orFail (reconcileOrphaned platform db context answers record order existing) .other
  | .fresh => importFresh platform db context answers record order scope

def importOfflineOrder (platform : Platform Hash) [DecidableEq Hash] (db : ServerDb Hash)
    (context : SharedSyncContext) (answers : ImportAnswers)
    (record : OfflineOrderSyncRecord) :
    Except ImportError (ServerDb Hash × OfflineSyncReceipt) := do
  let (order, scope) ← admitRecord context record answers.scopeAt
  importTransaction platform db context answers record order scope

end Stallorder.OrderImport
