import Stallorder.Delivery.SyncJobs

/-!
# Orders of delivery platforms

A webhook announces an order, a fetch job reads it from the platform, an import
job makes an order of the stall of it, and the transitions of that order are
queued for the platform.  Each of these is one transaction.
-/

namespace Stallorder.ExternalOrders

open OrderContract DeliveryDatabase SyncJobs Transaction Transaction.Program

abbrev DeliveryProgram (Value : Type) := Program DeliveryDb DeliveryError Value

/-- A statement of the delivery tables. -/
def run {Value : Type} (statement : DeliveryDb → Except DeliveryError (Value × DeliveryDb)) :
    DeliveryProgram Value :=
  Program.statement .transactionAborted statement

def read {Value : Type} (query : DeliveryDb → Value) : DeliveryProgram Value :=
  Program.query .transactionAborted query

/-! ## Statements -/

def createWebhookEvent (event : WebhookEvent) (db : DeliveryDb) :
    Except DeliveryError (WebhookEvent × DeliveryDb) := do
  Checks.failWhen (!deliveryWebhookEventsChecks event) .constraintViolated
  let webhookEvents ← Checks.orFail (db.webhookEvents.insert? event) .uniqueViolation
  return (event, { db with webhookEvents })

/-- Update the webhooks that satisfy `wanted`. -/
def updateWebhookEvents (wanted : WebhookEvent → Bool) (change : WebhookEvent → WebhookEvent)
    (db : DeliveryDb) : Except DeliveryError (Unit × DeliveryDb) := do
  let webhookEvents ← Checks.orFail (db.webhookEvents.updateWhere? wanted change)
    .constraintViolated
  return ((), { db with webhookEvents })

def findExternalOrder (connectionId : Uuid) (provider : DeliveryProvider) (externalOrderId : Text)
    (db : DeliveryDb) : Option ExternalOrder :=
  db.externalOrders.findFirst fun order => order.connectionId = connectionId
    && order.provider = provider && order.externalOrderId = externalOrderId

def createExternalOrder (order : ExternalOrder) (db : DeliveryDb) :
    Except DeliveryError (ExternalOrder × DeliveryDb) := do
  Checks.failWhen (!externalOrdersChecks order) .constraintViolated
  let externalOrders ← Checks.orFail (db.externalOrders.insert? order) .uniqueViolation
  return (order, { db with externalOrders })

/-- Update the ledger row with an id. -/
def updateExternalOrder (ledgerId : Uuid) (change : ExternalOrder → ExternalOrder)
    (db : DeliveryDb) : Except DeliveryError (ExternalOrder × DeliveryDb) := do
  let order ← Checks.orFail (db.externalOrders.findFirst fun order => order.id = ledgerId)
    .recordNotFound
  Checks.failWhen (!externalOrdersChecks (change order)) .constraintViolated
  let externalOrders ← Checks.orFail
    (db.externalOrders.updateWhere? (fun order => order.id = ledgerId) change) .uniqueViolation
  return (change order, { db with externalOrders })

def createOrder (order : ImportedOrder) (audit : ImportAudit) (db : DeliveryDb) :
    Except DeliveryError (Unit × DeliveryDb) := do
  Checks.failWhen (!ordersChecks order) .constraintViolated
  let orders ← Checks.orFail (db.orders.insert? order) .uniqueViolation
  return ((), { db with orders, importAudits := db.importAudits ++ [audit] })

/-! ## Webhooks -/

structure OrderReference where
  externalOrderId : Text
  externalStoreId : Text
  deriving DecidableEq

structure VerifiedWebhook where
  provider : DeliveryProvider
  externalEventId : Option Text
  eventType : Text
  replayKey : Text
  payloadHash : Text
  order : Option NormalizedExternalOrder
  orderReference : Option OrderReference
  deriving DecidableEq

/-- The ids of the rows that a webhook may create. -/
structure IntakeIds where
  eventId : Uuid
  ledgerId : Uuid
  jobId : Uuid

def VerifiedWebhook.announcesOrder (verified : VerifiedWebhook) : Bool :=
  verified.order.isSome || verified.orderReference.isSome

def VerifiedWebhook.referencedStoreId (verified : VerifiedWebhook) : Option Text :=
  match verified.order with
  | some order => some order.externalStoreId
  | none => verified.orderReference.map (·.externalStoreId)

def verifiedEvent (connection : DeliveryConnection) (verified : VerifiedWebhook) (eventId : Uuid)
    (now : Timestamp) : WebhookEvent where
  id := eventId
  provider := connection.provider
  connectionId := connection.id
  organizationId := connection.organizationId
  stallId := connection.stallId
  externalEventId := verified.externalEventId
  eventType := verified.eventType
  signatureValid := true
  replayKey := .verified verified.replayKey
  payloadHash := verified.payloadHash
  processingStatus := if verified.announcesOrder then .verified else .processed
  processedAt := if verified.announcesOrder then none else some now
  lastErrorCode := none

def processedEvent (now : Timestamp) (event : WebhookEvent) : WebhookEvent :=
  { event with processingStatus := .processed, processedAt := some now }

def fetchJob (connection : DeliveryConnection) (verified : VerifiedWebhook)
    (reference : OrderReference) (eventId : Uuid) : NewDeliveryJob where
  organizationId := connection.organizationId
  stallId := connection.stallId
  connectionId := connection.id
  provider := connection.provider
  jobType := .orderFetch
  deduplicationKey := .orderFetch connection.id reference.externalOrderId
  input := .orderFetch reference.externalOrderId eventId verified.payloadHash
  priority := some 0
  maxAttempts := none

def importJob (connection : DeliveryConnection) (order : NormalizedExternalOrder)
    (ledgerId eventId : Uuid) (priority : ℤ) : NewDeliveryJob where
  organizationId := connection.organizationId
  stallId := connection.stallId
  connectionId := connection.id
  provider := connection.provider
  jobType := .orderImport
  deduplicationKey := .orderImport connection.id order.externalOrderId
  input := .orderImport ledgerId (some eventId) order
  priority := some priority
  maxAttempts := none

/-- A new row of the ledger. -/
def ledgerRow (connection : DeliveryConnection) (order : NormalizedExternalOrder)
    (externalStatus payloadHash : Text) (ledgerId : Uuid) : ExternalOrder where
  id := ledgerId
  organizationId := connection.organizationId
  stallId := connection.stallId
  connectionId := connection.id
  provider := connection.provider
  externalOrderId := order.externalOrderId
  externalOrderNumber := order.externalOrderNumber
  internalOrderId := none
  externalStoreId := order.externalStoreId
  externalStatus := externalStatus
  processingStatus := .readyForImport
  currency := order.currency
  amounts := order.pricing.ledgerAmounts
  scheduledPickupAt := order.scheduledPickupAt
  acceptedAt := none
  rejectedAt := none
  completedAt := none
  lastSyncedAt := none
  payloadHash := payloadHash

def inScope (connection : DeliveryConnection) (order : ExternalOrder) : Bool :=
  order.connectionId = connection.id && order.organizationId = connection.organizationId
    && order.stallId = connection.stallId

/-- The row of the ledger that stands for an order. -/
def existingOrCreate (existing : Option ExternalOrder) (order : ExternalOrder) :
    DeliveryProgram ExternalOrder :=
  match existing with
  | some externalOrder => pure externalOrder
  | none => run (createExternalOrder order)

/-- Queue the import, unless the order was imported. -/
def queueImport (connection : DeliveryConnection) (order : NormalizedExternalOrder)
    (externalOrder : ExternalOrder) (ids : IntakeIds) (now : Timestamp) :
    DeliveryProgram (Option Uuid) :=
  if externalOrder.internalOrderId.isSome then do
    run (updateWebhookEvents (fun event => event.id = ids.eventId) (processedEvent now))
    return none
  else do
    Program.failWhen (!order.accepts) .other
    let job ← enqueueDeliverySyncJob (importJob connection order externalOrder.id ids.eventId 10)
      ids.jobId now
    return some job.id

def receiveOrder (connection : DeliveryConnection) (verified : VerifiedWebhook)
    (order : NormalizedExternalOrder) (ids : IntakeIds) (now : Timestamp) :
    DeliveryProgram (Option Uuid) := do
  let existing ← read (findExternalOrder connection.id connection.provider order.externalOrderId)
  Program.failWhen (existing.any fun externalOrder => !inScope connection externalOrder)
    (.permanent .permissionDenied)
  let externalOrder ← existingOrCreate existing
    (ledgerRow connection order verified.eventType verified.payloadHash ids.ledgerId)
  queueImport connection order externalOrder ids now

/-- What the webhook announces. -/
def receiveAnnouncement (connection : DeliveryConnection) (verified : VerifiedWebhook)
    (ids : IntakeIds) (now : Timestamp) : DeliveryProgram (Option Uuid) :=
  match verified.orderReference, verified.order with
  | some reference, _ => do
      let job ← enqueueDeliverySyncJob (fetchJob connection verified reference ids.eventId)
        ids.jobId now
      return some job.id
  | none, some order => receiveOrder connection verified order ids now
  | none, none => pure none

/-- The transaction of a webhook: the event, and the job that it queues. -/
def receiveWebhook (connection : DeliveryConnection) (verified : VerifiedWebhook)
    (ids : IntakeIds) (now : Timestamp) : DeliveryProgram (Uuid × Option Uuid) := do
  let event ← run (createWebhookEvent (verifiedEvent connection verified ids.eventId now))
  Program.failWhen (verified.announcesOrder
    && (verified.referencedStoreId ≠ connection.externalStoreId
      || verified.order.any fun order => order.provider ≠ connection.provider))
    (.permanent .storeNotFound)
  let jobId ← receiveAnnouncement connection verified ids now
  return (event.id, jobId)

def rejectedEvent (connection : DeliveryConnection) (payloadHash : Text) (signatureValid : Bool)
    (error : DeliveryError) (eventId : Uuid) (now : Timestamp) : WebhookEvent where
  id := eventId
  provider := connection.provider
  connectionId := connection.id
  organizationId := connection.organizationId
  stallId := connection.stallId
  externalEventId := none
  eventType := "WEBHOOK_REJECTED".toList
  signatureValid := signatureValid
  replayKey := .rejected connection.provider connection.id payloadHash
  payloadHash := payloadHash
  processingStatus := .rejected
  processedAt := some now
  lastErrorCode := some (safeDeliveryErrorCode error)

/-- A rejection that cannot be recorded is only logged. -/
def recordRejectedWebhook (connection : DeliveryConnection) (payloadHash : Text)
    (signatureValid : Bool) (error : DeliveryError) (eventId : Uuid) (now : Timestamp)
    (db : DeliveryDb) : DeliveryDb :=
  (transact (run (createWebhookEvent
    (rejectedEvent connection payloadHash signatureValid error eventId now))) db).2

structure WebhookResult where
  duplicate : Bool
  eventId : Uuid
  jobId : Option Uuid
  deriving DecidableEq

/-- One call of the webhook endpoint. -/
structure WebhookCall where
  provider : DeliveryProvider
  connectionId : Uuid
  /-- The feature switches and the entitlement of the organization. -/
  access : Except DeliveryError Unit
  /-- The hash of the body, and what the adapter of the platform makes of it. -/
  payloadHash : Text
  verification : Except DeliveryError VerifiedWebhook
  ids : IntakeIds
  now : Timestamp

/-- A webhook that the adapter accepted. -/
def intakeWebhook (call : WebhookCall) (connection : DeliveryConnection)
    (verified : VerifiedWebhook) (db : DeliveryDb) :
    Except DeliveryError WebhookResult × DeliveryDb :=
  match transact (receiveWebhook connection verified call.ids call.now) db with
  | (.ok (eventId, jobId), db') => (.ok ⟨false, eventId, jobId⟩, db')
  | (.error .uniqueViolation, db') =>
      let duplicate := db'.webhookEvents.findFirst fun event =>
        event.connectionId = connection.id && event.provider = call.provider
          && event.replayKey = .verified verified.replayKey
      match duplicate with
      | some event => (.ok ⟨true, event.id, none⟩, db')
      | none => (.error .uniqueViolation, db')
  | (.error error, db') =>
      (.error error, recordRejectedWebhook connection call.payloadHash true error call.ids.eventId
        call.now db')

def processDeliveryWebhook (call : WebhookCall) (db : DeliveryDb) :
    Except DeliveryError WebhookResult × DeliveryDb :=
  match db.connections.rows.find? fun connection =>
      connection.id = call.connectionId && connection.provider = call.provider with
  | none => (.error (.permanent .connectionNotFound), db)
  | some connection =>
      if connection.status ≠ .active then
        (.error (.permanent .connectionStateConflict), db)
      else
        match call.access, call.verification with
        | .error error, _ => (.error error, db)
        | .ok (), .error error =>
            (.error error, recordRejectedWebhook connection call.payloadHash false error
              call.ids.eventId call.now db)
        | .ok (), .ok verified =>
            if verified.provider ≠ call.provider || verified.payloadHash ≠ call.payloadHash then
              (.error (.permanent .invalidWebhook),
                recordRejectedWebhook connection call.payloadHash false
                  (.permanent .invalidWebhook) call.ids.eventId call.now db)
            else
              intakeWebhook call connection verified db

/-! ## Fetches -/

/-- The reported state of the platform, when it is a text of the right length. -/
def providerStatus (order : NormalizedExternalOrder) (fallback : Text) : Text :=
  (order.currentState.filter fun state => 1 ≤ state.length16 && state.length16 ≤ 120).getD fallback

/-- What a fetch writes to a row of the ledger. -/
def fetchedOrder (order : NormalizedExternalOrder) (eventType payloadHash : Text)
    (externalOrder : ExternalOrder) : ExternalOrder :=
  { externalOrder with
    externalOrderNumber := order.externalOrderNumber
    externalStoreId := order.externalStoreId
    externalStatus := providerStatus order eventType
    processingStatus := .readyForImport
    currency := order.currency
    amounts := order.pricing.ledgerAmounts
    scheduledPickupAt := order.scheduledPickupAt
    payloadHash := payloadHash }

/-- Rewrite the row, unless it was imported. -/
def stageOrder (connection : DeliveryConnection) (order : NormalizedExternalOrder)
    (eventType payloadHash : Text) (existing : Option ExternalOrder) (ledgerId : Uuid) :
    DeliveryProgram ExternalOrder :=
  match existing with
  | some externalOrder =>
      run (updateExternalOrder externalOrder.id (if externalOrder.internalOrderId.isSome then id
        else fetchedOrder order eventType payloadHash))
  | none => run (createExternalOrder (ledgerRow connection order (providerStatus order eventType)
      payloadHash ledgerId))

def isFetchedEvent (connection : DeliveryConnection) (webhookEventId : Uuid)
    (event : WebhookEvent) : Bool :=
  event.id = webhookEventId && event.connectionId = connection.id
    && event.organizationId = connection.organizationId && event.stallId = connection.stallId
    && event.provider = connection.provider && event.signatureValid

def processingEvent (event : WebhookEvent) : WebhookEvent :=
  { event with processingStatus := .processing }

/-- Queue the import of a fetched order, unless it was imported. -/
def queueFetchedImport (connection : DeliveryConnection) (order : NormalizedExternalOrder)
    (externalOrder : ExternalOrder) (eventId jobId : Uuid) (now : Timestamp) :
    DeliveryProgram (Option Uuid) :=
  if externalOrder.internalOrderId.isSome then do
    run (updateWebhookEvents (fun event => event.id = eventId) (processedEvent now))
    return none
  else do
    Program.failWhen (!order.accepts) .other
    let job ← enqueueDeliverySyncJob (importJob connection order externalOrder.id eventId 1) jobId
      now
    run (updateWebhookEvents (fun event => event.id = eventId) processingEvent)
    return some job.id

/-- The transaction of a fetch job. -/
def stageExternalOrder (connection : DeliveryConnection) (order : NormalizedExternalOrder)
    (webhookEventId : Uuid) (payloadHash : Text) (ids : IntakeIds) (now : Timestamp) :
    DeliveryProgram (Option Uuid) := do
  let found ← read fun db => db.webhookEvents.findFirst (isFetchedEvent connection webhookEventId)
  let event ← Program.orFail (found.filter (·.payloadHash = payloadHash))
    (.permanent .invalidWebhook)
  let existing ← read (findExternalOrder connection.id connection.provider order.externalOrderId)
  let externalOrder ← stageOrder connection order event.eventType payloadHash existing ids.ledgerId
  queueFetchedImport connection order externalOrder event.id ids.jobId now

/-- The order that the platform returned, when it is the wanted one. -/
def isWantedOrder (connection : DeliveryConnection) (externalOrderId : Text)
    (order : NormalizedExternalOrder) : Bool :=
  order.provider = connection.provider && order.externalOrderId = externalOrderId
    && connection.externalStoreId = some order.externalStoreId

/-! ## Imports -/

inductive MenuEntityType
  | product
  | modifierItem
  deriving DecidableEq

structure MenuMapping where
  internalEntityType : MenuEntityType
  internalEntityId : Uuid
  externalEntityId : Text
  deriving DecidableEq

structure MappedNoteOption where
  id : Uuid
  noteGroupId : Uuid
  groupName : Text
  deriving DecidableEq

/-- What an import reads of the menu: the mappings in use, the products on sale,
the active options, and the option groups of the products. -/
structure MenuReads where
  mappings : List MenuMapping
  products : List Uuid
  options : List MappedNoteOption
  assignments : List (Uuid × Uuid)

/-- The internal id of an external one; a later mapping replaces an earlier one. -/
def mappedId (mappings : List MenuMapping) (type : MenuEntityType) (externalId : Text) :
    Option Uuid :=
  (mappings.reverse.find? fun mapping => mapping.internalEntityType = type
    && mapping.externalEntityId = externalId).map (·.internalEntityId)

def prepareNoteOption (menu : MenuReads) (productId : Uuid) (index : ℕ)
    (modifier : OrderModifier) : Option PreparedNoteOption := do
  let optionId ← mappedId menu.mappings .modifierItem modifier.externalModifierId
  let option ← menu.options.find? (·.id = optionId)
  if (productId, option.noteGroupId) ∈ menu.assignments then
    return {
      noteGroupId := option.noteGroupId
      noteOptionId := option.id
      groupName := option.groupName
      optionName := modifier.name
      priceDelta := modifier.unitPrice
      sortOrder := index }
  else
    none

/-- The unit price is rounded to the nearest integer, halves upwards. -/
def derivedUnitPrice (item : ExternalOrderItem) : ℤ :=
  (2 * item.totalPrice + item.quantity).fdiv (2 * item.quantity)

def prepareItem (menu : MenuReads) (item : ExternalOrderItem) : Option PreparedOrderItem := do
  let productId ← mappedId menu.mappings .product item.externalProductId
  if productId ∈ menu.products then
    let noteOptions ← (item.modifiers.zipIdx.mapM fun (modifier, index) =>
      prepareNoteOption menu productId index modifier)
    return {
      productId
      name := item.name
      baseUnitPrice := item.unitPrice
      unitPrice := derivedUnitPrice item
      quantity := item.quantity
      note := item.notes
      noteOptions }
  else
    none

/-- Every entity of the order is mapped to one that is on sale. -/
def isMapped (menu : MenuReads) (order : NormalizedExternalOrder) : Bool :=
  let productIds := order.items.map fun item =>
    mappedId menu.mappings .product item.externalProductId
  let modifierIds := order.items.flatMap fun item =>
    item.modifiers.map fun modifier =>
      mappedId menu.mappings .modifierItem modifier.externalModifierId
  productIds.all (fun id => id.any (· ∈ menu.products))
    && modifierIds.all fun id => id.any fun id => menu.options.any (·.id = id)

/-- The items in the words of the stall. -/
def prepareMappedItems (menu : MenuReads) (order : NormalizedExternalOrder) :
    Option (List PreparedOrderItem) :=
  if isMapped menu order then order.items.mapM (prepareItem menu) else none

/-- What an import reads of the stall. -/
structure StallReads where
  /-- The currency of the stall, when it is active. -/
  currency : Option Text
  unconfirmedOrderTimeoutSeconds : Option ℤ
  storeVerified : Bool
  menu : MenuReads
  hasBusinessDate : Bool

inductive MappingReason
  | storeMappingRequired
  | paymentMappingRequired
  | menuMappingRequired
  deriving DecidableEq

inductive ImportOutcome
  | imported (orderId : Uuid) (idempotent : Bool)
  | mappingRequired (reason : MappingReason)
  deriving DecidableEq

structure ImportInput where
  externalOrderLedgerId : Uuid
  webhookEventId : Option Uuid
  order : NormalizedExternalOrder

def deadLetteredEvent (now : Timestamp) (event : WebhookEvent) : WebhookEvent :=
  { event with
    processingStatus := .deadLetter
    processedAt := some now
    lastErrorCode := some .mappingRequired }

def importedEvent (now : Timestamp) (event : WebhookEvent) : WebhookEvent :=
  { event with
    processingStatus := .processed
    processedAt := some now
    lastErrorCode := none }

/-- Update the webhook that led to the import, when there was one. -/
def updateImportEvent (webhookEventId : Option Uuid) (connectionId : Uuid)
    (change : WebhookEvent → WebhookEvent) : DeliveryProgram Unit :=
  match webhookEventId with
  | some eventId => run (updateWebhookEvents
      (fun event => event.id = eventId && event.connectionId = connectionId) change)
  | none => pure ()

def markMappingRequired (externalOrder : ExternalOrder) (webhookEventId : Option Uuid)
    (reason : MappingReason) (now : Timestamp) : DeliveryProgram ImportOutcome := do
  let _ ← run (updateExternalOrder externalOrder.id fun row =>
    { row with processingStatus := .mappingRequired })
  updateImportEvent webhookEventId externalOrder.connectionId (deadLetteredEvent now)
  return .mappingRequired reason

/-- The first non-empty name. -/
def importedCustomerName (order : NormalizedExternalOrder) : Text :=
  match order.customerDisplayName.filter (· ≠ []), order.externalOrderNumber.filter (· ≠ []) with
  | some name, _ => name
  | none, some number => number
  | none, none => "外送平台顧客".toList

def canonicalOrder (externalOrder : ExternalOrder) (order : NormalizedExternalOrder)
    (items : List PreparedOrderItem) (timeoutSeconds : ℤ) (orderId : Uuid) (now : Timestamp) :
    ImportedOrder where
  id := orderId
  organizationId := externalOrder.organizationId
  stallId := externalOrder.stallId
  idempotencyKey := ⟨externalOrder.connectionId, order.provider, order.externalOrderId⟩
  isTest := order.provider = .mock
  externalProvider := order.provider
  externalOrderId := order.externalOrderId
  externalOrderNumber := order.externalOrderNumber
  externalStoreId := order.externalStoreId
  externalPaymentStatus := order.paymentStatus
  externalSubtotalAmount := order.pricing.subtotal
  externalTotalAmount := order.pricing.total
  merchantReceivableAmount := order.pricing.merchantReceivable
  platformDiscountAmount := order.pricing.platformDiscount
  merchantDiscountAmount := order.pricing.merchantDiscount
  scheduledPickupAt := order.scheduledPickupAt
  customerName := importedCustomerName order
  isDelivery := order.isDelivery
  note := order.customerNote
  subtotal := order.pricing.subtotal
  discountAmount := order.pricing.platformDiscount + order.pricing.merchantDiscount
  total := max 0 (order.pricing.subtotal - order.pricing.platformDiscount
    - order.pricing.merchantDiscount)
  confirmationExpiresAt := now + timeoutSeconds * 1000
  items := items

def linked (orderId : Uuid) (now : Timestamp) (row : ExternalOrder) : ExternalOrder :=
  { row with
    internalOrderId := some orderId
    processingStatus := .imported
    externalStatus := "PENDING_CONFIRMATION".toList
    lastSyncedAt := some now }

/-- Create the order of the stall and link the ledger to it. -/
def importMapped (externalOrder : ExternalOrder) (input : ImportInput) (jobId : Uuid)
    (items : List PreparedOrderItem) (timeoutSeconds : ℤ) (orderId : Uuid) (now : Timestamp) :
    DeliveryProgram ImportOutcome := do
  run (createOrder (canonicalOrder externalOrder input.order items timeoutSeconds orderId now)
    ⟨orderId, externalOrder.id, jobId⟩)
  let _ ← run (updateExternalOrder externalOrder.id (linked orderId now))
  updateImportEvent input.webhookEventId externalOrder.connectionId (importedEvent now)
  return .imported orderId false

def isImportConnection (externalOrder : ExternalOrder) (connection : DeliveryConnection) : Bool :=
  connection.id = externalOrder.connectionId
    && connection.organizationId = externalOrder.organizationId
    && connection.stallId = externalOrder.stallId
    && connection.provider = externalOrder.provider && connection.status = .active

def importFresh (externalOrder : ExternalOrder) (input : ImportInput) (jobId : Uuid)
    (reads : StallReads) (orderId : Uuid) (now : Timestamp) : DeliveryProgram ImportOutcome := do
  Program.failWhen (externalOrder.provider ≠ input.order.provider
    || externalOrder.externalOrderId ≠ input.order.externalOrderId
    || externalOrder.externalStoreId ≠ input.order.externalStoreId)
    (.permanent .unsupportedMapping)
  let connection ← read fun db => db.connections.rows.find? (isImportConnection externalOrder)
  match connection, reads.currency, reads.unconfirmedOrderTimeoutSeconds, reads.storeVerified with
  | some _, some currency, some timeoutSeconds, true =>
      if currency ≠ input.order.currency || input.order.merchantCollectedCash then
        markMappingRequired externalOrder input.webhookEventId .paymentMappingRequired now
      else
        match prepareMappedItems reads.menu input.order with
        | none => markMappingRequired externalOrder input.webhookEventId .menuMappingRequired now
        | some items => do
            Program.failWhen (!reads.hasBusinessDate) (.platform .providerUnavailable true)
            importMapped externalOrder input jobId items timeoutSeconds orderId now
  | _, _, _, _ =>
      markMappingRequired externalOrder input.webhookEventId .storeMappingRequired now

/-- The transaction of an import job. -/
def importOrder (input : ImportInput) (jobId : Uuid) (reads : StallReads) (orderId : Uuid)
    (now : Timestamp) : DeliveryProgram ImportOutcome := do
  let found ← read fun db => db.externalOrders.findFirst fun row =>
    row.id = input.externalOrderLedgerId
  let externalOrder ← Program.orFail found (.permanent .connectionNotFound)
  match externalOrder.internalOrderId with
  | some importedId => pure (.imported importedId true)
  | none => importFresh externalOrder input jobId reads orderId now

/-- A missing mapping is an error of the job, after the transaction. -/
def importExternalOrderFromJob (input : ImportInput) (jobId : Uuid) (reads : StallReads)
    (orderId : Uuid) (now : Timestamp) (db : DeliveryDb) :
    Except DeliveryError ImportOutcome × DeliveryDb :=
  match transact (importOrder input jobId reads orderId now) db with
  | (.ok (.mappingRequired _), db') => (.error (.permanent .mappingRequired), db')
  | outcome => outcome

/-! ## Transitions -/

structure ExternalTransitionContext where
  ledgerId : Uuid
  provider : DeliveryProvider
  connectionId : Uuid
  organizationId : Uuid
  stallId : Uuid
  externalOrderId : Text

def transitioned (nextStatus : ExternalTransitionStatus) (now : Timestamp)
    (row : ExternalOrder) : ExternalOrder :=
  { row with
    externalStatus := nextStatus.text
    processingStatus := match nextStatus with
      | .cancelled => .rejected
      | .confirmed => .confirmed
      | _ => row.processingStatus
    acceptedAt := if nextStatus = .confirmed then some now else row.acceptedAt
    rejectedAt := if nextStatus = .cancelled then some now else row.rejectedAt
    completedAt := if nextStatus = .completed then some now else row.completedAt
    lastSyncedAt := some now }

/-- The job that tells the platform about a status, and the capability it takes. -/
def actionOf : ExternalTransitionStatus → Option (DeliveryJobType × DeliveryCapability)
  | .preparing => some (.orderPreparing, .orderPreparing)
  | .ready => some (.orderReady, .orderReady)
  | _ => none

def actionJob (external : ExternalTransitionContext) (nextStatus : ExternalTransitionStatus)
    (jobType : DeliveryJobType) : NewDeliveryJob :=
  let key : DeliveryActionKey :=
    ⟨external.provider, external.connectionId, external.externalOrderId, nextStatus⟩
  { organizationId := external.organizationId
    stallId := external.stallId
    connectionId := external.connectionId
    provider := external.provider
    jobType := jobType
    deduplicationKey := .orderAction key
    input := .orderAction external.externalOrderId key
    priority := some 20
    maxAttempts := none }

def queueAction (external : ExternalTransitionContext) (nextStatus : ExternalTransitionStatus)
    (jobId : Uuid) (now : Timestamp) : DeliveryProgram Unit :=
  match actionOf nextStatus with
  | none => pure ()
  | some (jobType, capability) =>
      if capability ∈ external.provider.capabilities then do
        let _ ← enqueueDeliverySyncJob (actionJob external nextStatus jobType) jobId now
        return ()
      else
        pure ()

def persistExternalOrderTransition (external : ExternalTransitionContext)
    (nextStatus : ExternalTransitionStatus) (jobId : Uuid) (now : Timestamp) :
    DeliveryProgram Unit := do
  let _ ← run (updateExternalOrder external.ledgerId (transitioned nextStatus now))
  queueAction external nextStatus jobId now

/-- The row of the ledger that an order of the stall was imported from. -/
def transitionContext (orderId : Uuid) (db : DeliveryDb) : Option ExternalTransitionContext :=
  (db.externalOrders.findFirst fun row => row.internalOrderId = some orderId).map fun row =>
    ⟨row.id, row.provider, row.connectionId, row.organizationId, row.stallId, row.externalOrderId⟩

/-! ## A sample order -/

def sampleConnection (provider : DeliveryProvider) : DeliveryConnection where
  id := 1
  organizationId := 10
  stallId := 20
  provider := provider
  status := .active
  externalStoreId := some "store".toList

def sampleOrder (provider : DeliveryProvider) : NormalizedExternalOrder where
  provider := provider
  externalOrderId := "order-1".toList
  externalOrderNumber := some "M001".toList
  externalStoreId := "store".toList
  currency := "TWD".toList
  scheduledPickupAt := none
  customerDisplayName := none
  customerNote := none
  items := [{
    externalItemId := "item".toList
    externalProductId := "product".toList
    name := "Tea".toList
    quantity := 1
    unitPrice := 100
    totalPrice := 100
    modifiers := []
    notes := none }]
  pricing := ⟨100, 0, 0, 0, 0, 0, 100, 100⟩
  paymentStatus := "PAID".toList
  merchantCollectedCash := false
  isDelivery := true
  currentState := none

/-- What an import of the sample order reads of its stall. -/
def sampleReads : StallReads where
  currency := some "TWD".toList
  unconfirmedOrderTimeoutSeconds := some 600
  storeVerified := true
  menu := ⟨[⟨.product, 30, "product".toList⟩], [30], [], []⟩
  hasBusinessDate := true

def sampleReference : OrderReference := ⟨"order-1".toList, "store".toList⟩

/-- A webhook that only refers to the order. -/
def announcement (replayKey : Text) : VerifiedWebhook where
  provider := .uberEats
  externalEventId := none
  eventType := "orders.notification".toList
  replayKey := replayKey
  payloadHash := replayKey
  order := none
  orderReference := some sampleReference

def announceCall (replayKey : Text) (ids : IntakeIds) (now : Timestamp) : WebhookCall where
  provider := .uberEats
  connectionId := 1
  access := .ok ()
  payloadHash := replayKey
  verification := .ok (announcement replayKey)
  ids := ids
  now := now

end Stallorder.ExternalOrders
