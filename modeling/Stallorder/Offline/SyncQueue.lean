import Stallorder.Core.Run
import Stallorder.Offline.Operations

/-!
# The upload queue of the device

Reading the next batch of the queue, recording an upload attempt, applying the
receipts of the server and purging what has been kept long enough.  The last
three are loops inside one transaction: an exception ends the loop, and what it
wrote before is committed.
-/

namespace Stallorder.SyncQueue

open OrderContract Permit LocalDatabase Operations Checks Run

/-! ## The upload context -/

structure OfflineSyncContext where
  installationId : Uuid
  permitToken : Token
  deviceId : Uuid
  expiresAt : Timestamp
  deriving DecidableEq

def getOfflineSyncContext (db : LocalDb) (stallId : Uuid) : Option OfflineSyncContext :=
  match deviceOfStall db stallId, newestPermit db stallId with
  | some device, some permit => some {
      installationId := device.installationId
      permitToken := permit.token
      deviceId := device.id
      expiresAt := permit.expiresAt }
  | _, _ => none

/-! ## Loading a batch -/

/-- The statuses of a queue row that is still to be uploaded. -/
def awaitsUpload : OfflineSyncStatus → Bool
  | .pending | .failed | .processing => true
  | .synced | .syncedWithConflict | .conflict | .rejected => false

def safeBatchSize (batchSize : ℤ) : ℕ :=
  (max 10 (min 50 batchSize)).toNat

/-- A store is read in the order of its keys. -/
def getAll {Row : Type} [Indexed Row Uuid] (table : Table Row) : List Row :=
  table.rows.insertionSort fun left right => Indexed.key left ≤ Indexed.key right

@[simp]
theorem mem_getAll {Row : Type} [Indexed Row Uuid] {table : Table Row} {row : Row} :
    row ∈ getAll table ↔ row ∈ table :=
  List.mem_insertionSort _

/-- The queue rows of the stall whose next attempt is due. -/
def dueQueueRecords (db : LocalDb) (stallId : Uuid) (now : Timestamp) :
    List StoredQueueRecord :=
  (getAll db.syncQueue).filter fun row =>
    row.stallId = stallId && awaitsUpload row.status && row.nextAttemptAt ≤ now

def selectedQueueRecords (db : LocalDb) (stallId : Uuid) (batchSize : ℤ) (now : Timestamp) :
    List StoredQueueRecord :=
  ((dueQueueRecords db stallId now).insertionSort
    fun left right => left.createdAt ≤ right.createdAt).take (safeBatchSize batchSize)

/-- The first drawer of the stall that passes its schema. -/
def parsedCashShift (db : LocalDb) (stallId : Uuid) : Option CashShiftSnapshot :=
  (db.cashShiftSnapshot.rows.filter cashShiftSnapshotSchema).find? fun shift =>
    shift.stallId = stallId

def eventsOfOrder (db : LocalDb) (orderId : Uuid) : List StoredEvent :=
  (getAll db.offlineOrderEvents).filter fun row => row.localOrderId = orderId

def paymentsOfOrder (db : LocalDb) (orderId : Uuid) : List StoredPayment :=
  (getAll db.offlinePayments).filter fun row => row.localOrderId = orderId

def printJobsOfOrder (db : LocalDb) (orderId : Uuid) : List StoredPrintJob :=
  (getAll db.offlinePrintJobs).filter fun row => row.localOrderId = orderId

/-- Parse every value of a list; one invalid value refuses the list. -/
def parseAll {Value : Type} (schema : Schema Value) :
    List Value → Except LocalError (List Value)
  | [] => .ok []
  | value :: values => do
      let parsed ← orFail (schema.parse value) .schemaInvalid
      let rest ← parseAll schema values
      return parsed :: rest

def orderRecord (db : LocalDb) (queue : StoredQueueRecord) (stored : StoredOrder) :
    Except LocalError OfflineOrderSyncRecord := do
  let order ← orFail (offlineOrderSchema.parse stored.payload) .schemaInvalid
  let events ← parseAll offlineOrderEventSchema
    ((eventsOfOrder db queue.entityId).map (·.payload))
  let payments ← parseAll offlinePaymentSchema
    (((paymentsOfOrder db queue.entityId).map (·.payload)).take 1)
  let printJobs ← parseAll offlinePrintJobSchema
    ((printJobsOfOrder db queue.entityId).map (·.payload))
  return {
    queueId := queue.queueId
    order := order
    events := events.insertionSort
      fun left right => left.occurredAtDevice ≤ right.occurredAtDevice
    payment := payments.head?
    printJobs := printJobs }

/-- The record of one queue row; a row without its payload is skipped. -/
def recordOfQueue (db : LocalDb) (stallId : Uuid) (queue : StoredQueueRecord) :
    Except LocalError (Option OfflineSyncRecord) :=
  match queue.entityType with
  | .order =>
      match db.offlineOrders.get? queue.entityId with
      | none => .ok none
      | some stored => do
          let record ← orderRecord db queue stored
          return some (.order record)
  | .cashEvent =>
      match parsedCashShift db stallId with
      | none => .ok none
      | some shift =>
          match shift.pendingEvents.find? fun candidate =>
              candidate.event.cashEventId = queue.entityId with
          | none => .ok none
          | some stored => do
              let event ← orFail (parseStoredCashEvent stored) .schemaInvalid
              return some (.cashEvent { queueId := queue.queueId, event := event })

def recordsOfQueue (db : LocalDb) (stallId : Uuid) :
    List StoredQueueRecord → Except LocalError (List OfflineSyncRecord)
  | [] => .ok []
  | queue :: queues => do
      let record ← recordOfQueue db stallId queue
      let rest ← recordsOfQueue db stallId queues
      return record.toList ++ rest

def loadOfflineSyncBatch (db : LocalDb) (stallId : Uuid) (batchSize : ℤ) (now : Timestamp) :
    Except LocalError (List OfflineSyncRecord) :=
  recordsOfQueue db stallId (selectedQueueRecords db stallId batchSize now)

/-! ## Recording an attempt -/

inductive AttemptResult
  | processing
  | failed
  deriving DecidableEq

def AttemptResult.status : AttemptResult → OfflineSyncStatus
  | .processing => .processing
  | .failed => .failed

def countRetry (result : AttemptResult) (retryCount : ℕ) : ℕ :=
  retryCount + (if result = .failed then 1 else 0)

def attemptedQueueRecord (result : AttemptResult) (retryAt now : Timestamp)
    (queue : StoredQueueRecord) : StoredQueueRecord :=
  { queue with
    status := result.status
    retryCount := countRetry result queue.retryCount
    nextAttemptAt := retryAt
    lastRetryAt := some now }

/-- The order row after an attempt: the new status and counters are written
into the payload, which is not validated again. -/
def attemptedOrder (result : AttemptResult) (retryCount : ℕ) (now : Timestamp)
    (order : OfflineOrder) (row : StoredOrder) : StoredOrder :=
  { row with
    syncStatus := result.status
    payload := { order with
      syncStatus := result.status
      retryCount := retryCount
      lastRetryAt := some now } }

def markQueueRecord (result : AttemptResult) (retryAt now : Timestamp) (queueId : Uuid)
    (db : LocalDb) : LocalDb × Except LocalError Unit :=
  match db.syncQueue.get? queueId with
  | none => (db, .ok ())
  | some queue =>
      let marked := { db with
        syncQueue := db.syncQueue.update queueId (attemptedQueueRecord result retryAt now) id }
      match queue.entityType with
      | .cashEvent => (marked, .ok ())
      | .order =>
          match db.offlineOrders.get? queue.entityId with
          | none => (marked, .ok ())
          | some row =>
              match offlineOrderSchema.parse row.payload with
              | none => (marked, .error .schemaInvalid)
              | some order => ({ marked with
                  offlineOrders := db.offlineOrders.update queue.entityId
                    (attemptedOrder result (countRetry result queue.retryCount) now order)
                    id }, .ok ())

def markOfflineSyncAttempt (queueIds : List Uuid) (result : AttemptResult)
    (retryAt now : Timestamp) (db : LocalDb) : LocalDb × Except LocalError Unit :=
  forEach (markQueueRecord result retryAt now) queueIds db

/-! ## Applying receipts -/

def ReceiptOutcome.accepted (outcome : ReceiptOutcome) : Bool :=
  outcome ≠ .rejected

/-- The status a receipt gives to the row it names. -/
def localStatus : ReceiptOutcome → OfflineSyncStatus
  | .accepted => .synced
  | .acceptedWithConflict => .syncedWithConflict
  | .duplicate => .synced
  | .rejected => .rejected

def dayMs : ℤ := 24 * 60 * 60_000

/-- The time a row of an accepted record is stamped with. -/
def acceptedAt (receipt : OfflineSyncReceipt) : Option Timestamp :=
  if ReceiptOutcome.accepted receipt.outcome then some receipt.serverReceivedAt else none

def receivedQueueRecord (receipt : OfflineSyncReceipt) (now : Timestamp)
    (queue : StoredQueueRecord) : StoredQueueRecord :=
  { queue with
    status := localStatus receipt.outcome
    nextAttemptAt := now
    syncedAt := acceptedAt receipt
    lastErrorCode := receipt.errorCode }

/-- The order row after its receipt: an accepted order is kept for seven days. -/
def receivedOrder (receipt : OfflineSyncReceipt) (now : Timestamp) (order : OfflineOrder)
    (row : StoredOrder) : StoredOrder :=
  { row with
    syncStatus := localStatus receipt.outcome
    canonicalOrderId := receipt.canonicalOrderId
    canonicalOrderNumber := receipt.canonicalOrderNumber
    syncedAt := acceptedAt receipt
    purgeAfter :=
      if ReceiptOutcome.accepted receipt.outcome then some (now + 7 * dayMs) else none
    payload := { order with syncStatus := localStatus receipt.outcome } }

def storedReceipt (receipt : OfflineSyncReceipt) (promotionEpoch : ℕ) (now : Timestamp)
    (queue : StoredQueueRecord) : StoredReceipt where
  idempotencyKey := queue.idempotencyKey
  receipt := receipt
  promotionEpoch := promotionEpoch
  retainedUntil := now + 30 * dayMs

def settledCashEvent (receipt : OfflineSyncReceipt) (cashEventId : Uuid)
    (stored : StoredCashEvent) : StoredCashEvent :=
  if stored.event.cashEventId = cashEventId then
    { stored with syncStatus := localStatus receipt.outcome }
  else stored

/-- The drawer after the receipt of one of its events. -/
def settledCashShift (receipt : OfflineSyncReceipt) (cashEventId : Uuid)
    (shift : CashShiftSnapshot) : CashShiftSnapshot :=
  { shift with pendingEvents := shift.pendingEvents.map (settledCashEvent receipt cashEventId) }

/-- Update the order or the drawer that a queue row stands for. -/
def applyReceiptToEntity (receipt : OfflineSyncReceipt) (now : Timestamp)
    (queue : StoredQueueRecord) (db : LocalDb) : LocalDb × Except LocalError Unit :=
  match queue.entityType with
  | .order =>
      match db.offlineOrders.get? queue.entityId with
      | none => (db, .ok ())
      | some row =>
          match offlineOrderSchema.parse row.payload with
          | none => (db, .error .schemaInvalid)
          | some order => ({ db with
              offlineOrders := db.offlineOrders.update queue.entityId
                (receivedOrder receipt now order) id }, .ok ())
  | .cashEvent =>
      match db.cashShiftSnapshot.get? queue.stallId with
      | none => (db, .error .schemaInvalid)
      | some shift =>
          if cashShiftSnapshotSchema shift then
            ({ db with
              cashShiftSnapshot :=
                db.cashShiftSnapshot.put (settledCashShift receipt queue.entityId shift) },
              .ok ())
          else (db, .error .schemaInvalid)

def storedConflict (receipt : OfflineSyncReceipt) (queue : StoredQueueRecord)
    (conflict : ReceiptConflict) : StoredConflict where
  conflictId := conflict.conflictId
  queueId := receipt.queueId
  stallId := queue.stallId
  localEntityId := receipt.localEntityId
  conflictType := conflict.type
  resolutionStatus := conflict.resolutionStatus
  canonicalOrderId := receipt.canonicalOrderId
  detectedAt := receipt.serverReceivedAt

def putConflicts (receipt : OfflineSyncReceipt) (queue : StoredQueueRecord) (db : LocalDb) :
    LocalDb :=
  { db with
    syncConflicts := receipt.conflicts.foldl
      (fun table conflict => table.put (storedConflict receipt queue conflict))
      db.syncConflicts }

def applyReceipt (promotionEpoch : ℕ) (now : Timestamp) (receipt : OfflineSyncReceipt)
    (db : LocalDb) : LocalDb × Except LocalError Unit :=
  match db.syncQueue.get? receipt.queueId with
  | none => (db, .ok ())
  | some queue =>
      let received := { db with
        syncQueue := db.syncQueue.update receipt.queueId (receivedQueueRecord receipt now) id
        syncReceipts := db.syncReceipts.put (storedReceipt receipt promotionEpoch now queue) }
      match applyReceiptToEntity receipt now queue received with
      | (settled, .error error) => (settled, .error error)
      | (settled, .ok ()) => (putConflicts receipt queue settled, .ok ())

def applyOfflineSyncResponse (response : OfflineSyncResponse) (now : Timestamp)
    (db : LocalDb) : LocalDb × Except LocalError Unit :=
  forEach (applyReceipt response.promotionEpoch now) response.receipts db

/-! ## Purging -/

/-- The payload of the order has been kept long enough. -/
def purgeDue (now : Timestamp) (row : StoredOrder) : Bool :=
  row.purgeAfter.any (· ≤ now)

def receiptDue (now : Timestamp) (row : StoredReceipt) : Bool :=
  row.retainedUntil ≤ now

/-- The stores whose rows belong to an order, in the order they are purged. -/
inductive OrderChildStore
  | events
  | payments
  | printJobs

def OrderChildStore.storeName : OrderChildStore → OfflineStoreName
  | .events => .offlineOrderEvents
  | .payments => .offlinePayments
  | .printJobs => .offlinePrintJobs

def deleteChildren (orderId : Uuid) : OrderChildStore → LocalDb → LocalDb
  | .events, db => { db with
      offlineOrderEvents := db.offlineOrderEvents.filter fun row => row.localOrderId ≠ orderId }
  | .payments, db => { db with
      offlinePayments := db.offlinePayments.filter fun row => row.localOrderId ≠ orderId }
  | .printJobs, db => { db with
      offlinePrintJobs := db.offlinePrintJobs.filter fun row => row.localOrderId ≠ orderId }

/-- The children of an order are found through the index on its identifier. -/
def purgeChildren (orderId : Uuid) (store : OrderChildStore) (db : LocalDb) :
    LocalDb × Except LocalError Unit :=
  if hasIndex store.storeName .localOrderId then (deleteChildren orderId store db, .ok ())
  else (db, .error .indexNotFound)

def deleteOrder (orderId : Uuid) (db : LocalDb) : LocalDb :=
  { db with offlineOrders := db.offlineOrders.filter fun row => row.localOrderId ≠ orderId }

def purgeOrder (now : Timestamp) (row : StoredOrder) (db : LocalDb) :
    LocalDb × Except LocalError Unit :=
  if purgeDue now row then
    forEach (purgeChildren row.localOrderId) [.events, .payments, .printJobs]
      (deleteOrder row.localOrderId db)
  else (db, .ok ())

def purgeReceipts (now : Timestamp) (db : LocalDb) : LocalDb :=
  { db with syncReceipts := db.syncReceipts.filter fun row => !receiptDue now row }

def purgeExpiredOfflinePayloads (now : Timestamp) (db : LocalDb) :
    LocalDb × Except LocalError Unit :=
  match forEach (purgeOrder now) db.offlineOrders.rows db with
  | (purged, .error error) => (purged, .error error)
  | (purged, .ok ()) => (purgeReceipts now purged, .ok ())

/-! ## What one step of a loop did -/

section Outcomes

variable {db db' : LocalDb} {outcome : Except LocalError Unit}

/-- The order that a queue row stands for, when it is stored and passes its
schema. -/
structure EntityOrder (db : LocalDb) (queue : StoredQueueRecord) (row : StoredOrder)
    (order : OfflineOrder) : Prop where
  type : queue.entityType = .order
  found : db.offlineOrders.get? queue.entityId = some row
  parsed : offlineOrderSchema.parse row.payload = some order

/-- Marking a queue row skips an unknown row, updates the row alone, or updates
it together with its order. -/
theorem markQueueRecord_cases {result : AttemptResult} {retryAt now : Timestamp}
    {queueId : Uuid} (hmark : markQueueRecord result retryAt now queueId db = (db', outcome)) :
    (db.syncQueue.get? queueId = none ∧ db' = db ∧ outcome = .ok ())
      ∨ ∃ queue, db.syncQueue.get? queueId = some queue
        ∧ (((∀ row order, ¬ EntityOrder db queue row order)
            ∧ db' = { db with syncQueue :=
              db.syncQueue.update queueId (attemptedQueueRecord result retryAt now) id })
          ∨ ∃ row order, EntityOrder db queue row order ∧ outcome = .ok ()
            ∧ db' = { db with
              syncQueue :=
                db.syncQueue.update queueId (attemptedQueueRecord result retryAt now) id
              offlineOrders := db.offlineOrders.update queue.entityId
                (attemptedOrder result (countRetry result queue.retryCount) now order) id }) := by
  unfold markQueueRecord at hmark
  split at hmark
  · next hnone =>
    cases hmark
    exact Or.inl ⟨hnone, rfl, rfl⟩
  · next queue hqueue =>
    refine Or.inr ⟨queue, hqueue, ?_⟩
    simp only at hmark
    split at hmark
    · next htype =>
      cases hmark
      refine Or.inl ⟨fun row order hentity => ?_, rfl⟩
      rw [hentity.type] at htype
      cases htype
    · next htype =>
      split at hmark
      · next hmissing =>
        cases hmark
        refine Or.inl ⟨fun row order hentity => ?_, rfl⟩
        rw [hentity.found] at hmissing
        cases hmissing
      · next row hrow =>
        split at hmark
        · next hinvalid =>
          cases hmark
          refine Or.inl ⟨fun row' order hentity => ?_, rfl⟩
          have hsame := Option.some.inj (hrow.symm.trans hentity.found)
          rw [hsame, hentity.parsed] at hinvalid
          cases hinvalid
        · next order horder =>
          cases hmark
          exact Or.inr ⟨row, order, ⟨htype, hrow, horder⟩, rfl, rfl⟩

/-- What applying a receipt changes besides orders: the queue row, the stored
receipt, the drawer and the conflicts. -/
structure AppliedFrame (receipt : OfflineSyncReceipt) (promotionEpoch : ℕ) (now : Timestamp)
    (queue : StoredQueueRecord) (db db' : LocalDb) : Prop where
  queueRow : db'.syncQueue
    = db.syncQueue.update receipt.queueId (receivedQueueRecord receipt now) id
  storedReceipt : db'.syncReceipts
    = db.syncReceipts.put (storedReceipt receipt promotionEpoch now queue)
  events : db'.offlineOrderEvents = db.offlineOrderEvents
  payments : db'.offlinePayments = db.offlinePayments
  printJobs : db'.offlinePrintJobs = db.offlinePrintJobs
  devices : db'.deviceProfile = db.deviceProfile
  permits : db'.offlinePermit = db.offlinePermit
  menus : db'.menuSnapshots = db.menuSnapshots

/-- The entity of a receipt: an order that is received, or nothing but the drawer. -/
theorem applyReceiptToEntity_cases {receipt : OfflineSyncReceipt} {now : Timestamp}
    {queue : StoredQueueRecord}
    (happly : applyReceiptToEntity receipt now queue db = (db', outcome)) :
    ((∀ row order, ¬ EntityOrder db queue row order)
        ∧ ∃ cashShiftSnapshot, db' = { db with cashShiftSnapshot })
      ∨ ∃ row order, EntityOrder db queue row order ∧ outcome = .ok ()
        ∧ db' = { db with offlineOrders :=
          db.offlineOrders.update queue.entityId (receivedOrder receipt now order) id } := by
  unfold applyReceiptToEntity at happly
  split at happly
  · next htype =>
    split at happly
    · next hmissing =>
      cases happly
      refine Or.inl ⟨fun row order hentity => ?_, _, rfl⟩
      rw [hentity.found] at hmissing
      cases hmissing
    · next row hrow =>
      split at happly
      · next hinvalid =>
        cases happly
        refine Or.inl ⟨fun row' order hentity => ?_, _, rfl⟩
        have hsame := Option.some.inj (hrow.symm.trans hentity.found)
        rw [hsame, hentity.parsed] at hinvalid
        cases hinvalid
      · next order horder =>
        cases happly
        exact Or.inr ⟨row, order, ⟨htype, hrow, horder⟩, rfl, rfl⟩
  · next htype =>
    refine Or.inl ⟨fun row order hentity => ?_, ?_⟩
    · rw [hentity.type] at htype
      cases htype
    · split at happly
      · cases happly
        exact ⟨_, rfl⟩
      · split at happly <;> cases happly <;> exact ⟨_, rfl⟩

/-- Applying a receipt skips an unknown queue row, updates the row while its
order stays, or updates it together with its order. -/
theorem applyReceipt_cases {promotionEpoch : ℕ} {now : Timestamp}
    {receipt : OfflineSyncReceipt}
    (happly : applyReceipt promotionEpoch now receipt db = (db', outcome)) :
    (db.syncQueue.get? receipt.queueId = none ∧ db' = db ∧ outcome = .ok ())
      ∨ ∃ queue, db.syncQueue.get? receipt.queueId = some queue
        ∧ AppliedFrame receipt promotionEpoch now queue db db'
        ∧ (((∀ row order, ¬ EntityOrder db queue row order)
            ∧ db'.offlineOrders = db.offlineOrders)
          ∨ ∃ row order, EntityOrder db queue row order ∧ outcome = .ok ()
            ∧ db'.offlineOrders
              = db.offlineOrders.update queue.entityId (receivedOrder receipt now order) id) := by
  unfold applyReceipt at happly
  split at happly
  · next hnone =>
    cases happly
    exact Or.inl ⟨hnone, rfl, rfl⟩
  · next queue hqueue =>
    refine Or.inr ⟨queue, hqueue, ?_⟩
    simp only at happly
    split at happly
    · next settled error hsettle =>
      cases happly
      rcases applyReceiptToEntity_cases hsettle with
        ⟨hnoOrder, cashShiftSnapshot, rfl⟩ | ⟨row, order, -, houtcome, -⟩
      · exact ⟨⟨rfl, rfl, rfl, rfl, rfl, rfl, rfl, rfl⟩,
          Or.inl ⟨fun row order hentity =>
            hnoOrder row order ⟨hentity.type, hentity.found, hentity.parsed⟩, rfl⟩⟩
      · cases houtcome
    · next settled hsettle =>
      cases happly
      rcases applyReceiptToEntity_cases hsettle with
        ⟨hnoOrder, cashShiftSnapshot, rfl⟩ | ⟨row, order, hentity, -, rfl⟩
      · exact ⟨⟨rfl, rfl, rfl, rfl, rfl, rfl, rfl, rfl⟩,
          Or.inl ⟨fun row order hentity =>
            hnoOrder row order ⟨hentity.type, hentity.found, hentity.parsed⟩, rfl⟩⟩
      · exact ⟨⟨rfl, rfl, rfl, rfl, rfl, rfl, rfl, rfl⟩,
          Or.inr ⟨row, order, ⟨hentity.type, hentity.found, hentity.parsed⟩, rfl, rfl⟩⟩

end Outcomes

/-! ## What a batch contains -/

section Batch

variable {db : LocalDb} {stallId : Uuid} {batchSize : ℤ} {now : Timestamp}

theorem mem_dueQueueRecords {queue : StoredQueueRecord} :
    queue ∈ dueQueueRecords db stallId now ↔
      queue ∈ db.syncQueue ∧ queue.stallId = stallId ∧ awaitsUpload queue.status = true
        ∧ queue.nextAttemptAt ≤ now := by
  simp [dueQueueRecords, Table.mem_iff, and_assoc]

theorem mem_due_of_selected {queue : StoredQueueRecord}
    (hselected : queue ∈ selectedQueueRecords db stallId batchSize now) :
    queue ∈ dueQueueRecords db stallId now :=
  (List.mem_insertionSort _).mp (List.mem_of_mem_take hselected)

/-- When the batch has room for every due row, every due row is selected. -/
theorem mem_selected_of_due {queue : StoredQueueRecord}
    (hroom : (dueQueueRecords db stallId now).length ≤ safeBatchSize batchSize)
    (hdue : queue ∈ dueQueueRecords db stallId now) :
    queue ∈ selectedQueueRecords db stallId batchSize now := by
  unfold selectedQueueRecords
  rw [List.take_of_length_le (by rwa [List.length_insertionSort])]
  exact (List.mem_insertionSort _).mpr hdue

theorem mem_of_recordsOfQueue {queues : List StoredQueueRecord}
    {records : List OfflineSyncRecord} (hrecords : recordsOfQueue db stallId queues = .ok records)
    {record : OfflineSyncRecord} :
    record ∈ records ↔
      ∃ queue ∈ queues, recordOfQueue db stallId queue = .ok (some record) := by
  induction queues generalizing records with
  | nil =>
      cases hrecords
      simp
  | cons queue queues ih =>
      obtain ⟨head, hhead, hrecords⟩ := bind_eq_ok.mp hrecords
      obtain ⟨rest, hrest, hreturn⟩ := bind_eq_ok.mp hrecords
      cases hreturn
      simp only [List.mem_append, ih hrest, List.mem_cons, exists_eq_or_imp, hhead,
        Option.mem_toList, Except.ok.injEq]

theorem exists_recordsOfQueue {queues : List StoredQueueRecord}
    (hqueues : ∀ queue ∈ queues, ∃ record, recordOfQueue db stallId queue = .ok record) :
    ∃ records, recordsOfQueue db stallId queues = .ok records := by
  induction queues with
  | nil => exact ⟨[], rfl⟩
  | cons queue queues ih =>
      obtain ⟨record, hrecord⟩ := hqueues queue List.mem_cons_self
      obtain ⟨rest, hrest⟩ := ih fun other hother =>
        hqueues other (List.mem_cons_of_mem _ hother)
      refine ⟨record.toList ++ rest, ?_⟩
      simp only [recordsOfQueue, hrecord, hrest, bind_ok]
      rfl

theorem queueId_of_recordOfQueue {queue : StoredQueueRecord} {record : OfflineSyncRecord}
    (hrecord : recordOfQueue db stallId queue = .ok (some record)) :
    record.queueId = queue.queueId := by
  unfold recordOfQueue at hrecord
  split at hrecord
  · split at hrecord
    · cases hrecord
    · obtain ⟨assembled, hassembled, hreturn⟩ := bind_eq_ok.mp hrecord
      cases hreturn
      obtain ⟨order, -, hassembled⟩ := bind_eq_ok.mp hassembled
      obtain ⟨events, -, hassembled⟩ := bind_eq_ok.mp hassembled
      obtain ⟨payments, -, hassembled⟩ := bind_eq_ok.mp hassembled
      obtain ⟨printJobs, -, hreturn⟩ := bind_eq_ok.mp hassembled
      cases hreturn
      rfl
  · split at hrecord
    · cases hrecord
    · split at hrecord
      · cases hrecord
      · obtain ⟨event, -, hreturn⟩ := bind_eq_ok.mp hrecord
        cases hreturn
        rfl

theorem queueIds_of_recordsOfQueue {queues : List StoredQueueRecord}
    {records : List OfflineSyncRecord}
    (hrecords : recordsOfQueue db stallId queues = .ok records) :
    (records.map (·.queueId)).Sublist (queues.map (·.queueId)) := by
  induction queues generalizing records with
  | nil =>
      cases hrecords
      exact List.Sublist.slnil
  | cons queue queues ih =>
      obtain ⟨head, hhead, hrecords⟩ := bind_eq_ok.mp hrecords
      obtain ⟨rest, hrest, hreturn⟩ := bind_eq_ok.mp hrecords
      cases hreturn
      cases head with
      | none => exact (ih hrest).cons _
      | some record =>
          have hid := queueId_of_recordOfQueue hhead
          simp only [Option.toList_some, List.singleton_append, List.map_cons, hid]
          exact (ih hrest).cons_cons _

theorem nodup_selectedQueueRecords :
    ((selectedQueueRecords db stallId batchSize now).map (·.queueId)).Nodup := by
  have hrows : (db.syncQueue.rows.map (·.queueId)).Nodup := by
    refine List.pairwise_map.mpr (db.syncQueue.unique.imp fun hfree hsame => hfree ?_)
    exact Indexed.collides_of_key_eq hsame
  have hread : ((getAll db.syncQueue).map (·.queueId)).Nodup :=
    ((List.perm_insertionSort _ _).map _).nodup_iff.mpr hrows
  have hdue : ((dueQueueRecords db stallId now).map (·.queueId)).Nodup :=
    hread.sublist (List.filter_sublist.map _)
  have hsorted : (((dueQueueRecords db stallId now).insertionSort
      fun left right => left.createdAt ≤ right.createdAt).map (·.queueId)).Nodup :=
    ((List.perm_insertionSort _ _).map _).nodup_iff.mpr hdue
  exact hsorted.sublist ((List.take_sublist _ _).map _)

/-- A batch holds at most one record of each queue row. -/
theorem nodup_of_loadOfflineSyncBatch {records : List OfflineSyncRecord}
    (hload : loadOfflineSyncBatch db stallId batchSize now = .ok records) :
    (records.map (·.queueId)).Nodup :=
  nodup_selectedQueueRecords.sublist (queueIds_of_recordsOfQueue hload)

theorem exists_queue_of_loadOfflineSyncBatch {records : List OfflineSyncRecord}
    (hload : loadOfflineSyncBatch db stallId batchSize now = .ok records)
    {queueId : Uuid} (hmem : queueId ∈ records.map (·.queueId)) :
    ∃ queue ∈ db.syncQueue, queue.queueId = queueId := by
  have hselected := (queueIds_of_recordsOfQueue hload).subset hmem
  obtain ⟨queue, hqueue, hid⟩ := List.mem_map.mp hselected
  exact ⟨queue, (mem_dueQueueRecords.mp (mem_due_of_selected hqueue)).1, hid⟩

/-- A list whose values pass a schema unchanged is parsed to itself. -/
theorem parseAll_eq_self {Value : Type} {schema : Schema Value} {values : List Value}
    (hvalues : ∀ value ∈ values, schema.parse value = some value) :
    parseAll schema values = .ok values := by
  induction values with
  | nil => rfl
  | cons value values ih =>
      have hhead := hvalues value List.mem_cons_self
      have htail := ih fun other hother => hvalues other (List.mem_cons_of_mem _ hother)
      simp only [parseAll, hhead, orFail_some, htail, bind_ok]
      rfl

end Batch

/-! ## What purging does -/

section Purge

variable {db : LocalDb} {now : Timestamp}

theorem purgeOrder_of_not_due {row : StoredOrder} (hkept : purgeDue now row = false) :
    purgeOrder now row db = (db, .ok ()) := by
  simp [purgeOrder, hkept]

/-- What is left when the purge of an order stops at its print jobs. -/
def purgedUntilPrintJobs (orderId : Uuid) (db : LocalDb) : LocalDb :=
  deleteChildren orderId .payments (deleteChildren orderId .events (deleteOrder orderId db))

/-- The print jobs have no index on the order. -/
theorem purgeOrder_of_due {row : StoredOrder} (hdue : purgeDue now row = true) :
    purgeOrder now row db
      = (purgedUntilPrintJobs row.localOrderId db, .error .indexNotFound) := by
  simp only [purgeOrder, hdue, if_true]
  rfl

theorem forEach_purgeOrder (rows : List StoredOrder) :
    forEach (purgeOrder now) rows db =
      match rows.find? (purgeDue now) with
      | none => (db, .ok ())
      | some row => (purgedUntilPrintJobs row.localOrderId db, .error .indexNotFound) := by
  induction rows with
  | nil => rfl
  | cons row rows ih =>
      cases hdue : purgeDue now row with
      | false => rw [forEach_cons_ok (purgeOrder_of_not_due hdue), ih, List.find?_cons, hdue]
      | true => rw [forEach_cons_error (purgeOrder_of_due hdue), List.find?_cons, hdue]

/-- The first due order ends the purge. -/
theorem purgeExpiredOfflinePayloads_eq :
    purgeExpiredOfflinePayloads now db =
      match db.offlineOrders.rows.find? (purgeDue now) with
      | none => (purgeReceipts now db, .ok ())
      | some row => (purgedUntilPrintJobs row.localOrderId db, .error .indexNotFound) := by
  unfold purgeExpiredOfflinePayloads
  rw [forEach_purgeOrder]
  cases db.offlineOrders.rows.find? (purgeDue now) <;> rfl

theorem purge_of_none_due (hkept : ∀ row ∈ db.offlineOrders, purgeDue now row = false) :
    purgeExpiredOfflinePayloads now db = (purgeReceipts now db, .ok ()) := by
  have hnone : db.offlineOrders.rows.find? (purgeDue now) = none :=
    List.find?_eq_none.mpr fun row hrow => by simp [hkept row hrow]
  rw [purgeExpiredOfflinePayloads_eq, hnone]

theorem purge_of_due {row : StoredOrder} (hrow : row ∈ db.offlineOrders)
    (hdue : purgeDue now row = true) :
    ∃ first ∈ db.offlineOrders, purgeDue now first = true
      ∧ purgeExpiredOfflinePayloads now db
        = (purgedUntilPrintJobs first.localOrderId db, .error .indexNotFound) := by
  cases hfirst : db.offlineOrders.rows.find? (purgeDue now) with
  | none => exact absurd hdue (List.find?_eq_none.mp hfirst row hrow)
  | some first =>
      refine ⟨first, List.mem_of_find?_eq_some hfirst, List.find?_some hfirst, ?_⟩
      rw [purgeExpiredOfflinePayloads_eq, hfirst]

end Purge

end Stallorder.SyncQueue
