import Stallorder.Server.OrderImport

/-!
# The synchronization service

Importing a cash event, recording a refused record, and the loop over the
records of a request.  Every record is a transaction of its own: a refused one
is recorded and the loop goes on, any other error ends the request and leaves
what was imported before it.
-/

namespace Stallorder.SyncService

open OrderContract SyncDatabase SyncReplay OrderImport Checks

variable {Hash : Type}

/-! ## Refused records -/

def recordKey : OfflineSyncRecord → Uuid
  | .order record => record.order.idempotencyKey
  | .cashEvent record => record.event.idempotencyKey

def recordEntityId : OfflineSyncRecord → Uuid
  | .order record => record.order.offlineOrderId
  | .cashEvent record => record.event.cashEventId

def recordType : OfflineSyncRecord → SyncEntityType
  | .order _ => .order
  | .cashEvent _ => .cashEvent

def rejectionConflict (context : SharedSyncContext) (answers : ImportAnswers)
    (record : OfflineSyncRecord) (type : OfflineSyncConflictType) : SyncConflict where
  id := answers.conflictIds type
  deviceId := context.device.id
  receiptId := none
  orderId := none
  localEntityType := recordType record
  localEntityId := recordEntityId record
  offlineOrderId := if recordType record = .order then some (recordEntityId record) else none
  conflictType := type
  resolutionStatus := .open

def rejectionReceipt (answers : ImportAnswers) (record : OfflineSyncRecord)
    (conflict : SyncConflict) (code : SyncErrorCode) : OfflineSyncReceipt where
  queueId := record.queueId
  localEntityId := recordEntityId record
  recordType := recordType record
  outcome := .rejected
  canonicalOrderId := none
  canonicalOrderNumber := none
  serverReceivedAt := answers.serverReceivedAt
  conflicts := [responseConflict conflict]
  errorCode := some code

/-- The refusal is put into the inbox unless the key was taken in before. -/
def rememberRejection (platform : Platform Hash) (context : SharedSyncContext)
    (record : OfflineSyncRecord) (code : SyncErrorCode) (inbox : Table (InboxMessage Hash)) :
    Option (Table (InboxMessage Hash)) :=
  match inbox.get? (recordType record, recordKey record) with
  | some _ => some inbox
  | none => inbox.insert?
      (inboxRow platform context record (recordKey record) (recordType record) .rejected
        (some code))

def rejectRecordWithConflict (platform : Platform Hash) (db : ServerDb Hash)
    (context : SharedSyncContext) (answers : ImportAnswers) (record : OfflineSyncRecord)
    (type : OfflineSyncConflictType) (code : SyncErrorCode) :
    Option (ServerDb Hash × OfflineSyncReceipt) := do
  let (conflicts, conflict) ← findOrCreateConflict db.conflicts
    (rejectionConflict context answers record type)
  let inbox ← rememberRejection platform context record code db.inbox
  return ({ db with conflicts, inbox }, rejectionReceipt answers record conflict code)

/-! ## Cash events -/

def cashScopeInput (event : OfflineCashEvent) : ScopeInput where
  organizationId := event.organizationId
  stallId := event.stallId
  deviceId := event.deviceId
  promotionEpoch := event.promotionEpoch
  protocolVersion := event.protocolVersion
  occurredAt := event.occurredAtDevice

def admitCashRecord (context : SharedSyncContext) (record : OfflineCashSyncRecord)
    (now : Timestamp) : Except ImportError (OfflineCashEvent × RecordScope) := do
  let event ← orFail (offlineCashEventSchema.parse record.event) .other
  failWhen (.recordCashPayment ∉ context.permit.allowedOfflineActions)
    (.conflict .paymentReconciliationRequired .cashActionNotAllowed)
  let scope ← assertRecordScope context now (cashScopeInput event)
  checkRevocation context scope
  return (event, scope)

def movementTotal (db : ServerDb Hash) (shiftId : Uuid) (type : CashMovementType) : ℤ :=
  ((db.cashMovements.rows.filter fun movement =>
    movement.cashShiftId = shiftId && movement.type = type).map (·.amount)).sum

def calculateCashExpected (db : ServerDb Hash) (shift : CashShift) : ℤ :=
  shift.openingAmount + movementTotal db shift.id .cashSale + movementTotal db shift.id .cashIn
    - movementTotal db shift.id .cashOut - movementTotal db shift.id .cashRefund
    + movementTotal db shift.id .correction

def findCashShift (db : ServerDb Hash) (context : SharedSyncContext) (shiftId : Uuid) :
    Option CashShift :=
  db.cashShifts.rows.find? fun shift =>
    shift.id = shiftId && shift.organizationId = context.organizationId
      && shift.stallId = context.stallId

def cashMovement (context : SharedSyncContext) (answers : ImportAnswers)
    (event : OfflineCashEvent) (scope : RecordScope) (shift : CashShift)
    (type : CashMovementType) : CashMovement where
  id := answers.orderId
  cashShiftId := shift.id
  type := type
  amount := event.amount
  reason := event.reason
  offlineCashEventId := some event.cashEventId
  recordedById := context.actor.profileId
  createdAt := scope.occurredAt

/-- Record a movement once; a repeated event is only reported. -/
def recordMovement (db : ServerDb Hash) (context : SharedSyncContext)
    (answers : ImportAnswers) (event : OfflineCashEvent) (scope : RecordScope)
    (shift : CashShift) (type : CashMovementType) :
    Option (ServerDb Hash × List OfflineSyncConflictType) :=
  if db.cashMovements.rows.any fun movement =>
      movement.cashShiftId = shift.id && movement.offlineCashEventId = some event.cashEventId
  then some (db, [.duplicateCashMovement])
  else do
    let cashMovements ← db.cashMovements.insert?
      (cashMovement context answers event scope shift type)
    return ({ db with cashMovements }, [])

def closingShift (context : SharedSyncContext) (event : OfflineCashEvent)
    (scope : RecordScope) (expected : ℤ) (shift : CashShift) : CashShift :=
  { shift with
    status := .closing
    systemExpectedAmount := some expected
    countedAmount := some (event.countedAmount.getD 0)
    varianceAmount := some (event.countedAmount.getD 0 - expected)
    note := some event.reason
    closedById := some context.actor.profileId
    closedAt := some scope.occurredAt }

def closeShift (db : ServerDb Hash) (context : SharedSyncContext) (event : OfflineCashEvent)
    (scope : RecordScope) (shift : CashShift) : ServerDb Hash × List OfflineSyncConflictType :=
  let expected := calculateCashExpected db shift
  ({ db with
    cashShifts := db.cashShifts.update shift.id (closingShift context event scope expected) id },
    if event.countedAmount.getD 0 - expected ≠ 0 then [.cashTotalMismatch] else [])

def applyCashEvent (db : ServerDb Hash) (context : SharedSyncContext)
    (answers : ImportAnswers) (event : OfflineCashEvent) (scope : RecordScope)
    (shift : CashShift) : Option (ServerDb Hash × List OfflineSyncConflictType) :=
  match event.eventType with
  | .cashIn => recordMovement db context answers event scope shift .cashIn
  | .cashOut => recordMovement db context answers event scope shift .cashOut
  | .provisionalClose => some (closeShift db context event scope shift)

def cashConflict (context : SharedSyncContext) (answers : ImportAnswers)
    (event : OfflineCashEvent) (type : OfflineSyncConflictType) : SyncConflict where
  id := answers.conflictIds type
  deviceId := context.device.id
  receiptId := none
  orderId := none
  localEntityType := .cashEvent
  localEntityId := event.cashEventId
  offlineOrderId := none
  conflictType := type
  resolutionStatus := .open

def cashReceipt (record : OfflineCashSyncRecord) (event : OfflineCashEvent)
    (outcome : ReceiptOutcome) (serverReceivedAt : Timestamp)
    (conflicts : List ReceiptConflict) (errorCode : Option SyncErrorCode) :
    OfflineSyncReceipt where
  queueId := record.queueId
  localEntityId := event.cashEventId
  recordType := .cashEvent
  outcome := outcome
  canonicalOrderId := none
  canonicalOrderNumber := none
  serverReceivedAt := serverReceivedAt
  conflicts := conflicts
  errorCode := errorCode

def conflictsOfCashEvent (db : ServerDb Hash) (deviceId cashEventId : Uuid) :
    List ReceiptConflict :=
  (db.conflicts.rows.filter fun conflict =>
    conflict.deviceId = deviceId && conflict.localEntityType = .cashEvent
      && conflict.localEntityId = cashEventId).map responseConflict

/-- The receipt of a cash event that was taken in before. -/
def replayedCashReceipt (db : ServerDb Hash) (context : SharedSyncContext)
    (answers : ImportAnswers) (record : OfflineCashSyncRecord) (event : OfflineCashEvent)
    (message : InboxMessage Hash) : OfflineSyncReceipt :=
  let errorCode := rejectedInboxReplayErrorCode message
  cashReceipt record event (if errorCode.isSome then .rejected else .duplicate)
    answers.serverReceivedAt
    (conflictsOfCashEvent db context.device.id event.cashEventId) errorCode

def cashConflictTypes (scope : RecordScope) (conflicts : List OfflineSyncConflictType) :
    List OfflineSyncConflictType :=
  let scopeConflicts : List OfflineSyncConflictType :=
    (if scope.epochChanged then [.backendEpochChanged] else [])
      ++ (if clockSkewWarningMs < |scope.clockOffsetMs| then [.clockSkew] else [])
  (scopeConflicts ++ conflicts).eraseDups

def storeCashEvent (platform : Platform Hash) (db : ServerDb Hash)
    (context : SharedSyncContext) (answers : ImportAnswers) (record : OfflineCashSyncRecord)
    (event : OfflineCashEvent) (scope : RecordScope) (shift : CashShift) :
    Option (ServerDb Hash × OfflineSyncReceipt) := do
  let (applied, cashConflicts) ← applyCashEvent db context answers event scope shift
  let types := cashConflictTypes scope cashConflicts
  let (conflicts, created) ← createConflicts applied.conflicts
    (types.map (cashConflict context answers event))
  let inbox ← applied.inbox.insert?
    (inboxRow platform context (.cashEvent record) event.idempotencyKey .cashEvent .processed
      none)
  return ({ applied with conflicts, inbox },
    cashReceipt record event (acceptedOutcome types) answers.serverReceivedAt
      (created.map responseConflict) none)

def importOfflineCashEvent (platform : Platform Hash) [DecidableEq Hash] (db : ServerDb Hash)
    (context : SharedSyncContext) (answers : ImportAnswers) (record : OfflineCashSyncRecord) :
    Except ImportError (ServerDb Hash × OfflineSyncReceipt) := do
  let (event, scope) ← admitCashRecord context record answers.scopeAt
  match db.inbox.get? (.cashEvent, event.idempotencyKey) with
  | some message => do
      failWhen (message.payloadHash ≠ platform.payloadHash (.cashEvent record))
        (.conflict .duplicateCashMovement .cashIdempotencyCollision)
      return (db, replayedCashReceipt db context answers record event message)
  | none => do
      let shift ← orFail (findCashShift db context event.cashShiftId)
        (.conflict .unknownReference .cashShiftNotFound)
      failWhen (shift.status ≠ .open) (.conflict .shiftAlreadyClosed .cashShiftAlreadyClosed)
      orFail (storeCashEvent platform db context answers record event scope shift) .other

/-! ## The loop over a request -/

def importRecord (platform : Platform Hash) [DecidableEq Hash] (db : ServerDb Hash)
    (context : SharedSyncContext) (answers : ImportAnswers) :
    OfflineSyncRecord → Except ImportError (ServerDb Hash × OfflineSyncReceipt)
  | .order record => importOfflineOrder platform db context answers record
  | .cashEvent record => importOfflineCashEvent platform db context answers record

def conflictForError : SyncErrorCode → OfflineSyncConflictType
  | .recordOutsidePermit => .invalidStateTransition
  | .clockInvalid => .clockSkew
  | .riskLimitReached => .paymentReconciliationRequired
  | _ => .unknownReference

/-- Import one record or record why it was refused; nothing when the error ends
the request. -/
def receiveRecord (platform : Platform Hash) [DecidableEq Hash] (db : ServerDb Hash)
    (context : SharedSyncContext) (answers : ImportAnswers) (record : OfflineSyncRecord) :
    Option (ServerDb Hash × OfflineSyncReceipt) :=
  match importRecord platform db context answers record with
  | .ok imported => some imported
  | .error (.conflict type code) =>
      rejectRecordWithConflict platform db context answers record type code
  | .error (.operation code) =>
      rejectRecordWithConflict platform db context answers record (conflictForError code) code
  | .error .other => none

/-- The records are received in order; an error keeps what came before it. -/
def receiveRecords (platform : Platform Hash) [DecidableEq Hash]
    (context : SharedSyncContext) (answers : ℕ → ImportAnswers) :
    ℕ → List OfflineSyncRecord → ServerDb Hash →
      ServerDb Hash × Option (List OfflineSyncReceipt)
  | _, [], db => (db, some [])
  | index, record :: records, db =>
      match receiveRecord platform db context (answers index) record with
      | none => (db, none)
      | some (received, receipt) =>
          match receiveRecords platform context answers (index + 1) records received with
          | (final, receipts) => (final, receipts.map (receipt :: ·))

def importOfflineSyncBatch (platform : Platform Hash) [DecidableEq Hash] (db : ServerDb Hash)
    (request : SyncRequest) (now : Timestamp) (answers : ℕ → ImportAnswers)
    (respondedAt : Timestamp) : ServerDb Hash × Option OfflineSyncResponse :=
  match resolveSharedSyncContext platform.codec db.devices request now with
  | .error _ => (db, none)
  | .ok context =>
      match receiveRecords platform context answers 0 request.records db with
      | (final, receipts) => (final, receipts.map fun receipts => {
          receipts := receipts
          serverTime := respondedAt
          promotionEpoch := context.promotionEpoch })

end Stallorder.SyncService
