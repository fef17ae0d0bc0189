import Stallorder.Server.DeviceService
import Stallorder.Server.SyncDatabase

/-!
# Context, scope and replay of an upload

What is decided about an uploaded record before anything is written: the
context that all records of a request share, the scope of a record, the chain
of its events, and whether the record was taken in before.
-/

namespace Stallorder.SyncReplay

open OrderContract Permit LocalDatabase DeviceDatabase DeviceService SyncDatabase Checks

variable {Hash : Type}

/-- Signing, hashing and the calendar of a stall. -/
structure Platform (Hash : Type) where
  codec : TokenCodec
  payloadHash : OfflineSyncRecord → Hash
  hashText : DeviceHashText → Digest
  stallBusinessDate : Uuid → Timestamp → Option BusinessDate

/-! ## The shared context -/

structure SyncActor where
  profileId : Uuid
  roles : List UserRole
  deriving DecidableEq

structure ContextPermit where
  status : PermitStatus
  issuedAt : Timestamp
  expiresAt : Timestamp
  revokedAt : Option Timestamp
  deriving DecidableEq

structure ContextDevice where
  id : Uuid
  status : OfflineDeviceStatus
  revokedAt : Option Timestamp
  deriving DecidableEq

structure SharedSyncContext where
  organizationId : Uuid
  stallId : Uuid
  actor : SyncActor
  clientSentAt : Timestamp
  permit : OfflinePermitPayload
  permitRecord : ContextPermit
  device : ContextDevice
  promotionEpoch : ℕ
  deriving DecidableEq

structure SyncRequest where
  organizationId : Uuid
  stallId : Uuid
  installationId : Uuid
  permitToken : Token
  clientSentAt : Timestamp
  actor : SyncActor
  records : List OfflineSyncRecord

inductive SyncRequestError
  | permitInvalid
  | scopeInvalid
  | backendNotWritable
  | deviceInvalid
  deriving DecidableEq

/-- The stored permit is the one that the token was signed for. -/
def permitMatches (codec : TokenCodec) (request : SyncRequest)
    (signed : OfflinePermitPayload) (row : OfflinePermit) : Bool :=
  row.tokenHash = codec.hashToken request.permitToken
    && row.organizationId = request.organizationId
    && row.stallId = request.stallId
    && row.deviceId = signed.deviceId
    && row.profileId = signed.profileId
    && row.menuSnapshotVersion = signed.menuSnapshotVersion
    && row.roles = signed.roles
    && row.allowedActions = signed.allowedOfflineActions
    && row.promotionEpoch = signed.promotionEpoch
    && row.issuedAt = signed.issuedAt
    && row.expiresAt = signed.expiresAt

/-- The device is the enabled leader that the token was signed for. -/
def deviceMatches (request : SyncRequest) (signed : OfflinePermitPayload)
    (device : ClientDevice) : Bool :=
  device.id = signed.deviceId
    && device.organizationId = request.organizationId
    && device.stallId = request.stallId
    && device.profileId = request.actor.profileId
    && device.offlineRole = .offlineLeader
    && device.offlineEnabled

/-- An expired permit is still read; the rows of the permit, the device and the
backend are read at once. -/
def resolveSharedSyncContext (codec : TokenCodec) (db : DeviceDb) (request : SyncRequest)
    (now : Timestamp) : Except SyncRequestError SharedSyncContext := do
  let signed ← orFail (verifyOfflinePermit codec.signatureFor request.permitToken now true)
    .permitInvalid
  failWhen (signed.organizationId ≠ request.organizationId
      || signed.stallId ≠ request.stallId
      || signed.profileId ≠ request.actor.profileId) .scopeInvalid
  let runtime ← orFail (db.runtime.find? (·.isWritable)) .backendNotWritable
  let permitRecord ← orFail (db.permits.findFirst fun row => row.id = signed.permitId)
    .permitInvalid
  failWhen (!permitMatches codec request signed permitRecord) .permitInvalid
  let device ← orFail (deviceOfInstallation db request.organizationId request.installationId)
    .deviceInvalid
  failWhen (!deviceMatches request signed device) .deviceInvalid
  failWhen (.createOfflineOrder ∉ signed.allowedOfflineActions) .permitInvalid
  return {
    organizationId := request.organizationId
    stallId := request.stallId
    actor := request.actor
    clientSentAt := request.clientSentAt
    permit := signed
    permitRecord := {
      status := permitRecord.status
      issuedAt := permitRecord.issuedAt
      expiresAt := permitRecord.expiresAt
      revokedAt := permitRecord.revokedAt }
    device := { id := device.id, status := device.status, revokedAt := device.revokedAt }
    promotionEpoch := runtime.promotionEpoch }

/-! ## The scope of a record -/

/-- Why a record is not imported: a conflict is recorded with its type, an
operation error is turned into one, and anything else ends the request. -/
inductive ImportError
  | conflict (type : OfflineSyncConflictType) (code : SyncErrorCode)
  | operation (code : SyncErrorCode)
  | other
  deriving DecidableEq

def clockSkewWarningMs : ℤ := 5 * 60_000
def clockSkewMaximumMs : ℤ := 24 * 60 * 60_000

structure ScopeInput where
  organizationId : Uuid
  stallId : Uuid
  deviceId : Uuid
  promotionEpoch : ℕ
  protocolVersion : ℕ
  occurredAt : Timestamp

structure RecordScope where
  clockOffsetMs : ℤ
  occurredAt : Timestamp
  epochChanged : Bool
  deriving DecidableEq

def adjustedDeviceTime (timestamp : Timestamp) (clockOffsetMs : ℤ) : Timestamp :=
  timestamp + clockOffsetMs

def assertRecordScope (context : SharedSyncContext) (now : Timestamp) (input : ScopeInput) :
    Except ImportError RecordScope := do
  failWhen (input.organizationId ≠ context.organizationId
      || input.stallId ≠ context.stallId
      || input.deviceId ≠ context.device.id) (.operation .scopeInvalid)
  failWhen (input.protocolVersion ≠ context.permit.appProtocolVersion)
    (.operation .protocolInvalid)
  let clockOffsetMs := now - context.clientSentAt
  failWhen (clockSkewMaximumMs < |clockOffsetMs|) (.operation .clockInvalid)
  let occurredAt := adjustedDeviceTime input.occurredAt clockOffsetMs
  failWhen (occurredAt < context.permitRecord.issuedAt
      || context.permitRecord.expiresAt < occurredAt) (.operation .recordOutsidePermit)
  return {
    clockOffsetMs := clockOffsetMs
    occurredAt := occurredAt
    epochChanged := input.promotionEpoch ≠ context.promotionEpoch }

def orderScopeInput (order : OfflineOrder) : ScopeInput where
  organizationId := order.organizationId
  stallId := order.stallId
  deviceId := order.deviceId
  promotionEpoch := order.promotionEpoch
  protocolVersion := order.protocolVersion
  occurredAt := order.createdAtDevice

/-! ## The chain of events -/

def initialOfflineState : OfflineOrderState → Bool
  | .localNew | .localConfirmed => true
  | .localPreparing | .localReady | .localCompleted | .localCancelled => false

/-- One event continues a chain that stands at `current`. -/
def continuesChain (current : Option OfflineOrderState) (previousTime : Option Timestamp)
    (event : OfflineOrderEvent) : Bool :=
  event.previousState = current
    && previousTime.all (· ≤ event.occurredAtDevice)
    && (match current with
      | none => initialOfflineState event.nextState
      | some state =>
          event.nextState = state || canTransitionOfflineOrder state event.nextState)

/-- The state a chain of events ends in, when every event continues it. -/
def chainEnd : Option OfflineOrderState → Option Timestamp → List OfflineOrderEvent →
    Option (Option OfflineOrderState)
  | current, _, [] => some current
  | current, previousTime, event :: events =>
      if continuesChain current previousTime event then
        chainEnd (some event.nextState) (some event.occurredAtDevice) events
      else none

def validateOfflineEventChain (record : OfflineOrderSyncRecord) : Bool :=
  chainEnd none none record.events = some (some record.order.orderStatus)

/-- The menu version of the permit and an unbroken chain of events. -/
def checkMenuAndChain (context : SharedSyncContext) (order : OfflineOrder)
    (record : OfflineOrderSyncRecord) : Except ImportError Unit :=
  if order.menuSnapshotVersion ≠ context.permit.menuSnapshotVersion then
    .error (.conflict .unknownReference .menuSnapshotScopeInvalid)
  else failWhen (!validateOfflineEventChain record)
    (.conflict .invalidStateTransition .eventChainInvalid)

/-- Every event lies within the validity of the permit. -/
def checkEventWindow (context : SharedSyncContext) (scope : RecordScope)
    (events : List OfflineOrderEvent) : Except ImportError Unit :=
  failWhen (events.any fun event =>
      adjustedDeviceTime event.occurredAtDevice scope.clockOffsetMs
          < context.permitRecord.issuedAt
        || context.permitRecord.expiresAt
          < adjustedDeviceTime event.occurredAtDevice scope.clockOffsetMs)
    (.conflict .invalidStateTransition .eventOutsidePermit)

def isRevoked (context : SharedSyncContext) : Bool :=
  context.device.status ≠ .active || context.permitRecord.status = .revoked

def revocationTime (context : SharedSyncContext) : Option Timestamp :=
  context.permitRecord.revokedAt.or context.device.revokedAt

/-- After a revocation only what happened before it is taken in. -/
def checkRevocation (context : SharedSyncContext) (scope : RecordScope) :
    Except ImportError Unit :=
  failWhen (isRevoked context && (revocationTime context).all (· ≤ scope.occurredAt))
    (.conflict .deviceRevoked .deviceRevoked)

/-- The checks on a record that precede its transaction. -/
def admitRecord (context : SharedSyncContext) (record : OfflineOrderSyncRecord)
    (now : Timestamp) : Except ImportError (OfflineOrder × RecordScope) := do
  let order ← orFail (offlineOrderSchema.parse record.order) .other
  let scope ← assertRecordScope context now (orderScopeInput order)
  checkMenuAndChain context order record
  checkEventWindow context scope record.events
  checkRevocation context scope
  return (order, scope)

/-! ## Replays -/

def responseConflict (conflict : SyncConflict) : ReceiptConflict where
  conflictId := conflict.id
  type := conflict.conflictType
  resolutionStatus := conflict.resolutionStatus

def conflictsOfOrder (db : ServerDb Hash) (deviceId offlineOrderId : Uuid) :
    List ReceiptConflict :=
  (db.conflicts.rows.filter fun conflict =>
    conflict.deviceId = deviceId && conflict.offlineOrderId = some offlineOrderId).map
      responseConflict

/-- The error code of a message that was refused before. -/
def rejectedInboxReplayErrorCode (message : InboxMessage Hash) : Option SyncErrorCode :=
  if message.status = .rejected then some (message.errorCode.getD .syncRejected) else none

/-- The order is the same sale, imported offline or rung up online by the same
member of the staff. -/
def matchesExistingOrderReplay (platform : Platform Hash) (context : SharedSyncContext)
    (order : OfflineOrder) (existing : CanonicalOrder) : Bool :=
  existing.idempotencyKey = order.idempotencyKey
    && ((existing.sourceDeviceId = some context.device.id
        && existing.offlineOrderId = some order.offlineOrderId)
      || (existing.organizationId = context.organizationId
        && existing.stallId = context.stallId
        && existing.source = .staffPos
        && existing.origin = .onlineStaff
        && existing.sourceDeviceId = none
        && existing.offlineOrderId = none
        && existing.deviceHash = platform.hashText (.staffOrder context.actor.profileId)))

def orderReceipt (record : OfflineOrderSyncRecord) (order : OfflineOrder)
    (outcome : ReceiptOutcome) (canonical : Option (Uuid × CanonicalOrderNumber))
    (serverReceivedAt : Timestamp) (conflicts : List ReceiptConflict)
    (errorCode : Option SyncErrorCode) : OfflineSyncReceipt where
  queueId := record.queueId
  localEntityId := order.offlineOrderId
  recordType := .order
  outcome := outcome
  canonicalOrderId := canonical.map (·.1)
  canonicalOrderNumber := canonical.map (·.2)
  serverReceivedAt := serverReceivedAt
  conflicts := conflicts
  errorCode := errorCode

/-- The message taken in earlier under the key of the order, if any; another
payload under that key is refused. -/
def readInbox (platform : Platform Hash) [DecidableEq Hash] (db : ServerDb Hash)
    (record : OfflineOrderSyncRecord) (order : OfflineOrder) :
    Except ImportError (Option (InboxMessage Hash)) := do
  let existing := db.inbox.get? (.order, order.idempotencyKey)
  failWhen (existing.any fun message =>
      message.payloadHash ≠ platform.payloadHash (.order record))
    (.conflict .duplicateOrder .payloadReplayMismatch)
  return existing

def findReceipt (db : ServerDb Hash) (deviceId offlineOrderId idempotencyKey : Uuid) :
    Option OrderSyncReceipt :=
  db.receipts.rows.find? fun receipt =>
    (receipt.deviceId = deviceId && receipt.offlineOrderId = offlineOrderId)
      || receipt.idempotencyKey = idempotencyKey

def receiptMatches (context : SharedSyncContext) (order : OfflineOrder)
    (receipt : OrderSyncReceipt) : Bool :=
  receipt.deviceId = context.device.id
    && receipt.offlineOrderId = order.offlineOrderId
    && receipt.idempotencyKey = order.idempotencyKey

def findOrphanedOrder (db : ServerDb Hash) (deviceId offlineOrderId stallId
    idempotencyKey : Uuid) : Option CanonicalOrder :=
  db.orders.rows.find? fun order =>
    (order.sourceDeviceId = some deviceId && order.offlineOrderId = some offlineOrderId)
      || (order.stallId = stallId && order.idempotencyKey = idempotencyKey)

/-- What the earlier uploads say about a record. -/
inductive Replay
  | rejected (code : SyncErrorCode)
  | duplicate (receipt : OrderSyncReceipt)
  | orphaned (order : CanonicalOrder)
  | fresh

/-- The three lookups of a replay, in the order of the source. -/
def findReplay (platform : Platform Hash) [DecidableEq Hash] (db : ServerDb Hash)
    (context : SharedSyncContext) (record : OfflineOrderSyncRecord) (order : OfflineOrder) :
    Except ImportError Replay := do
  let existingInbox ← readInbox platform db record order
  match existingInbox.bind rejectedInboxReplayErrorCode with
  | some code => return .rejected code
  | none =>
      match findReceipt db context.device.id order.offlineOrderId order.idempotencyKey with
      | some receipt => do
          failWhen (!receiptMatches context order receipt)
            (.conflict .duplicateOrder .idempotencyCollision)
          failWhen existingInbox.isNone (.conflict .duplicateOrder .payloadReplayMismatch)
          return .duplicate receipt
      | none =>
          match findOrphanedOrder db context.device.id order.offlineOrderId context.stallId
              order.idempotencyKey with
          | some existing => do
              failWhen (!matchesExistingOrderReplay platform context order existing)
                (.conflict .duplicateOrder .idempotencyCollision)
              return .orphaned existing
          | none => return .fresh

end Stallorder.SyncReplay
