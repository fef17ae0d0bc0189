import Stallorder.Offline.SyncQueue

/-!
# The synchronization engine

One run of the queue: read the context, load a batch, mark it as being
processed, upload it, apply the receipts and purge.  A single handler covers
the upload, the receipts and the purge, and marks every row of the batch as
failed.  The answer of the server is an argument.
-/

namespace Stallorder.SyncEngine

open OrderContract Permit LocalDatabase Operations SyncQueue

def minRetryMs : ℚ := 2_000
def maxRetryMs : ℚ := 5 * 60_000
def processingLeaseMs : ℤ := 60_000

/-- Exponential backoff with jitter, rounded to milliseconds. -/
def calculateOfflineRetryDelay (attempt : ℕ) (randomValue : ℚ) : ℤ :=
  let exponent := min 12 (attempt - 1)
  let base := min maxRetryMs (minRetryMs * 2 ^ exponent)
  let boundedRandom := max 0 (min 1 randomValue)
  min 300_000 ⌊base * (3 / 4 + boundedRandom / 2) + 1 / 2⌋

structure OfflineSyncRequest where
  installationId : Uuid
  permitToken : Token
  appProtocolVersion : ℕ
  clientSentAt : Timestamp
  records : List OfflineSyncRecord

/-- The readings of the device clock during one run, and the random number of
the backoff. -/
structure SyncClock where
  loadedAt : Timestamp
  markedAt : Timestamp
  sentAt : Timestamp
  appliedAt : Timestamp
  purgedAt : Timestamp
  failedAt : Timestamp
  randomValue : ℚ

/-- A run that takes no time. -/
def SyncClock.at (now : Timestamp) : SyncClock where
  loadedAt := now
  markedAt := now
  sentAt := now
  appliedAt := now
  purgedAt := now
  failedAt := now
  randomValue := 0

inductive OfflineSyncResult
  | synced (synchronized conflicts : ℕ)
  | empty
  | locked
  | unavailable
  | notConfigured
  | failed (retryAt : Timestamp)
  deriving DecidableEq

def recordAttempt : OfflineSyncRecord → ℕ
  | .order record => record.order.retryCount + 1
  | .cashEvent _ => 1

/-- The attempt number that the backoff of a batch is computed from. -/
def batchAttempt (records : List OfflineSyncRecord) : ℕ :=
  (records.map recordAttempt).foldl max 1

/-- The common handler: every row of the batch is marked as failed. -/
def failUpload (records : List OfflineSyncRecord) (clock : SyncClock) (db : LocalDb) :
    LocalDb × Except LocalError OfflineSyncResult :=
  let retryAt := clock.failedAt
    + calculateOfflineRetryDelay (batchAttempt records) clock.randomValue
  match markOfflineSyncAttempt (records.map (·.queueId)) .failed retryAt clock.failedAt db with
  | (marked, .error error) => (marked, .error error)
  | (marked, .ok ()) => (marked, .ok (.failed retryAt))

def syncedResult (response : OfflineSyncResponse) : OfflineSyncResult :=
  .synced
    (response.receipts.filter fun receipt => ReceiptOutcome.accepted receipt.outcome).length
    (response.receipts.map fun receipt => receipt.conflicts.length).sum

/-- What follows the upload: apply the receipts and purge, inside the handler. -/
def settleUpload (records : List OfflineSyncRecord) (clock : SyncClock)
    (answer : Option OfflineSyncResponse) (db : LocalDb) :
    LocalDb × Except LocalError OfflineSyncResult :=
  match answer with
  | none => failUpload records clock db
  | some response =>
      match applyOfflineSyncResponse response clock.appliedAt db with
      | (applied, .error _) => failUpload records clock applied
      | (applied, .ok ()) =>
          match purgeExpiredOfflinePayloads clock.purgedAt applied with
          | (purged, .error _) => failUpload records clock purged
          | (purged, .ok ()) => (purged, .ok (syncedResult response))

/-- Mark the batch as being processed until the lease runs out. -/
def markProcessing (records : List OfflineSyncRecord) (clock : SyncClock) (db : LocalDb) :
    LocalDb × Except LocalError Unit :=
  markOfflineSyncAttempt (records.map (·.queueId)) .processing
    (clock.markedAt + processingLeaseMs) clock.markedAt db

def syncRequest (context : OfflineSyncContext) (records : List OfflineSyncRecord)
    (clock : SyncClock) : OfflineSyncRequest where
  installationId := context.installationId
  permitToken := context.permitToken
  appProtocolVersion := offlineAppProtocolVersion
  clientSentAt := clock.sentAt
  records := records

/-- The section that runs while the lock of the installation is held. -/
def synchronizeLocked (db : LocalDb) (context : OfflineSyncContext) (stallId : Uuid)
    (batchSize : ℤ) (clock : SyncClock)
    (upload : OfflineSyncRequest → Option OfflineSyncResponse) :
    LocalDb × Except LocalError OfflineSyncResult :=
  match loadOfflineSyncBatch db stallId batchSize clock.loadedAt with
  | .error error => (db, .error error)
  | .ok [] =>
      match purgeExpiredOfflinePayloads clock.purgedAt db with
      | (purged, .error error) => (purged, .error error)
      | (purged, .ok ()) => (purged, .ok .empty)
  | .ok records =>
      match markProcessing records clock db with
      | (marked, .error error) => (marked, .error error)
      | (marked, .ok ()) =>
          settleUpload records clock (upload (syncRequest context records clock)) marked

def synchronizeOfflineQueue (db : LocalDb) (stallId : Uuid) (batchSize : ℤ)
    (clock : SyncClock) (staffOnline lockAcquired : Bool)
    (upload : OfflineSyncRequest → Option OfflineSyncResponse) :
    LocalDb × Except LocalError OfflineSyncResult :=
  match getOfflineSyncContext db stallId with
  | none => (db, .ok .notConfigured)
  | some context =>
      if !staffOnline then (db, .ok .unavailable)
      else if !lockAcquired then (db, .ok .locked)
      else synchronizeLocked db context stallId batchSize clock upload

end Stallorder.SyncEngine
