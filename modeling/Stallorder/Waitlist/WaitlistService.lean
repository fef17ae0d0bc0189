import Stallorder.Core.Run
import Stallorder.Waitlist.WaitlistDatabase

/-!
# Waitlist functions

A party joins the queue of a stall and staff take it through its visit.  Each
call is one transaction: it takes effect at once, and its time is the start of
the transaction.  So the times of the calls need not be in their order.
-/

namespace Stallorder.WaitlistService

open OrderContract Checks SqlText WaitlistDatabase FirstOf

/-! ## Results -/

inductive RefusalCode
  | stallNotFound
  | disabled
  | invalidInput
  | rateLimited
  | alreadyActive
  | tokenCollision
  | notFound
  | versionConflict
  | transitionInvalid
  | holdActive
  | seatingContractInvalid
  | operationInvalid
  | seatingTokenInvalid
  | seatingTokenUsed
  | seatingTokenExpired
  | seatingInputInvalid
  | dineInQrUnavailable
  | dineInUnavailable
  | sessionTokenCollision
  deriving DecidableEq

/-- How a call ends; a call that raises an exception is rolled back. -/
inductive CallResult
  | refused (code : RefusalCode)
  | raised
  | joined (entry : WaitlistEntry) (position : ℕ)
  | changed (entry : WaitlistEntry)
  | session (session : OrderSession)
  deriving DecidableEq

def requestIdValid (requestId : Text) : Bool := trimmedLength requestId 1 100

/-! ## Joining -/

structure JoinCall where
  entryId : Uuid
  stallId : Uuid
  partySize : ℤ
  displayName : Text
  publicTokenHash : Text
  duplicateKeyHash : Text
  ipHash : Text
  requestId : Text
  /-- The rate limits of the address and of the device allow the call. -/
  ipAllowed : Bool
  deviceAllowed : Bool

def joinChecks (surroundings : Surroundings) (call : JoinCall) :
    Except RefusalCode WaitlistStall := do
  let stall ← orFail
    (surroundings.stalls.find? fun stall => stall.id = call.stallId && stall.isActive)
    .stallNotFound
  failWhen (!surroundings.waitlistEnabled stall.organizationId call.stallId) .disabled
  failWhen (call.partySize < 1 || 20 < call.partySize || !trimmedLength call.displayName 1 80
    || !hexDigest call.publicTokenHash || !hexDigest call.duplicateKeyHash
    || !hexDigest call.ipHash || !requestIdValid call.requestId) .invalidInput
  return stall

def newEntry (stall : WaitlistStall) (call : JoinCall) (now : Timestamp) : WaitlistEntry where
  id := call.entryId
  organizationId := stall.organizationId
  stallId := call.stallId
  publicTokenHash := call.publicTokenHash
  duplicateKeyHash := call.duplicateKeyHash
  displayName := btrim call.displayName
  partySize := call.partySize
  status := .waiting
  stateVersion := 1
  joinedAt := now
  notifiedAt := none
  holdExpiresAt := none
  seatedAt := none
  cancelledAt := none
  noShowAt := none
  assignedDiningTableId := none
  seatingExchangeTokenHash := none
  seatingExchangeExpiresAt := none
  seatingExchangeConsumedAt := none
  retentionExpiresAt := now + days 30
  createdAt := now

def activeDuplicate (db : WaitlistDb) (call : JoinCall) : Bool :=
  db.entries.table.rows.any fun entry => entry.stallId = call.stallId
    && entry.duplicateKeyHash = call.duplicateKeyHash && entry.isActive

def joinRecord (stall : WaitlistStall) (call : JoinCall) (entryId : Option Uuid)
    (action : AuditAction) : AuditRecord where
  organizationId := stall.organizationId
  stallId := call.stallId
  actorProfileId := none
  entryId := entryId
  action := action
  requestId := call.requestId
  ipHash := call.ipHash

def joinDigitalWaitlist (db : WaitlistDb) (surroundings : Surroundings) (call : JoinCall)
    (now : Timestamp) : WaitlistDb × CallResult :=
  match joinChecks surroundings call with
  | .error code => (db, .refused code)
  | .ok stall =>
      if !(call.ipAllowed && call.deviceAllowed) then
        (db.record (joinRecord stall call none (.denied .rateLimited)), .refused .rateLimited)
      else if activeDuplicate db call then
        (db.record (joinRecord stall call none (.denied .activeEntryExists)),
          .refused .alreadyActive)
      else
        match db.entries.insert? (newEntry stall call now) with
        | none => (db, .refused .tokenCollision)
        | some entries =>
            let joined := { db with entries }
            let position := joined.position (newEntry stall call now)
            (joined.record (joinRecord stall call (some call.entryId)
              (.joined call.partySize position)), .joined (newEntry stall call now) position)

/-! ## Transitions -/

structure TransitionCall where
  organizationId : Uuid
  stallId : Uuid
  entryId : Uuid
  expectedVersion : ℤ
  operation : Option Text
  diningTableId : Option Uuid
  seatingTokenHash : Option Text
  actorProfileId : Option Uuid
  ipHash : Text
  requestId : Text

def operationOf (text : Option Text) : Option WaitlistOperation :=
  let name := (btrim (text.getD [])).map Char.toUpper
  if name = "NOTIFY".toList then some .notify
  else if name = "CANCEL".toList then some .cancel
  else if name = "MARK_NO_SHOW".toList then some .markNoShow
  else if name = "SEAT".toList then some .seat
  else none

def qrCodeUsable (organizationId stallId tableId : Uuid) (now : Timestamp) (qr : TableQrCode) :
    Bool :=
  qr.organizationId = organizationId && qr.stallId = stallId && qr.diningTableId = some tableId
    && qr.isActive && qr.expiresAt.all (now < ·)

def tableUsable (surroundings : Surroundings) (organizationId stallId tableId : Uuid) : Bool :=
  surroundings.diningTables.any fun table => table.id = tableId
    && table.organizationId = organizationId && table.stallId = stallId && table.isActive

/-- A missing token is left to the trigger. -/
def seatingContract (surroundings : Surroundings) (call : TransitionCall) (now : Timestamp) :
    Bool :=
  call.seatingTokenHash.all hexDigest && call.diningTableId.any fun tableId =>
    tableUsable surroundings call.organizationId call.stallId tableId
      && surroundings.qrCodes.any (qrCodeUsable call.organizationId call.stallId tableId now)

/-- The row after an operation, when the entry allows it. -/
def changedEntry (surroundings : Surroundings) (call : TransitionCall) (now : Timestamp)
    (entry : WaitlistEntry) (operation : WaitlistOperation) :
    Except RefusalCode WaitlistEntry := do
  let next := { entry with stateVersion := entry.stateVersion + 1 }
  match operation with
  | .notify =>
      failWhen (entry.status ≠ .waiting) .transitionInvalid
      return { next with
        status := .notified
        notifiedAt := some now
        holdExpiresAt := some (now + minutes 10) }
  | .cancel =>
      failWhen (!entry.isActive) .transitionInvalid
      return { next with status := .cancelled, cancelledAt := some now }
  | .markNoShow =>
      failWhen (entry.status ≠ .notified) .transitionInvalid
      failWhen (entry.holdExpiresAt.all (now < ·)) .holdActive
      return { next with status := .noShow, noShowAt := some now }
  | .seat =>
      failWhen (entry.status ≠ .notified) .transitionInvalid
      failWhen (!seatingContract surroundings call now) .seatingContractInvalid
      return { next with
        status := .seated
        seatedAt := some now
        assignedDiningTableId := call.diningTableId
        seatingExchangeTokenHash := call.seatingTokenHash
        seatingExchangeExpiresAt := some (now + minutes 15) }

def transitionChecks (db : WaitlistDb) (surroundings : Surroundings) (call : TransitionCall) :
    Except RefusalCode (WaitlistEntry × WaitlistOperation) := do
  failWhen (!surroundings.waitlistEnabled call.organizationId call.stallId) .disabled
  let entry ← orFail (db.entries.findFirst fun entry => entry.id = call.entryId
    && entry.organizationId = call.organizationId && entry.stallId = call.stallId) .notFound
  failWhen (entry.stateVersion ≠ call.expectedVersion) .versionConflict
  let operation ← orFail (operationOf call.operation) .operationInvalid
  return (entry, operation)

def readyNotification (entry : WaitlistEntry) : WaitlistNotification where
  organizationId := entry.organizationId
  stallId := entry.stallId
  entryId := entry.id
  holdExpiresAt := entry.holdExpiresAt

/-- A party that is called is told so. -/
def notify (db : WaitlistDb) (operation : WaitlistOperation) (entry : WaitlistEntry) :
    WaitlistDb :=
  if operation = .notify then
    { db with notifications := db.notifications ++ [readyNotification entry] }
  else db

def changeRecord (call : TransitionCall) (entry : WaitlistEntry)
    (operation : WaitlistOperation) : AuditRecord where
  organizationId := entry.organizationId
  stallId := entry.stallId
  actorProfileId := call.actorProfileId
  entryId := some entry.id
  action := .stateChanged operation entry.status entry.stateVersion entry.assignedDiningTableId
  requestId := call.requestId
  ipHash := call.ipHash

def transitionDigitalWaitlistEntry (db : WaitlistDb) (surroundings : Surroundings)
    (call : TransitionCall) (now : Timestamp) : WaitlistDb × CallResult :=
  match transitionChecks db surroundings call with
  | .error code => (db, .refused code)
  | .ok (entry, operation) =>
      match changedEntry surroundings call now entry operation with
      | .error code => (db, .refused code)
      | .ok changed =>
          match db.updateEntry now entry changed with
          | none => (db, .raised)
          | some updated =>
              ((notify updated operation changed).record (changeRecord call changed operation),
                .changed changed)

/-! ## Seating -/

structure ExchangeCall where
  publicTokenHash : Text
  seatingTokenHash : Option Text
  sessionId : Uuid
  sessionTokenHash : Text
  deviceHash : Text
  ipHash : Text
  requestId : Text

def exchangeChecks (db : WaitlistDb) (surroundings : Surroundings) (call : ExchangeCall)
    (now : Timestamp) : Except RefusalCode WaitlistEntry := do
  let entry ← orFail
    (db.entries.findFirst fun entry => entry.publicTokenHash = call.publicTokenHash)
    .seatingTokenInvalid
  failWhen (!surroundings.waitlistEnabled entry.organizationId entry.stallId) .disabled
  failWhen (entry.status ≠ .seated || entry.seatingExchangeTokenHash ≠ call.seatingTokenHash)
    .seatingTokenInvalid
  failWhen entry.seatingExchangeConsumedAt.isSome .seatingTokenUsed
  failWhen (entry.seatingExchangeExpiresAt.all (· ≤ now)) .seatingTokenExpired
  failWhen (!hexDigest call.sessionTokenHash || !hexDigest call.deviceHash
    || !hexDigest call.ipHash) .seatingInputInvalid
  return entry

/-- The newest code of the table. -/
def seatingQrCode (surroundings : Surroundings) (entry : WaitlistEntry) (tableId : Uuid)
    (now : Timestamp) : Option TableQrCode :=
  if tableUsable surroundings entry.organizationId entry.stallId tableId then
    (firstOf (fun qr : TableQrCode => toLex (-qr.createdAt, qr.id)) 1
      (surroundings.qrCodes.filter
        (qrCodeUsable entry.organizationId entry.stallId tableId now))).head?
  else none

def seatingSession (surroundings : Surroundings) (call : ExchangeCall) (entry : WaitlistEntry)
    (tableId : Uuid) (now : Timestamp) : Except RefusalCode OrderSession := do
  let qr ← orFail (seatingQrCode surroundings entry tableId now) .dineInQrUnavailable
  let stall ← orFail (surroundings.stalls.find? fun stall => stall.id = entry.stallId
    && stall.organizationId = entry.organizationId && stall.isActive
    && stall.dineInSessionTtlSeconds.isSome) .dineInUnavailable
  return {
    id := call.sessionId
    tenantId := stall.tenantId
    organizationId := entry.organizationId
    stallId := entry.stallId
    qrCodeId := qr.id
    tokenHash := call.sessionTokenHash
    deviceHash := call.deviceHash
    ipHash := call.ipHash
    expiresAt := now + 1000 * stall.dineInSessionTtlSeconds.getD 0
    createdAt := now }

def exchangeRecord (call : ExchangeCall) (entry : WaitlistEntry) (tableId : Uuid) :
    AuditRecord where
  organizationId := entry.organizationId
  stallId := entry.stallId
  actorProfileId := none
  entryId := some entry.id
  action := .seatingExchanged call.sessionId tableId
  requestId := call.requestId
  ipHash := call.ipHash

def consumedEntry (entry : WaitlistEntry) (now : Timestamp) : WaitlistEntry :=
  { entry with
    stateVersion := entry.stateVersion + 1
    seatingExchangeConsumedAt := some now }

def exchangeDigitalWaitlistSeating (db : WaitlistDb) (surroundings : Surroundings)
    (call : ExchangeCall) (now : Timestamp) : WaitlistDb × CallResult :=
  match exchangeChecks db surroundings call now with
  | .error code => (db, .refused code)
  | .ok entry =>
      match entry.assignedDiningTableId with
      | none => (db, .refused .dineInQrUnavailable)
      | some tableId =>
          match seatingSession surroundings call entry tableId now with
          | .error code => (db, .refused code)
          | .ok session =>
              match db.sessions.insert? session with
              | none => (db, .refused .sessionTokenCollision)
              | some sessions =>
                  match { db with sessions }.updateEntry now entry (consumedEntry entry now) with
                  | none => (db, .raised)
                  | some consumed =>
                      (consumed.record (exchangeRecord call entry tableId), .session session)

/-! ## Purging -/

def purgeExpired (db : WaitlistDb) (now : Timestamp) : WaitlistDb :=
  { db with
    entries := db.entries.filter fun entry => now < entry.retentionExpiresAt
    notifications := db.notifications.filter fun notification =>
      db.entries.table.rows.any fun entry => entry.id = notification.entryId
        && now < entry.retentionExpiresAt }

/-! ## Runs -/

inductive WaitlistCommand
  | join (surroundings : Surroundings) (call : JoinCall) (now : Timestamp)
  | transition (surroundings : Surroundings) (call : TransitionCall) (now : Timestamp)
  | exchange (surroundings : Surroundings) (call : ExchangeCall) (now : Timestamp)
  | purge (now : Timestamp)
  /-- Another function issues a session. -/
  | otherSession (session : OrderSession)

def step (db : WaitlistDb) : WaitlistCommand → WaitlistDb
  | .join surroundings call now => (joinDigitalWaitlist db surroundings call now).1
  | .transition surroundings call now =>
      (transitionDigitalWaitlistEntry db surroundings call now).1
  | .exchange surroundings call now => (exchangeDigitalWaitlistSeating db surroundings call now).1
  | .purge now => purgeExpired db now
  | .otherSession session =>
      (db.sessions.insert? session).elim db fun sessions => { db with sessions }

end Stallorder.WaitlistService
