import Stallorder.Core.CheckedTotals
import Stallorder.Core.Checks
import Stallorder.Core.FirstOf
import Stallorder.Core.SqlText
import Stallorder.Offline.OrderContract

/-!
# The waitlist tables

The parties that wait for a table of a stall.  A party has one active entry at
most, and the row of an entry has the shape of its status.  A trigger lets an
entry pass on from one status to the next only.
-/

namespace Stallorder.WaitlistDatabase

open OrderContract SqlText

/-! ## Entries -/

inductive WaitlistStatus
  | waiting
  | notified
  | seated
  | cancelled
  | noShow
  deriving DecidableEq

structure WaitlistEntry where
  id : Uuid
  organizationId : Uuid
  stallId : Uuid
  publicTokenHash : Text
  duplicateKeyHash : Text
  displayName : Text
  partySize : ℤ
  status : WaitlistStatus
  stateVersion : ℤ
  joinedAt : Timestamp
  notifiedAt : Option Timestamp
  holdExpiresAt : Option Timestamp
  seatedAt : Option Timestamp
  cancelledAt : Option Timestamp
  noShowAt : Option Timestamp
  assignedDiningTableId : Option Uuid
  seatingExchangeTokenHash : Option Text
  seatingExchangeExpiresAt : Option Timestamp
  seatingExchangeConsumedAt : Option Timestamp
  retentionExpiresAt : Timestamp
  createdAt : Timestamp
  deriving DecidableEq

namespace WaitlistEntry

def isActive (entry : WaitlistEntry) : Bool :=
  entry.status = .waiting || entry.status = .notified

/-- The place of an entry in the queue of its stall. -/
def queueKey (entry : WaitlistEntry) : Timestamp ×ₗ Uuid := toLex (entry.joinedAt, entry.id)

def unseated (entry : WaitlistEntry) : Bool :=
  entry.seatedAt.isNone && entry.assignedDiningTableId.isNone
    && entry.seatingExchangeTokenHash.isNone && entry.seatingExchangeExpiresAt.isNone
    && entry.seatingExchangeConsumedAt.isNone

def wasNotified (entry : WaitlistEntry) : Bool :=
  entry.notifiedAt.isSome && entry.holdExpiresAt.isSome

def stateShape (entry : WaitlistEntry) : Bool :=
  match entry.status with
  | .waiting => entry.notifiedAt.isNone && entry.holdExpiresAt.isNone && entry.unseated
      && entry.cancelledAt.isNone && entry.noShowAt.isNone
  | .notified => entry.wasNotified && entry.unseated
      && entry.cancelledAt.isNone && entry.noShowAt.isNone
  | .seated => entry.wasNotified && entry.seatedAt.isSome && entry.assignedDiningTableId.isSome
      && entry.seatingExchangeTokenHash.isSome && entry.seatingExchangeExpiresAt.isSome
      && entry.cancelledAt.isNone && entry.noShowAt.isNone
  | .cancelled => entry.unseated && entry.cancelledAt.isSome && entry.noShowAt.isNone
  | .noShow => entry.wasNotified && entry.unseated && entry.cancelledAt.isNone
      && entry.noShowAt.isSome

end WaitlistEntry

instance : Indexed WaitlistEntry Uuid :=
  (((KeyIndexed.ofKey (·.id)).addUnique fun entry => some entry.publicTokenHash).addUnique
    fun entry => if entry.isActive then some (entry.stallId, entry.duplicateKeyHash)
      else none).addUnique
    fun entry => entry.seatingExchangeTokenHash

def minutes (count : ℤ) : ℤ := count * 60_000

def days (count : ℤ) : ℤ := count * 86_400_000

def waitlistCheck (entry : WaitlistEntry) : Bool :=
  hexDigest entry.publicTokenHash && hexDigest entry.duplicateKeyHash
    && trimmedLength entry.displayName 1 80
    && 1 ≤ entry.partySize && entry.partySize ≤ 20 && 0 < entry.stateVersion
    && entry.seatingExchangeTokenHash.all hexDigest
    && entry.createdAt < entry.retentionExpiresAt
    && entry.retentionExpiresAt ≤ entry.createdAt + days 30
    && entry.stateShape

/-- The status that may follow at a time: a party is given up only after its hold. -/
def mayFollow (now : Timestamp) (old new : WaitlistEntry) : Bool :=
  match old.status, new.status with
  | .waiting, .notified | .waiting, .cancelled => true
  | .notified, .seated | .notified, .cancelled => true
  | .notified, .noShow => old.holdExpiresAt.any (· ≤ now)
  | .seated, .seated => old.seatingExchangeConsumedAt.isNone && new.seatingExchangeConsumedAt.isSome
  | _, _ => false

/-- The trigger before an update. -/
def transitionGuard (now : Timestamp) (old new : WaitlistEntry) : Bool :=
  new.organizationId = old.organizationId && new.stallId = old.stallId
    && new.publicTokenHash = old.publicTokenHash && new.duplicateKeyHash = old.duplicateKeyHash
    && new.joinedAt = old.joinedAt && new.createdAt = old.createdAt
    && new.retentionExpiresAt = old.retentionExpiresAt
    && new.stateVersion = old.stateVersion + 1
    && mayFollow now old new
    && (new.status ≠ .seated || (new.assignedDiningTableId.isSome
      && new.seatingExchangeTokenHash.isSome && new.seatingExchangeExpiresAt.isSome))

/-! ## What happened -/

inductive WaitlistOperation
  | notify
  | cancel
  | markNoShow
  | seat
  deriving DecidableEq

inductive DenialReason
  | rateLimited
  | activeEntryExists
  deriving DecidableEq

inductive AuditAction
  | denied (reason : DenialReason)
  | joined (partySize : ℤ) (position : ℕ)
  | stateChanged (operation : WaitlistOperation) (status : WaitlistStatus) (stateVersion : ℤ)
      (diningTableId : Option Uuid)
  | seatingExchanged (orderSessionId diningTableId : Uuid)
  deriving DecidableEq

structure AuditRecord where
  organizationId : Uuid
  stallId : Uuid
  actorProfileId : Option Uuid
  entryId : Option Uuid
  action : AuditAction
  requestId : Text
  ipHash : Text
  deriving DecidableEq

structure WaitlistNotification where
  organizationId : Uuid
  stallId : Uuid
  entryId : Uuid
  holdExpiresAt : Option Timestamp
  deriving DecidableEq

structure OrderSession where
  id : Uuid
  tenantId : Uuid
  organizationId : Uuid
  stallId : Uuid
  qrCodeId : Uuid
  tokenHash : Text
  deviceHash : Text
  ipHash : Text
  expiresAt : Timestamp
  createdAt : Timestamp
  deriving DecidableEq

instance : Indexed OrderSession Uuid :=
  (KeyIndexed.ofKey (·.id)).addUnique fun session => some session.tokenHash

/-! ## The database -/

structure WaitlistStall where
  id : Uuid
  tenantId : Uuid
  organizationId : Uuid
  isActive : Bool
  /-- The lifetime of its sessions in seconds, when it takes orders at tables. -/
  dineInSessionTtlSeconds : Option ℤ

structure DiningTable where
  id : Uuid
  organizationId : Uuid
  stallId : Uuid
  isActive : Bool

structure TableQrCode where
  id : Uuid
  organizationId : Uuid
  stallId : Uuid
  diningTableId : Option Uuid
  isActive : Bool
  expiresAt : Option Timestamp
  createdAt : Timestamp

/-- What the functions read besides the waitlist, as it is at the time of a call. -/
structure Surroundings where
  stalls : List WaitlistStall
  diningTables : List DiningTable
  qrCodes : List TableQrCode
  waitlistEnabled : Uuid → Uuid → Bool

structure WaitlistDb where
  entries : CheckedTable WaitlistEntry waitlistCheck
  notifications : List WaitlistNotification
  sessions : Table OrderSession
  auditLogs : List AuditRecord

def WaitlistDb.empty : WaitlistDb where
  entries := .empty
  notifications := []
  sessions := .empty
  auditLogs := []

def WaitlistDb.record (db : WaitlistDb) (entry : AuditRecord) : WaitlistDb :=
  { db with auditLogs := db.auditLogs ++ [entry] }

/-- Write an entry in the place of its old row, unless the trigger or a constraint refuses it. -/
def WaitlistDb.updateEntry (db : WaitlistDb) (now : Timestamp) (old new : WaitlistEntry) :
    Option WaitlistDb :=
  if transitionGuard now old new then
    (db.entries.updateWhere? (fun row => row.id = old.id) fun _ => new).map fun entries =>
      { db with entries }
  else none

/-- The active entries of a stall that are not behind an entry. -/
def WaitlistDb.position (db : WaitlistDb) (entry : WaitlistEntry) : ℕ :=
  db.entries.table.rows.countP fun other =>
    other.stallId = entry.stallId && other.isActive && other.queueKey ≤ entry.queueKey

end Stallorder.WaitlistDatabase
