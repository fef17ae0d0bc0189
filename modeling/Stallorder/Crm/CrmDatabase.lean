import Stallorder.Core.Checks
import Stallorder.Core.CheckedTotals
import Stallorder.Core.SqlText
import Stallorder.Offline.OrderContract

/-!
# The customer tables

Profiles of customers, the records of what they have consented to, their loyalty
accounts with the ledger of points, and the tombstones of erased profiles.
Consents, ledger entries and tombstones are immutable.
-/

namespace Stallorder.CrmDatabase

open OrderContract SqlText

/-! ## Scope and time -/

/-- A stall of an organization. -/
structure CrmScope where
  organizationId : Uuid
  stallId : Uuid
  deriving DecidableEq

def days (count : ℤ) : ℤ := count * 86_400_000

/-! ## Profiles -/

inductive ContactType
  | phone
  | email
  deriving DecidableEq

inductive ProfileStatus
  | active
  | unsubscribed
  | erased
  deriving DecidableEq

structure CrmProfile where
  id : Uuid
  scope : CrmScope
  contactIdentifierHash : Option Text
  contactReference : Option Text
  contactType : Option ContactType
  contactVerifiedAt : Option Timestamp
  status : ProfileStatus
  marketingSuppressedAt : Option Timestamp
  erasedAt : Option Timestamp
  retentionExpiresAt : Timestamp
  createdAt : Timestamp
  updatedAt : Timestamp
  deriving DecidableEq

instance : Indexed CrmProfile Uuid :=
  (KeyIndexed.ofKey (·.id)).addUnique fun profile =>
    profile.contactIdentifierHash.map fun hash => (profile.scope, hash)

/-- A reference into the vault or the key store, of 12 to 300 characters: the scheme and a
nonempty path of letters, digits, dots, underscores, colons, slashes and hyphens. -/
def contactReferenceText (text : Text) : Bool :=
  12 ≤ text.length && text.length ≤ 300
    && [("vault://".toList : Text), "kms://".toList].any fun vault =>
      vault.isPrefixOf text && vault.length < text.length
        && (text.drop vault.length).all fun c => c.isAlphanum || c ∈ ['.', '_', ':', '/', '-']

def lifecycleCheck (row : CrmProfile) : Bool :=
  if row.status = .erased then
    row.contactIdentifierHash.isNone && row.contactReference.isNone && row.contactType.isNone
      && row.contactVerifiedAt.isNone && row.erasedAt.isSome
  else
    row.contactIdentifierHash.isSome && row.contactReference.isSome && row.contactType.isSome
      && row.contactVerifiedAt.isSome && row.erasedAt.isNone

def profileCheck (row : CrmProfile) : Bool :=
  row.contactIdentifierHash.all hexDigest && row.contactReference.all contactReferenceText
    && lifecycleCheck row
    && row.createdAt < row.retentionExpiresAt
    && row.retentionExpiresAt ≤ row.updatedAt + days 366

/-! ## Consents -/

inductive ConsentDecision
  | granted
  | withdrawn
  deriving DecidableEq

structure ConsentRecord where
  id : Uuid
  scope : CrmScope
  profileId : Uuid
  purposeCode : Text
  noticeVersion : Text
  consentSource : Text
  decision : ConsentDecision
  capturedAt : Timestamp
  contactVerifiedAt : Timestamp
  withdrawnAt : Option Timestamp
  withdrawalSource : Option Text
  withdrawalReason : Option Text
  retentionExpiresAt : Timestamp
  requestId : Text
  createdAt : Timestamp
  deriving DecidableEq

instance : KeyIndexed ConsentRecord Uuid := .ofKey (·.id)

def decisionCheck (row : ConsentRecord) : Bool :=
  match row.decision with
  | .granted =>
      row.withdrawnAt.isNone && row.withdrawalSource.isNone && row.withdrawalReason.isNone
  | .withdrawn => row.withdrawnAt.isSome && row.withdrawalSource.any (codeText 1 79)
      && row.withdrawalReason.any (trimmedLength · 1 300)

def consentCheck (row : ConsentRecord) : Bool :=
  codeText 1 79 row.purposeCode && trimmedLength row.noticeVersion 1 80
    && codeText 1 79 row.consentSource && decisionCheck row
    && row.createdAt < row.retentionExpiresAt
    && row.retentionExpiresAt ≤ row.createdAt + days 731
    && trimmedLength row.requestId 1 100

/-! ## Loyalty accounts -/

inductive AccountStatus
  | active
  | closed
  deriving DecidableEq

structure LoyaltyAccount where
  id : Uuid
  scope : CrmScope
  profileId : Uuid
  status : AccountStatus
  openedAt : Timestamp
  closedAt : Option Timestamp
  createdAt : Timestamp
  updatedAt : Timestamp
  deriving DecidableEq

instance : Indexed LoyaltyAccount Uuid :=
  (KeyIndexed.ofKey (·.id)).addUnique fun account => some (account.scope, account.profileId)

def accountCheck (row : LoyaltyAccount) : Bool :=
  match row.status with
  | .active => row.closedAt.isNone
  | .closed => row.closedAt.isSome

/-! ## The ledger of points -/

inductive EntryType
  | earn
  | adjust
  | expire
  | reverse
  deriving DecidableEq

structure LedgerEntry where
  id : Uuid
  scope : CrmScope
  accountId : Uuid
  entryType : EntryType
  pointsDelta : ℤ
  orderId : Option Uuid
  sourceEventType : Text
  sourceEventId : Text
  reversalOfLedgerId : Option Uuid
  actorProfileId : Option Uuid
  createdAt : Timestamp
  deriving DecidableEq

/-- The event that an entry was posted for. -/
def LedgerEntry.event (entry : LedgerEntry) : CrmScope × Text × Text :=
  (entry.scope, entry.sourceEventType, entry.sourceEventId)

instance : Indexed LedgerEntry Uuid :=
  ((KeyIndexed.ofKey (·.id)).addUnique fun entry : LedgerEntry =>
    some entry.event).addUnique (·.reversalOfLedgerId)

def deltaCheck (row : LedgerEntry) : Bool :=
  match row.entryType with
  | .earn => 0 < row.pointsDelta && row.reversalOfLedgerId.isNone
  | .adjust => row.pointsDelta ≠ 0 && row.reversalOfLedgerId.isNone
  | .expire => row.pointsDelta < 0 && row.reversalOfLedgerId.isNone
  | .reverse => row.pointsDelta < 0 && row.reversalOfLedgerId.isSome

def entryCheck (row : LedgerEntry) : Bool :=
  deltaCheck row && codeText 1 79 row.sourceEventType && trimmedLength row.sourceEventId 1 160

/-! ## Tombstones -/

structure Tombstone where
  id : Uuid
  scope : CrmScope
  erasedProfileId : Uuid
  subjectHash : Text
  erasureReason : Text
  erasedAt : Timestamp
  auditRetentionExpiresAt : Timestamp
  requestId : Text
  deriving DecidableEq

instance : Indexed Tombstone Uuid :=
  (KeyIndexed.ofKey (·.id)).addUnique fun tombstone =>
    some (tombstone.scope, tombstone.subjectHash)

def tombstoneCheck (row : Tombstone) : Bool :=
  hexDigest row.subjectHash && trimmedLength row.erasureReason 1 300
    && row.erasedAt < row.auditRetentionExpiresAt
    && row.auditRetentionExpiresAt ≤ row.erasedAt + days 2191
    && trimmedLength row.requestId 1 100

/-! ## The database -/

structure StallOrder where
  id : Uuid
  scope : CrmScope
  deriving DecidableEq

structure CrmDb where
  stalls : List CrmScope
  orders : List StallOrder
  /-- The profiles of the staff, whom a ledger entry may name. -/
  actors : List Uuid
  profiles : CheckedTable CrmProfile profileCheck
  consents : CheckedTable ConsentRecord consentCheck
  accounts : CheckedTable LoyaltyAccount accountCheck
  ledger : CheckedTable LedgerEntry entryCheck
  tombstones : CheckedTable Tombstone tombstoneCheck

def CrmDb.opened (stalls : List CrmScope) (orders : List StallOrder) (actors : List Uuid) :
    CrmDb where
  stalls := stalls
  orders := orders
  actors := actors
  profiles := .empty
  consents := .empty
  accounts := .empty
  ledger := .empty
  tombstones := .empty

end Stallorder.CrmDatabase
