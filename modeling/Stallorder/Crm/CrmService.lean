import Stallorder.Core.FirstOf
import Stallorder.Crm.LoyaltyEvents

/-!
# Consents, withdrawals and erasures

The functions by which customers opt in and withdraw, and by which a profile is
erased.  A function that ends in an exception of its own handler answers with a
code; one that ends in any other exception leaves the database as it was and
raises it.
-/

namespace Stallorder.CrmService

open OrderContract SqlText Checks CrmDatabase LoyaltyEvents

inductive CrmRefusal
  | disabled
  | stallScopeInvalid
  | contactNotVerified
  | explicitOptInRequired
  | consentInputInvalid
  | withdrawalInputInvalid
  | profileNotFound
  | unsubscribeInputInvalid
  | erasureInputInvalid
  | erasureAlreadyRecorded
  deriving DecidableEq

inductive CrmAnswer
  | refused (code : CrmRefusal)
  | profileCreated (profileId : Uuid)
  | consentRecorded (profileId : Uuid)
  | consentAlreadyWithdrawn
  | consentWithdrawn (profileId : Uuid)
  | profileUnsubscribed (profileId : Uuid) (purposesWithdrawn : ℕ)
  | profileErased (tombstoneId : Uuid)
  | eventPosted
  | raised
  deriving DecidableEq

/-- What a function leaves when it may end early with an answer. -/
def settle (db : CrmDb) (outcome : Except CrmAnswer (CrmDb × CrmAnswer)) : CrmDb × CrmAnswer :=
  match outcome with
  | .ok result => result
  | .error answer => (db, answer)

/-! ## Opting in -/

structure OptInCall where
  enabled : Bool
  scope : CrmScope
  contactIdentifierHash : Text
  contactReference : Text
  contactType : Text
  contactVerifiedAt : Option Timestamp
  purposeCode : Text
  noticeVersion : Text
  consentSource : Text
  lawfulBasis : Text
  decision : Text
  requestId : Text
  /-- What the database generates for the rows it inserts. -/
  profileId : Uuid
  consentId : Uuid
  accountId : Uuid

def contactTypeOf (text : Text) : Option ContactType :=
  if text = "PHONE".toList then some .phone
  else if text = "EMAIL".toList then some .email
  else none

/-- The purposes that are like `MARKETING_%`, where the underscore is any character. -/
def marketingPurpose (purposeCode : Text) : Bool :=
  "MARKETING".toList.isPrefixOf purposeCode && 10 ≤ purposeCode.length

def loyaltyMembership : Text := "LOYALTY_MEMBERSHIP".toList

def optInChecks (stalls : List CrmScope) (now : Timestamp) (call : OptInCall) :
    Except CrmRefusal (ContactType × Timestamp) := do
  failWhen (!call.enabled) .disabled
  failWhen (call.scope ∉ stalls) .stallScopeInvalid
  let verifiedAt ← orFail call.contactVerifiedAt .contactNotVerified
  failWhen (now + 300_000 < verifiedAt) .contactNotVerified
  failWhen (call.decision ≠ "EXPLICIT_OPT_IN".toList) .explicitOptInRequired
  failWhen (!hexDigest call.contactIdentifierHash || !contactReferenceText call.contactReference
    || !codeText 1 79 call.purposeCode || !trimmedLength call.noticeVersion 1 80
    || !codeText 1 79 call.consentSource || call.lawfulBasis ≠ "CONSENT".toList
    || !trimmedLength call.requestId 1 100) .consentInputInvalid
  let contactType ← orFail (contactTypeOf call.contactType) .consentInputInvalid
  return (contactType, verifiedAt)

def ofContact (scope : CrmScope) (hash : Text) (profile : CrmProfile) : Bool :=
  profile.scope = scope && profile.contactIdentifierHash = some hash

/-- The profile of the contact at the stall. -/
def profileOfContact (db : CrmDb) (scope : CrmScope) (hash : Text) : Option CrmProfile :=
  db.profiles.findFirst (ofContact scope hash)

def newProfile (now : Timestamp) (call : OptInCall) (contactType : ContactType)
    (verifiedAt : Timestamp) : CrmProfile where
  id := call.profileId
  scope := call.scope
  contactIdentifierHash := some call.contactIdentifierHash
  contactReference := some call.contactReference
  contactType := some contactType
  contactVerifiedAt := some verifiedAt
  status := .active
  marketingSuppressedAt := none
  erasedAt := none
  retentionExpiresAt := now + days 365
  createdAt := now
  updatedAt := now

def optedIn (now : Timestamp) (call : OptInCall) (contactType : ContactType)
    (verifiedAt : Timestamp) (profile : CrmProfile) : CrmProfile :=
  { profile with
    contactReference := some call.contactReference
    contactType := some contactType
    contactVerifiedAt := some verifiedAt
    status := if marketingPurpose call.purposeCode then .active else profile.status
    marketingSuppressedAt :=
      if marketingPurpose call.purposeCode then none else profile.marketingSuppressedAt
    retentionExpiresAt := max profile.retentionExpiresAt (now + days 365)
    updatedAt := now }

/-- The profile that the insertion stores or, on a conflict, updates. -/
def upsertProfile (db : CrmDb) (now : Timestamp) (call : OptInCall) (contactType : ContactType)
    (verifiedAt : Timestamp) : Except CrmAnswer (CrmDb × Uuid × Bool) :=
  match profileOfContact db call.scope call.contactIdentifierHash with
  | some profile => do
      let profiles ← orFail (db.profiles.updateWhere? (fun row => row.id = profile.id)
        (optedIn now call contactType verifiedAt)) (.refused .consentInputInvalid)
      return ({ db with profiles }, profile.id, false)
  | none => do
      let row := newProfile now call contactType verifiedAt
      failWhen (!profileCheck row) (.refused .consentInputInvalid)
      let profiles ← orFail (db.profiles.insert? row) .raised
      return ({ db with profiles }, row.id, true)

def grantedConsent (now : Timestamp) (call : OptInCall) (profileId : Uuid)
    (verifiedAt : Timestamp) : ConsentRecord where
  id := call.consentId
  scope := call.scope
  profileId := profileId
  purposeCode := call.purposeCode
  noticeVersion := btrim call.noticeVersion
  consentSource := call.consentSource
  decision := .granted
  capturedAt := now
  contactVerifiedAt := verifiedAt
  withdrawnAt := none
  withdrawalSource := none
  withdrawalReason := none
  retentionExpiresAt := now + days 730
  requestId := call.requestId.take 100
  createdAt := now

/-- Insert a consent; `violated` is what becomes of a violated check constraint. -/
def insertConsent (db : CrmDb) (row : ConsentRecord) (violated : CrmAnswer) :
    Except CrmAnswer CrmDb := do
  failWhen (!consentCheck row) violated
  let consents ← orFail (db.consents.insert? row) .raised
  return { db with consents }

def openAccount (now : Timestamp) (call : OptInCall) (profileId : Uuid) : LoyaltyAccount where
  id := call.accountId
  scope := call.scope
  profileId := profileId
  status := .active
  openedAt := now
  closedAt := none
  createdAt := now
  updatedAt := now

def reopened (now : Timestamp) (account : LoyaltyAccount) : LoyaltyAccount :=
  { account with status := .active, closedAt := none, updatedAt := now }

def accountOfProfile (db : CrmDb) (scope : CrmScope) (profileId : Uuid) : Option LoyaltyAccount :=
  db.accounts.findFirst fun account => account.scope = scope && account.profileId = profileId

def upsertAccount (db : CrmDb) (now : Timestamp) (call : OptInCall) (profileId : Uuid) :
    Except CrmAnswer CrmDb :=
  match accountOfProfile db call.scope profileId with
  | some account => do
      let accounts ← orFail (db.accounts.updateWhere? (fun row => row.id = account.id)
        (reopened now)) (.refused .consentInputInvalid)
      return { db with accounts }
  | none => do
      let accounts ← orFail (db.accounts.insert? (openAccount now call profileId)) .raised
      return { db with accounts }

def joinLoyalty (db : CrmDb) (now : Timestamp) (call : OptInCall) (profileId : Uuid) :
    Except CrmAnswer CrmDb :=
  if call.purposeCode = loyaltyMembership then upsertAccount db now call profileId else .ok db

def optIn (db : CrmDb) (now : Timestamp) (call : OptInCall) : CrmDb × CrmAnswer :=
  settle db do
    let (contactType, verifiedAt) ← (optInChecks db.stalls now call).mapError .refused
    let (db, profileId, created) ← upsertProfile db now call contactType verifiedAt
    let db ← insertConsent db (grantedConsent now call profileId verifiedAt)
      (.refused .consentInputInvalid)
    let db ← joinLoyalty db now call profileId
    return (db, if created then .profileCreated profileId else .consentRecorded profileId)

/-! ## Withdrawing -/

structure WithdrawalCall where
  enabled : Bool
  scope : CrmScope
  profileId : Uuid
  purposeCode : Text
  withdrawalSource : Text
  withdrawalReason : Text
  requestId : Text
  consentId : Uuid

def isLive (scope : CrmScope) (profileId : Uuid) (profile : CrmProfile) : Bool :=
  profile.id = profileId && profile.scope = scope && profile.status ≠ .erased

/-- The profile of a call, unless it is erased. -/
def liveProfile (db : CrmDb) (scope : CrmScope) (profileId : Uuid) : Option CrmProfile :=
  db.profiles.findFirst (isLive scope profileId)

/-- The order of `captured_at desc, id desc`. -/
def latestFirst (row : ConsentRecord) : (Timestamp ×ₗ Uuid)ᵒᵈ :=
  OrderDual.toDual (toLex (row.capturedAt, row.id))

def latestConsent (consents : List ConsentRecord) (scope : CrmScope) (profileId : Uuid)
    (purposeCode : Text) : Option ConsentRecord :=
  (FirstOf.firstOf latestFirst 1 (consents.filter fun row =>
    row.scope = scope && row.profileId = profileId && row.purposeCode = purposeCode)).head?

def withdrawnConsent (now : Timestamp) (id : Uuid) (latest : ConsentRecord)
    (source reason requestId : Text) : ConsentRecord :=
  { latest with
    id := id
    consentSource := source
    decision := .withdrawn
    capturedAt := now
    withdrawnAt := some now
    withdrawalSource := some source
    withdrawalReason := some reason
    retentionExpiresAt := now + days 730
    requestId := requestId.take 100
    createdAt := now }

def withdrawalChecks (found : Bool) (call : WithdrawalCall) : Except CrmRefusal Unit := do
  failWhen (!call.enabled) .disabled
  failWhen (!codeText 1 79 call.purposeCode || !codeText 1 79 call.withdrawalSource
    || !trimmedLength call.withdrawalReason 1 300 || !trimmedLength call.requestId 1 100)
    .withdrawalInputInvalid
  failWhen (!found) .profileNotFound

def unsubscribed (now : Timestamp) (suppressedAt : CrmProfile → Timestamp)
    (profile : CrmProfile) : CrmProfile :=
  { profile with
    status := .unsubscribed
    marketingSuppressedAt := some (suppressedAt profile)
    updatedAt := now }

def closed (now : Timestamp) (account : LoyaltyAccount) : LoyaltyAccount :=
  { account with
    status := .closed
    closedAt := some (account.closedAt.getD now)
    updatedAt := now }

def closeAccounts (db : CrmDb) (now : Timestamp) (scope : CrmScope) (profileId : Uuid) :
    Except CrmAnswer CrmDb := do
  let accounts ← orFail (db.accounts.updateWhere? (fun account => account.scope = scope
    && account.profileId = profileId && account.status = .active) (closed now)) .raised
  return { db with accounts }

def suppressMarketing (db : CrmDb) (now : Timestamp) (scope : CrmScope) (profileId : Uuid)
    (suppressedAt : CrmProfile → Timestamp) : Except CrmAnswer CrmDb := do
  let profiles ← orFail (db.profiles.updateWhere?
    (fun profile => profile.id = profileId && profile.scope = scope)
    (unsubscribed now suppressedAt)) .raised
  return { db with profiles }

def applyWithdrawal (db : CrmDb) (now : Timestamp) (call : WithdrawalCall) :
    Except CrmAnswer CrmDb :=
  if marketingPurpose call.purposeCode then
    suppressMarketing db now call.scope call.profileId fun _ => now
  else if call.purposeCode = loyaltyMembership then
    closeAccounts db now call.scope call.profileId
  else .ok db

def withdraw (db : CrmDb) (now : Timestamp) (call : WithdrawalCall) : CrmDb × CrmAnswer :=
  settle db do
    (withdrawalChecks (liveProfile db call.scope call.profileId).isSome call).mapError .refused
    let latest ← orFail ((latestConsent db.consents.table.rows call.scope call.profileId
      call.purposeCode).filter (·.decision = .granted)) .consentAlreadyWithdrawn
    let db ← insertConsent db (withdrawnConsent now call.consentId latest call.withdrawalSource
      (btrim call.withdrawalReason) call.requestId) .raised
    let db ← applyWithdrawal db now call
    return (db, .consentWithdrawn call.profileId)

/-! ## Unsubscribing -/

structure UnsubscribeCall where
  enabled : Bool
  scope : CrmScope
  profileId : Uuid
  unsubscribeSource : Text
  requestId : Text
  /-- What the database generates for the consents it inserts, one after another. -/
  consentIds : ℕ → Uuid

def unsubscribeChecks (db : CrmDb) (call : UnsubscribeCall) : Except CrmRefusal Unit := do
  failWhen (!call.enabled) .disabled
  failWhen (!codeText 1 79 call.unsubscribeSource || !trimmedLength call.requestId 1 100)
    .unsubscribeInputInvalid
  failWhen (liveProfile db call.scope call.profileId).isNone .profileNotFound

/-- The latest consents of the marketing purposes, where they are granted. -/
def grantedMarketing (db : CrmDb) (scope : CrmScope) (profileId : Uuid) : List ConsentRecord :=
  let consents := db.consents.table.rows
  let purposes := ((consents.filter fun row => row.scope = scope && row.profileId = profileId
    && marketingPurpose row.purposeCode).map (·.purposeCode)).dedup
  (purposes.filterMap (latestConsent consents scope profileId)).filter (·.decision = .granted)

def withdrawEach (now : Timestamp) (call : UnsubscribeCall) (db : CrmDb)
    (latest : ConsentRecord × ℕ) : Except CrmAnswer CrmDb :=
  insertConsent db (withdrawnConsent now (call.consentIds latest.2) latest.1
    call.unsubscribeSource "UNSUBSCRIBED".toList call.requestId) .raised

def unsubscribe (db : CrmDb) (now : Timestamp) (call : UnsubscribeCall) : CrmDb × CrmAnswer :=
  settle db do
    (unsubscribeChecks db call).mapError .refused
    let granted := grantedMarketing db call.scope call.profileId
    let db ← granted.zipIdx.foldlM (withdrawEach now call) db
    let db ← suppressMarketing db now call.scope call.profileId
      fun profile => profile.marketingSuppressedAt.getD now
    return (db, .profileUnsubscribed call.profileId granted.length)

/-! ## Erasing -/

structure ErasureCall where
  enabled : Bool
  scope : CrmScope
  profileId : Uuid
  subjectHash : Text
  reason : Text
  requestId : Text
  /-- What the database generates for the tombstone. -/
  tombstoneId : Uuid

def erasureInputValid (call : ErasureCall) : Bool :=
  hexDigest call.subjectHash && trimmedLength call.reason 1 300
    && trimmedLength call.requestId 1 100

def erasureChecks (db : CrmDb) (call : ErasureCall) : Except CrmRefusal Unit := do
  failWhen (!call.enabled) .disabled
  failWhen (!erasureInputValid call) .erasureInputInvalid
  failWhen (liveProfile db call.scope call.profileId).isNone .profileNotFound

def tombstoneRow (now : Timestamp) (call : ErasureCall) : Tombstone where
  id := call.tombstoneId
  scope := call.scope
  erasedProfileId := call.profileId
  subjectHash := call.subjectHash
  erasureReason := btrim call.reason
  erasedAt := now
  auditRetentionExpiresAt := now + days 2190
  requestId := call.requestId.take 100

def scrubbed (now : Timestamp) (profile : CrmProfile) : CrmProfile :=
  { profile with
    contactIdentifierHash := none
    contactReference := none
    contactType := none
    contactVerifiedAt := none
    status := .erased
    marketingSuppressedAt := some (profile.marketingSuppressedAt.getD now)
    erasedAt := some now
    updatedAt := now }

def scrubProfile (db : CrmDb) (now : Timestamp) (call : ErasureCall) :
    Except CrmAnswer CrmDb := do
  let profiles ← orFail (db.profiles.updateWhere?
    (fun profile => profile.id = call.profileId && profile.scope = call.scope)
    (scrubbed now)) .raised
  return { db with profiles }

/-- The handler turns every violation of a unique index into an answer. -/
def erase (db : CrmDb) (now : Timestamp) (call : ErasureCall) : CrmDb × CrmAnswer :=
  settle db do
    (erasureChecks db call).mapError .refused
    failWhen (!tombstoneCheck (tombstoneRow now call)) .raised
    let tombstones ← orFail (db.tombstones.insert? (tombstoneRow now call))
      (.refused .erasureAlreadyRecorded)
    let db ← closeAccounts { db with tombstones } now call.scope call.profileId
    let db ← scrubProfile db now call
    return (db, .profileErased call.tombstoneId)

/-! ## Runs -/

/-- Post a loyalty event with no other call in progress. -/
def postLoyaltyPointsEvent (db : CrmDb) (event : PointsEvent) (id : Uuid) : CrmDb :=
  (Run.exec loyaltyStep ⟨db, []⟩ (.start event :: List.replicate 7 (.advance 0 id))).db

structure CrmState where
  db : CrmDb
  clock : Timestamp

inductive CrmRequest
  | optIn (call : OptInCall)
  | withdraw (call : WithdrawalCall)
  | unsubscribe (call : UnsubscribeCall)
  | postEvent (event : PointsEvent) (id : Uuid)
  | erase (call : ErasureCall)

/-- A request, and the time since the one before it. -/
structure CrmCommand where
  elapsed : ℕ
  request : CrmRequest

def CrmRequest.execute (db : CrmDb) (now : Timestamp) : CrmRequest → CrmDb × CrmAnswer
  | .optIn call => CrmService.optIn db now call
  | .withdraw call => CrmService.withdraw db now call
  | .unsubscribe call => CrmService.unsubscribe db now call
  | .postEvent event id => (postLoyaltyPointsEvent db { event with now := now } id, .eventPosted)
  | .erase call => CrmService.erase db now call

def crmStep (state : CrmState) (command : CrmCommand) : CrmState :=
  let now := state.clock + command.elapsed
  { db := (command.request.execute state.db now).1, clock := now }

end Stallorder.CrmService
