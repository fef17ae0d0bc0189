import Stallorder.Core.Table
import Stallorder.Offline.Catalog
import Stallorder.Offline.Permit

/-!
# The database of the device

The object stores of the browser database, one table per store, with the
indexes that the store definitions declare.  The stores of keys, stall
settings, availability and health are left out: no modelled operation reads
them.
-/

namespace Stallorder.LocalDatabase

open OrderContract Permit Catalog

/-! ## Stores and indexes -/

inductive OfflineStoreName
  | deviceProfile
  | offlinePermit
  | menuSnapshots
  | cashShiftSnapshot
  | offlineOrders
  | offlineOrderEvents
  | offlinePayments
  | offlinePrintJobs
  | syncQueue
  | syncReceipts
  | syncConflicts
  deriving DecidableEq

inductive IndexName
  | expiresAt
  | contentHash
  | stallVersion
  | stallId
  | stallSyncStatus
  | createdAt
  | localOrderId
  | deduplicationKey
  | statusNextAttempt
  | idempotencyKey
  | resolutionStatus
  deriving DecidableEq

/-- The indexes each store is created with. -/
def offlineStoreDefinitions : OfflineStoreName → List IndexName
  | .deviceProfile => []
  | .offlinePermit => [.expiresAt]
  | .menuSnapshots => [.contentHash, .stallVersion]
  | .cashShiftSnapshot => []
  | .offlineOrders => [.stallId, .stallSyncStatus, .createdAt]
  | .offlineOrderEvents => [.localOrderId]
  | .offlinePayments => [.localOrderId]
  | .offlinePrintJobs => [.deduplicationKey]
  | .syncQueue => [.statusNextAttempt, .idempotencyKey]
  | .syncReceipts => []
  | .syncConflicts => [.resolutionStatus]

/-- Opening an index that the store was not created with throws. -/
def hasIndex (store : OfflineStoreName) (index : IndexName) : Bool :=
  index ∈ offlineStoreDefinitions store

/-! ## Rows -/

inductive OfflineDeviceRole
  | offlineLeader
  | offlineReadOnly
  | none
  deriving DecidableEq

inductive OfflineDeviceStatus
  | active
  | revoked
  | lost
  | replaced
  | disabled
  deriving DecidableEq

structure DeviceProfile where
  id : Uuid
  installationId : Uuid
  organizationId : Uuid
  stallId : Uuid
  profileId : Uuid
  offlineRole : OfflineDeviceRole
  status : OfflineDeviceStatus
  deriving DecidableEq

def deviceProfileSchema (profile : DeviceProfile) : Bool :=
  profile.offlineRole = .offlineLeader && profile.status = .active

structure StoredPermit where
  permitId : Uuid
  stallId : Uuid
  deviceId : Uuid
  token : Token
  roles : List UserRole
  allowedOfflineActions : List OfflineAllowedAction
  issuedAt : Timestamp
  expiresAt : Timestamp
  menuSnapshotVersion : ℕ
  promotionEpoch : ℕ
  storageClass : OfflineStorageClass
  riskLimits : OfflineRuntimeLimits
  deriving DecidableEq

def activePermitSchema (permit : StoredPermit) : Bool :=
  permit.roles.length ≤ 20 && permit.allowedOfflineActions.length ≤ 20
    && 1 ≤ permit.menuSnapshotVersion
    && 1 ≤ permit.promotionEpoch
    && (permit.storageClass = .persistent || permit.storageClass = .bestEffort)
    && riskLimitsSchema 100_000_000 permit.riskLimits

structure StoredMenuSnapshot where
  stallId : Uuid
  version : ℕ
  currency : Text
  expiresAt : Timestamp
  catalog : MenuCatalog
  deriving DecidableEq

def menuSnapshotSchema (menu : StoredMenuSnapshot) : Bool :=
  1 ≤ menu.version && currencyAccepted menu.currency && menuCatalogSchema menu.catalog

/-- A cash event as the drawer keeps it: the event with the two bookkeeping
keys of the queue. -/
structure StoredCashEvent where
  event : OfflineCashEvent
  syncStatus : OfflineSyncStatus
  queueId : Uuid
  deriving DecidableEq

/-- The keys of a stored cash event that the event schema does not know. -/
def storedCashEventExtraKeys : List Text :=
  ["sync_status".toList, "queue_id".toList]

/-- The event schema is strict, and it is applied to the stored object. -/
def parseStoredCashEvent (stored : StoredCashEvent) : Option OfflineCashEvent :=
  offlineCashEventSchema.parseStrict storedCashEventExtraKeys stored.event

inductive CashShiftSnapshotStatus
  | open
  | none
  | provisionalClose
  deriving DecidableEq

structure CashShiftSnapshot where
  stallId : Uuid
  shiftId : Option Uuid
  status : CashShiftSnapshotStatus
  openingAmount : Option ℤ
  cashSales : Option ℤ
  cashIn : Option ℤ
  cashOut : Option ℤ
  cashRefund : Option ℤ
  correction : Option ℤ
  expectedAmount : Option ℤ
  offlineCashSales : Option ℤ
  pendingEvents : List StoredCashEvent
  deriving DecidableEq

def cashShiftSnapshotSchema (shift : CashShiftSnapshot) : Bool :=
  shift.openingAmount.all money && shift.cashSales.all money && shift.cashIn.all money
    && shift.cashOut.all money && shift.cashRefund.all money
    && shift.correction.all (fun amount => -100_000_000 ≤ amount && amount ≤ 100_000_000)
    && shift.expectedAmount.all money
    && shift.pendingEvents.length ≤ 1_000

structure StoredOrder where
  localOrderId : Uuid
  stallId : Uuid
  syncStatus : OfflineSyncStatus
  payload : OfflineOrder
  canonicalOrderId : Option Uuid
  canonicalOrderNumber : Option CanonicalOrderNumber
  syncedAt : Option Timestamp
  purgeAfter : Option Timestamp
  deriving DecidableEq

structure StoredEvent where
  eventId : Uuid
  localOrderId : Uuid
  payload : OfflineOrderEvent
  deriving DecidableEq

structure StoredPayment where
  localPaymentId : Uuid
  localOrderId : Uuid
  payload : OfflinePayment
  deriving DecidableEq

structure StoredPrintJob where
  printJobId : Uuid
  localOrderId : Uuid
  deduplicationKey : PrintDeduplicationKey
  payload : OfflinePrintJob
  deriving DecidableEq

structure StoredQueueRecord where
  queueId : Uuid
  idempotencyKey : Uuid
  entityType : SyncEntityType
  entityId : Uuid
  stallId : Uuid
  status : OfflineSyncStatus
  retryCount : ℕ
  nextAttemptAt : Timestamp
  createdAt : Timestamp
  lastRetryAt : Option Timestamp
  syncedAt : Option Timestamp
  lastErrorCode : Option SyncErrorCode
  deriving DecidableEq

structure StoredReceipt where
  idempotencyKey : Uuid
  receipt : OfflineSyncReceipt
  promotionEpoch : ℕ
  retainedUntil : Timestamp
  deriving DecidableEq

structure StoredConflict where
  conflictId : Uuid
  queueId : Uuid
  stallId : Uuid
  localEntityId : Uuid
  conflictType : OfflineSyncConflictType
  resolutionStatus : ConflictResolutionStatus
  canonicalOrderId : Option Uuid
  detectedAt : Timestamp
  deriving DecidableEq

instance : KeyIndexed DeviceProfile Uuid := .ofKey (·.id)
instance : KeyIndexed StoredPermit Uuid := .ofKey (·.permitId)
instance : KeyIndexed StoredMenuSnapshot (Uuid × ℕ) :=
  .ofKey fun menu => (menu.stallId, menu.version)
instance : KeyIndexed CashShiftSnapshot Uuid := .ofKey (·.stallId)
instance : KeyIndexed StoredOrder Uuid := .ofKey (·.localOrderId)
instance : KeyIndexed StoredEvent Uuid := .ofKey (·.eventId)
instance : KeyIndexed StoredPayment Uuid := .ofKey (·.localPaymentId)
instance : KeyIndexed StoredReceipt Uuid := .ofKey (·.idempotencyKey)
instance : KeyIndexed StoredConflict Uuid := .ofKey (·.conflictId)

/-- Print jobs have a unique index on the deduplication key. -/
instance : Indexed StoredPrintJob Uuid where
  key := (·.printJobId)
  collides left right :=
    left.printJobId = right.printJobId || left.deduplicationKey = right.deduplicationKey
  collides_symm hcollides := by
    simp only [Bool.or_eq_true, decide_eq_true_eq] at hcollides ⊢
    exact hcollides.imp Eq.symm Eq.symm
  collides_of_key_eq hkey := by simp [hkey]

/-- Queue rows have a unique index on the idempotency key. -/
instance : Indexed StoredQueueRecord Uuid where
  key := (·.queueId)
  collides left right :=
    left.queueId = right.queueId || left.idempotencyKey = right.idempotencyKey
  collides_symm hcollides := by
    simp only [Bool.or_eq_true, decide_eq_true_eq] at hcollides ⊢
    exact hcollides.imp Eq.symm Eq.symm
  collides_of_key_eq hkey := by simp [hkey]

/-! ## The database -/

@[ext]
structure LocalDb where
  deviceProfile : Table DeviceProfile
  offlinePermit : Table StoredPermit
  menuSnapshots : Table StoredMenuSnapshot
  cashShiftSnapshot : Table CashShiftSnapshot
  offlineOrders : Table StoredOrder
  offlineOrderEvents : Table StoredEvent
  offlinePayments : Table StoredPayment
  offlinePrintJobs : Table StoredPrintJob
  syncQueue : Table StoredQueueRecord
  syncReceipts : Table StoredReceipt
  syncConflicts : Table StoredConflict

/-- The database right after it was created. -/
def LocalDb.empty : LocalDb where
  deviceProfile := .empty
  offlinePermit := .empty
  menuSnapshots := .empty
  cashShiftSnapshot := .empty
  offlineOrders := .empty
  offlineOrderEvents := .empty
  offlinePayments := .empty
  offlinePrintJobs := .empty
  syncQueue := .empty
  syncReceipts := .empty
  syncConflicts := .empty

/-! ## Storing a bootstrap -/

structure OpenCashShift where
  id : Uuid
  openingAmount : ℤ
  cashSales : ℤ
  cashIn : ℤ
  cashOut : ℤ
  cashRefund : ℤ
  correction : ℤ
  expectedAmount : ℤ
  deriving DecidableEq

/-- The answer of the server to a bootstrap request. -/
structure OfflineBootstrapResponse where
  permitToken : Token
  permit : OfflinePermitPayload
  deviceId : Uuid
  deviceRole : OfflineDeviceRole
  deviceStatus : OfflineDeviceStatus
  menuVersion : ℕ
  menuCurrency : Text
  menuExpiresAt : Timestamp
  catalog : MenuCatalog
  cashShift : Option OpenCashShift
  deriving DecidableEq

structure OfflineBootstrapBundle where
  deviceProfile : DeviceProfile
  permit : StoredPermit
  menuSnapshot : StoredMenuSnapshot
  cashShiftSnapshot : CashShiftSnapshot

/-- The permit row that the bootstrap control builds from a signed permit. -/
def storedPermit (permit : OfflinePermitPayload) (token : Token) : StoredPermit where
  permitId := permit.permitId
  stallId := permit.stallId
  deviceId := permit.deviceId
  token := token
  roles := permit.roles
  allowedOfflineActions := permit.allowedOfflineActions
  issuedAt := permit.issuedAt
  expiresAt := permit.expiresAt
  menuSnapshotVersion := permit.menuSnapshotVersion
  promotionEpoch := permit.promotionEpoch
  storageClass := permit.storageClass
  riskLimits := permit.riskLimits

/-- The bundle that the bootstrap control builds: the drawer starts without
pending events, whether or not the server reports an open shift. -/
def bootstrapBundle (installationId : Uuid) (response : OfflineBootstrapResponse) :
    OfflineBootstrapBundle where
  deviceProfile := {
    id := response.deviceId
    installationId := installationId
    organizationId := response.permit.organizationId
    stallId := response.permit.stallId
    profileId := response.permit.profileId
    offlineRole := response.deviceRole
    status := response.deviceStatus }
  permit := storedPermit response.permit response.permitToken
  menuSnapshot := {
    stallId := response.permit.stallId
    version := response.menuVersion
    currency := response.menuCurrency
    expiresAt := response.menuExpiresAt
    catalog := response.catalog }
  cashShiftSnapshot :=
    match response.cashShift with
    | some shift => {
        stallId := response.permit.stallId
        shiftId := some shift.id
        status := .open
        openingAmount := some shift.openingAmount
        cashSales := some shift.cashSales
        cashIn := some shift.cashIn
        cashOut := some shift.cashOut
        cashRefund := some shift.cashRefund
        correction := some shift.correction
        expectedAmount := some shift.expectedAmount
        offlineCashSales := none
        pendingEvents := [] }
    | none => {
        stallId := response.permit.stallId
        shiftId := none
        status := .none
        openingAmount := none
        cashSales := none
        cashIn := none
        cashOut := none
        cashRefund := none
        correction := none
        expectedAmount := none
        offlineCashSales := none
        pendingEvents := [] }

def saveOfflineBootstrap (db : LocalDb) (bundle : OfflineBootstrapBundle) : LocalDb :=
  { db with
    deviceProfile := db.deviceProfile.put bundle.deviceProfile
    offlinePermit := db.offlinePermit.put bundle.permit
    menuSnapshots := db.menuSnapshots.put bundle.menuSnapshot
    cashShiftSnapshot := db.cashShiftSnapshot.put bundle.cashShiftSnapshot }

end Stallorder.LocalDatabase
