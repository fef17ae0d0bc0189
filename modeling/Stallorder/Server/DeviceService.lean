import Stallorder.Core.Checks
import Stallorder.Server.DeviceDatabase

/-!
# The device service

Registering a device, the management commands and the issue of a permit.  Every
command is one transaction whose statements run in the order of the source; a
refused statement refuses the transaction.  The clock, fresh identifiers and
the answers of the feature and entitlement services are arguments.
-/

namespace Stallorder.DeviceService

open OrderContract Permit Catalog LocalDatabase DeviceDatabase Checks

inductive DeviceServiceError
  | posDisabled
  | singleDevicePolicyDisabled
  | deviceScopeMismatch
  | deviceRequiresManagerReview
  | deviceNotFound
  | storageReadOnly
  | deviceNotLeader
  | policyNotActive
  | backendNotWritable
  | roleNotAllowed
  | permitPayloadInvalid
  | constraintViolated
  deriving DecidableEq

/-- Run a statement; a refused one fails the transaction. -/
def execute (statement : DeviceDb → Option DeviceDb) (db : DeviceDb) :
    Except DeviceServiceError DeviceDb :=
  orFail (statement db) .constraintViolated

structure OfflineFlags where
  offlinePosEnabled : Bool
  singleDeviceOnly : Bool
  manualPaymentEnabled : Bool
  deriving DecidableEq

def assertOfflinePosEnabled (flags : OfflineFlags) : Except DeviceServiceError Unit := do
  failWhen (!flags.offlinePosEnabled) .posDisabled
  failWhen (!flags.singleDeviceOnly) .singleDevicePolicyDisabled

def requiresManagerReview (status : OfflineDeviceStatus) : Bool :=
  status ∈ [.revoked, .lost, .replaced]

variable (scope : ScopeTables)

/-! ## Registering -/

structure RegisterDeviceInput where
  organizationId : Uuid
  stallId : Uuid
  profileId : Uuid
  installationId : Uuid
  deriving DecidableEq

def deviceOfInstallation (db : DeviceDb) (organizationId installationId : Uuid) :
    Option ClientDevice :=
  db.clientDevices.findFirst fun device =>
    device.organizationId = organizationId && device.installationId = installationId

/-- A new device starts disabled and without a role. -/
def registeredDevice (input : RegisterDeviceInput) (deviceId : Uuid) : ClientDevice where
  id := deviceId
  organizationId := input.organizationId
  stallId := input.stallId
  profileId := input.profileId
  installationId := input.installationId
  offlineEnabled := false
  offlineRole := .none
  status := .disabled
  permitExpiresAt := none
  revokedAt := none

/-- The device is looked up before the transaction, in `readDb`.  A known device
only has its description refreshed. -/
def registerOfflineDevice (flags : OfflineFlags) (input : RegisterDeviceInput)
    (deviceId : Uuid) (readDb db : DeviceDb) : Except DeviceServiceError DeviceDb := do
  assertOfflinePosEnabled flags
  match deviceOfInstallation readDb input.organizationId input.installationId with
  | some existing =>
      failWhen (existing.stallId ≠ input.stallId || existing.profileId ≠ input.profileId)
        .deviceScopeMismatch
      failWhen (requiresManagerReview existing.status) .deviceRequiresManagerReview
      execute (updateDevices? scope (fun device => device.id = existing.id) id) db
  | none => execute (insertDevice? scope (registeredDevice input deviceId)) db

/-! ## Management commands -/

structure PolicyUpdate where
  offlineEnabled : Bool
  offlineWriteMode : OfflineWriteMode
  offlineLeaderDeviceId : Option Uuid
  limits : OfflineRuntimeLimits
  deriving DecidableEq

inductive DeviceAction
  | approveReadOnly
  | disable
  | revoke
  | markLost
  deriving DecidableEq

inductive OfflineManagementCommand
  | updatePolicy (update : PolicyUpdate)
  | updateDevice (deviceId : Uuid) (action : DeviceAction)
  deriving DecidableEq

structure ManagementInput where
  organizationId : Uuid
  stallId : Uuid
  command : OfflineManagementCommand
  deriving DecidableEq

def ofStall (organizationId stallId : Uuid) (device : ClientDevice) : Bool :=
  device.organizationId = organizationId && device.stallId = stallId

def policyRow (organizationId stallId : Uuid) (update : PolicyUpdate) :
    OfflineStallRuntimePolicy where
  stallId := stallId
  organizationId := organizationId
  offlineEnabled := update.offlineEnabled
  offlineWriteMode := update.offlineWriteMode
  offlineLeaderDeviceId := update.offlineLeaderDeviceId
  limits := update.limits

def policyData (update : PolicyUpdate) (policy : OfflineStallRuntimePolicy) :
    OfflineStallRuntimePolicy :=
  { policy with
    offlineEnabled := update.offlineEnabled
    offlineWriteMode := update.offlineWriteMode
    offlineLeaderDeviceId := update.offlineLeaderDeviceId
    limits := update.limits }

def disabledPolicy (policy : OfflineStallRuntimePolicy) : OfflineStallRuntimePolicy :=
  { policy with
    offlineEnabled := false
    offlineWriteMode := .disabled
    offlineLeaderDeviceId := none }

def upsertPolicy? (created : OfflineStallRuntimePolicy)
    (change : OfflineStallRuntimePolicy → OfflineStallRuntimePolicy) (db : DeviceDb) :
    Option DeviceDb :=
  if db.policies.table.rows.any fun policy => policy.stallId = created.stallId then
    updatePolicies? scope (fun policy => policy.stallId = created.stallId) change db
  else insertPolicy? scope created db

def revokedPermit (now : Timestamp) (permit : OfflinePermit) : OfflinePermit :=
  { permit with status := .revoked, revokedAt := some now }

def withoutPermit (device : ClientDevice) : ClientDevice :=
  { device with permitExpiresAt := none }

def revokeActivePermits (organizationId stallId : Uuid) (now : Timestamp) (db : DeviceDb) :
    Except DeviceServiceError DeviceDb := do
  let revoked ← execute (updatePermits?
    (fun permit => permit.organizationId = organizationId && permit.stallId = stallId
      && permit.status = .active)
    (revokedPermit now)) db
  execute (updateDevices? scope (ofStall organizationId stallId) withoutPermit) revoked

def readOnlyDevice (device : ClientDevice) : ClientDevice :=
  { device with offlineRole := .offlineReadOnly }

def demoteLeaders (organizationId stallId : Uuid) (db : DeviceDb) :
    Except DeviceServiceError DeviceDb :=
  execute (updateDevices? scope
    (fun device => ofStall organizationId stallId device
      && device.offlineRole = .offlineLeader) readOnlyDevice) db

/-- Switch the offline mode of a stall off. -/
def disablePolicy (input : ManagementInput) (update : PolicyUpdate) (now : Timestamp)
    (db : DeviceDb) : Except DeviceServiceError DeviceDb := do
  let updated ← execute (upsertPolicy? scope
    (policyRow input.organizationId input.stallId update) (policyData update)) db
  let revoked ← revokeActivePermits scope input.organizationId input.stallId now updated
  demoteLeaders scope input.organizationId input.stallId revoked

def leaderDevice (device : ClientDevice) : ClientDevice :=
  { device with
    status := .active
    offlineEnabled := true
    offlineRole := .offlineLeader
    revokedAt := none }

def findDevice (db : DeviceDb) (organizationId stallId deviceId : Uuid) :
    Option ClientDevice :=
  db.clientDevices.findFirst fun device =>
    device.id = deviceId && ofStall organizationId stallId device

/-- Switch the offline mode of a stall on with a leader: the policy is disabled,
permits are revoked and the old leader steps back before the new one is named. -/
def assignLeader (input : ManagementInput) (update : PolicyUpdate) (now : Timestamp)
    (db : DeviceDb) : Except DeviceServiceError DeviceDb := do
  let leaderId ← orFail update.offlineLeaderDeviceId .deviceNotFound
  let leader ← orFail (findDevice db input.organizationId input.stallId leaderId) .deviceNotFound
  failWhen (requiresManagerReview leader.status) .deviceRequiresManagerReview
  let disabled ← execute (upsertPolicy? scope
    (disabledPolicy (policyRow input.organizationId input.stallId update)) disabledPolicy) db
  let revoked ← revokeActivePermits scope input.organizationId input.stallId now disabled
  let demoted ← demoteLeaders scope input.organizationId input.stallId revoked
  let promoted ← execute (updateDevices? scope
    (fun device => device.id = leader.id) leaderDevice) demoted
  execute (updatePolicies? scope (fun policy => policy.stallId = input.stallId)
    (policyData update)) promoted

def DeviceAction.status : DeviceAction → OfflineDeviceStatus
  | .approveReadOnly => .active
  | .disable => .disabled
  | .revoke => .revoked
  | .markLost => .lost

def managedDevice (action : DeviceAction) (now : Timestamp) (device : ClientDevice) :
    ClientDevice :=
  { device with
    status := action.status
    offlineEnabled := action = .approveReadOnly
    offlineRole := if action = .approveReadOnly then .offlineReadOnly else .none
    revokedAt := if action = .revoke || action = .markLost then some now else none
    permitExpiresAt := none }

/-- Disable the policies that name the device. -/
def withdrawLeader (input : ManagementInput) (device : ClientDevice) (db : DeviceDb) :
    Except DeviceServiceError DeviceDb :=
  if device.offlineRole = .offlineLeader then
    execute (updatePolicies? scope
      (fun policy => policy.organizationId = input.organizationId
        && policy.stallId = input.stallId
        && policy.offlineLeaderDeviceId = some device.id) disabledPolicy) db
  else .ok db

def updateDevice (input : ManagementInput) (deviceId : Uuid) (action : DeviceAction)
    (now : Timestamp) (db : DeviceDb) : Except DeviceServiceError DeviceDb := do
  let device ← orFail (findDevice db input.organizationId input.stallId deviceId) .deviceNotFound
  failWhen (action = .approveReadOnly && requiresManagerReview device.status)
    .deviceRequiresManagerReview
  let withdrawn ← withdrawLeader scope input device db
  let revoked ← revokeActivePermits scope input.organizationId input.stallId now withdrawn
  execute (updateDevices? scope (fun stored => stored.id = device.id)
    (managedDevice action now)) revoked

/-- Commands that open the offline mode need the feature flags. -/
def requiresFeature : OfflineManagementCommand → Bool
  | .updatePolicy update => update.offlineEnabled
  | .updateDevice _ action => action = .approveReadOnly

def assertFeature (flags : OfflineFlags) (command : OfflineManagementCommand) :
    Except DeviceServiceError Unit :=
  if requiresFeature command then assertOfflinePosEnabled flags else .ok ()

def applyOfflineManagementCommand (flags : OfflineFlags) (input : ManagementInput)
    (now : Timestamp) (db : DeviceDb) : Except DeviceServiceError DeviceDb := do
  assertFeature flags input.command
  match input.command with
  | .updatePolicy update =>
      if update.offlineEnabled then assignLeader scope input update now db
      else disablePolicy scope input update now db
  | .updateDevice deviceId action => updateDevice scope input deviceId action now db

/-! ## Issuing a permit -/

/-- The smaller of two amounts, as the source bounds every limit. -/
def boundedOfflineRiskLimits (policy : OfflineRuntimeLimits)
    (storageClass : OfflineStorageClass) (requestedDurationMinutes : ℤ) :
    OfflineRuntimeLimits :=
  let bestEffort := storageClass = .bestEffort
  { maxOfflineDurationMinutes :=
      min policy.maxOfflineDurationMinutes
        (min requestedDurationMinutes (if bestEffort then 60 else 720))
    maxPendingOrders := min policy.maxPendingOrders (if bestEffort then 10 else 500)
    maxTotalAmount := min policy.maxTotalAmount
      (if bestEffort then 5_000 else 9_999_999_999 / 100)
    maxSingleOrderAmount := min policy.maxSingleOrderAmount
      (if bestEffort then 1_000 else 9_999_999_999 / 100)
    maxManualPaymentAmount := min policy.maxManualPaymentAmount
      (if bestEffort then 1_000 else 100_000_000)
    maxTotalManualPaymentAmount := min policy.maxTotalManualPaymentAmount
      (if bestEffort then 3_000 else 100_000_000)
    requireCustomerContactAboveAmount :=
      min policy.requireCustomerContactAboveAmount
        (min policy.maxManualPaymentAmount (if bestEffort then 1_000 else 100_000_000))
    managerApprovalThreshold :=
      min policy.managerApprovalThreshold
        (min policy.maxManualPaymentAmount (if bestEffort then 1_000 else 100_000_000)) }

structure IssueBootstrapInput where
  organizationId : Uuid
  stallId : Uuid
  profileId : Uuid
  roles : List UserRole
  installationId : Uuid
  storageClass : OfflineStorageClass
  requestedDurationMinutes : ℤ
  appProtocolVersion : ℕ

/-- What is read before the transactions that issue a permit. -/
structure BootstrapReads where
  device : ClientDevice
  policy : OfflineStallRuntimePolicy
  runtime : BackendRuntimeState

/-- The device is read first, the policy and the backend after it, so the two
reads may see different states. -/
def readForBootstrap (flags : OfflineFlags) (input : IssueBootstrapInput)
    (deviceDb policyDb : DeviceDb) : Except DeviceServiceError BootstrapReads := do
  failWhen (input.storageClass = .insufficient || input.storageClass = .unavailable)
    .storageReadOnly
  let device ← orFail (deviceOfInstallation deviceDb input.organizationId input.installationId)
    .deviceNotFound
  failWhen (device.stallId ≠ input.stallId || device.profileId ≠ input.profileId) .deviceNotFound
  assertOfflinePosEnabled flags
  failWhen (!device.isActiveLeader) .deviceNotLeader
  let policy ← orFail (policyDb.policies.findFirst fun policy =>
      policy.organizationId = input.organizationId
        && policy.stallId = input.stallId
        && policy.offlineEnabled
        && policy.offlineWriteMode = .singleDeviceOnly
        && policy.offlineLeaderDeviceId = some device.id) .policyNotActive
  let runtime ← orFail (policyDb.runtime.find? (·.isWritable)) .backendNotWritable
  return { device, policy, runtime }

def BootstrapReads.riskLimits (reads : BootstrapReads) (input : IssueBootstrapInput) :
    OfflineRuntimeLimits :=
  boundedOfflineRiskLimits reads.policy.limits input.storageClass input.requestedDurationMinutes

def BootstrapReads.expiresAt (reads : BootstrapReads) (input : IssueBootstrapInput)
    (issuedAt : Timestamp) : Timestamp :=
  issuedAt + (reads.riskLimits input).maxOfflineDurationMinutes * 60_000

/-- The catalog that is put into a snapshot, as read from the menu tables. -/
structure SnapshotSource where
  catalog : MenuCatalog
  contentHash : ContentHash
  snapshotId : Uuid
  generatedAt : Timestamp

def newestVersion (snapshots : List MenuSnapshot) : ℕ :=
  (snapshots.map (·.version)).foldl max 0

/-- The stored snapshots of a stall, newest version first. -/
def snapshotsOfStall (db : DeviceDb) (organizationId stallId : Uuid) : List MenuSnapshot :=
  (db.menuSnapshots.rows.filter fun snapshot =>
    snapshot.organizationId = organizationId && snapshot.stallId = stallId).insertionSort
      fun left right => right.version ≤ left.version

/-- An unchanged catalog whose snapshot lasts long enough keeps its version. -/
def createOrReuseOfflineMenuSnapshot (organizationId stallId : Uuid)
    (minimumExpiresAt : Timestamp) (source : SnapshotSource) (db : DeviceDb) :
    Except DeviceServiceError (DeviceDb × MenuSnapshot) :=
  let snapshots := snapshotsOfStall db organizationId stallId
  match snapshots.find? fun snapshot =>
      snapshot.contentHash = source.contentHash && minimumExpiresAt ≤ snapshot.expiresAt with
  | some reusable => .ok (db, reusable)
  | none => do
      let created : MenuSnapshot := {
        id := source.snapshotId
        organizationId := organizationId
        stallId := stallId
        version := newestVersion snapshots + 1
        contentHash := source.contentHash
        catalog := source.catalog
        currency := source.catalog.currency
        generatedAt := source.generatedAt
        expiresAt := max (source.generatedAt + 12 * 60 * 60_000)
          (minimumExpiresAt + 5 * 60_000) }
      let db' ← execute (insertMenuSnapshot? scope created) db
      return (db', created)

/-- What the feature and entitlement services answer and what is drawn afresh
while a permit is issued. -/
structure IssueAnswers where
  printEntitled : Bool
  permitId : Uuid
  issuedAt : Timestamp
  transactionAt : Timestamp

def permitActions (flags : OfflineFlags) (catalog : MenuCatalog) (printEntitled : Bool) :
    List OfflineAllowedAction :=
  [.createOfflineOrder]
    ++ (if flags.manualPaymentEnabled && catalog.paymentOptions.length > 0 then
      [.recordCashPayment] else [])
    ++ (if catalog.printEnabled && printEntitled then [.queuePrintJob] else [])

/-- The permit that is signed. -/
def permitPayload (flags : OfflineFlags) (input : IssueBootstrapInput)
    (answers : IssueAnswers) (reads : BootstrapReads) (snapshot : MenuSnapshot)
    (catalog : MenuCatalog) : OfflinePermitPayload where
  permitId := answers.permitId
  deviceId := reads.device.id
  profileId := input.profileId
  organizationId := input.organizationId
  stallId := input.stallId
  roles := (input.roles.filter (· ∈ permitRoles)).eraseDups
  allowedOfflineActions := permitActions flags catalog answers.printEntitled
  issuedAt := answers.issuedAt
  expiresAt := reads.expiresAt input answers.issuedAt
  menuSnapshotVersion := snapshot.version
  promotionEpoch := reads.runtime.promotionEpoch
  appProtocolVersion := input.appProtocolVersion
  storageClass := input.storageClass
  riskLimits := reads.riskLimits input

def permitRow (payload : OfflinePermitPayload) (snapshot : MenuSnapshot)
    (tokenHash : TokenHash) : OfflinePermit where
  id := payload.permitId
  organizationId := payload.organizationId
  stallId := payload.stallId
  deviceId := payload.deviceId
  profileId := payload.profileId
  menuSnapshotId := snapshot.id
  menuSnapshotVersion := snapshot.version
  tokenHash := tokenHash
  roles := payload.roles
  allowedActions := payload.allowedOfflineActions
  promotionEpoch := payload.promotionEpoch
  status := .active
  issuedAt := payload.issuedAt
  expiresAt := payload.expiresAt
  revokedAt := none

def expiredPermit (permit : OfflinePermit) : OfflinePermit :=
  { permit with status := .expired }

/-- The transaction that replaces the active permit of a device. -/
def storePermit (row : OfflinePermit) (now : Timestamp) (db : DeviceDb) :
    Except DeviceServiceError DeviceDb := do
  let expired ← execute (updatePermits?
    (fun permit => permit.deviceId = row.deviceId && permit.status = .active
      && permit.expiresAt ≤ now) expiredPermit) db
  let revoked ← execute (updatePermits?
    (fun permit => permit.deviceId = row.deviceId && permit.status = .active)
    (revokedPermit now)) expired
  let issued ← execute (insertPermit? row) revoked
  execute (updateDevices? scope (fun device => device.id = row.deviceId)
    fun device => { device with permitExpiresAt := some row.expiresAt }) issued

/-- How tokens are signed and hashed. -/
structure TokenCodec where
  signatureFor : OfflinePermitPayload → Signature
  hashToken : Token → TokenHash

structure IssuedPermit where
  payload : OfflinePermitPayload
  token : Token

/-- Sign the permit and store it, given what was read before. -/
def issuePermit (codec : TokenCodec) (flags : OfflineFlags) (input : IssueBootstrapInput)
    (answers : IssueAnswers) (reads : BootstrapReads) (snapshot : MenuSnapshot)
    (catalog : MenuCatalog) (db : DeviceDb) :
    Except DeviceServiceError (DeviceDb × IssuedPermit) := do
  let payload := permitPayload flags input answers reads snapshot catalog
  failWhen (payload.roles = []) .roleNotAllowed
  let token ← orFail (signOfflinePermit codec.signatureFor payload) .permitPayloadInvalid
  let db' ← storePermit scope (permitRow payload snapshot (codec.hashToken token))
    answers.transactionAt db
  return (db', { payload, token })

/-- Issue a permit and answer with everything the device needs offline.  The
reads are taken from `deviceDb` and `policyDb`, the transactions run on `db`. -/
def issueOfflineBootstrap (codec : TokenCodec) (flags : OfflineFlags)
    (input : IssueBootstrapInput) (answers : IssueAnswers) (source : SnapshotSource)
    (openCashShift : Option OpenCashShift) (deviceDb policyDb db : DeviceDb) :
    Except DeviceServiceError (DeviceDb × OfflineBootstrapResponse) := do
  let reads ← readForBootstrap flags input deviceDb policyDb
  let (withSnapshot, snapshot) ← createOrReuseOfflineMenuSnapshot scope input.organizationId
    input.stallId (reads.expiresAt input answers.issuedAt) source db
  let (issued, permit) ← issuePermit scope codec flags input answers reads snapshot
    source.catalog withSnapshot
  let cashEnabled := .recordCashPayment ∈ permit.payload.allowedOfflineActions
    && source.catalog.paymentOptions.any fun option => option.kind = .cash
  return (issued, {
    permitToken := permit.token
    permit := permit.payload
    deviceId := reads.device.id
    deviceRole := reads.device.offlineRole
    deviceStatus := reads.device.status
    menuVersion := snapshot.version
    menuCurrency := snapshot.currency
    menuExpiresAt := snapshot.expiresAt
    catalog := source.catalog
    cashShift := if cashEnabled then openCashShift else none })

end Stallorder.DeviceService
